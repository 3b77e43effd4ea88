/-
  UTF-8: the bytes of a text, and the text of bytes. Bytes that are no text become replacement
  characters, one for each longest sequence that could have started a character.
-/
import OrmLens.Text.Basic

namespace OrmLens.Text

/-- The bytes of one character. -/
def charBytes (c : Char) : List Nat :=
  let n := c.toNat
  if n < 0x80 then [n]
  else if n < 0x800 then [0xC0 + n / 64, 0x80 + n % 64]
  else if n < 0x10000 then [0xE0 + n / 4096, 0x80 + n / 64 % 64, 0x80 + n % 64]
  else [0xF0 + n / 262144, 0x80 + n / 4096 % 64, 0x80 + n / 64 % 64, 0x80 + n % 64]

/-- The bytes of a text. -/
def encode (t : Text) : List Nat := t.flatMap charBytes

theorem length_charBytes (c : Char) : (charBytes c).length = c.utf8Size := by
  have h : c.val.toNat = c.toNat := rfl
  simp only [charBytes, Char.utf8Size, UInt32.le_iff_toNat_le, UInt32.toNat_ofNatLT, h]
  by_cases h1 : c.toNat < 0x80
  · simp [h1, Nat.le_of_lt_succ h1]
  have h1' : ¬ c.toNat ≤ 0x7F := by omega
  by_cases h2 : c.toNat < 0x800
  · simp [h1, h1', h2, Nat.le_of_lt_succ h2]
  have h2' : ¬ c.toNat ≤ 0x7FF := by omega
  by_cases h3 : c.toNat < 0x10000
  · simp [h1, h1', h2, h2', h3, Nat.le_of_lt_succ h3]
  have h3' : ¬ c.toNat ≤ 0xFFFF := by omega
  simp [h1, h1', h2, h2', h3, h3']

theorem length_encode (t : Text) : (encode t).length = bytes t := by
  induction t with
  | nil => rfl
  | cons c t ih =>
    have ht : encode (c :: t) = charBytes c ++ encode t := by simp [encode]
    rw [ht, List.length_append, length_charBytes, ih, bytes_cons]

/-- The replacement character. -/
def replacement : Char := '\ufffd'

/-- Whether a byte goes on with a character. -/
def isContinuation (b : Nat) : Bool := 0x80 ≤ b && b < 0xC0

/-- Whether `b` may follow `lead` in a sequence of three bytes. -/
def fitsThree (lead b : Nat) : Bool :=
  if lead = 0xE0 then 0xA0 ≤ b && b < 0xC0
  else if lead = 0xED then 0x80 ≤ b && b < 0xA0
  else isContinuation b

/-- Whether `b` may follow `lead` in a sequence of four bytes. -/
def fitsFour (lead b : Nat) : Bool :=
  if lead = 0xF0 then 0x90 ≤ b && b < 0xC0
  else if lead = 0xF4 then 0x80 ≤ b && b < 0x90
  else isContinuation b

/-- The text of a list of bytes. -/
def decode : List Nat → Text
  | [] => []
  | a :: rest =>
    if a < 0x80 then Char.ofNat a :: decode rest
    else if 0xC2 ≤ a ∧ a < 0xE0 then
      match rest with
      | b :: rest' =>
        if isContinuation b then Char.ofNat ((a - 0xC0) * 64 + (b - 0x80)) :: decode rest'
        else replacement :: decode (b :: rest')
      | [] => [replacement]
    else if 0xE0 ≤ a ∧ a < 0xF0 then
      match rest with
      | b :: c :: rest' =>
        if !fitsThree a b then replacement :: decode (b :: c :: rest')
        else if isContinuation c then
          Char.ofNat ((a - 0xE0) * 4096 + (b - 0x80) * 64 + (c - 0x80)) :: decode rest'
        else replacement :: decode (c :: rest')
      | [b] => if fitsThree a b then [replacement] else replacement :: decode [b]
      | [] => [replacement]
    else if 0xF0 ≤ a ∧ a < 0xF5 then
      match rest with
      | b :: c :: d :: rest' =>
        if !fitsFour a b then replacement :: decode (b :: c :: d :: rest')
        else if !isContinuation c then replacement :: decode (c :: d :: rest')
        else if isContinuation d then
          Char.ofNat ((a - 0xF0) * 262144 + (b - 0x80) * 4096 + (c - 0x80) * 64 + (d - 0x80))
            :: decode rest'
        else replacement :: decode (d :: rest')
      | [b, c] =>
        if !fitsFour a b then replacement :: decode [b, c]
        else if isContinuation c then [replacement]
        else replacement :: decode [c]
      | [b] => if fitsFour a b then [replacement] else replacement :: decode [b]
      | [] => [replacement]
    else replacement :: decode rest

end OrmLens.Text
