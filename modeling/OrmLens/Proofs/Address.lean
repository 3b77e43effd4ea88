/-
  The address of a unit leads back to the unit.

  A unit's address has every byte outside a small set of characters as an escape, and reading an
  address decodes the escapes and then the bytes. Both ways are inverse in this direction
  (`unit?_of_ofUnit?`), whatever characters the unit has. The other direction fails: a document may
  be addressed with more escapes than are needed.
-/
import OrmLens.Workspace.Uri

namespace OrmLens.Text

/-! ## Bytes of a text -/

theorem decode_one {a : Nat} (ha : a < 0x80) (rest : List Nat) :
    decode (a :: rest) = Char.ofNat a :: decode rest := by
  rw [decode.eq_def]
  exact if_pos ha

theorem decode_two {a b : Nat} (ha : 0xC2 ≤ a ∧ a < 0xE0) (hb : isContinuation b = true)
    (rest : List Nat) :
    decode (a :: b :: rest) = Char.ofNat ((a - 0xC0) * 64 + (b - 0x80)) :: decode rest := by
  rw [decode, if_neg (by omega), if_pos ha, if_pos hb]

theorem decode_three {a b c : Nat} (ha : 0xE0 ≤ a ∧ a < 0xF0) (hb : fitsThree a b = true)
    (hc : isContinuation c = true) (rest : List Nat) :
    decode (a :: b :: c :: rest) =
      Char.ofNat ((a - 0xE0) * 4096 + (b - 0x80) * 64 + (c - 0x80)) :: decode rest := by
  rw [decode, if_neg (by omega), if_neg (by omega), if_pos ha]
  dsimp only
  rw [hb, if_neg (by decide), if_pos hc]

theorem decode_four {a b c d : Nat} (ha : 0xF0 ≤ a ∧ a < 0xF5) (hb : fitsFour a b = true)
    (hc : isContinuation c = true) (hd : isContinuation d = true) (rest : List Nat) :
    decode (a :: b :: c :: d :: rest) =
      Char.ofNat ((a - 0xF0) * 262144 + (b - 0x80) * 4096 + (c - 0x80) * 64 + (d - 0x80))
        :: decode rest := by
  rw [decode, if_neg (by omega), if_neg (by omega), if_neg (by omega), if_pos ha]
  dsimp only
  rw [hb, hc, if_neg (by decide), if_neg (by decide), if_pos hd]

theorem isContinuation_add {k : Nat} (h : k < 64) : isContinuation (0x80 + k) = true := by
  simp [isContinuation]
  omega

/-- A character is read from its bytes, whatever follows. Surrogates and needless bytes would show
    in the second byte of a long one. -/
theorem decode_charBytes_append (c : Char) (rest : List Nat) :
    decode (charBytes c ++ rest) = c :: decode rest := by
  have hvalid : c.toNat < 0xD800 ∨ 0xDFFF < c.toNat ∧ c.toNat < 0x110000 := c.valid
  have hchar : Char.ofNat c.toNat = c := Char.ofNat_toNat c
  unfold charBytes
  generalize c.toNat = n at hvalid hchar
  dsimp only
  split
  · rename_i h1
    rw [List.singleton_append, decode_one h1, hchar]
  · split
    · have hcode : (0xC0 + n / 64 - 0xC0) * 64 + (0x80 + n % 64 - 0x80) = n := by omega
      show decode (_ :: _ :: rest) = _
      rw [decode_two (by omega) (isContinuation_add (by omega)), hcode, hchar]
    · split
      · have hcode : (0xE0 + n / 4096 - 0xE0) * 4096 + (0x80 + n / 64 % 64 - 0x80) * 64 +
            (0x80 + n % 64 - 0x80) = n := by omega
        have hsecond : fitsThree (0xE0 + n / 4096) (0x80 + n / 64 % 64) = true := by
          unfold fitsThree
          repeat' split
          all_goals simp [isContinuation]
          all_goals omega
        show decode (_ :: _ :: _ :: rest) = _
        rw [decode_three (by omega) hsecond (isContinuation_add (by omega)), hcode, hchar]
      · have hcode : (0xF0 + n / 262144 - 0xF0) * 262144 + (0x80 + n / 4096 % 64 - 0x80) * 4096 +
            (0x80 + n / 64 % 64 - 0x80) * 64 + (0x80 + n % 64 - 0x80) = n := by omega
        have hsecond : fitsFour (0xF0 + n / 262144) (0x80 + n / 4096 % 64) = true := by
          unfold fitsFour
          repeat' split
          all_goals simp [isContinuation]
          all_goals omega
        show decode (_ :: _ :: _ :: _ :: rest) = _
        rw [decode_four (by omega) hsecond (isContinuation_add (by omega))
          (isContinuation_add (by omega)), hcode, hchar]

theorem decode_encode (t : Text) : decode (encode t) = t := by
  induction t with
  | nil => rw [encode, List.flatMap_nil, decode]
  | cons c t ih =>
    have hcons : encode (c :: t) = charBytes c ++ encode t := List.flatMap_cons
    rw [hcons, decode_charBytes_append, ih]

theorem lt_of_mem_charBytes {c : Char} {b : Nat} (h : b ∈ charBytes c) : b < 256 := by
  have hvalid : c.toNat < 0xD800 ∨ 0xDFFF < c.toNat ∧ c.toNat < 0x110000 := c.valid
  unfold charBytes at h
  generalize c.toNat = n at hvalid h
  dsimp only at h
  repeat' split at h
  all_goals
    simp only [List.mem_cons, List.not_mem_nil, or_false] at h
    omega

end OrmLens.Text

namespace OrmLens.Workspace.Uri

open Text

/-! ## Escapes of an address -/

theorem hexDigit?_hexUpper {d : Nat} (h : d < 16) : Json.hexDigit? (Json.hexUpper d) = some d := by
  revert d
  decide

theorem decodedBytes_escapeByte_append {b : Nat} (hb : b < 256) (t : Text) :
    decodedBytes (escapeByte b ++ t) = b :: decodedBytes t := by
  show decodedBytes ('%' :: _ :: _ :: t) = _
  rw [decodedBytes, hexDigit?_hexUpper (by omega), hexDigit?_hexUpper (by omega)]
  dsimp only
  rw [Nat.div_add_mod' b 16]

theorem decodedBytes_escapeBytes_append {bytes : List Nat} (h : ∀ b ∈ bytes, b < 256) (t : Text) :
    decodedBytes (bytes.flatMap escapeByte ++ t) = bytes ++ decodedBytes t := by
  induction bytes with
  | nil => rfl
  | cons b bytes ih =>
    rw [List.flatMap_cons, List.append_assoc,
      decodedBytes_escapeByte_append (h b List.mem_cons_self),
      ih fun b' hb' => h b' (List.mem_cons_of_mem b hb')]
    rfl

theorem decodedBytes_cons {c : Char} (hc : c ≠ '%') (t : Text) :
    decodedBytes (c :: t) = charBytes c ++ decodedBytes t := by
  rw [decodedBytes]
  rintro a b t' rfl
  exact absurd rfl hc

theorem decodedBytes_escapePath (path : Text) : decodedBytes (escapePath path) = encode path := by
  induction path with
  | nil => rfl
  | cons c path ih =>
    have hencode : encode (c :: path) = charBytes c ++ encode path := List.flatMap_cons
    rw [escapePath, List.flatMap_cons, ← escapePath, hencode, ← ih]
    split
    · rename_i hsafe
      have hc : c ≠ '%' := by
        rintro rfl
        exact absurd hsafe (by decide)
      exact decodedBytes_cons hc _
    · exact decodedBytes_escapeBytes_append (fun _ => lt_of_mem_charBytes) _

/-- The address of a unit leads back to the unit. -/
theorem unit?_of_ofUnit? {unit : Text} {uri : Uri} (h : ofUnit? unit = some uri) :
    uri.unit? = some unit := by
  unfold ofUnit? at h
  split at h
  · rename_i habsolute
    cases h
    rw [unit?, decodedBytes_escapePath, decode_encode]
    cases unit with
    | nil => cases habsolute
    | cons c t => rfl
  · cases h

end OrmLens.Workspace.Uri
