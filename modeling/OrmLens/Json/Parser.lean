/-
  Reading JSON.
-/
import OrmLens.Json.Basic
import OrmLens.Number.Integer

namespace OrmLens.Json

/-- White space between the tokens. -/
def isGap (c : Char) : Bool := c == ' ' || c == '\t' || c == '\n' || c == '\r'

/-- Skips white space. -/
def skipGaps (t : Text) : Text := t.dropWhile isGap

/-! ## Strings -/

/-- The value of a hexadecimal digit. -/
def hexDigit? (c : Char) : Option Nat :=
  if c.isDigit then some (c.toNat - '0'.toNat)
  else if 'a' ≤ c ∧ c ≤ 'f' then some (c.toNat - 'a'.toNat + 10)
  else if 'A' ≤ c ∧ c ≤ 'F' then some (c.toNat - 'A'.toNat + 10)
  else none

/-- A hexadecimal digit in upper case. -/
def hexUpper (n : Nat) : Char := (Nat.digitChar n).toUpper

/-- The value of four hexadecimal digits. -/
def hexCode? (a b c d : Char) : Option Nat := do
  return (((← hexDigit? a) * 16 + (← hexDigit? b)) * 16 + (← hexDigit? c)) * 16 + (← hexDigit? d)

/-- The character of a one-letter escape. -/
def escape? (c : Char) : Option Char :=
  if c = '"' ∨ c = '\\' ∨ c = '/' then some c
  else if c = 'b' then some '\x08'
  else if c = 'f' then some '\x0c'
  else if c = 'n' then some '\n'
  else if c = 'r' then some '\r'
  else if c = 't' then some '\t'
  else none

/-- Whether a code is the first half of a surrogate pair. -/
def isHighHalf (n : Nat) : Bool := 0xD800 ≤ n && n < 0xDC00

/-- Whether a code is the second half of a surrogate pair. -/
def isLowHalf (n : Nat) : Bool := 0xDC00 ≤ n && n < 0xE000

/-- The code point of a surrogate pair. -/
def joinHalves (high low : Nat) : Char :=
  Char.ofNat (0x10000 + (high - 0xD800) * 0x400 + (low - 0xDC00))

/-- Reads on inside a string: its content, and what follows the closing quote. -/
def readContent : Text → Option (Text × Text)
  | [] => none
  | '"' :: rest => some ([], rest)
  | '\\' :: 'u' :: a :: b :: c :: d :: '\\' :: 'u' :: e :: f :: g :: h :: rest =>
    match hexCode? a b c d, hexCode? e f g h with
    | some first, some second =>
      if isHighHalf first && isLowHalf second then
        (readContent rest).map fun r => (joinHalves first second :: r.1, r.2)
      else if isHighHalf first || isLowHalf first then none
      else
        (readContent ('\\' :: 'u' :: e :: f :: g :: h :: rest)).map fun r =>
          (Char.ofNat first :: r.1, r.2)
    | _, _ => none
  | '\\' :: 'u' :: a :: b :: c :: d :: rest =>
    match hexCode? a b c d with
    | some code =>
      if isHighHalf code || isLowHalf code then none
      else (readContent rest).map fun r => (Char.ofNat code :: r.1, r.2)
    | none => none
  | '\\' :: c :: rest =>
    match escape? c with
    | some plain => (readContent rest).map fun r => (plain :: r.1, r.2)
    | none => none
  | c :: rest =>
    if c.toNat < 0x20 || c == '\\' then none
    else (readContent rest).map fun r => (c :: r.1, r.2)

/-! ## Numbers -/

/-- Digits, at least one; a leading zero stands alone if `plain`. -/
def readDigits (plain : Bool) (t : Text) : Option (Text × Text) :=
  let digits := t.takeWhile Char.isDigit
  if digits.isEmpty || (plain && digits.head? == some '0' && 1 < digits.length) then none
  else some (digits, t.dropWhile Char.isDigit)

/-- A fraction, if there is one. -/
def readFraction (t : Text) : Option (Text × Text) :=
  match t with
  | '.' :: rest => (readDigits false rest).map fun d => ('.' :: d.1, d.2)
  | _ => some ([], t)

/-- An exponent, if there is one. -/
def readExponent (t : Text) : Option (Text × Text) :=
  match t with
  | e :: rest =>
    if e = 'e' ∨ e = 'E' then
      match rest with
      | s :: digits =>
        if s = '+' ∨ s = '-' then (readDigits false digits).map fun d => (e :: s :: d.1, d.2)
        else (readDigits false rest).map fun d => (e :: d.1, d.2)
      | [] => none
    else some ([], t)
  | [] => some ([], t)

/-- A number. A minus before a zero makes it no integer. -/
def readNumber (t : Text) : Option (Json × Text) := do
  let (sign, body) : Text × Text := match t with
    | '-' :: rest => (['-'], rest)
    | _ => ([], t)
  let (whole, afterWhole) ← readDigits true body
  let (fraction, afterFraction) ← readFraction afterWhole
  let (exponent, rest) ← readExponent afterFraction
  let value := Number.digitsValue 0 whole
  if !fraction.isEmpty || !exponent.isEmpty || (!sign.isEmpty && value = 0) then
    return (.decimal (sign ++ whole ++ fraction ++ exponent), rest)
  else return (.int (if sign.isEmpty then value else -(value : Int)), rest)

/-! ## Values -/

mutual

/-- Reads a value with at most `fuel` nested steps. -/
def readValue : (fuel : Nat) → Text → Option (Json × Text)
  | 0, _ => none
  | fuel + 1, t =>
    match skipGaps t with
    | '"' :: rest => (readContent rest).map fun r => (.str r.1, r.2)
    | '[' :: rest =>
      match skipGaps rest with
      | ']' :: after => some (.arr [], after)
      | inside => (readItems fuel inside).map fun r => (.arr r.1, r.2)
    | '\x7b' :: rest =>
      match skipGaps rest with
      | '\x7d' :: after => some (.obj [], after)
      | inside => (readMembers fuel inside).map fun r => (.obj r.1, r.2)
    | other =>
      match Text.after? "null" other, Text.after? "true" other, Text.after? "false" other with
      | some rest, _, _ => some (.null, rest)
      | _, some rest, _ => some (.bool true, rest)
      | _, _, some rest => some (.bool false, rest)
      | none, none, none => readNumber other

/-- Reads the items of a list up to its closing bracket. -/
def readItems : (fuel : Nat) → Text → Option (List Json × Text)
  | 0, _ => none
  | fuel + 1, t =>
    (readValue fuel t).bind fun item =>
      match skipGaps item.2 with
      | ',' :: rest => (readItems fuel rest).map fun more => (item.1 :: more.1, more.2)
      | ']' :: rest => some ([item.1], rest)
      | _ => none

/-- Reads the members of an object up to its closing bracket. -/
def readMembers : (fuel : Nat) → Text → Option (List (Text × Json) × Text)
  | 0, _ => none
  | fuel + 1, t =>
    match skipGaps t with
    | '"' :: inside =>
      (readContent inside).bind fun key =>
        match skipGaps key.2 with
        | ':' :: afterColon =>
          (readValue fuel afterColon).bind fun value =>
            match skipGaps value.2 with
            | ',' :: rest =>
              (readMembers fuel rest).map fun more => ((key.1, value.1) :: more.1, more.2)
            | '\x7d' :: rest => some ([(key.1, value.1)], rest)
            | _ => none
        | _ => none
    | _ => none

end

/-- Reads a text that is one JSON value. -/
def parse? (t : Text) : Option Json :=
  (readValue (2 * t.length + 1) t).bind fun r =>
    if (skipGaps r.2).isEmpty then some r.1 else none

end OrmLens.Json
