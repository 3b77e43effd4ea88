/-
  Integers read from text: an optional sign, then decimal digits only, within the range of a
  machine word.
-/
import OrmLens.Text.Basic

namespace OrmLens.Number

/-- The value of a digit sequence read after `value`. -/
def digitsValue (value : Nat) (digits : Text) : Nat :=
  digits.foldl (fun n c => 10 * n + (c.toNat - '0'.toNat)) value

/-- A non-empty sequence of ASCII digits. -/
def natural? (t : Text) : Option Nat :=
  if t.isEmpty || !t.all Char.isDigit then none else some (digitsValue 0 t)

/-- An unsigned integer below `bound`; a plus sign is allowed. -/
def unsigned? (bound : Nat) (t : Text) : Option Nat :=
  let digits := match t with
    | '+' :: rest => rest
    | _ => t
  (natural? digits).bind fun n => if n < bound then some n else none

/-- The number of values of a 32-bit word. -/
def word32 : Nat := 0x100000000

/-- The number of values of a 64-bit word. -/
def word64 : Nat := 0x10000000000000000

/-- A signed 64-bit integer. -/
def int64? (t : Text) : Option Int :=
  match t with
  | '-' :: rest => (natural? rest).bind fun n => if n ≤ word64 / 2 then some (-(n : Int)) else none
  | _ => (unsigned? (word64 / 2) t).map Int.ofNat

end OrmLens.Number
