/-
  JSON values. Integers are told from other numbers by the way they are written, so `2` is an
  integer and `2.0` is not.
-/
import OrmLens.Text.Basic

namespace OrmLens

/-- A JSON value. -/
inductive Json where
  | null
  | bool (value : Bool)
  | int (value : Int)
  /-- A number with a fraction or an exponent, as written. -/
  | decimal (literal : Text)
  | str (content : Text)
  | arr (items : List Json)
  | obj (members : List (Text × Json))
deriving Inhabited

namespace Json

/-- The member with the key; of several the last one. -/
def get? (key : Text) : Json → Option Json
  | .obj members => (members.reverse.find? (·.1 = key)).map Prod.snd
  | _ => none

/-- The member with the key, unless it is null. -/
def given? (key : Text) (j : Json) : Option Json :=
  match j.get? key with
  | some .null | none => none
  | some value => some value

/-- The value under the keys, one inside the other, unless one of them is null. -/
def under? (keys : List Text) (j : Json) : Option Json :=
  keys.foldlM (fun inner key => inner.given? key) j

/-- The content of a string. -/
def text? : Json → Option Text
  | .str content => some content
  | _ => none

/-- A truth value. -/
def bool? : Json → Option Bool
  | .bool value => some value
  | _ => none

/-- The items of a list. -/
def items? : Json → Option (List Json)
  | .arr items => some items
  | _ => none

/-- An integer. -/
def int? : Json → Option Int
  | .int value => some value
  | _ => none

/-- An integer that is not negative and below `bound`. -/
def nat? (bound : Nat) : Json → Option Nat
  | .int (.ofNat n) => if n < bound then some n else none
  | _ => none

/-- A number. -/
def ofNat (n : Nat) : Json := .int n

/-- A list. -/
def ofList {α : Type} (encode : α → Json) (items : List α) : Json := .arr (items.map encode)

/-- A value, or null. -/
def ofOption {α : Type} (encode : α → Json) : Option α → Json
  | some value => encode value
  | none => .null

/-- A list of strings. -/
def ofTexts (items : List Text) : Json := ofList .str items

/-- An object without the members that are absent. -/
def sparse (members : List (Text × Option Json)) : Json :=
  .obj (members.filterMap fun m => m.2.map fun value => (m.1, value))

end Json

end OrmLens
