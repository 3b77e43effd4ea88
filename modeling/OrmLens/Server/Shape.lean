/-
  Shapes of JSON values: what the parameters of a message and the settings must look like.

  A record is an object; members that it does not name are ignored unless it says otherwise. Most
  records may also be written as the list of their parts in order. `Shape.read?` accepts exactly
  the values of a shape and writes every record in them as an object, so that whoever reads on
  meets one form only.
-/
import OrmLens.Json.Basic
import OrmLens.Number.Integer
import OrmLens.Workspace.Uri

namespace OrmLens.Server

/-- When a part of a record may be left out. -/
inductive Presence where
  | required
  /-- It may be absent from an object. -/
  | optional
  /-- It may be absent from an object, and from the end of a list. -/
  | defaulted
deriving DecidableEq, Repr

/-- What a value must look like. -/
inductive Shape where
  | any
  | bool
  | text
  /-- A number, with or without a fraction. -/
  | number
  /-- A signed 32-bit integer. -/
  | int32
  /-- An integer from zero to below the bound. -/
  | nat (bound : Nat)
  /-- A text that is an address. -/
  | address
  /-- One of the words; an object with null under the word stands for the word. -/
  | word (words : List Text)
  | nullable (shape : Shape)
  | list (shape : Shape)
  /-- A list of two. -/
  | pair (shape : Shape)
  /-- An object whose keys are texts of one shape and whose values have another. -/
  | dictionary (key value : Shape)
  | either (first second : Shape)
  /-- A record with its parts; `listed` says that it may be written as a list, and members of an
      object that are no parts have the shape `others`. -/
  | record (listed : Bool) (parts : List (Text × Presence × Shape)) (others : Shape)

namespace Shape

/-! ## Simple values -/

/-- Whether an integer fits into a signed 32-bit word. -/
def fitsInt32 (n : Int) : Bool :=
  let half : Int := Number.word32 / 2
  n < half && -half ≤ n

/-- Whether a value is a number. -/
def isNumber : Json → Bool
  | .int _ => true
  | .decimal _ => true
  | _ => false

/-- The word that a value stands for. -/
def wordOf? : Json → Option Text
  | .str w => some w
  | .obj [(w, .null)] => some w
  | _ => none

/-- The value itself, if it passes. -/
def keep (j : Json) (passes : Bool) : Option Json := if passes then some j else none

/-! ## Reading -/

mutual

/-- The value with every record written as an object, if it has the shape. -/
def read? : Shape → Json → Option Json
  | .any, j => some j
  | .bool, j => keep j j.bool?.isSome
  | .text, j => keep j j.text?.isSome
  | .number, j => keep j (isNumber j)
  | .int32, j => keep j (j.int?.any fitsInt32)
  | .nat bound, j => keep j (j.nat? bound).isSome
  | .address, j => keep j (j.text?.bind Workspace.Uri.parse?).isSome
  | .word words, j => ((wordOf? j).filter (words.contains ·)).map .str
  | .nullable shape, j =>
    match j with
    | .null => some .null
    | j => shape.read? j
  | .list shape, j => (j.items?.bind fun items => items.mapM fun item => shape.read? item).map .arr
  | .pair shape, j =>
    match j with
    | .arr [a, b] => do return .arr [← shape.read? a, ← shape.read? b]
    | _ => none
  | .dictionary key value, j =>
    match j with
    | .obj members =>
      (members.mapM fun (m : Text × Json) =>
        (key.read? (.str m.1)).bind fun _ => (value.read? m.2).map fun v => (m.1, v)).map .obj
    | _ => none
  | .either first second, j => (first.read? j).or (second.read? j)
  | .record listed parts others, j =>
    match j with
    | .obj members =>
      let isPart (m : Text × Json) : Bool := parts.any (·.1 = m.1)
      if members.all fun m => isPart m || (others.read? m.2).isSome then
        (readMembers? parts j).map .obj
      else none
    | .arr items => if listed then (readItems? parts items).map .obj else none
    | _ => none

/-- The parts of a record that is written as an object. -/
def readMembers? : List (Text × Presence × Shape) → Json → Option (List (Text × Json))
  | [], _ => some []
  | (key, presence, shape) :: rest, j =>
    match j.get? key with
    | some value =>
      (shape.read? value).bind fun value => (readMembers? rest j).map ((key, value) :: ·)
    | none => if presence = .required then none else readMembers? rest j

/-- The parts of a record that is written as a list. -/
def readItems? : List (Text × Presence × Shape) → List Json → Option (List (Text × Json))
  | [], [] => some []
  | [], _ :: _ => none
  | (_, presence, _) :: rest, [] => if presence = .defaulted then readItems? rest [] else none
  | (key, _, shape) :: rest, item :: items =>
    (shape.read? item).bind fun value => (readItems? rest items).map ((key, value) :: ·)

end

/-! ## Parts -/

/-- A part of a record. -/
abbrev Part := Text × Presence × Shape

/-- A part that must be there. -/
def part (key : Text) (shape : Shape) : Part := (key, .required, shape)

/-- A part that may be absent or null. -/
def maybe (key : Text) (shape : Shape) : Part := (key, .optional, .nullable shape)

/-- A record that may be written as a list. -/
def parts (list : List Part) : Shape := .record true list .any

/-- A record that is always written as an object. -/
def members (list : List Part) : Shape := .record false list .any

/-- A record of truth values, each of which may be absent. -/
def flags (keys : List Text) : Shape := parts (keys.map (maybe · .bool))

/-- An unsigned 32-bit integer. -/
def nat32 : Shape := .nat Number.word32

/-- An unsigned 64-bit integer. -/
def nat64 : Shape := .nat Number.word64

end Shape

end OrmLens.Server
