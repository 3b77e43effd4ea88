/-
  Writing JSON, on one line or indented by two spaces.
-/
import OrmLens.Json.Basic

namespace OrmLens.Json

/-- A hexadecimal digit. -/
def hexDigit (n : Nat) : Char := Nat.digitChar n

/-- A character inside a string. -/
def writeChar (c : Char) : Text :=
  if c = '"' then ['\\', '"']
  else if c = '\\' then ['\\', '\\']
  else if c = '\n' then ['\\', 'n']
  else if c = '\r' then ['\\', 'r']
  else if c = '\t' then ['\\', 't']
  else if c.toNat = 8 then ['\\', 'b']
  else if c.toNat = 12 then ['\\', 'f']
  else if c.toNat < 0x20 then
    ['\\', 'u', '0', '0', hexDigit (c.toNat / 16), hexDigit (c.toNat % 16)]
  else [c]

/-- A string in its quotes. -/
def writeText (t : Text) : Text := '"' :: t.flatMap writeChar ++ ['"']

mutual

/-- A value on one line. -/
def render : Json → Text
  | .null => "null"
  | .bool true => "true"
  | .bool false => "false"
  | .int n => Text.ofInt n
  | .decimal literal => literal
  | .str content => writeText content
  | .arr items => '[' :: Text.join [','] (renderItems items) ++ [']']
  | .obj members => '\x7b' :: Text.join [','] (renderMembers members) ++ ['\x7d']

/-- Each item on one line. -/
def renderItems : List Json → List Text
  | [] => []
  | item :: rest => render item :: renderItems rest

/-- Each member on one line. -/
def renderMembers : List (Text × Json) → List Text
  | [] => []
  | (key, value) :: rest => (writeText key ++ ':' :: render value) :: renderMembers rest

end

/-- A line break and the indentation of a level. -/
def newLine (level : Nat) : Text := '\n' :: List.replicate (2 * level) ' '

/-- Bracketed parts, each on a line of its own. -/
def block (level : Nat) (opening closing : Char) (parts : List Text) : Text :=
  if parts.isEmpty then [opening, closing]
  else
    opening :: newLine (level + 1) ++ Text.join (',' :: newLine (level + 1)) parts
      ++ newLine level ++ [closing]

mutual

/-- A value with every item and member on a line of its own. -/
def prettyAt (level : Nat) : Json → Text
  | .arr items => block level '[' ']' (prettyItems (level + 1) items)
  | .obj members => block level '\x7b' '\x7d' (prettyMembers (level + 1) members)
  | .null => "null"
  | .bool true => "true"
  | .bool false => "false"
  | .int n => Text.ofInt n
  | .decimal literal => literal
  | .str content => writeText content

/-- Each item at a level. -/
def prettyItems (level : Nat) : List Json → List Text
  | [] => []
  | item :: rest => prettyAt level item :: prettyItems level rest

/-- Each member at a level. -/
def prettyMembers (level : Nat) : List (Text × Json) → List Text
  | [] => []
  | (key, value) :: rest =>
    (writeText key ++ [':', ' '] ++ prettyAt level value) :: prettyMembers level rest

end

/-- A value over several lines. -/
def pretty (j : Json) : Text := prettyAt 0 j

end OrmLens.Json
