/-
  Default values of fields: literals are read, everything else is kept as it was written.
-/
import OrmLens.Number.Binary64
import OrmLens.Source.Argument
import OrmLens.Text.Quoted

namespace OrmLens.Model

open Number Source

/-- The value of a `default=` argument. -/
inductive DefaultValue where
  | bool (value : Bool)
  | int (value : Int)
  | float (value : Binary64)
  | str (content : Text)
  /-- Any expression that is not a literal. -/
  | expr (source : Text)
deriving DecidableEq, Repr

namespace DefaultValue

/-- Whether an expression has the characters of a decimal fraction. -/
def looksFractional (expr : Text) : Bool :=
  expr.contains '.' && expr.all fun c => c.isDigit || c == '.' || c == '-'

/-- Reads a decimal fraction. -/
def fraction? (expr : Text) : Option Binary64 :=
  if looksFractional expr then Binary64.ofText? expr else none

/-- Reads an expression: truth values, integers, decimal fractions, strings, in this order. -/
def parse (t : Text) : DefaultValue :=
  let expr := Text.trim t
  if expr = "True" then .bool true
  else if expr = "False" then .bool false
  else
    match int64? expr, fraction? expr, stringLiteral? expr with
    | some n, _, _ => .int n
    | none, some x, _ => .float x
    | none, none, some content => .str content
    | none, none, none => .expr expr

/-- The value as shown to a reader. -/
def shown : DefaultValue → Text
  | .bool true => "True"
  | .bool false => "False"
  | .int n => Text.ofInt n
  | .float x => x.shown
  | .str content => Text.quoted content
  | .expr source => source

end DefaultValue

end OrmLens.Model
