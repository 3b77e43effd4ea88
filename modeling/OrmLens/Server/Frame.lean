/-
  Messages on the wire: a header with the length of the body in bytes, an empty line, and a JSON
  object. An object with a method is a message, and a request if it has an identifier too; an
  object with an identifier alone is a reply to one of the server's own questions.
-/
import OrmLens.Json.Parser
import OrmLens.Json.Printer
import OrmLens.Number.Integer
import OrmLens.Server.Step
import OrmLens.Text.Line

namespace OrmLens.Server

/-- What arrives. -/
inductive Incoming where
  | request (id : Json) (message : Message)
  | notification (message : Message)
  | reply (id result : Json)

namespace Frame

/-- The name of the one header that counts, in lower case. -/
def lengthHeader : Text := "content-length"

/-- The length that a header line gives. -/
def lengthOf? (line : Text) : Option Nat :=
  let (name, value) := Workspace.Uri.cut ':' line
  if name.map Char.toLower = lengthHeader then
    value.bind fun v => Number.natural? (Text.trim v)
  else none

/-- The length that header lines give; the last one wins. -/
def length? (lines : List Text) : Option Nat := (lines.filterMap lengthOf?).getLast?

/-- A body with its header. -/
def render (body : Json) : Text :=
  let text := body.render
  "Content-Length: " ++ Text.ofNat (Text.bytes text) ++ "\r\n\r\n" ++ text

/-- Decodes a body. -/
def incoming? (body : Json) : Option Incoming :=
  match (body.get? "method").bind Json.text?, body.get? "id" with
  | some method, some id =>
    some (.request id { method, params := body.get? "params", wantsAnswer := true })
  | some method, none =>
    some (.notification { method, params := body.get? "params", wantsAnswer := false })
  | none, some id => some (.reply id ((body.get? "result").getD .null))
  | none, none => none

/-- An object of the protocol. -/
def envelope (members : List (Text × Json)) : Json := .obj (("jsonrpc", .str "2.0") :: members)

/-- The body is not JSON. -/
def parseError : Int := -32700

/-- An error code in words. -/
def reason (code : Int) : Text :=
  if code = notReady then "Server not initialized"
  else if code = invalidRequest then "Invalid request"
  else if code = unknownMethod then "Method not found"
  else if code = invalidParams then "Invalid params"
  else "Parse error"

/-- The body that carries an error. -/
def failure (id : Json) (code : Int) : Json :=
  envelope [("error", .obj [("code", .int code), ("message", .str (reason code))]), ("id", id)]

/-- The body that answers a request, if there is one. -/
def answer? (id : Json) : Reply → Option Json
  | .result value => some (envelope [("result", value), ("id", id)])
  | .error code => some (failure id code)
  | .silence => none
  | .exited => none

/-- The body that asks the client something. -/
def question (id : Nat) (q : Query) : Json :=
  envelope [("method", .str q.method), ("params", q.params), ("id", .ofNat id)]

end Frame

end OrmLens.Server
