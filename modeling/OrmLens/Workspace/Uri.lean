/-
  Addresses of documents: `scheme://authority/path?query#fragment`. All parts must be well formed,
  but only the path counts.

  A document is known by its path as written; the unit is that path with its escapes decoded. The
  way back writes every byte outside letters, digits and `-._~/` as an escape.
-/
import OrmLens.Json.Parser
import OrmLens.Text.Utf8

namespace OrmLens.Workspace

/-- An address, reduced to its path as written. -/
structure Uri where
  path : Text
deriving DecidableEq, Repr

namespace Uri

/-- Characters that never need an escape. -/
def isUnreserved (c : Char) : Bool :=
  c.isAlphanum || c == '-' || c == '.' || c == '_' || c == '~'

/-- Characters of the name of a host. -/
def isHostChar (c : Char) : Bool := isUnreserved c || ("!$&'()*+,;=" : Text).contains c

/-- Characters of a path besides the slash. -/
def isPathChar (c : Char) : Bool := isHostChar c || c == ':' || c == '@'

/-- Whether a part holds the allowed characters and complete escapes only. -/
def isValidPart (allowed : Char → Bool) : Text → Bool
  | [] => true
  | '%' :: a :: b :: t =>
    (Json.hexDigit? a).isSome && (Json.hexDigit? b).isSome && isValidPart allowed t
  | c :: t => allowed c && isValidPart allowed t

/-- Whether a text is a scheme. -/
def isScheme : Text → Bool
  | [] => false
  | c :: t => c.isAlpha && t.all fun d => d.isAlphanum || d == '+' || d == '-' || d == '.'

/-- The text before a mark, and the text after it if the mark is there. -/
def cut (mark : Char) (t : Text) : Text × Option Text :=
  (t.takeWhile (· != mark), (t.dropWhile (· != mark)).tail?)

/-- What follows the scheme; without a scheme, no colon may stand in the first segment. -/
def afterScheme? (t : Text) : Option Text :=
  let inScheme (c : Char) : Bool := c != ':' && c != '/'
  match t.dropWhile inScheme with
  | ':' :: rest => if isScheme (t.takeWhile inScheme) then some rest else none
  | _ => some t

/-! ## Authorities -/

/-- Whether a text is a number from 0 to 255 without needless zeros. -/
def isOctet (t : Text) : Bool :=
  (t.length = 1 || t.head? != some '0') && t.length ≤ 3
    && (Number.natural? t).any (· ≤ 255)

/-- Whether a text is four octets with dots between them. -/
def isIpv4 (t : Text) : Bool :=
  let octets := Text.splitOn '.' t
  octets.length = 4 && octets.all isOctet

/-- Whether a text is a group of one to four hexadecimal digits. -/
def isGroup (t : Text) : Bool :=
  !t.isEmpty && t.length ≤ 4 && t.all fun c => (Json.hexDigit? c).isSome

/-- The number of groups in a text that has only groups with colons between them. At the end of an
    address (`isLast`) four octets stand for two groups. -/
def groupCount? (isLast : Bool) (t : Text) : Option Nat :=
  if t.isEmpty then some 0
  else
    let groups := Text.splitOn ':' t
    let ending := groups.getLast?.getD []
    if groups.all isGroup then some groups.length
    else if isLast && groups.dropLast.all isGroup && isIpv4 ending then some (groups.length + 1)
    else none

/-- The text before the first pair of colons, and the text after it if the pair is there. -/
def cutElision : Text → Text × Option Text
  | [] => ([], none)
  | ':' :: ':' :: t => ([], some t)
  | c :: t => let (before, rest) := cutElision t; (c :: before, rest)

/-- Whether a text is eight groups, of which a pair of colons may leave some out. -/
def isIpv6 (t : Text) : Bool :=
  match cutElision t with
  | (_, none) => !t.isEmpty && groupCount? true t == some 8
  | (before, some rest) =>
    match groupCount? false before, groupCount? true rest with
    | some m, some n => m + n ≤ 7
    | _, _ => false

/-- Whether a text is empty or a colon with a port, which may be empty too. -/
def isPort : Text → Bool
  | [] => true
  | c :: digits => c == ':' && digits.all Char.isDigit

/-- Whether a text is a host, by name or by number, with a port or without. -/
def isHost (t : Text) : Bool :=
  match t with
  | '[' :: inside =>
    match cut ']' inside with
    | (number, some port) => isIpv6 number && isPort port
    | (_, none) => false
  | _ => isValidPart isHostChar (t.takeWhile (· != ':')) && isPort (t.dropWhile (· != ':'))

/-- Whether a text is a host, with a user before it or without. -/
def isAuthority (t : Text) : Bool :=
  match cut '@' t with
  | (user, some host) => isValidPart (fun c => isHostChar c || c == ':') user && isHost host
  | (_, none) => isHost t

/-! ## Reading -/

/-- Reads an address. -/
def parse? (t : Text) : Option Uri := do
  let (beforeFragment, fragment) := cut '#' t
  let (hierarchy, query) := cut '?' beforeFragment
  let rest ← afterScheme? hierarchy
  let (authority, path) : Text × Text := match rest with
    | '/' :: '/' :: more => (more.takeWhile (· != '/'), more.dropWhile (· != '/'))
    | _ => ([], rest)
  let inQuery (c : Char) : Bool := isPathChar c || c == '/' || c == '?'
  if isAuthority authority
      && isValidPart (fun c => isPathChar c || c == '/') path
      && isValidPart inQuery (query.getD []) && isValidPart inQuery (fragment.getD []) then
    return ⟨path⟩
  else none

/-! ## Units -/

/-- The bytes of a path with its escapes decoded. -/
def decodedBytes : Text → List Nat
  | [] => []
  | '%' :: a :: b :: t =>
    match Json.hexDigit? a, Json.hexDigit? b with
    | some high, some low => (high * 16 + low) :: decodedBytes t
    | _, _ => Text.charBytes '%' ++ decodedBytes (a :: b :: t)
  | c :: t => Text.charBytes c ++ decodedBytes t

/-- The unit of a document; an empty path is none. -/
def unit? (u : Uri) : Option Text :=
  match Text.decode (decodedBytes u.path) with
  | [] => none
  | unit => some unit

/-- A byte as an escape. -/
def escapeByte (b : Nat) : Text :=
  ['%', (Json.hexUpper (b / 16)), (Json.hexUpper (b % 16))]

/-- A path with every byte but the safe ones escaped. -/
def escapePath (path : Text) : Text :=
  path.flatMap fun c =>
    if isUnreserved c || c == '/' then [c] else (Text.charBytes c).flatMap escapeByte

/-- The address of a unit; only absolute paths have one. -/
def ofUnit? (unit : Text) : Option Uri :=
  if unit.head? == some '/' then some ⟨escapePath unit⟩ else none

/-- An address of a file, written out. -/
def fileText (u : Uri) : Text := "file://" ++ u.path

end Uri

end OrmLens.Workspace
