/-
  Patterns of paths, matched byte by byte.

  `*` and `?` stay within one segment, `**` spans segments, brackets hold sets of bytes and braces
  hold alternatives, of which the empty ones do not count. A pattern without slash matches in every
  folder; a leading `!` excludes; of the patterns in a list the last one that matches decides.
-/
import OrmLens.Text.Line
import OrmLens.Text.Utf8

namespace OrmLens.Workspace

/-- The bytes of a path. -/
abbrev Bytes := List Nat

/-- A part of a pattern. -/
inductive Token where
  | char (c : Char)
  /-- One byte of a segment. -/
  | any
  /-- Any part of a segment. -/
  | star
  /-- `**/` at the start: any folders, or none. -/
  | deepStart
  /-- `/**` at the end: anything inside. -/
  | deepEnd
  /-- `/**/` in the middle: any folders between, or none. -/
  | deepMiddle
  /-- One byte in one of the ranges, or in none of them. -/
  | set (negated : Bool) (ranges : List (Nat × Nat))
  /-- One of the alternatives. Without alternatives it stands for nothing at all. -/
  | choice (alternatives : List (List Token))

/-! ## Matching -/

/-- The byte between the segments. -/
def slash : Nat := '/'.toNat

/-- Whether `k` accepts what follows the given bytes. -/
def afterBytes (k : Bytes → Bool) : Bytes → Bytes → Bool
  | [], t => k t
  | _ :: _, [] => false
  | a :: expected, b :: t => a == b && afterBytes k expected t

/-- Whether `k` accepts what follows a first byte that passes. -/
def afterByte (passes : Nat → Bool) (k : Bytes → Bool) : Bytes → Bool
  | [] => false
  | b :: t => passes b && k t

/-- Whether `k` accepts what follows some part of the first segment. -/
def afterStar (k : Bytes → Bool) : Bytes → Bool
  | [] => k []
  | b :: t => k (b :: t) || (b != slash && afterStar k t)

/-- Whether `k` accepts what follows some slash. -/
def afterSlash (k : Bytes → Bool) : Bytes → Bool
  | [] => false
  | b :: t => (b == slash && k t) || afterSlash k t

/-- Whether `k` accepts some end of the bytes. -/
def someEnd (k : Bytes → Bool) : Bytes → Bool
  | [] => k []
  | b :: t => k (b :: t) || someEnd k t

mutual

/-- Whether `k` accepts what follows a part that matches the token. -/
def Token.run : Token → (k : Bytes → Bool) → Bytes → Bool
  | .char c, k => afterBytes k (Text.charBytes c)
  | .any, k => afterByte (· != slash) k
  | .star, k => afterStar k
  | .deepStart, k => fun t => k t || afterSlash k t
  | .deepEnd, k => afterByte (· == slash) (someEnd k)
  | .deepMiddle, k => afterByte (· == slash) fun t => k t || afterSlash k t
  | .set negated ranges, k =>
    afterByte (fun b => ranges.any (fun r => r.1 ≤ b && b ≤ r.2) != negated) k
  | .choice alternatives, k => fun t =>
    (alternatives.isEmpty && k t) || runSome alternatives k t

/-- Whether `k` accepts what follows a part that matches the tokens one after another. -/
def runAll : List Token → (k : Bytes → Bool) → Bytes → Bool
  | [], k => k
  | token :: rest, k => token.run (runAll rest k)

/-- Whether `k` accepts what follows a part that matches one of the alternatives. -/
def runSome : List (List Token) → (k : Bytes → Bool) → Bytes → Bool
  | [], _ => fun _ => false
  | tokens :: rest, k => fun t => runAll tokens k t || runSome rest k t

end

/-- Whether a path matches the tokens. Folders alone match everything. -/
def matchTokens (tokens : List Token) (path : Text) : Bool :=
  match tokens with
  | [.deepStart] => true
  | _ => runAll tokens List.isEmpty (Text.encode path)

/-! ## Reading -/

/-- Reads the ranges of a set up to its closing bracket, after the ranges in `read`, the last one
    first. The first character stands for itself. With `inRange` the next character ends the last
    range. -/
def readRanges (read : List (Char × Char)) (inRange : Bool) :
    Text → Option (List (Char × Char) × Text)
  | [] => none
  | c :: rest =>
    match read with
    | [] => readRanges [(c, c)] false rest
    | (low, high) :: before =>
      if c = ']' then
        some ((if inRange then ('-', '-') :: read else read).reverse, rest)
      else if inRange then
        if low ≤ c then readRanges ((low, c) :: before) false rest else none
      else if c = '-' then readRanges ((low, high) :: before) true rest
      else readRanges ((c, c) :: read) false rest

/-- The bytes that a range of characters stands for: its ends are written out, and the range lies
    between the bytes where they meet. -/
def byteRanges (range : Char × Char) : List (Nat × Nat) :=
  let single (b : Nat) : Nat × Nat := (b, b)
  if range.1 = range.2 then (Text.charBytes range.1).map single
  else
    let low := Text.charBytes range.1
    let high := Text.charBytes range.2
    low.dropLast.map single ++ [(low.getLastD 0, high.headD 0)] ++ high.tail.map single

/-- Reads a set after its opening bracket. -/
def readSet (t : Text) : Option (Token × Text) :=
  let negated := t.head? == some '!' || t.head? == some '^'
  (readRanges [] false (if negated then t.tail else t)).map fun r =>
    (.set negated (r.1.flatMap byteRanges), r.2)

/-- Ends a part that spans folders: it takes the place of the slash before it, or goes on with what
    spans folders already. -/
def deepen (part : Token) : List Token → List Token
  | .deepStart :: tokens => .deepStart :: tokens
  | _ :: tokens => part :: tokens
  | [] => [part]

/-- Whether a token stands for nothing at all. -/
def Token.isBlank : Token → Bool
  | .choice [] => true
  | _ => false

/-- Alternatives without the empty ones. -/
def Token.ofAlternatives (alternatives : List (List Token)) : Token :=
  .choice (alternatives.filter fun tokens => !tokens.all Token.isBlank)

/-- Braces that are open: the tokens before them, the last one first, and the alternatives that have
    been read. -/
structure Braces where
  before : List Token
  alternatives : List (List Token) := []

/-- A pattern of which the start has been read. -/
structure Draft where
  /-- The tokens of the innermost alternative, the last one first. -/
  read : List Token := []
  /-- The open braces, the innermost first. -/
  braces : List Braces := []
  /-- The character before. -/
  last : Option Char := none

namespace Draft

/-- Adds a token that ends with the character `c`. -/
def push (d : Draft) (token : Token) (c : Char) : Draft :=
  { d with read := token :: d.read, last := some c }

/-- Opens braces. -/
def openBraces (d : Draft) : Draft :=
  { read := [], braces := { before := d.read } :: d.braces, last := some '\x7b' }

/-- Goes on with the next alternative; outside braces a comma stands for itself. -/
def comma (d : Draft) : Draft :=
  match d.braces with
  | [] => d.push (.char ',') ','
  | b :: outer =>
    let b := { b with alternatives := b.alternatives ++ [d.read.reverse] }
    { read := [], braces := b :: outer, last := some ',' }

/-- Closes the innermost braces, if there are any. -/
def closeBraces? (d : Draft) : Option Draft :=
  match d.braces with
  | [] => none
  | b :: outer =>
    let token := Token.ofAlternatives (b.alternatives ++ [d.read.reverse])
    some { read := token :: b.before, braces := outer, last := some '\x7d' }

/-- Whether two stars may span folders here, as far as the character before them goes. -/
def startsSegment (d : Draft) : Bool :=
  d.last == some '/' || (!d.braces.isEmpty && (d.last == some ',' || d.last == some '\x7b'))

/-- Two stars within a segment. -/
def twoStars (d : Draft) : Draft := (d.push .star '*').push .star '*'

/-- Reads two stars, given what follows them, and tells what is left. -/
def spans (d : Draft) (rest : Text) : Draft × Text :=
  let atEnd := rest.isEmpty
    || (!d.braces.isEmpty && (rest.head? == some ',' || rest.head? == some '\x7d'))
  if d.read.isEmpty then
    match rest with
    | [] => (d.push .deepStart '/', [])
    | '/' :: after => (d.push .deepStart '/', after)
    | _ => (d.twoStars, rest)
  else if !d.startsSegment then (d.twoStars, rest)
  else if atEnd then ({ d with read := deepen .deepEnd d.read, last := some '*' }, rest)
  else
    match rest with
    | '/' :: after => ({ d with read := deepen .deepMiddle d.read, last := some '/' }, after)
    | _ => (d.twoStars, rest)

end Draft

/-- Reads on for at most `count` steps. -/
def tokensFrom : (count : Nat) → Draft → Text → Option (List Token)
  | _, d, [] => if d.braces.isEmpty then some d.read.reverse else none
  | 0, _, _ :: _ => none
  | count + 1, d, c :: t =>
    if c = '?' then tokensFrom count (d.push .any c) t
    else if c = '[' then (readSet t).bind fun s => tokensFrom count (d.push s.1 ']') s.2
    else if c = '\x7b' then tokensFrom count d.openBraces t
    else if c = '\x7d' then d.closeBraces?.bind fun d => tokensFrom count d t
    else if c = ',' then tokensFrom count d.comma t
    else if c = '\\' then
      match t with
      | [] => none
      | escaped :: rest => tokensFrom count (d.push (.char escaped) escaped) rest
    else if c = '*' then
      match t with
      | '*' :: rest => let (d, rest) := d.spans rest; tokensFrom count d rest
      | _ => tokensFrom count (d.push .star c) t
    else tokensFrom count (d.push (.char c) c) t

/-- Reads the tokens of a pattern. -/
def readTokens? (t : Text) : Option (List Token) := tokensFrom t.length {} t

/-! ## Patterns -/

/-- A pattern of a list. -/
structure Glob where
  /-- Whether what matches is left out. -/
  excludes : Bool
  /-- Whether only folders match. -/
  foldersOnly : Bool
  tokens : List Token

namespace Glob

/-- Completes a pattern: without slash it matches in every folder, and a final `/**` matches what is
    inside only. -/
def complete (anchored : Bool) (t : Text) : Text :=
  let placed := if !anchored && !t.contains '/' && t ≠ "**" then "**/" ++ t else t
  if Text.endsWith placed "/**" then placed ++ "/*" else placed

/-- A pattern without the slash at its end, and without the backslash before that. -/
def unslashed (t : Text) : Text :=
  let body := t.dropLast
  if body.getLast? == some '\\' then body.dropLast else body

/-- Reads a pattern; a comment or an empty line is none. -/
def parse? (t : Text) : Option (Option Glob) :=
  let t := if t = ['*'] then ['/', '*'] else t
  let line := if Text.endsWith t "\\ " then t else Text.trimEnd t
  if line.isEmpty || line.head? == some '#' then some none
  else
    let marked := Text.startsWith line "\\!" || Text.startsWith line "\\#"
    let excludes := !marked && line.head? == some '!'
    let body := if marked || excludes then line.tail else line
    let anchored := body.head? == some '/'
    let body := if anchored && !marked then body.tail else body
    let foldersOnly := body.getLast? == some '/'
    let body := if foldersOnly then unslashed body else body
    (readTokens? (complete anchored body)).map fun tokens =>
      some { excludes, foldersOnly, tokens }

/-- Whether a path matches. -/
def accepts (g : Glob) (isFolder : Bool) (path : Text) : Bool :=
  (isFolder || !g.foldersOnly) && matchTokens g.tokens path

end Glob

/-- Patterns in order. -/
abbrev Globs := List Glob

namespace Globs

/-- Reads a list of patterns; one that cannot be read spoils the list. -/
def parse? (patterns : List Text) : Option Globs :=
  (patterns.mapM Glob.parse?).map (·.filterMap id)

/-- The path that patterns see: a path of several segments below a root is looked at without the
    text of the root at its start. -/
def seen (root path : Text) : Text :=
  let root := (Text.after? "./" root).getD root
  if root = ['.'] || !path.contains '/' then path
  else
    let rest := (Text.after? root path).getD path
    (Text.after? ['/'] rest).getD rest

/-- What the last matching pattern says of a path below a root. -/
def decide? (globs : Globs) (root : Text) (isFolder : Bool) (path : Text) : Option Bool :=
  (globs.reverse.find? (·.accepts isFolder (seen root path))).map (!·.excludes)

/-- The folders between the root and a path. -/
def foldersOf (path : Text) : List Text :=
  let parts := (Text.splitOn '/' path).dropLast
  (List.range parts.length).map fun n => Text.join ['/'] (parts.take (n + 1))

/-- Whether a file below a root is selected: it is included, and no folder between is left out.
    Patterns are not asked about the root itself, which has the empty path: as a folder it is never
    left out, and as a file it is never selected. -/
def selects (globs : Globs) (root path : Text) : Bool :=
  !path.isEmpty && globs.decide? root false path == some true
    && (foldersOf path).all fun folder => globs.decide? root true folder != some false

end Globs

end OrmLens.Workspace
