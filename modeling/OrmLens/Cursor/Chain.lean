/-
  Dotted chains, `a.b(x).c[0]`: read as a whole, and found at the end of a text.
-/
import OrmLens.Source.Argument

namespace OrmLens.Cursor

open CharClass Source

/-- One link of a chain. Of several calls or several subscripts the last one counts. -/
structure Segment where
  name : Text
  /-- The text of the arguments, if the link is called. -/
  call : Option Text := none
  subscript : Option Text := none
deriving DecidableEq, Repr

/-- Whether a link is a bare name. -/
def Segment.isPlain (s : Segment) : Bool := s.call.isNone && s.subscript.isNone

/-- Reads at most `count` calls and subscripts after a name. -/
def readGroups : (count : Nat) → Segment → Text → Option (Segment × Text)
  | 0, s, t => some (s, t)
  | count + 1, s, t =>
    match t with
    | '(' :: inside =>
      (group? inside).bind fun g => readGroups count { s with call := some g.1 } g.2
    | '[' :: inside =>
      (group? inside).bind fun g => readGroups count { s with subscript := some g.1 } g.2
    | _ => some (s, t)

/-- Reads a name with its calls and subscripts. -/
def readSegment (t : Text) : Option (Segment × Text) :=
  match t.takeWhile isIdent with
  | [] => none
  | c :: name =>
    let rest := t.dropWhile isIdent
    if isIdentStart c then readGroups rest.length { name := c :: name } rest else none

/-- Reads at most `count` links; the whole text must be a chain. -/
def chainFrom : (count : Nat) → Text → Option (List Segment)
  | 0, _ => none
  | count + 1, t =>
    (readSegment t).bind fun s =>
      match Text.trimStart s.2 with
      | [] => some [s.1]
      | '.' :: next => (chainFrom count (Text.trimStart next)).map (s.1 :: ·)
      | _ => none

/-- The links of a chain. White space may stand around the dots and at the ends. -/
def parseChain? (t : Text) : Option (List Segment) :=
  let expr := Text.trim t
  chainFrom expr.length expr

/-! ## The chain at the end of a text -/

/-- Characters of a chain outside its brackets. Everything outside ASCII is taken for a letter. -/
def isChainChar (c : Char) : Bool := c.isAlphanum || c == '.' || c == '_' || 128 ≤ c.toNat

/-- Takes a chain off a reversed text, inside `depth` brackets; nothing if they are not all opened.
    Curly brackets and strings are not seen. -/
def takeChain : (depth : Nat) → Text → Option Text
  | 0, [] => some []
  | _ + 1, [] => none
  | 0, c :: t =>
    if c = ')' ∨ c = ']' then (takeChain 1 t).map (c :: ·)
    else if isChainChar c then (takeChain 0 t).map (c :: ·)
    else some []
  | depth + 1, c :: t =>
    if c = ')' ∨ c = ']' then (takeChain (depth + 2) t).map (c :: ·)
    else if c = '(' ∨ c = '[' then (takeChain depth t).map (c :: ·)
    else (takeChain (depth + 1) t).map (c :: ·)

theorem takeChain_isPrefix {depth : Nat} {t chain : Text} (h : takeChain depth t = some chain) :
    chain <+: t := by
  have step {c : Char} {d : Nat} {t chain : Text}
      (ih : ∀ {chain : Text}, takeChain d t = some chain → chain <+: t)
      (h : (takeChain d t).map (c :: ·) = some chain) : chain <+: c :: t := by
    obtain ⟨rest, hr, rfl⟩ := Option.map_eq_some_iff.1 h
    obtain ⟨more, hm⟩ := ih hr
    exact ⟨more, by rw [← hm]; rfl⟩
  induction t generalizing depth chain with
  | nil =>
    cases depth with
    | zero => obtain rfl := Option.some.inj h; exact List.prefix_refl _
    | succ depth => cases h
  | cons c t ih =>
    cases depth with
    | zero =>
      unfold takeChain at h
      split at h
      · exact step ih h
      · split at h
        · exact step ih h
        · obtain rfl := Option.some.inj h; exact List.nil_prefix
    | succ depth =>
      unfold takeChain at h
      split at h
      · exact step ih h
      · split at h
        · exact step ih h
        · exact step ih h

/-- The chain that a text ends with, balanced groups included. -/
def trailingExpr (t : Text) : Text :=
  match takeChain 0 t.reverse with
  | some chain => chain.reverse.dropWhile (· == '.')
  | none => []

/-- What is found stands at the end of the text. -/
theorem trailingExpr_isSuffix (t : Text) : trailingExpr t <:+ t := by
  unfold trailingExpr
  split
  · next chain h =>
    obtain ⟨more, hm⟩ := takeChain_isPrefix h
    have ht : t = more.reverse ++ chain.reverse := by
      rw [← List.reverse_append, hm, List.reverse_reverse]
    have hs : chain.reverse.dropWhile (· == '.') <:+ chain.reverse := List.dropWhile_suffix _
    exact hs.trans ⟨more.reverse, ht.symm⟩
  · exact List.nil_suffix

end OrmLens.Cursor
