/-
  Text as a list of characters, measured in UTF-8 bytes.

  Every offset, span and indentation of this library counts bytes, so a text is cut with
  `dropBytes` and `takeBytes`, which stop at the first character boundary at or after the asked
  offset. Main statements: cutting a concatenation at the length of its first part gives back the
  parts, and splitting at a separator loses only the separators.
-/

namespace OrmLens

/-- Source text, names and paths. -/
abbrev Text := List Char

instance : Coe String Text := ⟨String.toList⟩

namespace Text

/-! ## Length and cutting -/

/-- Length in UTF-8 bytes. -/
def bytes : Text → Nat
  | [] => 0
  | c :: t => c.utf8Size + bytes t

@[simp] theorem bytes_nil : bytes [] = 0 := rfl

@[simp] theorem bytes_cons (c : Char) (t : Text) : bytes (c :: t) = c.utf8Size + bytes t := rfl

@[simp] theorem bytes_append (s t : Text) : bytes (s ++ t) = bytes s + bytes t := by
  induction s with
  | nil => simp
  | cons c s ih => simp [ih, Nat.add_assoc]

/-- Number of UTF-16 code units. -/
def units16 : Text → Nat
  | [] => 0
  | c :: t => (if c.toNat < 0x10000 then 1 else 2) + units16 t

@[simp] theorem units16_append (s t : Text) : units16 (s ++ t) = units16 s + units16 t := by
  induction s with
  | nil => simp [units16]
  | cons c s ih => simp [units16, ih, Nat.add_assoc]

/-- The text from byte `n` on. -/
def dropBytes (n : Nat) : Text → Text
  | [] => []
  | c :: t => if n = 0 then c :: t else dropBytes (n - c.utf8Size) t

/-- The text before byte `n`. -/
def takeBytes (n : Nat) : Text → Text
  | [] => []
  | c :: t => if n = 0 then [] else c :: takeBytes (n - c.utf8Size) t

theorem takeBytes_append_dropBytes (n : Nat) (t : Text) :
    takeBytes n t ++ dropBytes n t = t := by
  induction t generalizing n with
  | nil => rfl
  | cons c t ih =>
    by_cases h : n = 0
    · simp [takeBytes, dropBytes, h]
    · simp [takeBytes, dropBytes, h, ih]

@[simp] theorem dropBytes_zero (t : Text) : dropBytes 0 t = t := by
  cases t <;> simp [dropBytes]

@[simp] theorem takeBytes_zero (t : Text) : takeBytes 0 t = [] := by
  cases t <;> simp [takeBytes]

theorem dropBytes_bytes_append (s t : Text) : dropBytes (bytes s) (s ++ t) = t := by
  induction s with
  | nil => simp
  | cons c s ih =>
    have hc : c.utf8Size ≠ 0 := Nat.pos_iff_ne_zero.mp c.utf8Size_pos
    simp [dropBytes, hc, ih]

theorem takeBytes_bytes_append (s t : Text) : takeBytes (bytes s) (s ++ t) = s := by
  induction s with
  | nil => simp
  | cons c s ih =>
    have hc : c.utf8Size ≠ 0 := Nat.pos_iff_ne_zero.mp c.utf8Size_pos
    simp [takeBytes, hc, ih]

/-- Two beginnings of one text are the same if they have the same length. -/
theorem append_inj_of_bytes {s t s' t' : Text} (h : s ++ t = s' ++ t')
    (hbytes : bytes s = bytes s') : s = s' ∧ t = t' := by
  have hs := takeBytes_bytes_append s t
  rw [h, hbytes, takeBytes_bytes_append] at hs
  subst hs
  exact ⟨rfl, List.append_cancel_left h⟩

/-! ## Pieces -/

/-- Puts a character in front of the first piece. -/
def glue (c : Char) : List Text → List Text
  | [] => [[c]]
  | piece :: rest => (c :: piece) :: rest

/-- The pieces between the separators; a text without separator is one piece. -/
def splitOn (sep : Char) : Text → List Text
  | [] => [[]]
  | c :: t => if c = sep then [] :: splitOn sep t else glue c (splitOn sep t)

theorem glue_ne_nil (c : Char) (l : List Text) : glue c l ≠ [] := by
  cases l <;> simp [glue]

theorem splitOn_ne_nil (sep : Char) (t : Text) : splitOn sep t ≠ [] := by
  cases t with
  | nil => simp [splitOn]
  | cons c t =>
    by_cases h : c = sep
    · simp [splitOn, h]
    · simp [splitOn, h, glue_ne_nil]

/-- The pieces with a separator between any two. -/
def join (sep : Text) : List Text → Text
  | [] => []
  | [piece] => piece
  | piece :: rest => piece ++ sep ++ join sep rest

theorem join_cons_of_ne_nil (sep piece : Text) {rest : List Text} (h : rest ≠ []) :
    join sep (piece :: rest) = piece ++ sep ++ join sep rest := by
  cases rest with
  | nil => exact absurd rfl h
  | cons => rfl

theorem join_concat (sep last : Text) {parts : List Text} (h : parts ≠ []) :
    join sep (parts ++ [last]) = join sep parts ++ sep ++ last := by
  induction parts with
  | nil => exact absurd rfl h
  | cons part parts ih =>
    cases parts with
    | nil => rfl
    | cons next parts =>
      have hrest := ih (List.cons_ne_nil _ _)
      rw [List.cons_append, join_cons_of_ne_nil _ _ (by simp), hrest,
        join_cons_of_ne_nil _ _ (List.cons_ne_nil _ _)]
      simp only [List.append_assoc]

theorem join_glue (sep : Text) (c : Char) {l : List Text} (h : l ≠ []) :
    join sep (glue c l) = c :: join sep l := by
  match l, h with
  | [piece], _ => rfl
  | piece :: second :: rest, _ => rfl

theorem join_splitOn (sep : Char) (t : Text) : join [sep] (splitOn sep t) = t := by
  induction t with
  | nil => rfl
  | cons c t ih =>
    by_cases h : c = sep
    · simp [splitOn, h, join_cons_of_ne_nil _ _ (splitOn_ne_nil sep t), ih]
    · simp [splitOn, h, join_glue _ _ (splitOn_ne_nil sep t), ih]

/-- The part after the last separator, or the whole text without one. -/
def afterLast (sep : Char) (t : Text) : Text :=
  (t.reverse.takeWhile (· != sep)).reverse

/-- The parts before and after the last separator. -/
def splitLast? (sep : Char) (t : Text) : Option (Text × Text) :=
  match t.reverse.dropWhile (· != sep) with
  | [] => none
  | _ :: head => some (head.reverse, afterLast sep t)

/-- The pieces between the occurrences of two equal characters, read from the left. -/
def splitOnPair (sep : Char) : Text → List Text
  | [] => [[]]
  | [c] => [[c]]
  | c :: d :: t =>
    if c = sep ∧ d = sep then [] :: splitOnPair sep t else glue c (splitOnPair sep (d :: t))

/-! ## Beginnings and ends -/

/-- What follows `lead`, if the text starts with it. -/
def after? : Text → Text → Option Text
  | [], t => some t
  | _ :: _, [] => none
  | a :: lead, c :: t => if a = c then after? lead t else none

theorem after?_eq_some_iff (lead t rest : Text) : after? lead t = some rest ↔ t = lead ++ rest := by
  induction lead generalizing t with
  | nil => simp [after?, eq_comm]
  | cons a lead ih =>
    cases t with
    | nil => simp [after?]
    | cons c t =>
      by_cases h : a = c
      · simp [after?, h, ih]
      · simp [after?, h, Ne.symm h]

/-- Whether the text starts with `lead`. -/
def startsWith (t lead : Text) : Bool := (after? lead t).isSome

theorem startsWith_iff (t lead : Text) : startsWith t lead = true ↔ lead <+: t := by
  rw [startsWith, Option.isSome_iff_exists]
  constructor
  · rintro ⟨rest, h⟩
    exact ⟨rest, ((after?_eq_some_iff lead t rest).mp h).symm⟩
  · rintro ⟨rest, h⟩
    exact ⟨rest, (after?_eq_some_iff lead t rest).mpr h.symm⟩

/-- What precedes `tail`, if the text ends with it. -/
def before? (tail t : Text) : Option Text :=
  (after? tail.reverse t.reverse).map List.reverse

theorem before?_eq_some_iff (tail t rest : Text) :
    before? tail t = some rest ↔ t = rest ++ tail := by
  simp only [before?, Option.map_eq_some_iff, after?_eq_some_iff]
  constructor
  · rintro ⟨r, hr, rfl⟩
    have := congrArg List.reverse hr
    simpa using this
  · rintro rfl
    exact ⟨rest.reverse, by simp, by simp⟩

/-- Whether the text ends with `tail`. -/
def endsWith (t tail : Text) : Bool := (before? tail t).isSome

/-- Whether `part` occurs in the text. -/
def hasPart (part : Text) : Text → Bool
  | [] => part.isEmpty
  | c :: t => startsWith (c :: t) part || hasPart part t

/-- The text without the longest end all of whose characters satisfy `p`. -/
def dropEndWhile (p : Char → Bool) (t : Text) : Text := (t.reverse.dropWhile p).reverse

/-- The longest end all of whose characters satisfy `p`. -/
def takeEndWhile (p : Char → Bool) (t : Text) : Text := (t.reverse.takeWhile p).reverse

theorem dropEndWhile_append_takeEndWhile (p : Char → Bool) (t : Text) :
    dropEndWhile p t ++ takeEndWhile p t = t := by
  rw [dropEndWhile, takeEndWhile, ← List.reverse_append, List.takeWhile_append_dropWhile,
    List.reverse_reverse]

/-- Equality up to the case of ASCII letters. -/
def eqIgnoringAsciiCase (s t : Text) : Bool := s.map Char.toLower == t.map Char.toLower

/-- A number in decimal. -/
def ofNat (n : Nat) : Text := Nat.toDigits 10 n

/-- An integer in decimal, with a minus sign when negative. -/
def ofInt : Int → Text
  | .ofNat n => ofNat n
  | .negSucc n => '-' :: ofNat (n + 1)

end Text

end OrmLens
