/-
  Groups in brackets.

  A text can be read on inside a group as long as it does not close it (`nesting`). A group is then
  found exactly if the text goes on with a closing bracket at the depth it started at
  (`groupFrom_eq_some_iff`), so what follows that bracket makes no difference.

  `Balanced` is what may stand between the brackets of a group. The scanner does not tell the three
  kinds apart: a balanced text is closed by any of them (`Balanced.group?`), and the inside of any
  group is balanced (`balanced_of_group?`).
-/
import OrmLens.Source.Lexical

namespace OrmLens.Source

/-! ## Reading on inside a group -/

/-- The number of open brackets after a character, unless it closes the group that is read. -/
def Lexical.nest? (s : Lexical) (depth : Nat) (c : Char) : Option Nat :=
  match s.bracket c, depth with
  | .closing, 0 => none
  | .closing, depth + 1 => some depth
  | .opening, depth => some (depth + 1)
  | .other, depth => some depth

/-- The state and the number of open brackets behind a text, unless it closes the group that is
    read. -/
def nesting (s : Lexical) (depth : Nat) : Text → Option (Lexical × Nat)
  | [] => some (s, depth)
  | c :: t => (s.nest? depth c).bind fun depth => nesting (s.next c) depth t

theorem Lexical.nest?_eq_none_iff {s : Lexical} {depth : Nat} {c : Char} :
    s.nest? depth c = none ↔ depth = 0 ∧ s.bracket c = .closing := by
  unfold Lexical.nest?
  split <;> simp_all

theorem Lexical.bracket_eq_closing_iff {s : Lexical} {c : Char} :
    s.bracket c = .closing ↔ s.mode = .code ∧ isClosing c = true := by
  have hopening : isClosing c = true → isOpening c = false := by
    unfold isClosing isOpening
    grind
  unfold Lexical.bracket
  grind

theorem groupFrom_cons_of_none {s : Lexical} {depth : Nat} {c : Char}
    (h : s.nest? depth c = none) (t : Text) : groupFrom s depth (c :: t) = some ([], t) := by
  obtain ⟨rfl, hclosing⟩ := Lexical.nest?_eq_none_iff.mp h
  simp only [groupFrom, hclosing]

theorem groupFrom_cons_of_some {s : Lexical} {depth deeper : Nat} {c : Char}
    (h : s.nest? depth c = some deeper) (t : Text) :
    groupFrom s depth (c :: t) =
      (groupFrom (s.next c) deeper t).map fun g => (c :: g.1, g.2) := by
  cases hbracket : s.bracket c with
  | closing =>
    cases depth with
    | zero => simp [Lexical.nest?, hbracket] at h
    | succ depth =>
      obtain rfl : depth = deeper := by simpa [Lexical.nest?, hbracket] using h
      simp only [groupFrom, hbracket]
  | opening =>
    obtain rfl : depth + 1 = deeper := by simpa [Lexical.nest?, hbracket] using h
    simp only [groupFrom, hbracket]
  | other =>
    obtain rfl : depth = deeper := by simpa [Lexical.nest?, hbracket] using h
    simp only [groupFrom, hbracket]

/-- **A group** is a text that does not close it, and a bracket that does. -/
theorem groupFrom_eq_some_iff {s : Lexical} {depth : Nat} {t inside rest : Text} :
    groupFrom s depth t = some (inside, rest) ↔
      ∃ r c, t = inside ++ c :: rest ∧ nesting s depth inside = some (r, 0) ∧
        r.bracket c = .closing := by
  constructor
  · intro h
    induction t generalizing s depth inside with
    | nil => cases h
    | cons d t ih =>
      cases hnest : s.nest? depth d with
      | none =>
        rw [groupFrom_cons_of_none hnest] at h
        obtain ⟨rfl, rfl⟩ := Prod.mk.inj (Option.some.inj h)
        obtain ⟨rfl, hclosing⟩ := Lexical.nest?_eq_none_iff.mp hnest
        exact ⟨s, d, rfl, rfl, hclosing⟩
      | some deeper =>
        rw [groupFrom_cons_of_some hnest] at h
        obtain ⟨⟨more, after⟩, hgroup, heq⟩ := Option.map_eq_some_iff.mp h
        obtain ⟨rfl, rfl⟩ := Prod.mk.inj heq
        obtain ⟨r, c, rfl, hrest, hclosing⟩ := ih hgroup
        exact ⟨r, c, rfl, by rw [nesting, hnest, Option.bind_some, hrest], hclosing⟩
  · rintro ⟨r, c, rfl, hinside, hclosing⟩
    induction inside generalizing s depth with
    | nil =>
      obtain ⟨rfl, rfl⟩ := Prod.mk.inj (Option.some.inj hinside)
      exact groupFrom_cons_of_none (Lexical.nest?_eq_none_iff.mpr ⟨rfl, hclosing⟩) rest
    | cons d inside ih =>
      obtain ⟨deeper, hnest, hrest⟩ := Option.bind_eq_some_iff.mp hinside
      rw [List.cons_append, groupFrom_cons_of_some hnest, ih hrest]
      rfl

/-! ## Balanced texts -/

/-- A text that the scanner takes for the whole inside of parentheses. -/
def Balanced (args : Text) : Prop := closingBracket? (args ++ [')']) 0 = some (Text.bytes args)

instance (args : Text) : Decidable (Balanced args) := inferInstanceAs (Decidable (_ = _))

/-- A balanced text closes all that it opens, and ends in code. -/
theorem balanced_iff {args : Text} :
    Balanced args ↔ ∃ r, nesting {} 0 args = some (r, 0) ∧ r.mode = .code := by
  unfold Balanced closingBracket? Source.group?
  rw [Text.dropBytes_zero]
  constructor
  · intro h
    obtain ⟨⟨inside, after⟩, hgroup, hbytes⟩ := Option.map_eq_some_iff.mp h
    obtain ⟨r, c, htext, hinside, hclosing⟩ := groupFrom_eq_some_iff.mp hgroup
    rw [Nat.zero_add] at hbytes
    obtain ⟨rfl, -⟩ := Text.append_inj_of_bytes htext hbytes.symm
    exact ⟨r, hinside, (Lexical.bracket_eq_closing_iff.mp hclosing).1⟩
  · rintro ⟨r, hargs, hcode⟩
    have hclosing : r.bracket ')' = .closing :=
      Lexical.bracket_eq_closing_iff.mpr ⟨hcode, rfl⟩
    rw [groupFrom_eq_some_iff.mpr ⟨r, ')', rfl, hargs, hclosing⟩, Option.map_some, Nat.zero_add]

/-- **The inside of a group is balanced.** -/
theorem balanced_of_group? {t inside rest : Text} (h : group? t = some (inside, rest)) :
    Balanced inside := by
  obtain ⟨r, c, -, hinside, hclosing⟩ := groupFrom_eq_some_iff.mp h
  exact balanced_iff.mpr ⟨r, hinside, (Lexical.bracket_eq_closing_iff.mp hclosing).1⟩

/-- **A balanced text is a group** with any closing bracket behind it. -/
theorem Balanced.group? {args : Text} (h : Balanced args) {c : Char} (hc : isClosing c = true)
    (rest : Text) : group? (args ++ c :: rest) = some (args, rest) := by
  obtain ⟨r, hargs, hcode⟩ := balanced_iff.mp h
  exact groupFrom_eq_some_iff.mpr
    ⟨r, c, rfl, hargs, Lexical.bracket_eq_closing_iff.mpr ⟨hcode, hc⟩⟩

theorem Balanced.closingBracket? {args : Text} (h : Balanced args) (before rest : Text) :
    closingBracket? (before ++ (args ++ ')' :: rest)) (Text.bytes before) =
      some (Text.bytes before + Text.bytes args) := by
  rw [Source.closingBracket?, Text.dropBytes_bytes_append, h.group? rfl]
  rfl

end OrmLens.Source
