/-
  Columns behind the end of a line.

  The protocol counts columns within a line and takes one that is too large for the end of the line
  (`clampedOffset`). A position is resolved in another way: its code units are counted from the
  start of the line over whatever follows, line breaks too, and only the end of the text is an end
  (`offsetOf?_eq_some_iff`).

  `offset_on_line_iff`: both agree exactly at the positions whose column fits in their line, and all
  other positions that are resolved leave their line. What decides is that the text behind the
  content of a line starts with a break (`exists_break_behind`), and that this is one code unit.
-/
import Mathlib.Data.List.TakeWhile
import OrmLens.Proofs.Positions

namespace OrmLens.Document

open Text

/-! ## A line and what follows it -/

/-- The text from the start of a line on. -/
def fromLine (t : Text) (line : Nat) : Text := ((lines t).drop line).flatten

/-- The offset at which a line starts. Behind the last line this is the end of the text. -/
def lineStart (t : Text) (line : Nat) : Nat := bytes ((lines t).take line).flatten

/-- A line without its break. Behind the last line there is nothing. -/
def lineContent (t : Text) (line : Nat) : Text :=
  ((lines t)[line]?.getD []).takeWhile (!isLineBreak ·)

/-- An offset is on a line: not before its start, and not past its end, where its break stands or
    the text ends. -/
def OnLine (t : Text) (line offset : Nat) : Prop :=
  lineStart t line ≤ offset ∧ offset ≤ lineStart t line + bytes (lineContent t line)

instance (t : Text) (line offset : Nat) : Decidable (OnLine t line offset) :=
  inferInstanceAs (Decidable (_ ∧ _))

/-- The offset of a position by the protocol: a column that is too large is the end of the line. -/
def clampedOffset (t : Text) (p : Position) : Nat :=
  let content := lineContent t p.line
  lineStart t p.line + bytesWithinUnits (min p.character (units16 content)) content

theorem flatten_take_append_fromLine (t : Text) (line : Nat) :
    ((lines t).take line).flatten ++ fromLine t line = t := by
  rw [fromLine, ← List.flatten_append, List.take_append_drop, flatten_lines]

section

variable {t line : Text} {above below : List Text} (h : lines t = above ++ line :: below)
include h

/-- A line without a break is the last one. -/
theorem below_eq_nil (hline : ∀ c ∈ line, isLineBreak c = false) : below = [] := by
  refine Decidable.byContradiction fun hne => ?_
  obtain ⟨c, hc, hbreak⟩ := exists_break h hne
  rw [hline c (List.mem_of_getLast? hc)] at hbreak
  cases hbreak

/-- The text from the end of the content of a line on starts with a break, unless it is empty. -/
theorem isLineBreak_of_head? :
    ∀ c ∈ (line.dropWhile (!isLineBreak ·) ++ below.flatten).head?, isLineBreak c = true := by
  intro c hc
  have hstop := List.head?_dropWhile_not (!isLineBreak ·) line
  cases hbehind : line.dropWhile (!isLineBreak ·) with
  | nil =>
    have hnone : ∀ d ∈ line, isLineBreak d = false := by
      simpa using List.dropWhile_eq_nil_iff.mp hbehind
    rw [hbehind, below_eq_nil h hnone] at hc
    cases hc
  | cons d rest =>
    rw [hbehind] at hc hstop
    obtain rfl : d = c := by simpa using hc
    simpa using hstop

end

/-- Behind the content of a line stands a break, or the text ends there. -/
theorem exists_break_behind (t : Text) (line : Nat) :
    ∃ more, fromLine t line = lineContent t line ++ more ∧
      ∀ c ∈ more.head?, isLineBreak c = true := by
  unfold fromLine lineContent
  cases htext : (lines t)[line]? with
  | none =>
    have hlength : (lines t).length ≤ line := List.getElem?_eq_none_iff.mp htext
    exact ⟨[], by rw [List.drop_eq_nil_of_le hlength]; rfl, by simp⟩
  | some text =>
    obtain ⟨hlength, rfl⟩ := List.getElem?_eq_some_iff.mp htext
    have hdrop := List.drop_eq_getElem_cons hlength
    have hlines :
        lines t = (lines t).take line ++ (lines t)[line] :: (lines t).drop (line + 1) := by
      rw [← hdrop, List.take_append_drop]
    refine ⟨_, ?_, isLineBreak_of_head? hlines⟩
    rw [hdrop, Option.getD_some, ← List.append_assoc, List.takeWhile_append_dropWhile,
      List.flatten_cons]

/-! ## Where a position is resolved to -/

/-- The code units of a position are counted from the start of its line to the end of the text. -/
theorem offsetOf?_eq_some_iff {t : Text} {p : Position} {offset : Nat} :
    offsetOf? t p = some offset ↔
      p.line ≤ (lines t).length ∧ p.character ≤ units16 (fromLine t p.line) ∧
        offset = lineStart t p.line + bytesWithinUnits p.character (fromLine t p.line) := by
  have hunits := congrArg units16 (flatten_take_append_fromLine t p.line)
  have hbytes :=
    bytesWithinUnits_add ((lines t).take p.line).flatten (fromLine t p.line) p.character
  rw [flatten_take_append_fromLine] at hbytes
  rw [units16_append] at hunits
  unfold offsetOf? beforeLine? lineStart
  dsimp only
  by_cases hline : p.line ≤ (lines t).length
  · rw [if_pos hline, Option.bind_some, hbytes]
    by_cases hcolumn : p.character ≤ units16 (fromLine t p.line)
    · rw [if_pos (by omega), Option.some_inj]
      exact ⟨fun h => ⟨hline, hcolumn, h.symm⟩, fun h => h.2.2.symm⟩
    · rw [if_neg (by omega)]
      exact ⟨nofun, fun h => absurd h.2.1 hcolumn⟩
  · rw [if_neg hline]
    exact ⟨nofun, fun h => absurd h.1 hline⟩

theorem offsetOf?_eq_none_iff {t : Text} {p : Position} :
    offsetOf? t p = none ↔
      (lines t).length < p.line ∨ units16 (fromLine t p.line) < p.character := by
  rw [Option.eq_none_iff_forall_ne_some]
  constructor
  · intro h
    have hnot : ¬(p.line ≤ (lines t).length ∧ p.character ≤ units16 (fromLine t p.line)) :=
      fun hinside => h _ (offsetOf?_eq_some_iff.mpr ⟨hinside.1, hinside.2, rfl⟩)
    omega
  · intro h offset hoffset
    obtain ⟨hline, hcolumn, -⟩ := offsetOf?_eq_some_iff.mp hoffset
    omega

/-! ## Columns that fit, and columns that do not -/

theorem bytesWithinUnits_le (units : Nat) (t : Text) : bytesWithinUnits units t ≤ bytes t := by
  induction t generalizing units with
  | nil => exact Nat.le_refl 0
  | cons c t ih =>
    rw [bytesWithinUnits, bytes_cons]
    split
    · exact Nat.zero_le _
    · exact Nat.add_le_add_left (ih _) _

/-- What follows a text makes no difference to the code units within it. -/
theorem bytesWithinUnits_of_le {before : Text} {units : Nat} (h : units ≤ units16 before)
    (after : Text) : bytesWithinUnits units (before ++ after) = bytesWithinUnits units before := by
  induction before generalizing units with
  | nil =>
    obtain rfl : units = 0 := Nat.le_zero.mp h
    exact bytesWithinUnits_zero after
  | cons c before ih =>
    have hunits : units16 (c :: before) = charUnits c + units16 before := rfl
    rw [List.cons_append, bytesWithinUnits, bytesWithinUnits, ih (by omega)]

theorem charUnits_of_isLineBreak {c : Char} (h : isLineBreak c = true) : charUnits c = 1 := by
  simp only [isLineBreak, Bool.or_eq_true, Bool.and_eq_true, decide_eq_true_eq, beq_iff_eq] at h
  exact if_pos (by omega)

/-- One code unit more than those of a text takes in the break that stands behind it. -/
theorem bytes_lt_bytesWithinUnits {before after : Text} {units : Nat}
    (hbreak : ∀ c ∈ after.head?, isLineBreak c = true) (hmore : units16 before < units)
    (hle : units ≤ units16 (before ++ after)) :
    bytes before < bytesWithinUnits units (before ++ after) := by
  rw [units16_append] at hle
  obtain ⟨extra, rfl⟩ := Nat.exists_eq_add_of_lt hmore
  cases after with
  | nil =>
    have hnil : units16 [] = 0 := rfl
    omega
  | cons c after =>
    have hunits := charUnits_of_isLineBreak (hbreak c rfl)
    have hpos : 0 < c.utf8Size := c.utf8Size_pos
    rw [Nat.add_assoc, bytesWithinUnits_add, bytesWithinUnits, if_neg (by omega)]
    omega

theorem offsetOf?_of_fits {t : Text} {p : Position} (hline : p.line ≤ (lines t).length)
    (hfits : p.character ≤ units16 (lineContent t p.line)) :
    offsetOf? t p = some (clampedOffset t p) := by
  obtain ⟨more, hmore, -⟩ := exists_break_behind t p.line
  have hunits := units16_append (lineContent t p.line) more
  refine offsetOf?_eq_some_iff.mpr ⟨hline, by rw [hmore]; omega, ?_⟩
  rw [hmore, bytesWithinUnits_of_le hfits, clampedOffset, Nat.min_eq_left hfits]

theorem onLine_clampedOffset (t : Text) (p : Position) : OnLine t p.line (clampedOffset t p) :=
  ⟨Nat.le_add_right _ _, Nat.add_le_add_left (bytesWithinUnits_le _ _) _⟩

theorem fits_of_onLine {t : Text} {p : Position} {offset : Nat} (h : offsetOf? t p = some offset)
    (hon : OnLine t p.line offset) : p.character ≤ units16 (lineContent t p.line) := by
  obtain ⟨-, hcolumn, rfl⟩ := offsetOf?_eq_some_iff.mp h
  obtain ⟨more, hmore, hbreak⟩ := exists_break_behind t p.line
  obtain ⟨-, hend⟩ := hon
  rw [hmore] at hcolumn hend
  refine Nat.le_of_not_lt fun hfits => ?_
  have hlt := bytes_lt_bytesWithinUnits hbreak hfits hcolumn
  omega

/-- **When a position stays on its line.** It is resolved to an offset on its line if and only if
    its column fits in the line, unless it is past the end of the text and not resolved at all. On
    its line, it is resolved to the offset that the protocol asks for, and each position whose
    column fits is. -/
theorem offset_on_line_iff (t : Text) (p : Position) :
    ((∀ offset, offsetOf? t p = some offset → OnLine t p.line offset) ↔
      p.character ≤ units16 (lineContent t p.line) ∨
        (lines t).length < p.line ∨ units16 (fromLine t p.line) < p.character) ∧
    (∀ offset, offsetOf? t p = some offset →
      (OnLine t p.line offset ↔ offset = clampedOffset t p)) ∧
    (p.line ≤ (lines t).length → p.character ≤ units16 (lineContent t p.line) →
      offsetOf? t p = some (clampedOffset t p)) := by
  have hresolved {offset : Nat} (h : offsetOf? t p = some offset) : p.line ≤ (lines t).length :=
    (offsetOf?_eq_some_iff.mp h).1
  refine ⟨⟨fun hstays => ?_, ?_⟩, fun offset hoffset => ⟨fun hon => ?_, ?_⟩, offsetOf?_of_fits⟩
  · rw [← offsetOf?_eq_none_iff]
    cases hoffset : offsetOf? t p with
    | none => exact Or.inr rfl
    | some offset => exact Or.inl (fits_of_onLine hoffset (hstays offset hoffset))
  · rintro (hfits | hpast) offset hoffset
    · rw [offsetOf?_of_fits (hresolved hoffset) hfits] at hoffset
      exact Option.some.inj hoffset ▸ onLine_clampedOffset t p
    · rw [offsetOf?_eq_none_iff.mpr hpast] at hoffset
      cases hoffset
  · rw [offsetOf?_of_fits (hresolved hoffset) (fits_of_onLine hoffset hon)] at hoffset
    exact (Option.some.inj hoffset).symm
  · rintro rfl
    exact onLine_clampedOffset t p

/-- One column behind the end of a line is the start of the next one, and between the two characters
    of a line break is no place on the line either; further columns count on over the lines
    below. -/
theorem column_counts_on :
    offsetOf? "a\nb" ⟨0, 2⟩ = some 2 ∧ ¬OnLine "a\nb" 0 2 ∧ clampedOffset "a\nb" ⟨0, 2⟩ = 1 ∧
      offsetOf? "a\r\nb" ⟨0, 2⟩ = some 2 ∧ ¬OnLine "a\r\nb" 0 2 ∧
      offsetOf? "x = 1\ny = 2\nz" ⟨0, 12⟩ = some 12 ∧ ¬OnLine "x = 1\ny = 2\nz" 0 12 := by
  decide +kernel

end OrmLens.Document
