/-
  Offsets and positions of a document.

  A place between two characters is on exactly one line: the one that it cuts in two parts of which
  the second is not empty, or the last line (`exists_cut`). The search for the line of an offset
  finds it (`findLine_cut`), and the code units before a place tell where it is
  (`bytesWithinUnits_append`). `offsetOf?_positionOf?`: from an offset to its position and back.

  Every line but the last one ends with a line break (`ends_in_break`), so a run of characters that
  are none stays on its line.

  Offsets inside a character, and columns behind the end of a line, are not the subject here.
-/
import OrmLens.Proofs.Lines

namespace OrmLens.Document

open Text

/-! ## The line of a place -/

theorem lines_ne_nil (t : Text) : lines t ≠ [] := by
  fun_cases lines t <;> simp [glue_ne_nil]

/-- A place in a text is on one of the lines that make it up. Behind the end of a line is the next
    one, if there is one. -/
theorem exists_cut {ls : List Text} (hne : ls ≠ []) {before after : Text}
    (h : ls.flatten = before ++ after) : ∃ above left right below,
      ls = above ++ (left ++ right) :: below ∧ before = above.flatten ++ left ∧
        (right = [] → below = []) := by
  induction ls generalizing before with
  | nil => exact absurd rfl hne
  | cons line ls ih =>
    by_cases hlast : ls = []
    · subst hlast
      refine ⟨[], before, after, [], ?_, rfl, fun _ => rfl⟩
      rw [← h, List.flatten_singleton, List.nil_append]
    -- The line is all before the place, or the place is on it.
    by_cases hlong : line <+: before
    · obtain ⟨more, rfl⟩ := hlong
      rw [List.flatten_cons, List.append_assoc] at h
      obtain ⟨above, left, right, below, rfl, rfl, hright⟩ := ih hlast (List.append_cancel_left h)
      exact ⟨line :: above, left, right, below, rfl, by simp, hright⟩
    · rw [List.flatten_cons] at h
      obtain ⟨right, rfl⟩ : before <+: line :=
        (List.prefix_or_prefix_of_prefix ⟨_, rfl⟩ ⟨_, h⟩).resolve_right hlong
      refine ⟨[], before, right, ls, rfl, rfl, fun hnil => absurd ?_ hlong⟩
      simp [hnil]

/-- Every line but the last one ends with a line break. -/
theorem ends_in_break (t : Text) :
    ∀ line ∈ (lines t).dropLast, ∃ c, line.getLast? = some c ∧ isLineBreak c = true := by
  fun_induction lines t with
  | case1 => simp
  | case2 t ih =>
    rw [List.dropLast_cons_of_ne_nil (lines_ne_nil t), List.forall_mem_cons]
    exact ⟨⟨'\n', rfl, by decide⟩, ih⟩
  | case3 c t _ hc ih =>
    rw [List.dropLast_cons_of_ne_nil (lines_ne_nil t), List.forall_mem_cons]
    exact ⟨⟨c, rfl, hc⟩, ih⟩
  | case4 c t _ hc ih =>
    obtain ⟨first, rest, hlines⟩ := List.exists_cons_of_ne_nil (lines_ne_nil t)
    rw [hlines] at ih ⊢
    rw [glue]
    cases rest with
    | nil => simp
    | cons second rest =>
      rw [List.dropLast_cons_cons, List.forall_mem_cons] at ih ⊢
      obtain ⟨⟨d, hd, hbreak⟩, hrest⟩ := ih
      exact ⟨⟨d, by rw [List.getLast?_cons, hd]; rfl, hbreak⟩, hrest⟩

section

variable {t : Text} {above below : List Text} {line : Text}
  (h : lines t = above ++ line :: below)
include h

/-- The text above a line ends with a line break. -/
theorem getLast?_above : ∀ c ∈ above.flatten.getLast?, isLineBreak c = true := by
  intro c hc
  rcases List.eq_nil_or_concat above with rfl | ⟨above, last, rfl⟩
  · cases hc
  have hmem : last ∈ (lines t).dropLast := by
    rw [h, List.dropLast_append_of_ne_nil (List.cons_ne_nil _ _)]
    simp
  obtain ⟨d, hd, hbreak⟩ := ends_in_break t last hmem
  have hlast : (above.concat last).flatten.getLast? = last.getLast? := by simp [hd]
  rw [hlast, hd] at hc
  exact Option.some.inj hc ▸ hbreak

/-- A line with another one below it ends with a line break. -/
theorem exists_break (hbelow : below ≠ []) :
    ∃ c, line.getLast? = some c ∧ isLineBreak c = true := by
  have hmem : line ∈ (lines t).dropLast := by
    obtain ⟨next, more, rfl⟩ := List.exists_cons_of_ne_nil hbelow
    rw [h, List.dropLast_append_of_ne_nil (List.cons_ne_nil _ _), List.dropLast_cons_cons]
    simp
  exact ends_in_break t line hmem

end

/-! ## Bytes and code units before a place -/

theorem takeWithin_append (left right : Text) : takeWithin (bytes left) (left ++ right) = left := by
  induction left with
  | nil =>
    cases right with
    | nil => rfl
    | cons c right => exact if_pos c.utf8Size_pos
  | cons c left ih =>
    rw [List.cons_append, takeWithin, bytes_cons, if_neg (by omega), Nat.add_sub_cancel_left, ih]

theorem charUnits_pos (c : Char) : 0 < charUnits c := by
  unfold charUnits
  split <;> omega

theorem bytesWithinUnits_zero (t : Text) : bytesWithinUnits 0 t = 0 := by
  cases t with
  | nil => rfl
  | cons c t => exact if_pos (charUnits_pos c)

/-- Code units are counted on behind a place. -/
theorem bytesWithinUnits_add (before after : Text) (units : Nat) :
    bytesWithinUnits (units16 before + units) (before ++ after) =
      bytes before + bytesWithinUnits units after := by
  induction before with
  | nil => simp [units16]
  | cons c before ih =>
    have hunits : units16 (c :: before) = charUnits c + units16 before := rfl
    rw [List.cons_append, bytesWithinUnits, hunits, if_neg (by omega), Nat.add_assoc,
      Nat.add_sub_cancel_left, ih, bytes_cons, Nat.add_assoc]

/-- The code units before a place tell the bytes before it. -/
theorem bytesWithinUnits_append (before after : Text) :
    bytesWithinUnits (units16 before) (before ++ after) = bytes before := by
  have hadd := bytesWithinUnits_add before after 0
  rwa [bytesWithinUnits_zero, Nat.add_zero, Nat.add_zero] at hadd

/-- Code units within a text lead to a place between two characters of it. -/
theorem exists_append_bytesWithinUnits (units : Nat) (t : Text) :
    ∃ before after, t = before ++ after ∧ bytesWithinUnits units t = bytes before := by
  induction t generalizing units with
  | nil => exact ⟨[], [], rfl, rfl⟩
  | cons c t ih =>
    rw [bytesWithinUnits]
    split
    · exact ⟨[], c :: t, rfl, rfl⟩
    · obtain ⟨before, after, rfl, hbytes⟩ := ih (units - charUnits c)
      exact ⟨c :: before, after, rfl, by rw [hbytes, bytes_cons]⟩

theorem exists_append_of_offsetOf? {t : Text} {p : Position} {offset : Nat}
    (h : offsetOf? t p = some offset) :
    ∃ before after, t = before ++ after ∧ offset = bytes before := by
  obtain ⟨above, -, htarget⟩ := Option.bind_eq_some_iff.mp h
  obtain ⟨before, after, htext, hbytes⟩ :=
    exists_append_bytesWithinUnits (units16 above + p.character) t
  dsimp only at htarget
  split at htarget
  · exact ⟨before, after, htext, (Option.some.inj htarget).symm.trans hbytes⟩
  · cases htarget

/-! ## There and back -/

section

variable {before after : Text} {above below : List Text} {left right : Text}
  (hlines : lines (before ++ after) = above ++ (left ++ right) :: below)
  (hbefore : before = above.flatten ++ left)
include hlines hbefore

theorem positionOf?_cut (hright : right = [] → below = []) :
    positionOf? (before ++ after) (bytes before) = some ⟨above.length, units16 left⟩ := by
  have hle : bytes before ≤ bytes (before ++ after) := by
    rw [bytes_append]
    omega
  unfold positionOf?
  rw [if_pos hle, hlines, hbefore, findLine_cut above hright]
  dsimp only
  rw [takeWithin_append, Nat.zero_add]

theorem offsetOf?_cut :
    offsetOf? (before ++ after) ⟨above.length, units16 left⟩ = some (bytes before) := by
  have hline : beforeLine? (before ++ after) above.length = some above.flatten := by
    unfold beforeLine?
    dsimp only
    rw [hlines, if_pos (by simp), List.take_left]
  have hunits : units16 above.flatten + units16 left = units16 before := by
    rw [hbefore, units16_append]
  unfold offsetOf?
  rw [hline, Option.bind_some]
  dsimp only
  rw [hunits, if_pos (by rw [units16_append]; omega), bytesWithinUnits_append]

end

/-- **From an offset to its position and back.** A place between two characters of a document, or at
    one of its ends, has a position, and this leads back to its offset. The position tells the
    number of the line that the place is on, and the code units between the start of this line and
    the place. The end of a line, behind its break, is on the next line; only the last line has an
    end of its own. -/
theorem offsetOf?_positionOf? (before after : Text) :
    ∃ p, positionOf? (before ++ after) (bytes before) = some p ∧
      offsetOf? (before ++ after) p = some (bytes before) ∧
      ∃ left right, (lines (before ++ after))[p.line]? = some (left ++ right) ∧
        before = ((lines (before ++ after)).take p.line).flatten ++ left ∧
        p.character = units16 left ∧
        (right = [] → p.line + 1 = (lines (before ++ after)).length) := by
  obtain ⟨above, left, right, below, hlines, hbefore, hright⟩ :=
    exists_cut (lines_ne_nil (before ++ after)) (flatten_lines (before ++ after))
  refine ⟨_, positionOf?_cut hlines hbefore hright, offsetOf?_cut hlines hbefore, left, right, ?_⟩
  rw [hlines]
  refine ⟨by simp, ?_, rfl, fun hnil => ?_⟩
  · rw [List.take_left]
    exact hbefore
  · rw [hright hnil, List.length_append, List.length_singleton]

end OrmLens.Document
