/-
  The identifier at a position.

  A place in a text lies on one of its lines (`Cut`), and its offset, its position and the text
  before it are known from that. Going to the start or the end of the identifier gives another place
  on the same line (`Cut.start`, `Cut.stop`). No line break is part of an identifier, so one that
  does not go on within its line does not go on in the text (`Cut.stops_before_iff`,
  `Cut.stops_behind_iff`).

  `wordAt?_whole`: the identifier found is all of the one that the position touches, its range
  leads back to it, and none is found only where there is none.
-/
import Mathlib.Data.List.TakeWhile
import OrmLens.Proofs.Positions
import OrmLens.Proofs.Source.Heads

namespace OrmLens

namespace Text

variable {p : Char → Bool}

theorem getLast?_dropEndWhile (p : Char → Bool) (t : Text) :
    ∀ c ∈ (dropEndWhile p t).getLast?, p c = false := by
  rw [dropEndWhile, List.getLast?_reverse]
  exact Source.stops_dropWhile p t.reverse

theorem of_mem_takeEndWhile {t : Text} {c : Char} (h : c ∈ takeEndWhile p t) : p c = true :=
  Source.all_of_mem_takeWhile (List.mem_reverse.mp h)

theorem takeWhile_eq_nil_iff {t : Text} :
    t.takeWhile p = [] ↔ ∀ c ∈ t.head?, p c = false := by
  cases t with
  | nil => simp
  | cons c t => cases hc : p c <;> simp [hc]

theorem takeEndWhile_eq_nil_iff {t : Text} :
    takeEndWhile p t = [] ↔ ∀ c ∈ t.getLast?, p c = false := by
  rw [takeEndWhile, List.reverse_eq_nil_iff, takeWhile_eq_nil_iff, List.head?_reverse]

end Text

namespace Document

open CharClass Text

theorem isIdent_of_isLineBreak {c : Char} (h : isLineBreak c = true) : isIdent c = false := by
  have hspace : isSpace c = true := by
    simp only [isLineBreak, Bool.or_eq_true, Bool.and_eq_true, decide_eq_true_eq, beq_iff_eq] at h
    simp only [isSpace, Bool.or_eq_true, Bool.and_eq_true, decide_eq_true_eq, beq_iff_eq]
    omega
  cases hident : isIdent c with
  | false => rfl
  | true => rw [isSpace_of_isIdent hident] at hspace; cases hspace

/-! ## A place on its line -/

/-- A place in a text, between two parts of one of its lines. Behind the end of a line is the next
    one, if there is one. -/
structure Cut (t : Text) (above : List Text) (left right : Text) (below : List Text) : Prop where
  lines_eq : lines t = above ++ (left ++ right) :: below
  last : right = [] → below = []

theorem exists_cut_of_append (before after : Text) : ∃ above left right below,
    Cut (before ++ after) above left right below ∧ before = above.flatten ++ left ∧
      after = right ++ below.flatten := by
  obtain ⟨above, left, right, below, hlines, hbefore, hright⟩ :=
    exists_cut (lines_ne_nil (before ++ after)) (flatten_lines (before ++ after))
  have htext := flatten_lines (before ++ after)
  rw [hlines, hbefore] at htext
  refine ⟨above, left, right, below, ⟨hlines, hright⟩, hbefore, ?_⟩
  simpa using htext.symm

namespace Cut

variable {t : Text} {above below : List Text} {left right run : Text}

theorem text_eq (h : Cut t above left right below) :
    t = (above.flatten ++ left) ++ (right ++ below.flatten) := by
  have htext := flatten_lines t
  rw [h.lines_eq] at htext
  simpa using htext.symm

/-- Further towards the start of the line. -/
theorem back (h : Cut t above (left ++ run) right below) : Cut t above left (run ++ right) below :=
  ⟨by rw [h.lines_eq, List.append_assoc], fun hnil => h.last (List.append_eq_nil_iff.mp hnil).2⟩

theorem positionOf?_eq (h : Cut t above left right below) :
    positionOf? t (bytes (above.flatten ++ left)) = some ⟨above.length, units16 left⟩ := by
  obtain rfl := h.text_eq
  exact positionOf?_cut h.lines_eq rfl h.last

theorem offsetOf?_eq (h : Cut t above left right below) :
    offsetOf? t ⟨above.length, units16 left⟩ = some (bytes (above.flatten ++ left)) := by
  obtain rfl := h.text_eq
  exact offsetOf?_cut h.lines_eq rfl

theorem precedingText?_eq (h : Cut t above left right below) (lookBack : Nat) :
    precedingText? t (bytes (above.flatten ++ left)) lookBack =
      some ((above.drop (above.length - lookBack)).flatten ++ left) := by
  obtain rfl := h.text_eq
  exact precedingText?_cut h.lines_eq rfl h.last lookBack

theorem findLine_eq (h : Cut t above left right below) :
    findLine (bytes (above.flatten ++ left)) 0 (lines t) =
      (above.length, left ++ right, bytes left) := by
  rw [h.lines_eq, findLine_cut above h.last, Nat.zero_add]

/-- If there is a line below, the break is behind the place. -/
theorem exists_break (h : Cut t above left right below) (hbelow : below ≠ []) :
    ∃ c ∈ right, isLineBreak c = true := by
  obtain ⟨c, hc, hbreak⟩ := Document.exists_break h.lines_eq hbelow
  rcases List.eq_nil_or_concat right with hnil | ⟨more, d, rfl⟩
  · exact absurd (h.last hnil) hbelow
  · obtain rfl : d = c := by simpa using hc
    exact ⟨d, by simp, hbreak⟩

/-- The start of the identifier that ends at a place. -/
theorem start (h : Cut t above left right below) :
    Cut t above (dropEndWhile isIdent left) (takeEndWhile isIdent left ++ right) below := by
  rw [← dropEndWhile_append_takeEndWhile isIdent left] at h
  exact h.back

/-- The end of the identifier that starts at a place. It is not behind the break of the line. -/
theorem stop (h : Cut t above left right below) :
    Cut t above (left ++ right.takeWhile isIdent) (right.dropWhile isIdent) below := by
  refine ⟨?_, fun hnil => Decidable.byContradiction fun hbelow => ?_⟩
  · rw [h.lines_eq, List.append_assoc, List.takeWhile_append_dropWhile]
  · obtain ⟨c, hc, hbreak⟩ := h.exists_break hbelow
    have hident := List.dropWhile_eq_nil_iff.mp hnil c hc
    rw [isIdent_of_isLineBreak hbreak] at hident
    cases hident

/-- Whether the character before a place is part of an identifier is decided on its line. -/
theorem stops_before_iff (h : Cut t above left right below) :
    (∀ c ∈ (above.flatten ++ left).getLast?, isIdent c = false) ↔
      ∀ c ∈ left.getLast?, isIdent c = false := by
  rw [List.getLast?_append]
  cases left.getLast? with
  | none =>
    have habove := getLast?_above h.lines_eq
    exact iff_of_true (fun c hc => isIdent_of_isLineBreak (habove c hc)) nofun
  | some d => exact Iff.rfl

/-- Whether the character behind a place is part of an identifier is decided on its line. -/
theorem stops_behind_iff (h : Cut t above left right below) :
    (∀ c ∈ (right ++ below.flatten).head?, isIdent c = false) ↔
      ∀ c ∈ right.head?, isIdent c = false := by
  cases right with
  | nil => rw [h.last rfl, List.flatten_nil, List.append_nil]
  | cons d right => exact Iff.rfl

end Cut

/-! ## The identifier at a place -/

/-- The identifier at a place is looked for on its line. -/
theorem wordAt?_cut {t : Text} {above below : List Text} {left right : Text}
    (h : Cut t above left right below) {p : Position}
    (hp : offsetOf? t p = some (bytes (above.flatten ++ left))) (lookBack : Nat) :
    wordAt? t p lookBack =
      if (takeEndWhile isIdent left).isEmpty && (right.takeWhile isIdent).isEmpty then none
      else some {
        word := takeEndWhile isIdent left ++ right.takeWhile isIdent
        preceding := (above.drop (above.length - lookBack)).flatten ++ dropEndWhile isIdent left
        range := {
          start := ⟨above.length, units16 (dropEndWhile isIdent left)⟩
          stop := ⟨above.length, units16 (left ++ right.takeWhile isIdent)⟩ } } := by
  have hbefore : bytes (above.flatten ++ left) - bytes (takeEndWhile isIdent left) =
      bytes (above.flatten ++ dropEndWhile isIdent left) := by
    have hbytes := congrArg bytes (dropEndWhile_append_takeEndWhile isIdent left)
    rw [bytes_append] at hbytes
    rw [bytes_append, bytes_append]
    omega
  have hbehind : bytes (above.flatten ++ left) + bytes (right.takeWhile isIdent) =
      bytes (above.flatten ++ (left ++ right.takeWhile isIdent)) := by
    rw [← bytes_append, List.append_assoc]
  unfold wordAt?
  rw [hp]
  dsimp only [Option.bind_eq_bind, Option.bind_some]
  rw [h.findLine_eq]
  dsimp only
  rw [takeBytes_bytes_append, dropBytes_bytes_append, hbefore, hbehind,
    h.start.precedingText?_eq, h.start.positionOf?_eq, h.stop.positionOf?_eq]
  rfl

/-- All of the identifier between `left` and `right` that the place at `offset` touches. -/
structure IsWordAt (t : Text) (offset lookBack : Nat) (left right : Text) (w : Word) : Prop where
  text_eq : t = left ++ (w.word ++ right)
  start_eq : offsetOf? t w.range.start = some (bytes left)
  stop_eq : offsetOf? t w.range.stop = some (bytes (left ++ w.word))
  start_le : bytes left ≤ offset
  le_stop : offset ≤ bytes (left ++ w.word)
  ne_nil : w.word ≠ []
  ident : ∀ c ∈ w.word, isIdent c = true
  left_ends : ∀ c ∈ left.getLast?, isIdent c = false
  right_starts : ∀ c ∈ right.head?, isIdent c = false
  /-- The text before it is given from `lookBack` lines above the place on. -/
  preceding_eq : ∃ q, positionOf? t offset = some q ∧
    left = ((lines t).take (q.line - lookBack)).flatten ++ w.preceding

/-- No identifier touches the place between two texts. -/
def NoneAt (before after : Text) : Prop :=
  (∀ c ∈ before.getLast?, isIdent c = false) ∧ ∀ c ∈ after.head?, isIdent c = false

section

variable {t : Text} {above below : List Text} {left right : Text}
  (h : Cut t above left right below) {p : Position}
  (hp : offsetOf? t p = some (bytes (above.flatten ++ left))) (lookBack : Nat)
include h hp

theorem wordAt?_cut_eq_none_iff :
    wordAt? t p lookBack = none ↔ NoneAt (above.flatten ++ left) (right ++ below.flatten) := by
  rw [NoneAt, h.stops_before_iff, h.stops_behind_iff, ← takeEndWhile_eq_nil_iff,
    ← takeWhile_eq_nil_iff, wordAt?_cut h hp]
  simp

theorem isWordAt_of_wordAt?_cut {w : Word} (hw : wordAt? t p lookBack = some w) :
    ∃ before after, IsWordAt t (bytes (above.flatten ++ left)) lookBack before after w := by
  rw [wordAt?_cut h hp] at hw
  split at hw
  · cases hw
  rename_i hword
  obtain rfl := Option.some.inj hw
  have hleft := dropEndWhile_append_takeEndWhile isIdent left
  have hstart : above.flatten ++ left =
      (above.flatten ++ dropEndWhile isIdent left) ++ takeEndWhile isIdent left := by
    rw [List.append_assoc, hleft]
  have hstop : above.flatten ++ (left ++ right.takeWhile isIdent) =
      (above.flatten ++ dropEndWhile isIdent left) ++
        (takeEndWhile isIdent left ++ right.takeWhile isIdent) := by
    rw [← List.append_assoc, hstart, List.append_assoc]
  refine ⟨above.flatten ++ dropEndWhile isIdent left, right.dropWhile isIdent ++ below.flatten, ?_⟩
  exact {
    text_eq := by rw [h.stop.text_eq, hstop, List.append_assoc]
    start_eq := h.start.offsetOf?_eq
    stop_eq := by rw [← hstop]; exact h.stop.offsetOf?_eq
    start_le := by rw [hstart, bytes_append _ (takeEndWhile isIdent left)]; omega
    le_stop := by
      rw [← hstop, ← List.append_assoc, bytes_append _ (right.takeWhile isIdent)]
      omega
    ne_nil := fun hnil => hword (by simpa using hnil)
    ident := fun c hc =>
      (List.mem_append.mp hc).elim of_mem_takeEndWhile Source.all_of_mem_takeWhile
    left_ends := h.start.stops_before_iff.mpr (getLast?_dropEndWhile isIdent left)
    right_starts := h.stop.stops_behind_iff.mpr (Source.stops_dropWhile isIdent right)
    preceding_eq := by
      refine ⟨_, h.positionOf?_eq, ?_⟩
      rw [h.lines_eq, List.take_append_of_le_length (Nat.sub_le _ _), ← List.append_assoc,
        ← List.flatten_append, List.take_append_drop] }

end

/-- **The identifier at a position is whole.** If one is found, it stands at its range, the position
    touches it, no further character of it stands on either side, and the text before it is given
    from the start of the line that was asked for. None is found exactly if the position is past the
    end of the text or neither of its neighbours is part of an identifier. -/
theorem wordAt?_whole (t : Text) (p : Position) (lookBack : Nat) :
    (∀ w, wordAt? t p lookBack = some w → ∃ offset left right,
      offsetOf? t p = some offset ∧ IsWordAt t offset lookBack left right w) ∧
    (wordAt? t p lookBack = none ↔
      offsetOf? t p = none ∨ ∃ before after, t = before ++ after ∧
        offsetOf? t p = some (bytes before) ∧ NoneAt before after) := by
  cases hoffset : offsetOf? t p with
  | none =>
    have hnone : wordAt? t p lookBack = none := by rw [wordAt?, hoffset]; rfl
    rw [hnone]
    exact ⟨nofun, iff_of_true rfl (Or.inl rfl)⟩
  | some offset =>
    obtain ⟨before, after, rfl, rfl⟩ := exists_append_of_offsetOf? hoffset
    obtain ⟨above, left, right, below, hcut, rfl, rfl⟩ := exists_cut_of_append before after
    refine ⟨fun w hw => ?_, ?_⟩
    · obtain ⟨start, stop, hword⟩ := isWordAt_of_wordAt?_cut hcut hoffset lookBack hw
      exact ⟨_, start, stop, rfl, hword⟩
    · rw [wordAt?_cut_eq_none_iff hcut hoffset]
      constructor
      · exact fun hnone => Or.inr ⟨_, _, rfl, rfl, hnone⟩
      · rintro (habsurd | ⟨before, after, htext, hbytes, hnone⟩)
        · cases habsurd
        · obtain ⟨rfl, rfl⟩ := append_inj_of_bytes htext (Option.some.inj hbytes)
          exact hnone

/-- A word at the end of its line is found from behind, and none between the two characters of the
    line break. -/
example :
    wordAt? "a = '😀'\r\nb.ä1\r\n" ⟨1, 4⟩ 0 = some ⟨"ä1", "b.", ⟨⟨1, 2⟩, ⟨1, 4⟩⟩⟩ ∧
      wordAt? "a = '😀'\r\nb.ä1\r\n" ⟨1, 5⟩ 0 = none := by
  decide +kernel

end Document

end OrmLens
