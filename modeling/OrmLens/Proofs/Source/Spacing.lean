/-
  Texts with white space around them.

  Lists are written with white space around their separators, line breaks included, and readers trim
  what they have cut. `Spaced` relates a text to what it may be written as, and trimming gives it
  back if it is `Trimmed` itself (`Spaced.trim_eq`). Every text is a spacing of what trimming leaves
of it (`spaced_trim`).
-/
import Mathlib.Data.List.TakeWhile
import OrmLens.Proofs.Source.Heads

namespace OrmLens.Source

open CharClass

/-- Nothing but white space, of any kind. -/
def White (t : Text) : Prop := ∀ c ∈ t, isSpace c = true

instance (t : Text) : Decidable (White t) := List.decidableBAll (isSpace · = true) t

/-- At least one character, and white space at neither end. -/
structure Trimmed (t : Text) : Prop where
  ne_nil : t ≠ []
  start : Stops isSpace t
  stop : Stops isSpace t.reverse

instance (t : Text) : Decidable (Trimmed t) :=
  decidable_of_iff (t ≠ [] ∧ Stops isSpace t ∧ Stops isSpace t.reverse)
    ⟨fun h => ⟨h.1, h.2.1, h.2.2⟩, fun h => ⟨h.ne_nil, h.start, h.stop⟩⟩

/-- The first text with white space before and after it, or without, is the second. -/
def Spaced (t spaced : Text) : Prop :=
  ∃ before after, White before ∧ White after ∧ spaced = before ++ (t ++ after)

theorem white_nil : White [] := fun _ hc => absurd hc List.not_mem_nil

theorem White.append {s t : Text} (hs : White s) (ht : White t) : White (s ++ t) :=
  List.forall_mem_append.mpr ⟨hs, ht⟩

theorem White.reverse {t : Text} (h : White t) : White t.reverse :=
  fun c hc => h c (List.mem_reverse.mp hc)

theorem White.trim_eq {t : Text} (h : White t) : Text.trim t = [] := by
  have hstart : Text.trimStart t = [] := List.dropWhile_eq_nil_iff.mpr h
  rw [Text.trim, hstart]
  rfl

theorem Stops.of_append {p : Char → Bool} {s t : Text} (h : Stops p (s ++ t)) : Stops p s := by
  cases s with
  | nil => exact fun _ hc => absurd hc (Option.not_mem_none _)
  | cons c s => exact stops_cons (h c rfl) s

/-- White space goes up to a text that is trimmed. -/
theorem White.trimStart_append {gap t : Text} (hgap : White gap) (ht : Trimmed t) (rest : Text) :
    Text.trimStart (gap ++ (t ++ rest)) = t ++ rest := by
  obtain ⟨c, more, rfl⟩ := List.exists_cons_of_ne_nil ht.ne_nil
  exact dropWhile_of_stops hgap (stops_cons (ht.start c rfl) _)

theorem trimmed_of_no_space {t : Text} (hne : t ≠ []) (h : ∀ c ∈ t, isSpace c = false) :
    Trimmed t where
  ne_nil := hne
  start c hc := h c (List.mem_of_mem_head? hc)
  stop c hc := h c (List.mem_reverse.mp (List.mem_of_mem_head? hc))

theorem Trimmed.reverse {t : Text} (h : Trimmed t) : Trimmed t.reverse where
  ne_nil := by simpa using h.ne_nil
  start := h.stop
  stop := by simpa using h.start

theorem Trimmed.append {s t : Text} (hs : Trimmed s) (between : Text) (ht : Trimmed t) :
    Trimmed (s ++ (between ++ t)) := by
  obtain ⟨c, more, rfl⟩ := List.exists_cons_of_ne_nil hs.ne_nil
  obtain ⟨d, front, hfront⟩ := List.exists_cons_of_ne_nil ht.reverse.ne_nil
  refine ⟨by simp, stops_cons (hs.start c rfl) _, ?_⟩
  rw [List.reverse_append, List.reverse_append, hfront]
  have hstop := ht.stop
  rw [hfront] at hstop
  exact stops_cons (hstop d rfl) _

theorem Spaced.refl (t : Text) : Spaced t t :=
  ⟨[], [], white_nil, white_nil, (List.append_nil t).symm⟩

theorem Spaced.append {t spaced gap : Text} (h : Spaced t spaced) (hgap : White gap) :
    Spaced t (spaced ++ gap) := by
  obtain ⟨before, after, hbefore, hafter, rfl⟩ := h
  refine ⟨before, after ++ gap, hbefore, hafter.append hgap, ?_⟩
  rw [List.append_assoc, List.append_assoc]

theorem Spaced.mem {t spaced : Text} (h : Spaced t spaced) {c : Char} (hc : c ∈ t) :
    c ∈ spaced := by
  obtain ⟨before, after, -, -, rfl⟩ := h
  exact List.mem_append_right _ (List.mem_append_left _ hc)

theorem White.trimEnd_eq {t : Text} (h : White t) : Text.trimEnd t = [] := by
  have hdrop : t.reverse.dropWhile isSpace = [] := List.dropWhile_eq_nil_iff.mpr h.reverse
  rw [Text.trimEnd, Text.dropEndWhile, hdrop]
  rfl

/-- Behind a text that is trimmed, white space goes from the end on. -/
theorem Trimmed.trimEnd_append {t : Text} (ht : Trimmed t) (rest : Text) :
    Text.trimEnd (t ++ rest) = t ++ Text.trimEnd rest := by
  have hstop : t.reverse.dropWhile isSpace = t.reverse :=
    dropWhile_of_stops (s := []) (fun _ hc => absurd hc List.not_mem_nil) ht.stop
  have hdrop : (rest.reverse ++ t.reverse).dropWhile isSpace =
      rest.reverse.dropWhile isSpace ++ t.reverse := by
    rw [List.dropWhile_append, hstop]
    split
    · rename_i hempty
      rw [List.isEmpty_iff.mp hempty, List.nil_append]
    · rfl
  rw [Text.trimEnd, Text.dropEndWhile, List.reverse_append, hdrop, List.reverse_append,
    List.reverse_reverse]
  rfl

/-- **Trimming undoes the spacing.** -/
theorem Spaced.trim_eq {t spaced : Text} (h : Spaced t spaced) (ht : Trimmed t) :
    Text.trim spaced = t := by
  obtain ⟨before, after, hbefore, hafter, rfl⟩ := h
  rw [Text.trim, hbefore.trimStart_append ht, ht.trimEnd_append, hafter.trimEnd_eq, List.append_nil]

theorem Trimmed.trim_eq {t : Text} (h : Trimmed t) : Text.trim t = t := (Spaced.refl t).trim_eq h

/-! ## What trimming leaves -/

theorem spaced_trim (t : Text) : Spaced (Text.trim t) t := by
  refine ⟨t.takeWhile isSpace, Text.takeEndWhile isSpace (Text.trimStart t),
    fun c hc => List.mem_takeWhile_imp hc,
    fun c hc => List.mem_takeWhile_imp (List.mem_reverse.mp hc), ?_⟩
  rw [Text.trim, Text.trimEnd, Text.dropEndWhile_append_takeEndWhile,
    Text.takeWhile_append_trimStart]

theorem stops_trimEnd {p : Char → Bool} {t : Text} (h : Stops p t) : Stops p (Text.trimEnd t) := by
  rw [← Text.dropEndWhile_append_takeEndWhile isSpace t] at h
  exact h.of_append

theorem trimmed_trim {t : Text} (h : Text.trim t ≠ []) : Trimmed (Text.trim t) := by
  refine ⟨h, stops_trimEnd (stops_dropWhile isSpace t), ?_⟩
  rw [Text.trim, Text.trimEnd, Text.dropEndWhile, List.reverse_reverse]
  exact stops_dropWhile isSpace _

theorem White.trim_append {gap t : Text} (hgap : White gap) (h : Text.trim t ≠ []) :
    Text.trim (t ++ gap) = Text.trim t :=
  ((spaced_trim t).append hgap).trim_eq (trimmed_trim h)

theorem trim_trim (t : Text) : Text.trim (Text.trim t) = Text.trim t := by
  by_cases h : Text.trim t = []
  · rw [h]
    rfl
  · exact (trimmed_trim h).trim_eq

end OrmLens.Source
