/-
  A text as its older lines and its last one.

  Every text is some lines that end with a newline, and a last line after them (`exists_lines`).
  What the readers of lines find is said for texts in this form: the lines, the last line, and the
  last few lines, which are again the end of a list of lines (`tailLines_newlines_append`). The line
  that a place is on is the one whose number counts the newlines before it (`getElem?_lines`).

  The lines of a document end at other breaks too. If all its breaks are newlines, with or without
  a carriage return before them, its lines are those of the text, each with its break
  (`lines_newlines_append`).
-/
import OrmLens.Document
import OrmLens.Text.Line

namespace OrmLens

namespace Text

/-- A character that is not in a text differs from all that are. -/
theorem bne_of_not_mem {c : Char} {t : Text} (h : c ∉ t) : ∀ d ∈ t, (d != c) = true := by
  intro d hd
  rw [bne_iff_ne]
  rintro rfl
  exact h hd

/-! ## Newlines -/

/-- Lines, each with a newline at its end. -/
def newlines (older : List Text) : Text := older.flatMap (· ++ ['\n'])

@[simp] theorem newlines_nil : newlines [] = [] := rfl

@[simp] theorem newlines_cons (line : Text) (older : List Text) :
    newlines (line :: older) = line ++ '\n' :: newlines older := by
  simp [newlines]

theorem newlines_singleton (line : Text) : newlines [line] = line ++ ['\n'] := List.append_nil _

@[simp] theorem bytes_newline (line : Text) : bytes (line ++ ['\n']) = bytes line + 1 := by
  rw [bytes_append]
  rfl

theorem bytes_newlines_cons (line : Text) (older : List Text) :
    bytes (newlines (line :: older)) = bytes line + 1 + bytes (newlines older) := by
  rw [newlines, List.flatMap_cons, bytes_append, bytes_newline]
  rfl

theorem newlines_append (older newer : List Text) :
    newlines (older ++ newer) = newlines older ++ newlines newer :=
  List.flatMap_append

/-- No line has a newline inside. -/
def Unbroken (lines : List Text) : Prop := ∀ line ∈ lines, '\n' ∉ line

theorem unbroken_nil : Unbroken [] := by simp [Unbroken]

theorem Unbroken.cons {lines : List Text} (h : Unbroken lines) {line : Text} (hline : '\n' ∉ line) :
    Unbroken (line :: lines) := by
  intro l hl
  rcases List.mem_cons.mp hl with rfl | hl
  · exact hline
  · exact h l hl

theorem Unbroken.append {older newer : List Text} (h : Unbroken older) (h' : Unbroken newer) :
    Unbroken (older ++ newer) := by
  intro l hl
  rcases List.mem_append.mp hl with hl | hl
  · exact h l hl
  · exact h' l hl

theorem Unbroken.drop {lines : List Text} (h : Unbroken lines) (count : Nat) :
    Unbroken (lines.drop count) :=
  fun line hl => h line (List.mem_of_mem_drop hl)

/-- A text is some lines with newlines, and a last line. -/
theorem exists_lines (t : Text) :
    ∃ older last, t = newlines older ++ last ∧ Unbroken older ∧ '\n' ∉ last := by
  induction t with
  | nil => exact ⟨[], [], rfl, unbroken_nil, by simp⟩
  | cons c t ih =>
    obtain ⟨older, last, rfl, holder, hlast⟩ := ih
    by_cases hc : c = '\n'
    · exact ⟨[] :: older, last, by simp [hc], holder.cons (by simp), hlast⟩
    · cases older with
      | nil => exact ⟨[], c :: last, rfl, holder, by simp [Ne.symm hc, hlast]⟩
      | cons first older =>
        have hfirst : '\n' ∉ c :: first := by
          simpa [Ne.symm hc] using holder first List.mem_cons_self
        have hrest : Unbroken older := fun line hl => holder line (List.mem_cons_of_mem _ hl)
        exact ⟨(c :: first) :: older, last, by simp, hrest.cons hfirst, hlast⟩

/-! ## Lines of a text -/

theorem splitOn_of_not_mem {sep : Char} {t : Text} (h : sep ∉ t) : splitOn sep t = [t] := by
  induction t with
  | nil => rfl
  | cons c t ih =>
    rw [List.mem_cons, not_or] at h
    rw [splitOn, if_neg (Ne.symm h.1), ih h.2]
    rfl

theorem splitOn_append_cons {sep : Char} {line : Text} (h : sep ∉ line) (t : Text) :
    splitOn sep (line ++ sep :: t) = line :: splitOn sep t := by
  induction line with
  | nil => simp [splitOn]
  | cons c line ih =>
    rw [List.mem_cons, not_or] at h
    rw [List.cons_append, splitOn, if_neg (Ne.symm h.1), ih h.2]
    rfl

theorem afterLast_of_not_mem {sep : Char} {t : Text} (h : sep ∉ t) : afterLast sep t = t := by
  have hkeep : ∀ c ∈ t.reverse, (c != sep) = true :=
    bne_of_not_mem fun hmem => h (List.mem_reverse.mp hmem)
  rw [afterLast, ← List.append_nil t.reverse, List.takeWhile_append_of_pos hkeep,
    List.takeWhile_nil, List.append_nil, List.reverse_reverse]

theorem afterLast_append {sep : Char} {t : Text} (h : sep ∉ t) (front : Text) :
    afterLast sep (front ++ sep :: t) = t := by
  have hkeep : ∀ c ∈ t.reverse, (c != sep) = true :=
    bne_of_not_mem fun hmem => h (List.mem_reverse.mp hmem)
  have hreverse : (front ++ sep :: t).reverse = t.reverse ++ sep :: front.reverse := by simp
  rw [afterLast, hreverse, List.takeWhile_append_of_pos hkeep, List.takeWhile_cons_of_neg (by simp),
    List.append_nil, List.reverse_reverse]

/-- Lines with newlines come first. -/
theorem lines_newlines {older : List Text} (h : Unbroken older) (t : Text) :
    lines (newlines older ++ t) = older ++ lines t := by
  induction older with
  | nil => rfl
  | cons line older ih =>
    have hline := h line List.mem_cons_self
    have hrest : Unbroken older := fun l hl => h l (List.mem_cons_of_mem _ hl)
    rw [newlines_cons, List.append_assoc, lines, List.cons_append, splitOn_append_cons hline]
    exact congrArg (line :: ·) (ih hrest)

section

variable {older : List Text} {last : Text} (holder : Unbroken older) (hlast : '\n' ∉ last)
include hlast

theorem afterLast_newlines_append : afterLast '\n' (newlines older ++ last) = last := by
  rcases List.eq_nil_or_concat older with rfl | ⟨older, line, rfl⟩
  · exact afterLast_of_not_mem hlast
  · -- The newline of the last of these lines is the last newline.
    have htext : newlines (older ++ [line]) ++ last = (newlines older ++ line) ++ '\n' :: last := by
      simp [newlines_append]
    rw [List.concat_eq_append, htext, afterLast_append hlast]

include holder

theorem lines_newlines_append : lines (newlines older ++ last) = older ++ [last] := by
  rw [lines_newlines holder, lines, splitOn_of_not_mem hlast]

theorem tailLines_newlines_append (count : Nat) :
    tailLines (newlines older ++ last) (count + 1) =
      older.drop (older.length - count) ++ [last] := by
  rw [tailLines, lines_newlines_append holder hlast, List.length_append,
    List.length_singleton, Nat.add_sub_add_right, List.drop_append_of_le_length (Nat.sub_le _ _)]

end

/-! ## The line of a place -/

theorem count_newlines_append {older : List Text} (holder : Unbroken older) {last : Text}
    (hlast : '\n' ∉ last) : (newlines older ++ last).count '\n' = older.length := by
  induction older with
  | nil => exact List.count_eq_zero.mpr hlast
  | cons line older ih =>
    have hline : line.count '\n' = 0 := List.count_eq_zero.mpr (holder line List.mem_cons_self)
    have hrest : Unbroken older := fun l hl => holder l (List.mem_cons_of_mem _ hl)
    rw [newlines_cons, List.append_assoc, List.cons_append, List.count_append, hline,
      List.count_cons_self, ih hrest, List.length_cons, Nat.zero_add]

/-- The line at the number of newlines before a place is the one that the place is on: what of it
    stands before the place, and what follows up to the next newline. -/
theorem getElem?_lines (a t : Text) :
    (lines (a ++ t))[a.count '\n']? = some (afterLast '\n' a ++ t.takeWhile (· != '\n')) := by
  obtain ⟨older, last, rfl, holder, hlast⟩ := exists_lines a
  rw [count_newlines_append holder hlast, afterLast_newlines_append hlast]
  obtain ⟨newer, final, rfl, hnewer, hfinal⟩ := exists_lines t
  cases newer with
  | nil =>
    have hend : '\n' ∉ last ++ final := by
      rw [List.mem_append, not_or]
      exact ⟨hlast, hfinal⟩
    have htake : final.takeWhile (· != '\n') = final := by
      rw [← List.append_nil final, List.takeWhile_append_of_pos (bne_of_not_mem hfinal),
        List.takeWhile_nil]
    rw [newlines_nil, List.nil_append, List.append_assoc, lines_newlines_append holder hend, htake,
      List.getElem?_append_right (Nat.le_refl _), Nat.sub_self]
    rfl
  | cons line newer =>
    have hline := hnewer line List.mem_cons_self
    have hrest : Unbroken newer := fun l hl => hnewer l (List.mem_cons_of_mem _ hl)
    have hjoined : '\n' ∉ last ++ line := by
      rw [List.mem_append, not_or]
      exact ⟨hlast, hline⟩
    have hall : Unbroken (older ++ (last ++ line) :: newer) := holder.append (hrest.cons hjoined)
    have htext : newlines older ++ last ++ (newlines (line :: newer) ++ final) =
        newlines (older ++ (last ++ line) :: newer) ++ final := by
      rw [newlines_append, newlines_cons, newlines_cons]
      simp
    have htake : (newlines (line :: newer) ++ final).takeWhile (· != '\n') = line := by
      rw [newlines_cons, List.append_assoc, List.takeWhile_append_of_pos (bne_of_not_mem hline),
        List.cons_append, List.takeWhile_cons_of_neg (by decide), List.append_nil]
    rw [htake, htext, lines_newlines_append hall hfinal, List.append_assoc,
      List.getElem?_append_right (Nat.le_refl _), Nat.sub_self]
    rfl

theorem join_append_singleton (older : List Text) (last : Text) :
    join ['\n'] (older ++ [last]) = newlines older ++ last := by
  induction older with
  | nil => rfl
  | cons line older ih =>
    rw [List.cons_append, join_cons_of_ne_nil _ _ (by simp), ih, newlines_cons]
    simp

/-- The last lines of the last lines are the last lines. -/
theorem drop_length_sub_drop {α : Type} (l : List α) {count more : Nat} (h : count ≤ more) :
    (l.drop (l.length - more)).drop ((l.drop (l.length - more)).length - count) =
      l.drop (l.length - count) := by
  rw [List.drop_drop, List.length_drop]
  congr 1
  omega

end Text

namespace Document

open Text

/-! ## Lines of a document -/

/-- Whether all line breaks are newlines, with a carriage return before them or without. -/
def hasPlainBreaks : Text → Bool
  | [] => true
  | '\r' :: '\n' :: t => hasPlainBreaks t
  | c :: t => (c == '\n' || !isLineBreak c) && hasPlainBreaks t

theorem plain_cases {c : Char} {t : Text} (hc : c ≠ '\n') (h : hasPlainBreaks (c :: t) = true) :
    (c = '\r' ∧ ∃ rest, t = '\n' :: rest ∧ hasPlainBreaks rest = true) ∨
      isLineBreak c = false ∧ hasPlainBreaks t = true := by
  unfold hasPlainBreaks at h
  split at h
  · rename_i heq
    cases heq
  · rename_i rest heq
    cases heq
    exact Or.inl ⟨rfl, rest, rfl, h⟩
  · rename_i heq
    cases heq
    simp only [Bool.and_eq_true, Bool.or_eq_true, beq_iff_eq, hc, false_or, Bool.not_eq_true'] at h
    exact Or.inr h

theorem plain_newline {t : Text} (h : hasPlainBreaks ('\n' :: t) = true) :
    hasPlainBreaks t = true := by
  unfold hasPlainBreaks at h
  simpa using h

theorem lines_newline (t : Text) : lines ('\n' :: t) = ['\n'] :: lines t := by
  rw [lines, if_pos (by decide)]
  simp

theorem lines_cons_of_not_break {c : Char} (h : isLineBreak c = false) (t : Text) :
    lines (c :: t) = glue c (lines t) := by
  have hc : c ≠ '\r' := by
    rintro rfl
    revert h
    decide
  rw [lines, if_neg (by simp [h])]
  rintro rest rfl
  exact absurd rfl hc

/-- A line up to its newline is a line of the document. -/
theorem lines_append_newline {line : Text} (hline : '\n' ∉ line) {t : Text}
    (h : hasPlainBreaks (line ++ '\n' :: t) = true) :
    lines (line ++ '\n' :: t) = (line ++ ['\n']) :: lines t ∧ hasPlainBreaks t = true := by
  induction line with
  | nil => exact ⟨lines_newline t, plain_newline h⟩
  | cons c line ih =>
    rw [List.mem_cons, not_or] at hline
    rcases plain_cases (Ne.symm hline.1) h with ⟨rfl, rest, hrest, hplain⟩ | ⟨hc, hplain⟩
    · -- A carriage return stands before the newline only.
      cases line with
      | nil =>
        obtain rfl : t = rest := by simpa using hrest
        exact ⟨by simp [lines], hplain⟩
      | cons d line =>
        obtain rfl : d = '\n' := (List.cons.inj hrest).1
        exact absurd List.mem_cons_self hline.2
    · obtain ⟨hlines, ht⟩ := ih hline.2 hplain
      rw [List.cons_append, lines_cons_of_not_break hc, hlines]
      exact ⟨rfl, ht⟩

/-- The lines with a newline come first. -/
theorem lines_newlines_append {older : List Text} (holder : Unbroken older) {t : Text}
    (h : hasPlainBreaks (newlines older ++ t) = true) :
    lines (newlines older ++ t) = older.map (· ++ ['\n']) ++ lines t ∧
      hasPlainBreaks t = true := by
  induction older with
  | nil => exact ⟨rfl, h⟩
  | cons line older ih =>
    have hrest : Unbroken older := fun l hl => holder l (List.mem_cons_of_mem _ hl)
    rw [newlines_cons, List.append_assoc, List.cons_append] at h ⊢
    obtain ⟨hlines, ht⟩ := lines_append_newline (holder line List.mem_cons_self) h
    obtain ⟨hmore, ht⟩ := ih hrest ht
    rw [hlines, hmore]
    exact ⟨rfl, ht⟩

/-- What precedes all newlines is part of the first line, and not the whole of it unless that is
    also the last. -/
theorem lines_append_of_not_mem {line : Text} (hline : '\n' ∉ line) {t : Text}
    (h : hasPlainBreaks (line ++ t) = true) :
    ∃ first rest, lines (line ++ t) = (line ++ first) :: rest ∧ (rest ≠ [] → first ≠ []) := by
  induction line with
  | nil =>
    rw [List.nil_append]
    fun_cases lines t with
    | case1 => exact ⟨[], [], rfl, by simp⟩
    | case2 t => exact ⟨_, _, rfl, by simp⟩
    | case3 c t _ hc => exact ⟨_, _, rfl, by simp⟩
    | case4 c t _ hc =>
      rcases hlines : lines t with _ | ⟨first, rest⟩
      · exact ⟨_, _, rfl, by simp⟩
      · exact ⟨_, _, rfl, by simp⟩
  | cons c line ih =>
    rw [List.mem_cons, not_or] at hline
    rcases plain_cases (Ne.symm hline.1) h with ⟨rfl, rest, hrest, hplain⟩ | ⟨hc, hplain⟩
    · cases line with
      | nil =>
        obtain rfl : t = '\n' :: rest := by simpa using hrest
        exact ⟨['\n'], lines rest, by simp [lines], by simp⟩
      | cons d line =>
        obtain rfl : d = '\n' := (List.cons.inj hrest).1
        exact absurd List.mem_cons_self hline.2
    · obtain ⟨first, rest, hlines, hfirst⟩ := ih hline.2 hplain
      rw [List.cons_append, lines_cons_of_not_break hc, hlines]
      exact ⟨first, rest, rfl, hfirst⟩

/-! ## The text before an offset -/

theorem findLine_skip (first : Text) {rest : List Text} (hrest : rest ≠ []) (offset line : Nat) :
    findLine (bytes first + offset) line (first :: rest) = findLine offset (line + 1) rest := by
  obtain ⟨second, rest, rfl⟩ := List.exists_cons_of_ne_nil hrest
  rw [findLine, if_neg (by omega), Nat.add_sub_cancel_left]
  simp

/-- The line of an offset is found, and the offset in it. -/
theorem findLine_cut (above : List Text) {left right : Text} {below : List Text}
    (hright : right = [] → below = []) (line : Nat) :
    findLine (bytes (above.flatten ++ left)) line (above ++ (left ++ right) :: below) =
      (line + above.length, left ++ right, bytes left) := by
  induction above generalizing line with
  | nil =>
    cases below with
    | nil => rfl
    | cons next below =>
      obtain ⟨c, more, rfl⟩ := List.exists_cons_of_ne_nil fun hnil =>
        List.cons_ne_nil next below (hright hnil)
      have hpos : 0 < c.utf8Size := c.utf8Size_pos
      have hlt : bytes left < bytes (left ++ c :: more) := by
        rw [bytes_append, bytes_cons]
        omega
      rw [List.flatten_nil, List.nil_append, List.nil_append, findLine, if_pos hlt]
      · rfl
      · simp
  | cons first above ih =>
    rw [List.flatten_cons, List.append_assoc, bytes_append, List.cons_append,
      findLine_skip first (by simp), ih, List.length_cons]
    congr 1
    omega

/-- What an analysis at an offset gets: the line up to it, and the lines above. -/
theorem precedingText?_cut {before after : Text} {above below : List Text} {left right : Text}
    (hlines : lines (before ++ after) = above ++ (left ++ right) :: below)
    (hbefore : before = above.flatten ++ left) (hright : right = [] → below = [])
    (lookBack : Nat) :
    precedingText? (before ++ after) (bytes before) lookBack =
      some ((above.drop (above.length - lookBack)).flatten ++ left) := by
  have hle : bytes before ≤ bytes (before ++ after) := by
    rw [bytes_append]
    omega
  have hline : findLine (bytes before) 0 (above ++ (left ++ right) :: below) =
      (above.length, left ++ right, bytes left) := by
    rw [hbefore, findLine_cut above hright, Nat.zero_add]
  have hfirst : beforeLine? (before ++ after) (above.length - lookBack) =
      some (above.take (above.length - lookBack)).flatten := by
    unfold beforeLine?
    dsimp only
    rw [hlines, if_pos (by simp; omega), List.take_append_of_le_length (Nat.sub_le _ _)]
  -- The lines before the first one wanted, and those from it on.
  have hcut : before = (above.take (above.length - lookBack)).flatten ++
      ((above.drop (above.length - lookBack)).flatten ++ left) := by
    rw [hbefore, ← List.append_assoc, ← List.flatten_append, List.take_append_drop]
  have hdrop := dropBytes_bytes_append (above.take (above.length - lookBack)).flatten
    ((above.drop (above.length - lookBack)).flatten ++ left)
  rw [← hcut] at hdrop
  unfold precedingText?
  rw [if_pos hle, hlines]
  dsimp only
  rw [hline]
  dsimp only
  rw [hfirst, Option.map_some, takeBytes_bytes_append, hdrop]

/-- In a text with newlines these are its last lines. -/
theorem precedingText?_newlines {older : List Text} (holder : Unbroken older) {last : Text}
    (hlast : '\n' ∉ last) {t : Text} (h : hasPlainBreaks (newlines older ++ last ++ t) = true)
    (lookBack : Nat) :
    precedingText? (newlines older ++ last ++ t) (bytes (newlines older ++ last)) lookBack =
      some (newlines (older.drop (older.length - lookBack)) ++ last) := by
  obtain ⟨hlines, hplain⟩ := lines_newlines_append holder (List.append_assoc _ _ _ ▸ h)
  obtain ⟨first, rest, hrest, hfirst⟩ := lines_append_of_not_mem hlast hplain
  have hall : lines (newlines older ++ last ++ t) =
      older.map (· ++ ['\n']) ++ (last ++ first) :: rest := by
    rw [List.append_assoc, hlines, hrest]
  have hpreceding := precedingText?_cut hall rfl (Decidable.not_imp_not.mp hfirst) lookBack
  rwa [List.length_map, ← List.map_drop] at hpreceding

end Document

end OrmLens
