/-
  The search for readings at the starts of lines.

  What a search finds is said without the search. A reading that is found stands at the start of a
  line (`reading_of_mem`), two of them do not overlap (`stop_le_of_mem`), and a reading at the start
  of a line is found unless one that starts before it reaches over it (`found_or_covered`). What is
  found in the second part of a text is what a search of that part finds, moved by the length of
  the first, unless something reaches over the seam (`filter_foundFrom_append`).

  Searches are also followed line by line, for texts whose lines are known (`foundFrom_line_none`,
  `foundFrom_line_some`).

  Nothing is assumed of the reader here, not even that it returns a part of its text.
-/
import OrmLens.Source.Pattern

namespace OrmLens.Source

variable {α : Type} {read : Reader α}

/-! ## Line starts -/

/-- Whether a line starts after a text; `fresh` says whether one starts before it. -/
def freshAfter (fresh : Bool) : Text → Bool
  | [] => fresh
  | c :: t => freshAfter (c == '\n') t

@[simp] theorem freshAfter_nil (fresh : Bool) : freshAfter fresh [] = fresh := rfl

theorem freshAfter_append (fresh : Bool) (s t : Text) :
    freshAfter fresh (s ++ t) = freshAfter (freshAfter fresh s) t := by
  induction s generalizing fresh with
  | nil => rfl
  | cons c s ih => exact ih (c == '\n')

/-- A line starts where the text starts, or after a newline. -/
theorem eq_nil_or_newline {fresh : Bool} {s : Text} (h : freshAfter fresh s = true) :
    s = [] ∧ fresh = true ∨ ∃ line, s = line ++ ['\n'] := by
  rcases List.eq_nil_or_concat s with rfl | ⟨line, c, rfl⟩
  · exact Or.inl ⟨rfl, h⟩
  · rw [List.concat_eq_append, freshAfter_append] at h
    have hc : c = '\n' := by simpa [freshAfter] using h
    exact Or.inr ⟨line, by rw [hc, List.concat_eq_append]⟩

/-! ## One character -/

/-- What a search does at a character: it finds a reading and looks no further up to its end, or it
    goes on. -/
theorem foundFrom_cons_cases (read : Reader α) (offset resume : Nat) (fresh : Bool) (c : Char)
    (t : Text) :
    (∃ value rest, fresh = true ∧ resume ≤ offset ∧ read (c :: t) = some (value, rest) ∧
      foundFrom read offset resume fresh (c :: t) =
        ⟨offset, offset + (Text.bytes (c :: t) - Text.bytes rest), value, rest⟩ ::
          foundFrom read (offset + c.utf8Size)
            (offset + (Text.bytes (c :: t) - Text.bytes rest)) (c == '\n') t) ∨
    ((fresh = false ∨ offset < resume ∨ read (c :: t) = none) ∧
      foundFrom read offset resume fresh (c :: t) =
        foundFrom read (offset + c.utf8Size) resume (c == '\n') t) := by
  by_cases hlook : fresh = true ∧ resume ≤ offset
  · have hif : (if fresh && decide (resume ≤ offset) then read (c :: t) else none) =
        read (c :: t) := by simp [hlook.1, hlook.2]
    cases hread : read (c :: t) with
    | none =>
      refine Or.inr ⟨Or.inr (Or.inr rfl), ?_⟩
      rw [foundFrom, hif, hread]
    | some found =>
      refine Or.inl ⟨found.1, found.2, hlook.1, hlook.2, rfl, ?_⟩
      rw [foundFrom, hif, hread]
  · have hif : (if fresh && decide (resume ≤ offset) then read (c :: t) else none) = none := by
      rw [if_neg]
      simpa using hlook
    refine Or.inr ⟨?_, ?_⟩
    · cases fresh with
      | false => exact Or.inl rfl
      | true => exact Or.inr (Or.inl (Nat.lt_of_not_le fun hle => hlook ⟨rfl, hle⟩))
    · rw [foundFrom, hif]

/-! ## What is found -/

/-- Nothing is found before the place to resume, nor before the text. -/
theorem le_start_of_mem {offset resume : Nat} {fresh : Bool} {t : Text} {f : Found α}
    (h : f ∈ foundFrom read offset resume fresh t) : offset ≤ f.start ∧ resume ≤ f.start := by
  induction t generalizing offset resume fresh with
  | nil => cases h
  | cons c t ih =>
    rcases foundFrom_cons_cases read offset resume fresh c t with
      ⟨value, rest, -, hresume, -, heq⟩ | ⟨-, heq⟩
    · rw [heq, List.mem_cons] at h
      rcases h with rfl | h
      · exact ⟨Nat.le_refl _, hresume⟩
      · have := ih h
        omega
    · rw [heq] at h
      have := ih h
      omega

/-- **What is found is read at the start of a line.** -/
theorem reading_of_mem {offset resume : Nat} {fresh : Bool} {t : Text} {f : Found α}
    (h : f ∈ foundFrom read offset resume fresh t) :
    ∃ before rest, t = before ++ rest ∧ freshAfter fresh before = true ∧
      f.start = offset + Text.bytes before ∧ read rest = some (f.value, f.rest) ∧
      f.stop = f.start + (Text.bytes rest - Text.bytes f.rest) := by
  induction t generalizing offset resume fresh with
  | nil => cases h
  | cons c t ih =>
    have later {offset' resume' : Nat} (ho : offset' = offset + c.utf8Size)
        (hf : f ∈ foundFrom read offset' resume' (c == '\n') t) :
        ∃ before rest, c :: t = before ++ rest ∧ freshAfter fresh before = true ∧
          f.start = offset + Text.bytes before ∧ read rest = some (f.value, f.rest) ∧
          f.stop = f.start + (Text.bytes rest - Text.bytes f.rest) := by
      obtain ⟨before, rest, rfl, hfresh, hstart, hread, hstop⟩ := ih hf
      refine ⟨c :: before, rest, rfl, hfresh, ?_, hread, hstop⟩
      rw [hstart, ho, Text.bytes_cons]
      omega
    rcases foundFrom_cons_cases read offset resume fresh c t with
      ⟨value, rest, hfresh, -, hread, heq⟩ | ⟨-, heq⟩
    · rw [heq, List.mem_cons] at h
      rcases h with rfl | h
      · exact ⟨[], c :: t, rfl, hfresh, rfl, hread, rfl⟩
      · exact later rfl h
    · rw [heq] at h
      exact later rfl h

/-- Of two readings found, the later starts after the earlier has stopped. -/
theorem stop_le_of_mem {offset resume : Nat} {fresh : Bool} {t : Text} {f g : Found α}
    (hf : f ∈ foundFrom read offset resume fresh t)
    (hg : g ∈ foundFrom read offset resume fresh t) (h : f.start < g.start) :
    f.stop ≤ g.start := by
  induction t generalizing offset resume fresh with
  | nil => cases hf
  | cons c t ih =>
    rcases foundFrom_cons_cases read offset resume fresh c t with
      ⟨value, rest, -, -, -, heq⟩ | ⟨-, heq⟩
    · rw [heq, List.mem_cons] at hf hg
      rcases hf with rfl | hf
      · rcases hg with rfl | hg
        · exact absurd h (Nat.lt_irrefl _)
        · exact (le_start_of_mem hg).2
      · rcases hg with rfl | hg
        · have hlate := (le_start_of_mem hf).1
          dsimp only at h
          omega
        · exact ih hf hg
    · rw [heq] at hf hg
      exact ih hf hg

/-- **A reading at the start of a line is found, unless one found before reaches over it.** -/
theorem found_or_covered {offset resume : Nat} {fresh : Bool} {before rest : Text}
    (hfresh : freshAfter fresh before = true) {value : α} {after : Text} (hrest : rest ≠ [])
    (hread : read rest = some (value, after))
    (hresume : resume ≤ offset + Text.bytes before) :
    ∃ f ∈ foundFrom read offset resume fresh (before ++ rest),
      (f.start = offset + Text.bytes before ∧
        f.stop = f.start + (Text.bytes rest - Text.bytes after)) ∨
      (f.start < offset + Text.bytes before ∧ offset + Text.bytes before < f.stop) := by
  induction before generalizing offset resume fresh with
  | nil =>
    obtain ⟨c, t, rfl⟩ := List.exists_cons_of_ne_nil hrest
    have hnow : resume ≤ offset := by simpa using hresume
    rcases foundFrom_cons_cases read offset resume fresh c t with
      ⟨value', rest', -, -, hread', heq⟩ | ⟨hno, -⟩
    · rw [hread, Option.some.injEq, Prod.mk.injEq] at hread'
      obtain ⟨rfl, rfl⟩ := hread'
      rw [List.nil_append, heq]
      exact ⟨_, List.mem_cons_self, Or.inl ⟨rfl, rfl⟩⟩
    · rcases hno with hno | hno | hno
      · rw [freshAfter_nil, hno] at hfresh
        cases hfresh
      · omega
      · rw [hno] at hread
        cases hread
  | cons c before ih =>
    have hbytes : offset + Text.bytes (c :: before) =
        offset + c.utf8Size + Text.bytes before := by
      rw [Text.bytes_cons, Nat.add_assoc]
    rw [hbytes] at hresume ⊢
    rcases foundFrom_cons_cases read offset resume fresh c (before ++ rest) with
      ⟨value', rest', -, -, -, heq⟩ | ⟨-, heq⟩
    · rw [List.cons_append, heq]
      have hpos := c.utf8Size_pos
      by_cases hover : offset + c.utf8Size + Text.bytes before <
          offset + (Text.bytes (c :: (before ++ rest)) - Text.bytes rest')
      · -- The reading found here reaches over the place.
        refine ⟨_, List.mem_cons_self, Or.inr ⟨?_, hover⟩⟩
        show offset < _
        omega
      · obtain ⟨f, hf, hplace⟩ := ih hfresh (Nat.le_of_not_lt hover)
        exact ⟨f, List.mem_cons_of_mem _ hf, hplace⟩
    · rw [List.cons_append, heq]
      exact ih hfresh hresume

/-! ## Searches of a part -/

/-- A reading moved by a number of bytes. -/
def Found.shift (k : Nat) (f : Found α) : Found α :=
  { f with start := f.start + k, stop := f.stop + k }

theorem foundFrom_shift (read : Reader α) (offset resume k : Nat) (fresh : Bool) (t : Text) :
    foundFrom read (offset + k) (resume + k) fresh t =
      (foundFrom read offset resume fresh t).map (Found.shift k) := by
  induction t generalizing offset resume fresh with
  | nil => rfl
  | cons c t ih =>
    have hnext : offset + k + c.utf8Size = offset + c.utf8Size + k := by omega
    have hstop (n : Nat) : offset + k + n = offset + n + k := by omega
    rcases foundFrom_cons_cases read offset resume fresh c t with
      ⟨value, rest, hfresh, hresume, hread, heq⟩ | ⟨hno, heq⟩
    · rcases foundFrom_cons_cases read (offset + k) (resume + k) fresh c t with
        ⟨value', rest', -, -, hread', heq'⟩ | ⟨hno', -⟩
      · rw [hread, Option.some.injEq, Prod.mk.injEq] at hread'
        obtain ⟨rfl, rfl⟩ := hread'
        rw [heq', heq, List.map_cons, hnext, hstop, ih]
        rfl
      · rcases hno' with h | h | h
        · rw [hfresh] at h
          cases h
        · omega
        · rw [hread] at h
          cases h
    · rcases foundFrom_cons_cases read (offset + k) (resume + k) fresh c t with
        ⟨value', rest', hfresh', hresume', hread', -⟩ | ⟨-, heq'⟩
      · rcases hno with h | h | h
        · rw [hfresh'] at h
          cases h
        · omega
        · rw [hread'] at h
          cases h
      · rw [heq', heq, hnext, ih]

/-- It makes no difference where before the text the search was to resume. -/
theorem foundFrom_resume {offset resume resume' : Nat} (h : resume ≤ offset)
    (h' : resume' ≤ offset) (fresh : Bool) (t : Text) :
    foundFrom read offset resume fresh t = foundFrom read offset resume' fresh t := by
  induction t generalizing offset fresh with
  | nil => rfl
  | cons c t ih =>
    have hpos := c.utf8Size_pos
    rw [foundFrom, foundFrom, decide_eq_true h, decide_eq_true h', Bool.and_true]
    cases (if fresh then read (c :: t) else none) with
    | none => exact ih (by omega) (by omega) _
    | some found => rfl

/-- A search of a text that stands at `k` finds what a search of it alone finds. -/
theorem foundFrom_eq_shift {resume k : Nat} (h : resume ≤ k) (t : Text) :
    foundFrom read k resume true t = (foundAt read 0 t).map (Found.shift k) := by
  have hshift := foundFrom_shift read 0 0 k true t
  rw [Nat.zero_add] at hshift
  rw [foundAt, ← hshift]
  exact foundFrom_resume h (Nat.le_refl k) true t

/-- Behind a first part the search goes on, from the end of what it found there. -/
theorem filter_foundFrom_append (read : Reader α) (offset resume : Nat) (fresh : Bool)
    (s t : Text) :
    ∃ resume', (foundFrom read offset resume fresh (s ++ t)).filter
        (offset + Text.bytes s ≤ ·.start) =
      foundFrom read (offset + Text.bytes s) resume' (freshAfter fresh s) t ∧
      (resume' = resume ∨ ∃ f ∈ foundFrom read offset resume fresh (s ++ t),
        f.start < offset + Text.bytes s ∧ f.stop = resume') := by
  induction s generalizing offset resume fresh with
  | nil =>
    refine ⟨resume, ?_, Or.inl rfl⟩
    rw [List.nil_append, Text.bytes_nil, Nat.add_zero, List.filter_eq_self.mpr]
    · rfl
    · exact fun f hf => decide_eq_true (le_start_of_mem hf).1
  | cons c s ih =>
    have hbytes : offset + Text.bytes (c :: s) = offset + c.utf8Size + Text.bytes s := by
      rw [Text.bytes_cons, Nat.add_assoc]
    have hpos := c.utf8Size_pos
    rw [hbytes, List.cons_append]
    rcases foundFrom_cons_cases read offset resume fresh c (s ++ t) with
      ⟨value, rest, -, -, -, heq⟩ | ⟨-, heq⟩
    · obtain ⟨resume', hfilter, hwhere⟩ := ih (offset + c.utf8Size) _ (c == '\n')
      refine ⟨resume', ?_, Or.inr ?_⟩
      · rw [heq, List.filter_cons_of_neg, hfilter]
        · rfl
        · rw [decide_eq_true_eq]
          dsimp only
          omega
      · rw [heq]
        rcases hwhere with rfl | ⟨f, hf, hstart, hstop⟩
        · refine ⟨_, List.mem_cons_self, ?_, rfl⟩
          dsimp only
          omega
        · exact ⟨f, List.mem_cons_of_mem _ hf, hstart, hstop⟩
    · obtain ⟨resume', hfilter, hwhere⟩ := ih (offset + c.utf8Size) resume (c == '\n')
      rw [heq]
      exact ⟨resume', hfilter, hwhere⟩

/-! ## Line by line -/

/-- The rest of a line is skipped. -/
theorem foundFrom_skip (read : Reader α) (offset resume : Nat) {line : Text}
    (h : '\n' ∉ line) (t : Text) :
    foundFrom read offset resume false (line ++ '\n' :: t) =
      foundFrom read (offset + Text.bytes line + 1) resume true t := by
  induction line generalizing offset with
  | nil =>
    rw [List.nil_append, foundFrom]
    rfl
  | cons c line ih =>
    rw [List.mem_cons, not_or] at h
    have hc : (c == '\n') = false := by simpa using Ne.symm h.1
    have hbytes : offset + Text.bytes (c :: line) + 1 =
        offset + c.utf8Size + Text.bytes line + 1 := by
      rw [Text.bytes_cons]
      omega
    rw [List.cons_append, foundFrom, Bool.false_and, hc, ih _ h.2, hbytes]
    rfl

/-- After the first character of a line the search skips the others. -/
theorem foundFrom_line_tail (read : Reader α) (offset resume : Nat) {c : Char} {line t next : Text}
    (hline : '\n' ∉ line) (ht : c :: t = line ++ '\n' :: next) :
    foundFrom read (offset + c.utf8Size) resume (c == '\n') t =
      foundFrom read (offset + Text.bytes line + 1) resume true next := by
  cases line with
  | nil =>
    obtain ⟨rfl, rfl⟩ := List.cons.inj ht
    rfl
  | cons d line =>
    obtain ⟨rfl, rfl⟩ := List.cons.inj ht
    rw [List.mem_cons, not_or] at hline
    have hc : (c == '\n') = false := by simpa using Ne.symm hline.1
    rw [hc]
    have hskip := foundFrom_skip read (offset + c.utf8Size) resume hline.2 next
    rw [Nat.add_assoc offset] at hskip
    exact hskip

/-- A line at whose start nothing is read. -/
theorem foundFrom_line_none {offset resume : Nat} {line next : Text} (hline : '\n' ∉ line)
    (hread : read (line ++ '\n' :: next) = none) :
    foundFrom read offset resume true (line ++ '\n' :: next) =
      foundFrom read (offset + Text.bytes line + 1) resume true next := by
  obtain ⟨c, t, ht⟩ : ∃ c t, line ++ '\n' :: next = c :: t :=
    List.exists_cons_of_ne_nil (by simp)
  rw [ht] at hread ⊢
  rcases foundFrom_cons_cases read offset resume true c t with
    ⟨value, rest, -, -, hsome, -⟩ | ⟨-, heq⟩
  · rw [hread] at hsome
    cases hsome
  · rw [heq]
    exact foundFrom_line_tail read offset resume hline ht.symm

/-- A line at whose start something is read that stops before its end. -/
theorem foundFrom_line_some {offset resume : Nat} {line head tail next : Text} {value : α}
    (hline : line = head ++ tail) (hbreak : '\n' ∉ line) (hresume : resume ≤ offset)
    (hread : read (line ++ '\n' :: next) = some (value, tail ++ '\n' :: next)) :
    foundFrom read offset resume true (line ++ '\n' :: next) =
      ⟨offset, offset + Text.bytes head, value, tail ++ '\n' :: next⟩ ::
        foundFrom read (offset + Text.bytes line + 1) 0 true next := by
  obtain ⟨c, t, ht⟩ : ∃ c t, line ++ '\n' :: next = c :: t :=
    List.exists_cons_of_ne_nil (by simp)
  have hstop : offset + (Text.bytes (c :: t) - Text.bytes (tail ++ '\n' :: next)) =
      offset + Text.bytes head := by
    rw [← ht, hline, List.append_assoc, Text.bytes_append head]
    omega
  have hwithin : offset + Text.bytes head ≤ offset + Text.bytes line + 1 := by
    rw [hline, Text.bytes_append]
    omega
  rw [ht] at hread ⊢
  rcases foundFrom_cons_cases read offset resume true c t with
    ⟨value', rest', -, -, hsome, heq⟩ | ⟨hno, -⟩
  · rw [hread, Option.some.injEq, Prod.mk.injEq] at hsome
    obtain ⟨rfl, rfl⟩ := hsome
    rw [heq, hstop, foundFrom_line_tail read offset _ hbreak ht.symm]
    exact congrArg _ (foundFrom_resume hwithin (Nat.zero_le _) true next)
  · rcases hno with h | h | h
    · cases h
    · omega
    · rw [hread] at h
      cases h

end OrmLens.Source
