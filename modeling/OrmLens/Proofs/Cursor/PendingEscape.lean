/-
  Line ends in the search for the call around the cursor.

  Strings and comments end with their line there, so what stands above a line end with all its
  brackets closed should make no difference to what stands below. It makes one: a backslash that is
  the last character of its line inside a string stays pending (`LeavesEscape`), over line ends and
  over all code, until it takes the first character of another string. If this is a quote or a
  backslash, the string goes on or ends elsewhere (`blunt`).

  A text is read on from the state and the stack that it has got to (`openBracketsFrom_append`), and
  with no bracket open its offsets only move (`openBracketsFrom_shift`). Behind a line end the state
  is the first one, but for the pending backslash, and this is the same as reading the blunted text
  (`openBracketsFrom_pending`). `openCall?_below_iff` puts these together.
-/
import Mathlib.Data.List.Induction
import OrmLens.Proofs.Cursor.OpenCall
import OrmLens.Proofs.Lines

namespace OrmLens.Cursor

open Source

/-! ## Reading on -/

/-- The state after a text when strings and comments end with their line. -/
def runInLines (s : Lexical) (t : Text) : Lexical := t.foldl Lexical.nextInLine s

theorem runInLines_concat (s : Lexical) (t : Text) (c : Char) :
    runInLines s (t ++ [c]) = Lexical.nextInLine (runInLines s t) c := List.foldl_concat ..

theorem openBracketsFrom_append (s : Lexical) (offset : Nat) (stack : List (Nat × Char))
    (t u : Text) :
    openBracketsFrom s offset stack (t ++ u) =
      openBracketsFrom (runInLines s t) (offset + Text.bytes t) (openBracketsFrom s offset stack t)
        u := by
  induction t generalizing s offset stack with
  | nil => rfl
  | cons c t ih =>
    rw [List.cons_append, openBracketsFrom_cons, ih, Text.bytes_cons, ← Nat.add_assoc]
    rfl

/-- The bracket of a text that stands further down. -/
def lower (distance : Nat) (p : Nat × Char) : Nat × Char := (distance + p.1, p.2)

theorem stackAfter_map_lower (s : Lexical) (distance offset : Nat) (stack : List (Nat × Char))
    (c : Char) :
    stackAfter s (distance + offset) (stack.map (lower distance)) c =
      (stackAfter s offset stack c).map (lower distance) := by
  unfold stackAfter
  cases s.bracket c with
  | opening => rfl
  | closing => exact List.map_tail.symm
  | other => rfl

theorem openBracketsFrom_shift (s : Lexical) (distance offset : Nat) (stack : List (Nat × Char))
    (t : Text) :
    openBracketsFrom s (distance + offset) (stack.map (lower distance)) t =
      (openBracketsFrom s offset stack t).map (lower distance) := by
  induction t generalizing s offset stack with
  | nil => rfl
  | cons c t ih =>
    rw [openBracketsFrom_cons, openBracketsFrom_cons, stackAfter_map_lower, Nat.add_assoc, ih]

theorem innermostCall?_map_lower (distance : Nat) (stack : List (Nat × Char)) :
    innermostCall? (stack.map (lower distance)) =
      (innermostCall? stack).map (distance + ·) := by
  unfold innermostCall?
  cases stack with
  | nil => rfl
  | cons p stack =>
    obtain ⟨offset, c⟩ := p
    by_cases hc : c = '(' <;> simp [lower, hc]

/-! ## A pending backslash -/

/-- A letter for a quote or a backslash, and any other character itself. -/
def bluntChar (c : Char) : Char := if isQuote c || c == '\\' then 'x' else c

/-- A text whose first character inside a string, if it is a quote or a backslash, is replaced by a
    letter. -/
def bluntFrom (s : Lexical) : Text → Text
  | [] => []
  | c :: t =>
    match s.mode with
    | .quoted _ =>
      if c = '\n' then c :: bluntFrom (Lexical.nextInLine s c) t
      else bluntChar c :: t
    | _ => c :: bluntFrom (Lexical.nextInLine s c) t

/-- What a text looks like behind a pending backslash. -/
def blunt (t : Text) : Text := bluntFrom {} t

/-- Outside strings a pending backslash makes no difference, and it stays. -/
theorem exists_nextInLine {mode : Mode} (hmode : ∀ delim, mode ≠ .quoted delim) (c : Char) :
    ∃ next, next.Quotes ∧
      ∀ escaped, Lexical.nextInLine ⟨mode, escaped⟩ c = ⟨next, escaped⟩ := by
  unfold Lexical.nextInLine Lexical.next
  by_cases hline : c = '\n'
  · exact ⟨.code, Mode.quotes_code, fun escaped => by simp [hline]⟩
  · cases mode with
    | quoted delim => exact absurd rfl (hmode delim)
    | comment => exact ⟨.comment, Mode.quotes_comment, fun escaped => by simp [hline]⟩
    | code =>
      by_cases hquote : isQuote c = true
      · exact ⟨.quoted c, Mode.quotes_quoted hquote, fun escaped => by simp [hline, hquote]⟩
      · by_cases hhash : c = '#'
        · subst hhash
          exact ⟨.comment, Mode.quotes_comment, fun _ => rfl⟩
        · exact ⟨.code, Mode.quotes_code, fun escaped => by simp [hline, hquote, hhash]⟩

/-- The character that a backslash takes with it is read like a letter. -/
theorem nextInLine_bluntChar {delim c : Char} (hdelim : isQuote delim = true) (hline : c ≠ '\n') :
    Lexical.nextInLine ⟨.quoted delim, true⟩ c =
      Lexical.nextInLine ⟨.quoted delim, false⟩ (bluntChar c) := by
  have hx : 'x' ≠ delim := by
    rintro rfl
    cases hdelim
  unfold Lexical.nextInLine Lexical.next bluntChar
  grind

theorem utf8Size_bluntChar (c : Char) : (bluntChar c).utf8Size = c.utf8Size := by
  unfold bluntChar
  split
  · rename_i h
    simp only [isQuote, Bool.or_eq_true, beq_iff_eq] at h
    rcases h with (rfl | rfl) | rfl <;> rfl
  · rfl

theorem stackAfter_pending (mode : Mode) (offset : Nat) (stack : List (Nat × Char)) (c : Char) :
    stackAfter ⟨mode, true⟩ offset stack c = stackAfter ⟨mode, false⟩ offset stack c := rfl

theorem stackAfter_quoted (delim : Char) (escaped : Bool) (offset : Nat)
    (stack : List (Nat × Char)) (c : Char) :
    stackAfter ⟨.quoted delim, escaped⟩ offset stack c = stack := by
  simp [stackAfter, Lexical.bracket]

/-- **A pending backslash** takes the first character of the next string with it. -/
theorem openBracketsFrom_pending {mode : Mode} (hmode : mode.Quotes) (offset : Nat)
    (stack : List (Nat × Char)) (t : Text) :
    openBracketsFrom ⟨mode, true⟩ offset stack t =
      openBracketsFrom ⟨mode, false⟩ offset stack (bluntFrom ⟨mode, false⟩ t) := by
  induction t generalizing mode offset stack with
  | nil => rfl
  | cons c t ih =>
    have houtside (hmode : ∀ delim, mode ≠ .quoted delim) :
        openBracketsFrom ⟨mode, true⟩ offset stack (c :: t) =
          openBracketsFrom ⟨mode, false⟩ offset stack
            (c :: bluntFrom (Lexical.nextInLine ⟨mode, false⟩ c) t) := by
      obtain ⟨next, hnext, heq⟩ := exists_nextInLine hmode c
      rw [openBracketsFrom_cons, openBracketsFrom_cons, stackAfter_pending, heq, heq, ih hnext]
    cases mode with
    | code => exact houtside fun _ => Mode.noConfusion
    | comment => exact houtside fun _ => Mode.noConfusion
    | quoted delim =>
      -- A line end closes the string and leaves the backslash pending, any other character uses
      -- it up.
      rw [bluntFrom]
      dsimp only
      split
      · rename_i hline
        subst hline
        rw [openBracketsFrom_cons, openBracketsFrom_cons, stackAfter_pending]
        exact ih Mode.quotes_code _ _
      · rename_i hline
        rw [openBracketsFrom_cons, openBracketsFrom_cons, stackAfter_quoted, stackAfter_quoted,
          utf8Size_bluntChar, nextInLine_bluntChar (hmode delim rfl) hline]

/-! ## Where a backslash is left pending -/

/-- A backslash ends a line inside a string, and no character of a string stands behind it. -/
def LeavesEscape (t : Text) : Prop :=
  ∃ head tail delim, t = head ++ '\\' :: tail ∧ runInLines {} head = ⟨.quoted delim, false⟩ ∧
    ∀ before c after, tail = before ++ c :: after →
      c = '\n' ∨ ∀ delim, (runInLines {} (head ++ '\\' :: before)).mode ≠ .quoted delim

theorem nextInLine_escaped {s : Lexical} {c : Char} :
    (Lexical.nextInLine s c).escaped = true ↔
      (c = '\\' ∧ ∃ delim, s = ⟨.quoted delim, false⟩) ∨
        s.escaped = true ∧ (c = '\n' ∨ ∀ delim, s.mode ≠ .quoted delim) := by
  obtain ⟨mode, escaped⟩ := s
  unfold Lexical.nextInLine Lexical.next
  cases mode <;> grind

theorem leavesEscape_concat {t : Text} {c : Char} :
    LeavesEscape (t ++ [c]) ↔
      (c = '\\' ∧ ∃ delim, runInLines {} t = ⟨.quoted delim, false⟩) ∨
        LeavesEscape t ∧ (c = '\n' ∨ ∀ delim, (runInLines {} t).mode ≠ .quoted delim) := by
  constructor
  · rintro ⟨head, tail, delim, htext, hhead, htail⟩
    -- The backslash is the last character, or the text in front of that leaves it pending already.
    rcases List.eq_nil_or_concat' tail with rfl | ⟨tail, d, rfl⟩
    · obtain ⟨rfl, heq⟩ := List.append_inj' htext rfl
      obtain rfl := List.singleton_inj.mp heq
      exact .inl ⟨rfl, delim, hhead⟩
    · have hsplit : t ++ [c] = (head ++ '\\' :: tail) ++ [d] := by rw [htext]; simp
      obtain ⟨rfl, heq⟩ := List.append_inj' hsplit rfl
      obtain rfl := List.singleton_inj.mp heq
      refine .inr ⟨⟨head, tail, delim, rfl, hhead, fun before e after heq => ?_⟩,
        htail tail c [] rfl⟩
      exact htail before e (after ++ [c]) (by rw [heq]; simp)
  · rintro (⟨rfl, delim, hquoted⟩ | ⟨⟨head, tail, delim, rfl, hhead, htail⟩, hlast⟩)
    · exact ⟨t, [], delim, rfl, hquoted, fun before e after heq => absurd heq (by simp)⟩
    · refine ⟨head, tail ++ [c], delim, by simp, hhead, fun before e after heq => ?_⟩
      rcases List.eq_nil_or_concat' after with rfl | ⟨after, d, rfl⟩
      · obtain ⟨rfl, hsame⟩ := List.append_inj' heq rfl
        obtain rfl := List.singleton_inj.mp hsame
        exact hlast
      · have hsplit : tail ++ [c] = (before ++ e :: after) ++ [d] := by rw [heq]; simp
        exact htail before e after (List.append_inj' hsplit rfl).1

theorem leavesEscape_iff {t : Text} : LeavesEscape t ↔ (runInLines {} t).escaped = true := by
  induction t using List.reverseRecOn with
  | nil =>
    refine ⟨?_, fun h => Bool.noConfusion h⟩
    rintro ⟨head, tail, delim, htext, -⟩
    simp at htext
  | append_singleton t c ih =>
    rw [leavesEscape_concat, runInLines_concat, nextInLine_escaped, ih]

/-- The backslash is the last character of a line. -/
theorem LeavesEscape.exists_line {t : Text} (h : LeavesEscape t) :
    ∃ line ∈ Text.lines t, line.getLast? = some '\\' := by
  obtain ⟨head, tail, delim, rfl, hhead, htail⟩ := h
  obtain ⟨older, last, rfl, holder, hlast⟩ := Text.exists_lines head
  have hline : '\n' ∉ last ++ ['\\'] := by simpa using hlast
  have hlines : ∃ more, Text.lines (last ++ '\\' :: tail) = (last ++ ['\\']) :: more := by
    cases tail with
    | nil => exact ⟨[], Text.splitOn_of_not_mem hline⟩
    | cons c tail =>
      have hc : c = '\n' := by
        refine (htail [] c tail rfl).resolve_right fun houtside => houtside delim ?_
        rw [runInLines_concat, hhead]
        rfl
      subst hc
      refine ⟨Text.lines tail, ?_⟩
      rw [List.append_cons]
      exact Text.splitOn_append_cons hline tail
  obtain ⟨more, hmore⟩ := hlines
  refine ⟨last ++ ['\\'], ?_, by simp⟩
  rw [List.append_assoc, Text.lines_newlines holder, hmore]
  simp

/-! ## Below a line end -/

/-- The state behind a line end. -/
theorem runInLines_newline (t : Text) :
    runInLines {} (t ++ ['\n']) = ⟨.code, (runInLines {} t).escaped⟩ := by
  rw [runInLines_concat]
  rfl

theorem bracket_newline (s : Lexical) : s.bracket '\n' = .other := by
  unfold Lexical.bracket
  split <;> rfl

/-- Below a line end with no bracket open, the open call is that of the text there, blunted if a
    backslash is pending. -/
theorem openCall?_below {t : Text} (ht : openBracketsFrom {} 0 [] t = []) (u : Text) :
    openCall? (t ++ '\n' :: u) =
      (openCall? (if (runInLines {} t).escaped then blunt u else u)).map
        (Text.bytes t + 1 + ·) := by
  have hbytes : 0 + Text.bytes (t ++ ['\n']) = Text.bytes t + 1 + 0 := by
    rw [Nat.zero_add, Text.bytes_append]
    rfl
  have hstack : openBracketsFrom {} 0 [] (t ++ ['\n']) = [].map (lower (Text.bytes t + 1)) := by
    rw [openBracketsFrom_append, ht, openBracketsFrom_cons, stackAfter, bracket_newline]
    rfl
  have hread : openBracketsFrom ⟨.code, (runInLines {} t).escaped⟩ 0 [] u =
      openBracketsFrom {} 0 [] (if (runInLines {} t).escaped then blunt u else u) := by
    cases (runInLines {} t).escaped with
    | false => rfl
    | true => exact openBracketsFrom_pending Mode.quotes_code 0 [] u
  rw [openCall?_eq, openCall?_eq, List.append_cons, openBracketsFrom_append, runInLines_newline,
    hstack, hbytes, openBracketsFrom_shift, hread, innermostCall?_map_lower]

/-- The call that is open at the end of the lower text is the one it has alone. -/
def ReadsAlone (upper lower : Text) : Prop :=
  openCall? (upper ++ '\n' :: lower) = (openCall? lower).map (Text.bytes upper + 1 + ·)

instance (upper lower : Text) : Decidable (ReadsAlone upper lower) :=
  inferInstanceAs (Decidable (_ = _))

theorem readsAlone_iff {upper : Text} (hclosed : openBracketsFrom {} 0 [] upper = [])
    (lower : Text) :
    ReadsAlone upper lower ↔ (LeavesEscape upper → openCall? (blunt lower) = openCall? lower) := by
  have hmove : Function.Injective (Text.bytes upper + 1 + ·) := fun _ _ h => Nat.add_left_cancel h
  rw [ReadsAlone, openCall?_below hclosed, leavesEscape_iff, (Option.map_injective hmove).eq_iff]
  cases (runInLines {} upper).escaped <;> simp

/-- **What a line end resets.** Below a line end with all brackets closed above it, the open call is
    found as if nothing stood above, unless a backslash is left pending there and the text below has
    another open call when it is blunted. This is so for every text below exactly if no backslash is
    left pending, and none is if no line above ends in one. -/
theorem openCall?_below_iff {upper : Text} (hclosed : openBracketsFrom {} 0 [] upper = []) :
    (∀ lower, ReadsAlone upper lower ↔
      (LeavesEscape upper → openCall? (blunt lower) = openCall? lower)) ∧
    ((∀ lower, ReadsAlone upper lower) ↔ ¬LeavesEscape upper) ∧
    ((∀ line ∈ Text.lines upper, line.getLast? ≠ some '\\') → ∀ lower, ReadsAlone upper lower) := by
  have hiff := readsAlone_iff hclosed
  refine ⟨hiff, ⟨fun halone hescape => ?_, fun hescape lower => ?_⟩, fun hlines lower => ?_⟩
  · have hblunt := (hiff "''(").mp (halone _) hescape
    exact absurd hblunt (by decide +kernel)
  · exact (hiff lower).mpr fun h => absurd h hescape
  · refine (hiff lower).mpr fun hescape => ?_
    obtain ⟨line, hline, hlast⟩ := hescape.exists_line
    exact absurd hlast (hlines line hline)

/-- A string that goes on below the line, and a string below that starts with a letter. -/
theorem openCall?_below_iff_letter :
    let upper : Text := "s = 'first \\\nsecond'"
    let lower : Text := "f('a', Book.objects.filter("
    openBracketsFrom {} 0 [] upper = [] ∧ LeavesEscape upper ∧ openCall? lower = some 26 ∧
      ReadsAlone upper lower := by
  intro upper lower
  have hclosed : openBracketsFrom {} 0 [] upper = [] := by decide +kernel
  have hescape : LeavesEscape upper := leavesEscape_iff.mpr (by decide +kernel)
  have hblunt : openCall? (blunt lower) = openCall? lower := by decide +kernel
  exact ⟨hclosed, hescape, by decide +kernel,
    ((openCall?_below_iff hclosed).1 lower).mpr fun _ => hblunt⟩

/-- The backslash of a string that goes on below the line takes the closing quote of an empty string
    with it, and the call behind is not found. -/
theorem pending_escape_hides_call :
    let upper : Text := "s = 'first \\\nsecond'"
    let lower : Text := "y = '' or Book.objects.filter("
    openBracketsFrom {} 0 [] upper = [] ∧ openCall? lower = some 29 ∧
      openCall? (upper ++ '\n' :: lower) = none ∧ ¬ReadsAlone upper lower := by
  decide +kernel

end OrmLens.Cursor
