/-
  The comment at the end of a line.

  Two readings decide where it starts. The classification of the cursor knows escapes in strings
  (`inCommentOrString`). The reader of bindings, which drops the comment of each line, does not: it
  takes a line as if it had no backslashes (`stripComment_eq`). Each comment starts at the first `#`
  that is not hidden, so the two lines are the same exactly if the readings hide the same `#`
  (`stripComment_eq_iff`), and they do if no string of the line holds its own delimiter, escaped
  (`mode_withoutBackslashes`).
-/
import OrmLens.Cursor.Context
import OrmLens.Proofs.Cursor.TrailingChain
import OrmLens.Proofs.Source.Splitting

namespace OrmLens.Cursor

open CharClass Source

/-! ## The first `#` that is not hidden -/

/-- The text before the first `#` that is not hidden by what stands in front of it, or the whole
    text if there is none. -/
def beforeHash (hidden : Text → Bool) : Text → Text
  | [] => []
  | c :: t =>
    if c = '#' ∧ hidden [] = false then []
    else c :: beforeHash (fun before => hidden (c :: before)) t

/-- Behind a `#` that is not hidden, all others are. -/
def HidesOthers (hidden : Text → Bool) (line : Text) : Prop :=
  ∀ before between after, line = before ++ '#' :: (between ++ '#' :: after) →
    hidden before = false → hidden (before ++ '#' :: between) = true

theorem beforeHash_congr {hidden other : Text → Bool} {line : Text}
    (h : ∀ before after, line = before ++ '#' :: after → hidden before = other before) :
    beforeHash hidden line = beforeHash other line := by
  induction line generalizing hidden other with
  | nil => rfl
  | cons c t ih =>
    have hrest : beforeHash (fun before => hidden (c :: before)) t =
        beforeHash (fun before => other (c :: before)) t :=
      ih fun before after ht => h (c :: before) after (by rw [ht]; rfl)
    rw [beforeHash, beforeHash, hrest]
    by_cases hc : c = '#'
    · subst hc
      rw [h [] t rfl]
    · simp [hc]

/-- What is cut off starts with a `#` that is not hidden. -/
theorem beforeHash_cases (hidden : Text → Bool) (line : Text) :
    beforeHash hidden line = line ∨
      ∃ rest, line = beforeHash hidden line ++ '#' :: rest ∧
        hidden (beforeHash hidden line) = false := by
  induction line generalizing hidden with
  | nil => exact .inl rfl
  | cons c t ih =>
    rw [beforeHash]
    split
    · rename_i h
      obtain ⟨rfl, hseen⟩ := h
      exact .inr ⟨t, rfl, hseen⟩
    · rcases ih (fun before => hidden (c :: before)) with hwhole | ⟨rest, ht, hseen⟩
      · exact .inl (congrArg _ hwhole)
      · exact .inr ⟨rest, congrArg _ ht, hseen⟩

/-- In what is kept every `#` is hidden. -/
theorem hidden_of_beforeHash {hidden : Text → Bool} {line before after : Text}
    (h : beforeHash hidden line = before ++ '#' :: after) : hidden before = true := by
  induction line generalizing hidden before with
  | nil => simp [beforeHash] at h
  | cons c t ih =>
    rw [beforeHash] at h
    split at h
    · simp at h
    · rename_i hc
      cases before with
      | nil =>
        obtain ⟨rfl, -⟩ := List.cons.inj h
        simpa using hc
      | cons d before =>
        obtain ⟨rfl, hrest⟩ := List.cons.inj h
        exact @ih (fun before => hidden (c :: before)) before hrest

/-- Of two places of a line at which a `#` stands, one is behind the other. -/
theorem append_hash_cases {code code' rest rest' : Text}
    (h : code ++ '#' :: rest = code' ++ '#' :: rest') :
    code = code' ∨ (∃ more, code' = code ++ '#' :: more ∧ rest = more ++ '#' :: rest') ∨
      ∃ more, code = code' ++ '#' :: more := by
  rcases List.append_eq_append_iff.mp h with
    ⟨between, hlonger, hrest⟩ | ⟨between, hshorter, hrest⟩
  · cases between with
    | nil => exact .inl (by simpa using hlonger.symm)
    | cons d between =>
      obtain ⟨rfl, hrest'⟩ := List.cons.inj hrest
      exact .inr (.inl ⟨between, hlonger, hrest'⟩)
  · cases between with
    | nil => exact .inl (by simpa using hshorter)
    | cons d between =>
      obtain ⟨rfl, -⟩ := List.cons.inj hrest
      exact .inr (.inr ⟨between, hshorter⟩)

/-- The only `#` that is not hidden is the one at which the line is cut. -/
theorem hidden_eq_false_iff {hidden : Text → Bool} {line before after : Text}
    (honce : HidesOthers hidden line) (hline : line = before ++ '#' :: after) :
    hidden before = false ↔ beforeHash hidden line = before := by
  rcases beforeHash_cases hidden line with hwhole | ⟨rest, hcut, hseen⟩
  · have hhidden : hidden before = true := hidden_of_beforeHash (hwhole.trans hline)
    have hne : beforeHash hidden line ≠ before := by
      rw [hwhole, hline]
      simp
    simp [hhidden, hne]
  · refine ⟨fun hbefore => ?_, fun heq => heq ▸ hseen⟩
    rcases append_hash_cases (hcut.symm.trans hline) with
      heq | ⟨between, hlonger, hrest⟩ | ⟨between, hshorter⟩
    · exact heq
    · have hhidden := honce _ between after (hrest ▸ hcut) hseen
      rw [← hlonger, hbefore] at hhidden
      cases hhidden
    · rw [hidden_of_beforeHash hshorter] at hbefore
      cases hbefore

/-- **When two readings cut a line at the same place:** they hide the same `#`. -/
theorem beforeHash_eq_iff {hidden other : Text → Bool} {line : Text}
    (hhidden : HidesOthers hidden line) (hother : HidesOthers other line) :
    beforeHash hidden line = beforeHash other line ↔
      ∀ before after, line = before ++ '#' :: after → hidden before = other before := by
  refine ⟨fun heq before after hline => ?_, beforeHash_congr⟩
  have hiff : hidden before = false ↔ other before = false := by
    rw [hidden_eq_false_iff hhidden hline, hidden_eq_false_iff hother hline, heq]
  grind

theorem trimEnd_append_hash_ne (code rest : Text) :
    Text.trimEnd (code ++ '#' :: rest) ≠ Text.trimEnd code := by
  have hle : (Text.trimEnd code).length ≤ code.length := by
    have hdrop := (List.dropWhile_suffix isSpace (l := code.reverse)).length_le
    simpa [Text.trimEnd, Text.dropEndWhile] using hdrop
  have hlt : code.length < (Text.trimEnd (code ++ '#' :: rest)).length := by
    have hkept := length_dropWhile_append_lt (p := isSpace) (show isSpace '#' = false by decide)
      rest.reverse code.reverse
    simpa [Text.trimEnd, Text.dropEndWhile] using hkept
  intro heq
  rw [heq] at hlt
  omega

/-- Trimming tells two places of a line apart at which it may be cut. -/
theorem trimEnd_beforeHash_eq_iff {hidden other : Text → Bool} {line : Text} :
    Text.trimEnd (beforeHash hidden line) = Text.trimEnd (beforeHash other line) ↔
      beforeHash hidden line = beforeHash other line := by
  refine ⟨fun htrim => ?_, fun heq => by rw [heq]⟩
  have hplaces : beforeHash hidden line = beforeHash other line ∨
      (∃ more, beforeHash other line = beforeHash hidden line ++ '#' :: more) ∨
        ∃ more, beforeHash hidden line = beforeHash other line ++ '#' :: more := by
    rcases beforeHash_cases hidden line with hwhole | ⟨rest, hcut, -⟩ <;>
      rcases beforeHash_cases other line with hwhole' | ⟨rest', hcut', -⟩
    · exact .inl (hwhole.trans hwhole'.symm)
    · exact .inr (.inr ⟨rest', hwhole.trans hcut'⟩)
    · exact .inr (.inl ⟨rest, hwhole'.trans hcut⟩)
    · rcases append_hash_cases (hcut.symm.trans hcut') with heq | ⟨more, hmore, -⟩ | hmore
      · exact .inl heq
      · exact .inr (.inl ⟨more, hmore⟩)
      · exact .inr (.inr hmore)
  rcases hplaces with heq | ⟨more, hmore⟩ | ⟨more, hmore⟩
  · exact heq
  · rw [hmore] at htrim
    exact absurd htrim.symm (trimEnd_append_hash_ne _ _)
  · rw [hmore] at htrim
    exact absurd htrim (trimEnd_append_hash_ne _ _)

/-! ## The two readings -/

/-- A text as it looks to a reader that takes no notice of backslashes. -/
def withoutBackslashes (t : Text) : Text := t.filter (· ≠ '\\')

/-- Whether a string of the text holds its own delimiter, escaped. -/
def escapesDelimiterFrom (s : Lexical) : Text → Bool
  | [] => false
  | c :: t => s == ⟨.quoted c, true⟩ || escapesDelimiterFrom (s.next c) t

/-- Whether a string of a line holds its own delimiter, escaped. -/
def escapesDelimiter (line : Text) : Bool := escapesDelimiterFrom {} line

theorem withoutBackslashes_cons_of_ne {c : Char} (hc : c ≠ '\\') (t : Text) :
    withoutBackslashes (c :: t) = c :: withoutBackslashes t :=
  List.filter_cons_of_pos (decide_eq_true hc)

theorem withoutBackslashes_append (t u : Text) :
    withoutBackslashes (t ++ u) = withoutBackslashes t ++ withoutBackslashes u :=
  List.filter_append ..

theorem newline_not_mem_withoutBackslashes {t : Text} (h : '\n' ∉ t) :
    '\n' ∉ withoutBackslashes t := fun hmem => h (List.mem_of_mem_filter hmem)

/-- A comment goes on to the end of the line. -/
theorem run_comment {s : Lexical} (hs : s.mode = .comment) {t : Text} (ht : '\n' ∉ t) :
    s.run t = s := by
  induction t with
  | nil => rfl
  | cons c t ih =>
    have hnext : s.next c = s := by
      simp [Lexical.next, hs, (List.ne_of_not_mem_cons ht).symm]
    calc s.run (c :: t) = (s.next c).run t := rfl
      _ = s := by rw [hnext, ih (List.not_mem_of_not_mem_cons ht)]

theorem inCommentOrString_behind {before between : Text} (hline : '\n' ∉ between)
    (h : inCommentOrString before = false) :
    inCommentOrString (before ++ '#' :: between) = true := by
  have hmode : (Lexical.run {} before).mode = .code := by simpa [inCommentOrString] using h
  have hcomment : ((Lexical.run {} before).next '#').mode = .comment := by
    simp [Lexical.next, hmode, isQuote]
  have hrun : Lexical.run {} (before ++ '#' :: between) =
      ((Lexical.run {} before).next '#').run between := Lexical.run_append ..
  simp [inCommentOrString, hrun, run_comment hcomment hline, hcomment]

theorem hidesOthers_inCommentOrString {line : Text} (hline : '\n' ∉ line) :
    HidesOthers inCommentOrString line := by
  rintro before between after rfl hseen
  exact inCommentOrString_behind (by simp_all) hseen

theorem hidesOthers_withoutBackslashes {line : Text} (hline : '\n' ∉ line) :
    HidesOthers (inCommentOrString ∘ withoutBackslashes) line := by
  rintro before between after rfl hseen
  have hbetween : '\n' ∉ between := by simp_all
  rw [Function.comp_apply, withoutBackslashes_append, withoutBackslashes_cons_of_ne (by decide)]
  exact inCommentOrString_behind (newline_not_mem_withoutBackslashes hbetween) hseen

theorem run_withoutBackslashes_cons {mode next : Mode} {c : Char}
    (hbackslash : c = '\\' → next = mode)
    (hnext : c ≠ '\\' → Lexical.next ⟨mode, false⟩ c = ⟨next, false⟩) (t : Text) :
    Lexical.run ⟨mode, false⟩ (withoutBackslashes (c :: t)) =
      Lexical.run ⟨next, false⟩ (withoutBackslashes t) := by
  by_cases hc : c = '\\'
  · rw [hbackslash hc, hc]
    rfl
  · rw [withoutBackslashes_cons_of_ne hc, ← hnext hc]
    rfl

theorem headD_glue (c : Char) (l : List Text) : (Text.glue c l).headD [] = c :: l.headD [] := by
  cases l <;> rfl

/-- Whether a text that is read without escapes, from a mode on, ends outside the code. -/
def hiddenFrom (mode : Mode) (before : Text) : Bool :=
  (Lexical.run ⟨mode, false⟩ (withoutBackslashes before)).mode ≠ .code

/-- The reading without escapes cuts where the other one would, had the text no backslashes. -/
theorem headD_segmentsFrom {mode : Mode} (hmode : mode.Quotes) (hcomment : mode ≠ .comment)
    (t : Text) : (segmentsFrom mode t).headD [] = beforeHash (hiddenFrom mode) t := by
  induction t generalizing mode with
  | nil => cases mode <;> rfl
  | cons c t ih =>
    -- The mode behind `c`, unless a comment starts there.
    have hglue (next : Mode) (hquotes : next.Quotes) (hne : next ≠ .comment)
        (hsegments : segmentsFrom mode (c :: t) = Text.glue c (segmentsFrom next t))
        (hkept : ¬(c = '#' ∧ hiddenFrom mode [] = false)) (hbackslash : c = '\\' → next = mode)
        (hnext : c ≠ '\\' → Lexical.next ⟨mode, false⟩ c = ⟨next, false⟩) :
        (segmentsFrom mode (c :: t)).headD [] = beforeHash (hiddenFrom mode) (c :: t) := by
      have hhidden : (fun before => hiddenFrom mode (c :: before)) = hiddenFrom next := by
        funext before
        rw [hiddenFrom, hiddenFrom, run_withoutBackslashes_cons hbackslash hnext]
      rw [hsegments, headD_glue, ih hquotes hne, beforeHash, if_neg hkept, hhidden]
    cases mode with
    | comment => exact absurd rfl hcomment
    | quoted delim =>
      have hdelim : isQuote delim = true := hmode delim rfl
      by_cases hc : c = delim
      · subst hc
        refine hglue .code Mode.quotes_code Mode.noConfusion ?_ ?_ ?_ ?_
        · rw [segmentsFrom, if_pos rfl]
        · exact fun h => Bool.noConfusion h.2
        · rintro rfl
          cases hdelim
        · intro hc
          simp [Lexical.next, hc]
      · refine hglue (.quoted delim) hmode Mode.noConfusion ?_ ?_ (fun _ => rfl) ?_
        · rw [segmentsFrom, if_neg hc]
        · exact fun h => Bool.noConfusion h.2
        · intro hbackslash
          simp [Lexical.next, hbackslash, hc]
    | code =>
      by_cases hhash : c = '#'
      · subst hhash
        rfl
      by_cases hquote : isQuote c = true
      · refine hglue (.quoted c) (Mode.quotes_quoted hquote) Mode.noConfusion ?_ ?_ ?_ ?_
        · rw [segmentsFrom, if_neg hhash, if_pos hquote]
        · exact fun h => hhash h.1
        · rintro rfl
          cases hquote
        · intro _
          simp [Lexical.next, hquote]
      · refine hglue .code Mode.quotes_code Mode.noConfusion ?_ ?_ (fun _ => rfl) ?_
        · rw [segmentsFrom, if_neg hhash, if_neg hquote]
        · exact fun h => hhash h.1
        · intro _
          simp [Lexical.next, hquote, hhash]

theorem stripComment_eq (line : Text) :
    stripComment line =
      Text.trimEnd (beforeHash (inCommentOrString ∘ withoutBackslashes) line) :=
  congrArg Text.trimEnd (headD_segmentsFrom Mode.quotes_code Mode.noConfusion line)

theorem mode_next_backslash (s : Lexical) : (s.next '\\').mode = s.mode := by
  obtain ⟨mode, escaped⟩ := s
  cases mode <;> cases escaped <;> rfl

theorem next_unescaped {s : Lexical} {c : Char} (hc : c ≠ '\\') (h : s ≠ ⟨.quoted c, true⟩) :
    Lexical.next ⟨s.mode, false⟩ c = ⟨(s.next c).mode, false⟩ := by
  obtain ⟨mode, escaped⟩ := s
  unfold Lexical.next
  cases mode <;> cases escaped <;> grind

/-- Without an escaped delimiter, backslashes make no difference. -/
theorem mode_withoutBackslashes {s : Lexical} {t : Text}
    (h : escapesDelimiterFrom s t = false) :
    (Lexical.run ⟨s.mode, false⟩ (withoutBackslashes t)).mode = (s.run t).mode := by
  induction t generalizing s with
  | nil => rfl
  | cons c t ih =>
    obtain ⟨hc, ht⟩ := Bool.or_eq_false_iff.mp h
    have hne : s ≠ ⟨.quoted c, true⟩ := by simpa using hc
    have hbackslash : c = '\\' → (s.next c).mode = s.mode := fun hc => hc ▸ mode_next_backslash s
    rw [run_withoutBackslashes_cons hbackslash fun hc => next_unescaped hc hne, ih ht]
    rfl

theorem escapesDelimiterFrom_of_append {s : Lexical} {t u : Text}
    (h : escapesDelimiterFrom s (t ++ u) = false) : escapesDelimiterFrom s t = false := by
  induction t generalizing s with
  | nil => rfl
  | cons c t ih =>
    obtain ⟨hc, ht⟩ := Bool.or_eq_false_iff.mp h
    exact Bool.or_eq_false_iff.mpr ⟨hc, ih ht⟩

/-- **When a line loses exactly its comment.** The reader of bindings cuts a line as if it had no
    backslashes. This is where the comment starts if and only if every `#` is hidden for both
    readings, or for neither; and it is, if no string of the line holds its own delimiter,
    escaped. -/
theorem stripComment_eq_iff {line : Text} (hline : '\n' ∉ line) :
    stripComment line =
        Text.trimEnd (beforeHash (inCommentOrString ∘ withoutBackslashes) line) ∧
      (stripComment line = Text.trimEnd (beforeHash inCommentOrString line) ↔
        ∀ before after, line = before ++ '#' :: after →
          inCommentOrString (withoutBackslashes before) = inCommentOrString before) ∧
      (escapesDelimiter line = false →
        stripComment line = Text.trimEnd (beforeHash inCommentOrString line)) := by
  have hiff : stripComment line = Text.trimEnd (beforeHash inCommentOrString line) ↔
      ∀ before after, line = before ++ '#' :: after →
        inCommentOrString (withoutBackslashes before) = inCommentOrString before := by
    rw [stripComment_eq, trimEnd_beforeHash_eq_iff,
      beforeHash_eq_iff (hidesOthers_withoutBackslashes hline)
        (hidesOthers_inCommentOrString hline)]
    rfl
  refine ⟨stripComment_eq line, hiff, fun hescape => hiff.mpr ?_⟩
  rintro before after rfl
  have hmode := mode_withoutBackslashes (escapesDelimiterFrom_of_append hescape)
  unfold inCommentOrString
  exact congrArg (fun mode => decide (mode ≠ Mode.code)) hmode

/-- An escaped quote of the other kind, an escaped backslash, a `#` in a string, and a quote in the
    comment. -/
theorem stripComment_eq_iff_other_quote :
    let line : Text := "b = Book('\\\"', '# \\\\')  # it's"
    '\n' ∉ line ∧ escapesDelimiter line = false ∧
      stripComment line = Text.trimEnd (beforeHash inCommentOrString line) ∧
      stripComment line = "b = Book('\\\"', '# \\\\')".toList := by
  intro line
  have hline : '\n' ∉ line := by decide
  have hescape : escapesDelimiter line = false := by decide +kernel
  exact ⟨hline, hescape, (stripComment_eq_iff hline).2.2 hescape, by decide +kernel⟩

/-- An escaped quote makes a `#` of the string cut the line, and it hides the `#` of a comment. -/
theorem escaped_quote_moves_comment :
    let inString : Text := "b = Book('it\\'s # 1')"
    let commented : Text := "b = Book(\"\\\"\")  # 1"
    ('\n' ∉ inString ∧ stripComment inString = "b = Book('it\\'s".toList ∧
      beforeHash inCommentOrString inString = inString ∧
      stripComment inString ≠ Text.trimEnd (beforeHash inCommentOrString inString)) ∧
    ('\n' ∉ commented ∧ stripComment commented = commented ∧
      beforeHash inCommentOrString commented = "b = Book(\"\\\"\")  ".toList ∧
      stripComment commented ≠ Text.trimEnd (beforeHash inCommentOrString commented)) := by
  decide +kernel

end OrmLens.Cursor
