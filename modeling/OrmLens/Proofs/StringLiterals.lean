/-
  String literals.

  A string starts with one or three quotes of one kind and ends where the same quotes stand for the
  first time without a backslash that takes the first of them with it. `stringToken?` reads a text
  forwards in this way, and `stringToken?_eq_some_iff` says what a text is that is one string and
  nothing else (`OneString`).

  `stringLiteral?` looks at the two ends of an expression only. It finds every string
  (`stringLiteral?_of_oneString`), and it takes an expression for a string as soon as it starts and
  ends with the same quotes (`stringLiteral?_eq_some_iff`). What lies between may be the end of one
  string and the start of another: `stringLiteral?_sound_iff` says for which expressions the answer
  is right, and that the values of defaults have no other rule.
-/
import OrmLens.Model.Members
import OrmLens.Proofs.Source.Spacing

namespace OrmLens.Source

open CharClass

/-! ## Strings read forwards -/

/-- Whether a backslash at the end of the text takes the next character with it, if one that stands
    before the text takes its first. -/
def escapesFrom (escaped : Bool) (t : Text) : Bool :=
  t.foldl (fun escaped c => !escaped && c == '\\') escaped

/-- Whether a backslash at the end of the text takes the next character with it. Backslashes are
    paired from the left. -/
def escapesNext (t : Text) : Bool := escapesFrom false t

/-- Reads the content of a string: what stands before the first delimiter that is not escaped, and
    what follows it. -/
def readContent (delim : Text) (escaped : Bool) : Text → Option (Text × Text)
  | [] => none
  | c :: t =>
    match (if escaped then none else Text.after? delim (c :: t)) with
    | some rest => some ([], rest)
    | none => (readContent delim (!escaped && c == '\\') t).map fun r => (c :: r.1, r.2)

/-- The string that a text starts with: its content, and what follows it. Three quotes start a
    string of their own. -/
def stringToken? (t : Text) : Option (Text × Text) :=
  match delimiters.find? (Text.startsWith t ·) with
  | some delim => (Text.after? delim t).bind (readContent delim false)
  | none => none

/-- The text is one string with the content: quotes, the content and the same quotes, which stand
    nowhere before without a backslash. -/
def OneString (t content : Text) : Prop :=
  ∃ delim ∈ delimiters, t = delim ++ (content ++ delim) ∧ escapesNext content = false ∧
    ∀ a b, content ++ delim = a ++ (delim ++ b) → escapesNext a = false → b = []

theorem readContent_eq_some_iff {delim : Text} (hdelim : delim ≠ []) {escaped : Bool}
    {t content rest : Text} :
    readContent delim escaped t = some (content, rest) ↔
      t = content ++ (delim ++ rest) ∧ escapesFrom escaped content = false ∧
        ∀ a b, t = a ++ (delim ++ b) → escapesFrom escaped a = false → content <+: a := by
  induction t generalizing escaped content with
  | nil =>
    constructor
    · intro h
      cases h
    · rintro ⟨hnil, -⟩
      simp [hdelim] at hnil
  | cons c t ih =>
    rw [readContent]
    cases hend : (if escaped then none else Text.after? delim (c :: t)) with
    | some after =>
      obtain ⟨rfl, hafter⟩ : escaped = false ∧ c :: t = delim ++ after := by
        rw [← Text.after?_eq_some_iff]
        split at hend
        · cases hend
        · exact ⟨Bool.eq_false_iff.mpr ‹_›, hend⟩
      dsimp only
      constructor
      · intro h
        obtain ⟨rfl, rfl⟩ := Prod.mk.inj (Option.some.inj h)
        exact ⟨hafter, rfl, fun _ _ _ _ => List.nil_prefix⟩
      · rintro ⟨htext, -, hfirst⟩
        obtain rfl := List.prefix_nil.mp (hfirst [] after hafter rfl)
        rw [hafter] at htext
        rw [List.append_cancel_left htext]
    | none =>
      have hno : ∀ b, c :: t = delim ++ b → escaped = true := by
        intro b hb
        by_contra hescaped
        rw [if_neg hescaped, (Text.after?_eq_some_iff _ _ _).mpr hb] at hend
        cases hend
      dsimp only
      constructor
      · intro h
        obtain ⟨⟨more, after⟩, hread, heq⟩ := Option.map_eq_some_iff.mp h
        obtain ⟨rfl, rfl⟩ := Prod.mk.inj heq
        obtain ⟨rfl, hmore, hfirst⟩ := ih.mp hread
        refine ⟨rfl, hmore, fun a b hab ha => ?_⟩
        cases a with
        | nil => exact absurd (hno b hab) (by simpa [escapesFrom] using ha)
        | cons d a =>
          obtain ⟨rfl, hrest⟩ := List.cons.inj hab
          exact List.cons_prefix_cons.mpr ⟨rfl, hfirst a b hrest ha⟩
      · rintro ⟨htext, hcontent, hfirst⟩
        cases content with
        | nil => exact absurd (hno rest htext) (by simpa [escapesFrom] using hcontent)
        | cons d content =>
          obtain ⟨rfl, rfl⟩ := List.cons.inj htext
          refine Option.map_eq_some_iff.mpr ⟨(content, rest), ih.mpr ⟨rfl, hcontent, ?_⟩, rfl⟩
          intro a b hab ha
          exact (List.cons_prefix_cons.mp (hfirst (c :: a) b (congrArg (c :: ·) hab) ha)).2

theorem ne_nil_of_mem_delimiters {delim : Text} (h : delim ∈ delimiters) : delim ≠ [] := by
  rintro rfl
  revert h
  decide

/-- A string in single quotes does not start with three of them. -/
theorem startsWith_three {quote : Char} {content : Text}
    (hfirst : ∀ a b, content ++ [quote] = a ++ ([quote] ++ b) → escapesNext a = false → b = []) :
    Text.startsWith ([quote] ++ (content ++ [quote])) [quote, quote, quote] = false := by
  rw [Bool.eq_false_iff, ne_eq, Text.startsWith_iff]
  rintro ⟨more, hmore⟩
  have htext : content ++ [quote] = [] ++ ([quote] ++ quote :: more) :=
    (List.cons.inj hmore).2.symm
  exact List.cons_ne_nil _ _ (hfirst [] _ htext rfl)

/-- The quotes of a string are the first of the delimiters that it starts with. -/
theorem find?_delimiters {delim content : Text} (hdelim : delim ∈ delimiters)
    (hfirst : ∀ a b, content ++ delim = a ++ (delim ++ b) → escapesNext a = false → b = []) :
    delimiters.find? (Text.startsWith (delim ++ (content ++ delim)) ·) = some delim := by
  have hself : Text.startsWith (delim ++ (content ++ delim)) delim = true :=
    (Text.startsWith_iff _ _).mpr (List.prefix_append _ _)
  have hother : ∀ {c e : Char} {t d : Text}, c ≠ e → Text.startsWith (c :: t) (e :: d) = false := by
    intro c e t d h
    simp [Text.startsWith, Text.after?, Ne.symm h]
  have hcases : delim = ['"', '"', '"'] ∨ delim = ['\'', '\'', '\''] ∨ delim = ['"'] ∨
      delim = ['\''] := by
    simpa [delimiters] using hdelim
  rw [delimiters]
  rcases hcases with rfl | rfl | rfl | rfl
  · exact List.find?_cons_of_pos hself
  · rw [List.find?_cons_of_neg (by rw [List.cons_append, hother (by decide)]; decide)]
    exact List.find?_cons_of_pos hself
  · rw [List.find?_cons_of_neg (by rw [startsWith_three hfirst]; decide),
      List.find?_cons_of_neg (by rw [List.cons_append, hother (by decide)]; decide)]
    exact List.find?_cons_of_pos hself
  · rw [List.find?_cons_of_neg (by rw [List.cons_append, hother (by decide)]; decide),
      List.find?_cons_of_neg (by rw [startsWith_three hfirst]; decide),
      List.find?_cons_of_neg (by rw [List.cons_append, hother (by decide)]; decide)]
    exact List.find?_cons_of_pos hself

/-- **Reading forwards** finds one string and nothing behind it exactly in such a text. -/
theorem stringToken?_eq_some_iff {t content : Text} :
    stringToken? t = some (content, []) ↔ OneString t content := by
  constructor
  · intro h
    unfold stringToken? at h
    split at h
    · rename_i delim hfind
      have hdelim : delim ∈ delimiters := List.mem_of_find?_eq_some hfind
      obtain ⟨inside, hinside, hread⟩ := Option.bind_eq_some_iff.mp h
      obtain rfl := (Text.after?_eq_some_iff _ _ _).mp hinside
      obtain ⟨rfl, hcontent, hfirst⟩ :=
        (readContent_eq_some_iff (ne_nil_of_mem_delimiters hdelim)).mp hread
      rw [List.append_nil] at hfirst ⊢
      refine ⟨delim, hdelim, rfl, hcontent, fun a b hab ha => ?_⟩
      -- The content is the beginning of `a`, so nothing is left for `b`.
      have hle := (hfirst a b hab ha).length_le
      have hlength := congrArg List.length hab
      simp only [List.length_append] at hlength
      exact List.eq_nil_of_length_eq_zero (by omega)
    · cases h
  · rintro ⟨delim, hdelim, rfl, hcontent, hfirst⟩
    unfold stringToken?
    rw [find?_delimiters hdelim hfirst]
    dsimp only
    rw [(Text.after?_eq_some_iff _ _ _).mpr rfl, Option.bind_some,
      readContent_eq_some_iff (ne_nil_of_mem_delimiters hdelim)]
    refine ⟨by rw [List.append_nil], hcontent, fun a b hab ha => ?_⟩
    obtain rfl := hfirst a b hab ha
    rw [List.append_nil] at hab
    exact (List.append_cancel_right hab) ▸ List.prefix_rfl

theorem escapesNext_of_not_mem {t : Text} (h : '\\' ∉ t) : escapesNext t = false := by
  induction t with
  | nil => rfl
  | cons c t ih =>
    rw [List.mem_cons, not_or] at h
    have hstep : (!false && c == '\\') = false := by simp [Ne.symm h.1]
    rw [escapesNext, escapesFrom, List.foldl_cons, hstep]
    exact ih h.2

/-- Quotes around a text without such quotes and without backslashes. -/
theorem oneString_quoted {quote : Char} (hquote : isQuote quote = true) {content : Text}
    (h : ∀ c ∈ content, c ≠ quote ∧ c ≠ '\\') :
    OneString (quote :: (content ++ [quote])) content := by
  have hdelim : [quote] ∈ delimiters := by
    rcases eq_of_isQuote hquote with rfl | rfl <;> decide
  refine ⟨[quote], hdelim, rfl, escapesNext_of_not_mem fun hmem => (h _ hmem).2 rfl, ?_⟩
  intro a b hab _
  rcases List.append_eq_append_iff.mp hab with ⟨more, rfl, hmore⟩ | ⟨more, rfl, hmore⟩
  · have hlength := congrArg List.length hmore
    simp only [List.length_append, List.length_singleton] at hlength
    exact List.eq_nil_of_length_eq_zero (by omega)
  · cases more with
    | nil => exact (List.cons.inj hmore).2
    | cons c more =>
      obtain ⟨rfl, -⟩ := List.cons.inj hmore
      exact absurd rfl (h quote (by simp)).1

/-! ## Strings read from both ends -/

/-- The part of an expression that is looked at: without white space around it, the localization
    call and the letters before a string. -/
def literalText (expr : Text) : Text := (unmarked (Text.trim expr)).dropWhile isStringLetter

theorem between?_eq_some_iff {delim t content : Text} :
    between? delim t = some content ↔ t = delim ++ (content ++ delim) := by
  simp [between?, Option.bind_eq_some_iff, Text.after?_eq_some_iff, Text.before?_eq_some_iff]

theorem stringLiteral?_eq (expr : Text) :
    stringLiteral? expr = delimiters.findSome? (between? · (literalText expr)) := rfl

theorem stringLiteral?_eq_some_iff {expr content : Text} :
    stringLiteral? expr = some content ↔ ∃ sooner delim later,
      delimiters = sooner ++ delim :: later ∧
      literalText expr = delim ++ (content ++ delim) ∧
      ∀ d ∈ sooner, ∀ inside, literalText expr ≠ d ++ (inside ++ d) := by
  have hnone : ∀ d, between? d (literalText expr) = none ↔
      ∀ inside, literalText expr ≠ d ++ (inside ++ d) := by
    intro d
    rw [Option.eq_none_iff_forall_ne_some]
    simp only [ne_eq, between?_eq_some_iff]
  rw [stringLiteral?_eq, List.findSome?_eq_some_iff]
  simp only [between?_eq_some_iff, hnone]

theorem enclosed_of_stringLiteral? {expr content : Text} (h : stringLiteral? expr = some content) :
    ∃ delim ∈ delimiters, literalText expr = delim ++ (content ++ delim) := by
  obtain ⟨sooner, delim, later, hlist, htext, -⟩ := stringLiteral?_eq_some_iff.mp h
  refine ⟨delim, ?_, htext⟩
  rw [hlist]
  exact List.mem_append_right _ List.mem_cons_self

/-- What starts and ends with the same quotes is taken for a string. -/
theorem exists_of_enclosed {expr delim inside : Text} (hdelim : delim ∈ delimiters)
    (h : literalText expr = delim ++ (inside ++ delim)) :
    ∃ content, stringLiteral? expr = some content := by
  refine Option.isSome_iff_exists.mp ?_
  rw [stringLiteral?_eq, List.findSome?_isSome_iff]
  exact ⟨delim, hdelim, Option.isSome_iff_exists.mpr ⟨inside, between?_eq_some_iff.mpr h⟩⟩

/-- **Every string is found**, with its content. -/
theorem stringLiteral?_of_oneString {expr content : Text}
    (h : OneString (literalText expr) content) : stringLiteral? expr = some content := by
  obtain ⟨delim, hdelim, htext, -, hfirst⟩ := h
  obtain ⟨-, sooner, later, hlist, hsooner⟩ :=
    List.find?_eq_some_iff_append.mp (find?_delimiters hdelim hfirst)
  refine stringLiteral?_eq_some_iff.mpr ⟨sooner, delim, later, hlist, htext, ?_⟩
  intro d hd inside hinside
  have hstarts : Text.startsWith (delim ++ (content ++ delim)) d = true :=
    (Text.startsWith_iff _ _).mpr ⟨inside ++ d, by rw [← htext, hinside]⟩
  have := hsooner d hd
  rw [hstarts] at this
  cases this

/-! ## Quotes -/

theorem mem_of_mem_unmarked {c : Char} {t : Text} (h : c ∈ unmarked t) : c ∈ t := by
  unfold unmarked at h
  split at h
  · exact h
  · rename_i inside hcall
    split at h
    · rename_i arg harg
      obtain ⟨call, -, hinside⟩ := List.exists_of_findSome?_eq_some hcall
      obtain rfl := (Text.after?_eq_some_iff _ _ _).mp hinside
      obtain rfl := (Text.before?_eq_some_iff _ _ _).mp harg
      have hmem : c ∈ arg := (spaced_trim arg).mem h
      exact List.mem_append_right _ (List.mem_append_left _ hmem)
    · exact h

/-- What is taken for a string has a quote in it. -/
theorem exists_quote_of_stringLiteral? {expr content : Text}
    (h : stringLiteral? expr = some content) : ∃ c ∈ Text.trim expr, isQuote c = true := by
  obtain ⟨delim, hdelim, htext⟩ := enclosed_of_stringLiteral? h
  have hquotes : delimiters.all (·.any isQuote) = true := by decide
  obtain ⟨c, hc, hquote⟩ := List.any_eq_true.mp (List.all_eq_true.mp hquotes delim hdelim)
  have hmem : c ∈ literalText expr := by
    rw [htext]
    exact List.mem_append_left _ hc
  exact ⟨c, mem_of_mem_unmarked ((List.dropWhile_suffix _).mem hmem), hquote⟩

theorem stringLiteral?_eq_none {expr : Text} (h : ∀ c ∈ Text.trim expr, isQuote c = false) :
    stringLiteral? expr = none := by
  rw [Option.eq_none_iff_forall_ne_some]
  intro content hcontent
  obtain ⟨c, hc, hquote⟩ := exists_quote_of_stringLiteral? hcontent
  rw [h c hc] at hquote
  cases hquote

theorem stringLiteral?_trim (expr : Text) :
    stringLiteral? (Text.trim expr) = stringLiteral? expr := by
  rw [stringLiteral?, stringLiteral?, trim_trim]

end OrmLens.Source

/-! ## Strings as values of defaults -/

namespace OrmLens.Model.DefaultValue

open Number Source

theorem isQuote_of_isDigit {c : Char} (h : c.isDigit = true) : isQuote c = false := by
  cases hquote : isQuote c with
  | false => rfl
  | true =>
    simp only [isQuote, Bool.or_eq_true, beq_iff_eq] at hquote
    rcases hquote with rfl | rfl <;> revert h <;> decide

theorem isQuote_of_natural? {t : Text} {n : Nat} (h : natural? t = some n) :
    ∀ c ∈ t, isQuote c = false := by
  unfold natural? at h
  split at h
  · cases h
  · rename_i hdigits
    simp only [Bool.or_eq_true, Bool.not_eq_true', not_or, Bool.not_eq_false,
      List.all_eq_true] at hdigits
    exact fun c hc => isQuote_of_isDigit (hdigits.2 c hc)

theorem isQuote_of_int64? {t : Text} {n : Int} (h : int64? t = some n) :
    ∀ c ∈ t, isQuote c = false := by
  have hsign {sign : Char} {rest : Text} {m : Nat} (hs : isQuote sign = false)
      (hm : natural? rest = some m) : ∀ c ∈ sign :: rest, isQuote c = false :=
    List.forall_mem_cons.mpr ⟨hs, isQuote_of_natural? hm⟩
  unfold int64? at h
  split at h
  · obtain ⟨m, hm, -⟩ := Option.bind_eq_some_iff.mp h
    exact hsign (by decide) hm
  · obtain ⟨k, hk, -⟩ := Option.map_eq_some_iff.mp h
    obtain ⟨m, hm, -⟩ := Option.bind_eq_some_iff.mp hk
    split at hm
    · exact hsign (by decide) hm
    · exact isQuote_of_natural? hm

theorem isQuote_of_looksFractional {t : Text} (h : looksFractional t = true) :
    ∀ c ∈ t, isQuote c = false := by
  intro c hc
  simp only [looksFractional, Bool.and_eq_true, List.all_eq_true] at h
  have hclass := h.2 c hc
  simp only [Bool.or_eq_true, beq_iff_eq] at hclass
  rcases hclass with (hdigit | rfl) | rfl
  · exact isQuote_of_isDigit hdigit
  · decide
  · decide

/-- A default is a string exactly if its expression is taken for one: nothing that is read before
    strings has a quote. -/
theorem parse_eq_str_iff {t content : Text} :
    parse t = .str content ↔ stringLiteral? t = some content := by
  rw [← stringLiteral?_trim t]
  constructor
  · intro h
    unfold parse at h
    dsimp only at h
    split at h
    · cases h
    · split at h
      · cases h
      · split at h <;> cases h
        assumption
  · intro h
    obtain ⟨c, hc, hquote⟩ := exists_quote_of_stringLiteral? h
    rw [trim_trim] at hc
    have hplain : ¬∀ c ∈ Text.trim t, isQuote c = false := by
      intro hall
      rw [hall c hc] at hquote
      cases hquote
    have hne {word : Text} (hword : word.all (!isQuote ·) = true) : Text.trim t ≠ word := by
      intro heq
      apply hplain
      rw [heq]
      simpa using hword
    have htrue : Text.trim t ≠ "True" := hne (by decide)
    have hfalse : Text.trim t ≠ "False" := hne (by decide)
    have hint : int64? (Text.trim t) = none :=
      Option.eq_none_iff_forall_ne_some.mpr fun n hn => hplain (isQuote_of_int64? hn)
    have hfraction : fraction? (Text.trim t) = none :=
      if_neg fun hlooks => hplain (isQuote_of_looksFractional hlooks)
    simp only [parse, if_neg htrue, if_neg hfalse, hint, hfraction, h]

end OrmLens.Model.DefaultValue

/-! ## Where both readings agree -/

namespace OrmLens.Source

open Model

/-- **What is taken for a string is one** exactly if the text does not start and end with the same
    quotes, or a string that is read forwards from its start goes up to its end. A string is always
    found, and the strings found are those that defaults have. -/
theorem stringLiteral?_sound_iff (expr : Text) :
    (∀ content, OneString (literalText expr) content → stringLiteral? expr = some content) ∧
    ((∀ content, stringLiteral? expr = some content → OneString (literalText expr) content) ↔
      ∀ delim ∈ delimiters, ∀ inside, literalText expr = delim ++ (inside ++ delim) →
        ∃ content, stringToken? (literalText expr) = some (content, [])) ∧
    (∀ content, DefaultValue.parse expr = .str content ↔ stringLiteral? expr = some content) := by
  refine ⟨fun _ => stringLiteral?_of_oneString, ⟨?_, ?_⟩, fun _ => DefaultValue.parse_eq_str_iff⟩
  · intro hsound delim hdelim inside htext
    obtain ⟨content, hcontent⟩ := exists_of_enclosed hdelim htext
    exact ⟨content, stringToken?_eq_some_iff.mpr (hsound content hcontent)⟩
  · intro hforwards content hcontent
    obtain ⟨delim, hdelim, htext⟩ := enclosed_of_stringLiteral? hcontent
    obtain ⟨other, hother⟩ := hforwards delim hdelim content htext
    -- The string read forwards is found as well, and there is one answer only.
    have hone := stringToken?_eq_some_iff.mp hother
    rw [stringLiteral?_of_oneString hone] at hcontent
    exact Option.some.inj hcontent ▸ hone

/-- A sum of two strings and a choice between two are taken for one string, so that the default is
    not kept as it was written and the target of a relation is its last part. What is taken for the
    content of the sum has a quote behind its first letter. -/
theorem concatenation_taken_for_string :
    stringLiteral? "'a' + 'b'" = some (("a" : Text) ++ (("'" : Text) ++ " + 'b")) ∧
      escapesNext "a" = false ∧ ¬OneString (literalText "'a' + 'b'") "a' + 'b" ∧
      DefaultValue.parse "'a' + 'b'" = .str "a' + 'b" ∧
      stringLiteral? "'a' if b else 'c'" = some ("a' if b else 'c" : Text) ∧
      targetOf? "Book" "'x' + 'app.Author'" = some ("Author" : Text) := by
  refine ⟨by decide +kernel, rfl, ?_, by decide +kernel, by decide +kernel, by decide +kernel⟩
  rw [← stringToken?_eq_some_iff]
  decide +kernel

end OrmLens.Source
