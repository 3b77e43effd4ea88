/-
  What cutting an argument list leaves of its code.

  Two readings meet there. The commas are found by the one that knows escapes, and so is the code
  of a text here (`codeOf`): what is no comment and no white space. Each piece between two commas
  is then cut down to its first stretch of code by the other reading, which knows no escapes.

  Cutting at the commas loses nothing else (`codeOf_pieces`). Of a piece, everything up to the `#`
  that ends its first stretch is kept (`CutAt.codeOf_firstCode`), and what stands behind is lost.
  `splitArguments_keeps_code_iff` says when this is no code: the `#` starts a comment for the first
  reading too, and the lines below hold comments only.
-/
import Mathlib.Data.List.Basic
import Mathlib.Data.List.Flatten
import Mathlib.Data.List.TakeWhile
import OrmLens.Source.Argument

namespace OrmLens.Source

open CharClass

/-! ## Code -/

namespace Lexical

/-- Whether a character is code: part of no comment, and not white space. -/
def keeps (s : Lexical) (c : Char) : Bool :=
  !isSpace c && match s.mode with
    | .code => c != '#'
    | .comment => false
    | .quoted _ => true

/-- The depth after a character. A closing bracket without partner leaves it at zero. -/
def depthAfter (s : Lexical) (depth : Nat) (c : Char) : Nat :=
  match s.bracket c with
  | .opening => depth + 1
  | .closing => depth - 1
  | .other => depth

/-- An escape is pending inside strings only. -/
def Settled (s : Lexical) : Prop := (∀ delim, s.mode ≠ .quoted delim) → s.escaped = false

theorem Settled.next {s : Lexical} (h : s.Settled) (c : Char) : (s.next c).Settled := by
  unfold Settled Lexical.next at *
  grind

theorem Settled.run {s : Lexical} (h : s.Settled) (t : Text) : (s.run t).Settled := by
  induction t generalizing s with
  | nil => exact h
  | cons c t ih => exact ih (h.next c)

theorem settled_start : Settled {} := fun _ => rfl

/-- Between two characters of code, nothing but their being code is remembered. -/
theorem Settled.eq_start {s : Lexical} (h : s.Settled) (hmode : s.mode = .code) : s = {} := by
  obtain ⟨mode, escaped⟩ := s
  obtain rfl : mode = .code := hmode
  obtain rfl : escaped = false := h fun _ => Mode.noConfusion
  rfl

end Lexical

/-- Strings start with a quote. -/
def Mode.Quotes (mode : Mode) : Prop := ∀ delim, mode = .quoted delim → isQuote delim = true

theorem Mode.quotes_code : Mode.code.Quotes := fun _ => Mode.noConfusion

theorem Mode.quotes_comment : Mode.comment.Quotes := fun _ => Mode.noConfusion

theorem Mode.quotes_quoted {c : Char} (h : isQuote c = true) : (Mode.quoted c).Quotes := by
  rintro delim heq
  obtain rfl := Mode.quoted.inj heq
  exact h

/-- The characters of a text that are code, if it is read on in a state. -/
def codeFrom (s : Lexical) : Text → Text
  | [] => []
  | c :: t => if s.keeps c then c :: codeFrom (s.next c) t else codeFrom (s.next c) t

/-- A text without its comments and its white space, that in strings included. -/
def codeOf (t : Text) : Text := codeFrom {} t

/-- The code without the commas that `piecesFrom` cuts at. -/
def topCodeFrom (s : Lexical) (depth : Nat) : Text → Text
  | [] => []
  | c :: t =>
    let rest := topCodeFrom (s.next c) (s.depthAfter depth c) t
    if s.keeps c && !(s.comma c && depth == 0) then c :: rest else rest

/-- The code of a text without the commas outside all strings, comments and brackets. -/
def topCode (t : Text) : Text := topCodeFrom {} 0 t

theorem codeFrom_append (s : Lexical) (t u : Text) :
    codeFrom s (t ++ u) = codeFrom s t ++ codeFrom (s.run t) u := by
  induction t generalizing s with
  | nil => rfl
  | cons c t ih =>
    have hrest : codeFrom (s.next c) (t ++ u) =
        codeFrom (s.next c) t ++ codeFrom (s.run (c :: t)) u := ih (s.next c)
    rw [List.cons_append, codeFrom, codeFrom, hrest]
    split <;> rfl

/-! ## White space -/

theorem next_of_isSpace {c : Char} (h : isSpace c = true) : ({} : Lexical).next c = {} := by
  have hquote : isQuote c = false := eq_false_of_isSpace (by decide +kernel) h
  have hhash : c ≠ '#' := by
    rintro rfl
    exact absurd h (by decide)
  simp [Lexical.next, hquote, hhash]

theorem run_of_isSpace {t : Text} (h : ∀ c ∈ t, isSpace c = true) : Lexical.run {} t = {} := by
  induction t with
  | nil => rfl
  | cons c t ih =>
    obtain ⟨hc, ht⟩ := List.forall_mem_cons.mp h
    calc Lexical.run {} (c :: t) = (({} : Lexical).next c).run t := rfl
      _ = {} := by rw [next_of_isSpace hc, ih ht]

theorem codeFrom_of_isSpace (s : Lexical) {t : Text} (h : ∀ c ∈ t, isSpace c = true) :
    codeFrom s t = [] := by
  induction t generalizing s with
  | nil => rfl
  | cons c t ih =>
    obtain ⟨hc, ht⟩ := List.forall_mem_cons.mp h
    rw [codeFrom, if_neg (by simp [Lexical.keeps, hc]), ih (s.next c) ht]

theorem isSpace_of_mem_takeWhile {t : Text} : ∀ c ∈ t.takeWhile isSpace, isSpace c = true :=
  fun _ hc => List.mem_takeWhile_imp hc

theorem codeOf_trimStart (t : Text) : codeOf (Text.trimStart t) = codeOf t := by
  let lead := t.takeWhile isSpace
  have hlead : ∀ c ∈ lead, isSpace c = true := isSpace_of_mem_takeWhile
  calc codeOf (Text.trimStart t)
      = codeOf lead ++ codeFrom (Lexical.run {} lead) (Text.trimStart t) := by
        rw [codeOf, codeOf, codeFrom_of_isSpace {} hlead, run_of_isSpace hlead, List.nil_append]
    _ = codeOf t := by
        rw [codeOf, ← codeFrom_append, Text.takeWhile_append_trimStart, codeOf]

theorem codeFrom_trimEnd (s : Lexical) (t : Text) : codeFrom s (Text.trimEnd t) = codeFrom s t := by
  let trail := Text.takeEndWhile isSpace t
  have htrail : ∀ c ∈ trail, isSpace c = true := fun c hc =>
    isSpace_of_mem_takeWhile c (List.mem_reverse.mp hc)
  calc codeFrom s (Text.trimEnd t)
      = codeFrom s (Text.trimEnd t) ++ codeFrom (s.run (Text.trimEnd t)) trail := by
        rw [codeFrom_of_isSpace _ htrail, List.append_nil]
    _ = codeFrom s t := by
        rw [← codeFrom_append, Text.trimEnd, Text.dropEndWhile_append_takeEndWhile]

theorem codeOf_trim (t : Text) : codeOf (Text.trim t) = codeOf t :=
  (codeFrom_trimEnd {} _).trans (codeOf_trimStart t)

theorem isSpace_of_trim {t : Text} (h : Text.trim t = []) : ∀ c ∈ t, isSpace c = true := by
  have hstart : ∀ c ∈ Text.trimStart t, isSpace c = true := fun c hc =>
    List.dropWhile_eq_nil_iff.mp (List.reverse_eq_nil_iff.mp h) c (List.mem_reverse.mpr hc)
  intro c hc
  rw [← Text.takeWhile_append_trimStart t] at hc
  exact (List.mem_append.mp hc).elim (isSpace_of_mem_takeWhile c) (hstart c)

/-! ## Comments -/

/-- A comment hides the rest of its line. -/
theorem codeFrom_comment (rest : Text) :
    codeFrom { mode := .comment } rest = codeOf (rest.dropWhile (· ≠ '\n')) := by
  induction rest with
  | nil => rfl
  | cons c rest ih =>
    by_cases hc : c = '\n'
    · subst hc
      rfl
    · have hnext : ({ mode := .comment } : Lexical).next c = { mode := .comment } := by
        simp [Lexical.next, hc]
      rw [codeFrom, if_neg (by simp [Lexical.keeps]), hnext, ih, List.dropWhile_cons_of_pos]
      exact decide_eq_true hc

/-- When nothing from a `#` on is code. -/
theorem codeFrom_hash_eq_nil_iff {s : Lexical} (hs : s.Settled) (rest : Text) :
    codeFrom s ('#' :: rest) = [] ↔
      (∀ delim, s.mode ≠ .quoted delim) ∧ codeOf (rest.dropWhile (· ≠ '\n')) = [] := by
  obtain ⟨mode, escaped⟩ := s
  cases mode with
  | quoted delim => simp [codeFrom, Lexical.keeps, show isSpace '#' = false by decide]
  | code | comment =>
    obtain rfl : escaped = false := hs fun _ => Mode.noConfusion
    rw [← codeFrom_comment]
    exact ⟨fun h => ⟨fun _ => Mode.noConfusion, h⟩, fun h => h.2⟩

/-! ## Pieces -/

theorem piecesFrom_cons_of_comma {s : Lexical} {depth : Nat} {c : Char}
    (h : (s.comma c && depth == 0) = true) (t : Text) :
    piecesFrom s depth (c :: t) = [] :: piecesFrom (s.next c) depth t := if_pos h

theorem piecesFrom_cons_of_not_comma {s : Lexical} {depth : Nat} {c : Char}
    (h : ¬(s.comma c && depth == 0) = true) (t : Text) :
    piecesFrom s depth (c :: t) = Text.glue c (piecesFrom (s.next c) (s.depthAfter depth c) t) :=
  if_neg h

/-- Reading a text in pieces, each from the start, finds the code between the commas. -/
theorem topCodeFrom_eq {s : Lexical} (hs : s.Settled) (depth : Nat) (t : Text) {p : Text}
    {ps : List Text} (hp : piecesFrom s depth t = p :: ps) :
    topCodeFrom s depth t = codeFrom s p ++ ps.flatMap codeOf := by
  induction t generalizing s depth p ps with
  | nil =>
    cases hp
    rfl
  | cons c t ih =>
    obtain ⟨q, qs, hq⟩ := List.exists_cons_of_ne_nil
      (piecesFrom_ne_nil (s.next c) (s.depthAfter depth c) t)
    have hrest := ih (hs.next c) _ hq
    by_cases hcomma : (s.comma c && depth == 0) = true
    · obtain ⟨⟨hmode, rfl⟩, rfl⟩ : (s.mode = .code ∧ c = ',') ∧ depth = 0 := by
        simpa [Lexical.comma] using hcomma
      obtain rfl : s = {} := hs.eq_start hmode
      rw [piecesFrom_cons_of_comma hcomma, show piecesFrom _ 0 t = q :: qs from hq] at hp
      obtain ⟨rfl, rfl⟩ := List.cons.inj hp
      exact hrest
    · rw [piecesFrom_cons_of_not_comma hcomma, hq] at hp
      obtain ⟨rfl, rfl⟩ := List.cons.inj hp
      rw [topCodeFrom, hrest, codeFrom, Bool.eq_false_iff.mpr hcomma, Bool.not_false, Bool.and_true]
      split <;> rfl

/-- **Cutting at the commas loses the commas only**, as far as code goes. -/
theorem codeOf_pieces (t : Text) : topCode t = (pieces t).flatMap codeOf := by
  obtain ⟨p, ps, hp⟩ := List.exists_cons_of_ne_nil (piecesFrom_ne_nil {} 0 t)
  rw [pieces, hp]
  exact topCodeFrom_eq Lexical.settled_start 0 t hp

/-! ## The end of the first stretch -/

/-- A `#` behind the text starts its first comment, for the reading without escapes. -/
def OpensComment (t : Text) : Prop :=
  ∀ rest, segments (t ++ '#' :: rest) = t :: segmentsFrom .comment rest

/-- The first stretch of code in a text ends at a `#`: what stands before the `#`, and what stands
    behind. Comments before the stretch end with their lines. -/
inductive CutAt : Text → Text → Text → Prop
  | first {code rest : Text} (hcode : OpensComment code) (hsome : Text.trim code ≠ []) :
    CutAt (code ++ '#' :: rest) code rest
  | later {blank line t before rest : Text} (hopens : OpensComment blank)
    (hblank : Text.trim blank = []) (hline : '\n' ∉ line) (hcut : CutAt t before rest) :
    CutAt (blank ++ '#' :: (line ++ '\n' :: t)) (blank ++ '#' :: (line ++ '\n' :: before)) rest

/-- A text is one stretch of code, or a comment ends the first one. -/
theorem segmentsFrom_eq_or {mode : Mode} (hmode : mode ≠ .comment) (t : Text) :
    segmentsFrom mode t = [t] ∨ ∃ code rest, t = code ++ '#' :: rest ∧
      ∀ x, segmentsFrom mode (code ++ '#' :: x) = code :: segmentsFrom .comment x := by
  induction t generalizing mode with
  | nil => exact .inl (by cases mode <;> rfl)
  | cons c t ih =>
    -- The mode behind `c`, unless a comment starts there.
    have hglue (next : Mode) (hnext : next ≠ .comment)
        (hc : ∀ x, segmentsFrom mode (c :: x) = Text.glue c (segmentsFrom next x)) :
        segmentsFrom mode (c :: t) = [c :: t] ∨ ∃ code rest, c :: t = code ++ '#' :: rest ∧
          ∀ x, segmentsFrom mode (code ++ '#' :: x) = code :: segmentsFrom .comment x := by
      rcases ih hnext with ht | ⟨code, rest, rfl, hx⟩
      · exact .inl (by rw [hc, ht]; rfl)
      · exact .inr ⟨c :: code, rest, rfl, fun x => by rw [List.cons_append, hc, hx]; rfl⟩
    cases mode with
    | comment => exact absurd rfl hmode
    | quoted delim =>
      refine hglue (if c = delim then .code else .quoted delim) ?_ fun _ => rfl
      split <;> exact Mode.noConfusion
    | code =>
      by_cases hhash : c = '#'
      · subst hhash
        exact .inr ⟨[], t, rfl, fun _ => rfl⟩
      · refine hglue (if isQuote c then .quoted c else .code) ?_ fun _ => if_neg hhash
        split <;> exact Mode.noConfusion

theorem segments_eq_or (t : Text) :
    segments t = [t] ∨ ∃ code rest, t = code ++ '#' :: rest ∧ OpensComment code :=
  segmentsFrom_eq_or Mode.noConfusion t

theorem segmentsFrom_comment {line : Text} (hline : '\n' ∉ line) :
    segmentsFrom .comment line = [[]] := by
  induction line with
  | nil => rfl
  | cons c line ih =>
    rw [segmentsFrom, if_neg (List.ne_of_not_mem_cons hline).symm,
      ih (List.not_mem_of_not_mem_cons hline)]

theorem segmentsFrom_comment_append {line : Text} (hline : '\n' ∉ line) (t : Text) :
    segmentsFrom .comment (line ++ '\n' :: t) = segments t := by
  induction line with
  | nil => rfl
  | cons c line ih =>
    rw [List.cons_append, segmentsFrom, if_neg (List.ne_of_not_mem_cons hline).symm,
      ih (List.not_mem_of_not_mem_cons hline)]

/-! ## What is kept -/

theorem firstCode_of_not_blank {t code : Text} {others : List Text}
    (ht : segments t = code :: others) (hsome : Text.trim code ≠ []) : firstCode t = Text.trim code := by
  rw [firstCode, ht, List.map_cons, List.find?_cons_of_pos]
  · rfl
  · simpa using hsome

theorem firstCode_of_blank {t blank : Text} {others : List Text}
    (ht : segments t = blank :: others) (hblank : Text.trim blank = []) :
    firstCode t = ((others.map Text.trim).find? (!·.isEmpty)).getD [] := by
  rw [firstCode, ht, List.map_cons, List.find?_cons_of_neg]
  simp [hblank]

/-- White space, and a comment: the code is what stands below. -/
theorem codeOf_of_blank {blank : Text} (hblank : Text.trim blank = []) (rest : Text) :
    codeOf (blank ++ '#' :: rest) = codeOf (rest.dropWhile (· ≠ '\n')) := by
  have hspace := isSpace_of_trim hblank
  calc codeOf (blank ++ '#' :: rest)
      = codeOf blank ++ codeFrom (Lexical.run {} blank) ('#' :: rest) := codeFrom_append {} _ _
    _ = codeFrom {} ('#' :: rest) := by
      rw [codeOf, codeFrom_of_isSpace {} hspace, run_of_isSpace hspace, List.nil_append]
    _ = codeOf (rest.dropWhile (· ≠ '\n')) := codeFrom_comment rest

/-- A comment with its line, before the first stretch of code. -/
theorem codeOf_below {blank line : Text} (hblank : Text.trim blank = []) (hline : '\n' ∉ line)
    (t : Text) : codeOf (blank ++ '#' :: (line ++ '\n' :: t)) = codeOf t := by
  have hskip : ∀ c ∈ line, decide (c ≠ '\n') = true := fun c hc =>
    decide_eq_true fun heq => hline (heq ▸ hc)
  rw [codeOf_of_blank hblank, List.dropWhile_append_of_pos hskip]
  rfl

theorem firstCode_below {blank line : Text} (hopens : OpensComment blank)
    (hblank : Text.trim blank = []) (hline : '\n' ∉ line) (t : Text) :
    firstCode (blank ++ '#' :: (line ++ '\n' :: t)) = firstCode t := by
  have hsegments : segments (blank ++ '#' :: (line ++ '\n' :: t)) = blank :: segments t := by
    rw [hopens, segmentsFrom_comment_append hline]
  exact firstCode_of_blank hsegments hblank

namespace CutAt

variable {t before rest : Text}

theorem eq_append (h : CutAt t before rest) : t = before ++ '#' :: rest := by
  induction h with
  | first => rfl
  | later _ _ _ _ ih => rw [List.append_assoc, List.cons_append, List.append_assoc, ih]; rfl

/-- What stands before the `#` is kept. -/
theorem codeOf_firstCode (h : CutAt t before rest) : codeOf (firstCode t) = codeOf before := by
  induction h with
  | first hcode hsome => rw [firstCode_of_not_blank (hcode _) hsome, codeOf_trim]
  | later hopens hblank hline _ ih =>
    rw [firstCode_below hopens hblank hline, codeOf_below hblank hline, ih]

/-- The code from the `#` on is what is lost. -/
theorem codeOf_eq (h : CutAt t before rest) :
    codeOf t = codeOf (firstCode t) ++ codeFrom (Lexical.run {} before) ('#' :: rest) := by
  rw [h.codeOf_firstCode, codeOf, codeOf, ← codeFrom_append, ← h.eq_append]

end CutAt

/-- A text that is not cut keeps all its code. -/
theorem exists_cutAt_or (t : Text) :
    (∃ before rest, CutAt t before rest) ∨ codeOf (firstCode t) = codeOf t := by
  rcases segments_eq_or t with hall | ⟨code, rest, rfl, hopens⟩
  · refine .inr ?_
    by_cases hblank : Text.trim t = []
    · rw [firstCode_of_blank hall hblank, ← codeOf_trim t, hblank]
      rfl
    · rw [firstCode_of_not_blank hall hblank, codeOf_trim]
  by_cases hblank : Text.trim code = []
  · by_cases hnewline : '\n' ∈ rest
    · obtain ⟨line, below, rfl, hline⟩ := List.eq_append_cons_of_mem hnewline
      rcases exists_cutAt_or below with ⟨before, rest, hcut⟩ | hkept
      · exact .inl ⟨_, _, .later hopens hblank hline hcut⟩
      · refine .inr ?_
        rw [firstCode_below hopens hblank hline, codeOf_below hblank hline, hkept]
    · have hskip : rest.dropWhile (· ≠ '\n') = [] := List.dropWhile_eq_nil_iff.mpr fun c hc =>
        decide_eq_true fun heq => hnewline (heq ▸ hc)
      refine .inr ?_
      rw [firstCode_of_blank (hopens rest) hblank, segmentsFrom_comment hnewline,
        codeOf_of_blank hblank, hskip]
      rfl
  · exact .inl ⟨_, _, .first hopens hblank⟩
termination_by t.length
decreasing_by
  subst_vars
  simp only [List.length_append, List.length_cons]
  omega

/-- What is kept of the code of a piece is its beginning. -/
theorem codeOf_firstCode_leads (t : Text) : codeOf (firstCode t) <+: codeOf t := by
  rcases exists_cutAt_or t with ⟨before, rest, hcut⟩ | hkept
  · exact ⟨_, hcut.codeOf_eq.symm⟩
  · exact hkept ▸ List.prefix_rfl

/-- When a piece keeps all its code. -/
theorem codeOf_firstCode_eq_iff (t : Text) :
    codeOf (firstCode t) = codeOf t ↔ ∀ before rest, CutAt t before rest →
      (∀ delim, (Lexical.run {} before).mode ≠ .quoted delim) ∧
        codeOf (rest.dropWhile (· ≠ '\n')) = [] := by
  have hsettled := Lexical.settled_start.run
  constructor
  · intro hkept before rest hcut
    have hlost := hcut.codeOf_eq
    rw [hkept] at hlost
    exact (codeFrom_hash_eq_nil_iff (hsettled before) rest).mp (List.self_eq_append_right.mp hlost)
  · intro hbare
    rcases exists_cutAt_or t with ⟨before, rest, hcut⟩ | hkept
    · have hnone := (codeFrom_hash_eq_nil_iff (hsettled before) rest).mpr (hbare before rest hcut)
      rw [hcut.codeOf_eq, hnone, List.append_nil]
    · exact hkept

/-! ## Argument lists -/

theorem codeOf_splitArguments (t : Text) :
    (splitArguments t).flatMap codeOf = (pieces t).flatMap fun p => codeOf (firstCode p) := by
  rw [splitArguments]
  induction pieces t with
  | nil => rfl
  | cons p ps ih =>
    rw [List.map_cons, List.flatMap_cons, ← ih]
    cases hp : firstCode p <;> rfl

theorem flatMap_eq_iff_of_sublist {l : List Text} {f g : Text → Text}
    (h : ∀ p ∈ l, (f p).Sublist (g p)) : l.flatMap f = l.flatMap g ↔ ∀ p ∈ l, f p = g p := by
  refine ⟨fun heq => ?_, List.flatMap_congr⟩
  induction l with
  | nil => exact fun p hp => absurd hp List.not_mem_nil
  | cons p l ih =>
    obtain ⟨hp, hl⟩ := List.forall_mem_cons.mp h
    rw [List.flatMap_cons, List.flatMap_cons] at heq
    have hrest := (List.Sublist.flatMap_right l hl).length_le
    have hlength : (f p).length = (g p).length := by
      have htotal := congrArg List.length heq
      rw [List.length_append, List.length_append] at htotal
      have := hp.length_le
      omega
    obtain ⟨hfirst, hothers⟩ := List.append_inj heq hlength
    exact List.forall_mem_cons.mpr ⟨hfirst, ih hl hothers⟩

/-- **What cutting an argument list keeps.** The items hold code of the list in its order, and never
    a comma between arguments. They hold all of it exactly if no argument is cut in the middle:
    wherever the first stretch of code of a piece ends at a `#`, this `#` does not stand in a string
    and no code stands below its line. -/
theorem splitArguments_keeps_code_iff (t : Text) :
    ((splitArguments t).flatMap codeOf).Sublist (topCode t) ∧
      ((splitArguments t).flatMap codeOf = topCode t ↔
        ∀ p ∈ pieces t, ∀ before rest, CutAt p before rest →
          (∀ delim, (Lexical.run {} before).mode ≠ .quoted delim) ∧
            codeOf (rest.dropWhile (· ≠ '\n')) = []) := by
  have hkept : ∀ p ∈ pieces t, (codeOf (firstCode p)).Sublist (codeOf p) := fun p _ =>
    (codeOf_firstCode_leads p).sublist
  rw [codeOf_splitArguments, codeOf_pieces, flatMap_eq_iff_of_sublist hkept]
  refine ⟨List.Sublist.flatMap_right _ hkept, ?_⟩
  exact forall₂_congr fun p _ => codeOf_firstCode_eq_iff p

/-- Comments before an argument and behind it, one with a quote and one with a comma: no cut leaves
    code below. -/
theorem splitArguments_keeps_code_between_comments :
    let t : Text := "\n  # it's, so to say\n  'Author',  # one\n  null=True  # or\n  # not\n"
    splitArguments t = ["'Author'".toList, "null=True".toList] ∧
      ∀ p ∈ pieces t, ∀ before rest, CutAt p before rest →
        codeOf (rest.dropWhile (· ≠ '\n')) = [] := by
  intro t
  have hkept : (splitArguments t).flatMap codeOf = topCode t := by decide +kernel
  have hbare := (splitArguments_keeps_code_iff t).2.mp hkept
  exact ⟨by decide +kernel, fun p hp before rest hcut => (hbare p hp before rest hcut).2⟩

/-- An escaped quote makes a `#` of the string end the argument, and so does the comment of a line
    on which the argument goes on below. -/
theorem splitArguments_loses_code :
    let escaped : Text := "help_text='it\\'s # 1', default=1"
    let continued : Text := "choices=[1, # one\n  2], default=1"
    (splitArguments escaped = ["help_text='it\\'s".toList, "default=1".toList] ∧
      (splitArguments escaped).flatMap codeOf ≠ topCode escaped) ∧
    (splitArguments continued = ["choices=[1,".toList, "default=1".toList] ∧
      (splitArguments continued).flatMap codeOf ≠ topCode continued) := by
  decide +kernel

end OrmLens.Source
