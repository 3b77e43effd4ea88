/-
  The chain at the end of a text, found backwards.

  A chain is written forwards and read forwards with strings, comments and three kinds of brackets.
  The search for the chain that a text ends with goes backwards and counts round and square brackets
  wherever they stand. `trailingExpr_renderChain_iff` says when it finds the chain that was written:
  counted from the end, the brackets meet (`MeetsBackwards`). They do if both readings see the same
  brackets in every argument text (`SeenAlike`). `bracket_hides_chain` shows that a bracket
  in a string, in a comment, or of another kind than its partner, hides the whole chain.

  The search is followed character by character (`backward?`), and what it has read is all that
  the rest of the text is told of (`takeChain_append_of_some`).
-/
import Mathlib.Data.List.TakeWhile
import OrmLens.Proofs.Cursor.ChainText

namespace OrmLens.Cursor

open CharClass Source

/-! ## Brackets as the search sees them -/

/-- What a character does to the depth of the search. -/
def roundBracket (c : Char) : Bracket :=
  if c = ')' ∨ c = ']' then .closing else if c = '(' ∨ c = '[' then .opening else .other

/-- The number of closing round and square brackets, also those in strings and comments. -/
def closers (t : Text) : Nat := t.countP (roundBracket · = .closing)

/-- The number of opening round and square brackets, also those in strings and comments. -/
def openers (t : Text) : Nat := t.countP (roundBracket · = .opening)

/-- Counted from the end, the brackets meet: there are as many of both, and wherever those behind a
    place have met already, a closing bracket or a character of a chain stands there. -/
def MeetsBackwards (t : Text) : Prop :=
  openers t = closers t ∧ ∀ before c after, t = before ++ c :: after →
    closers after ≤ openers after → roundBracket c = .closing ∨ isChainChar c = true

/-- Both readings of a text see the same brackets: the scanner, which knows strings and comments and
    three kinds, and the search. -/
def SeenAlike (t : Text) : Prop :=
  ∀ before c after, t = before ++ c :: after →
    (Lexical.run {} before).bracket c = roundBracket c

/-- The text in front of a chain is empty, or it ends in a character that ends the search. -/
def EndsSearch (head : Text) : Prop := ∀ c ∈ head.getLast?, c ∈ [' ', '=', '(', ',']

instance (head : Text) : Decidable (EndsSearch head) :=
  decidable_of_iff (head.getLast?.all ([' ', '=', '(', ','].contains ·) = true) <| by
    rw [EndsSearch]
    cases head.getLast? <;> simp

/-! ## One character -/

/-- The depth of the search after a character, unless the search ends there. -/
def backward? (depth : Nat) (c : Char) : Option Nat :=
  match roundBracket c, depth with
  | .closing, depth => some (depth + 1)
  | .opening, 0 => none
  | .opening, depth + 1 => some depth
  | .other, 0 => if isChainChar c then some 0 else none
  | .other, depth + 1 => some (depth + 1)

theorem roundBracket_eq_closing_iff {c : Char} : roundBracket c = .closing ↔ c = ')' ∨ c = ']' := by
  unfold roundBracket
  grind

theorem roundBracket_eq_opening_iff {c : Char} : roundBracket c = .opening ↔ c = '(' ∨ c = '[' := by
  unfold roundBracket
  grind

theorem roundBracket_of_isChainChar {c : Char} (h : isChainChar c = true) :
    roundBracket c = .other := by
  cases hbracket : roundBracket c with
  | closing =>
    rcases roundBracket_eq_closing_iff.mp hbracket with rfl | rfl <;> exact absurd h (by decide)
  | opening =>
    rcases roundBracket_eq_opening_iff.mp hbracket with rfl | rfl <;> exact absurd h (by decide)
  | other => rfl

theorem backward?_of_isChainChar {c : Char} (h : isChainChar c = true) :
    backward? 0 c = some 0 := by
  simp [backward?, roundBracket_of_isChainChar h, h]

/-- When the search ends at a character. -/
theorem backward?_eq_none_iff {depth : Nat} {c : Char} :
    backward? depth c = none ↔
      depth = 0 ∧ roundBracket c ≠ .closing ∧ isChainChar c = false := by
  have hchain : isChainChar c = true → roundBracket c = .other := roundBracket_of_isChainChar
  unfold backward?
  grind

theorem takeChain_cons (depth : Nat) (c : Char) (t : Text) :
    takeChain depth (c :: t) = match backward? depth c with
      | none => some []
      | some deeper => (takeChain deeper t).map (c :: ·) := by
  cases hbracket : roundBracket c with
  | closing =>
    have hc := roundBracket_eq_closing_iff.mp hbracket
    cases depth <;> simp [takeChain, backward?, hbracket, hc]
  | opening =>
    rcases roundBracket_eq_opening_iff.mp hbracket with rfl | rfl <;> cases depth <;> rfl
  | other =>
    have hclosing : ¬(c = ')' ∨ c = ']') := by
      rw [← roundBracket_eq_closing_iff, hbracket]
      exact nofun
    have hopening : ¬(c = '(' ∨ c = '[') := by
      rw [← roundBracket_eq_opening_iff, hbracket]
      exact nofun
    cases depth with
    | zero =>
      simp only [takeChain, backward?, hbracket, if_neg hclosing]
      split <;> rfl
    | succ depth =>
      simp only [takeChain, backward?, hbracket, if_neg hclosing, if_neg hopening]

/-! ## Many characters -/

/-- The depth of the search behind a text that is given in its order, unless it ends there. -/
def backwards? (depth : Nat) : Text → Option Nat
  | [] => some depth
  | c :: t => (backward? depth c).bind (backwards? · t)

theorem backwards?_append (depth : Nat) (t u : Text) :
    backwards? depth (t ++ u) = (backwards? depth t).bind (backwards? · u) := by
  induction t generalizing depth with
  | nil => rfl
  | cons c t ih =>
    rw [List.cons_append, backwards?, backwards?, Option.bind_assoc]
    exact Option.bind_congr fun deeper _ => ih deeper

theorem takeChain_append_of_some {depth deeper : Nat} {t : Text}
    (h : backwards? depth t = some deeper) (rest : Text) :
    takeChain depth (t ++ rest) = (takeChain deeper rest).map (t ++ ·) := by
  induction t generalizing depth with
  | nil =>
    obtain rfl := Option.some.inj h
    simp
  | cons c t ih =>
    obtain ⟨next, hnext, hrest⟩ := Option.bind_eq_some_iff.mp h
    rw [List.cons_append, takeChain_cons, hnext]
    dsimp only
    rw [ih hrest, Option.map_map]
    rfl

/-- A search that ends in a text takes less than the text. -/
theorem takeChain_append_of_none {depth : Nat} {t : Text} (h : backwards? depth t = none)
    (rest : Text) :
    ∃ front, takeChain depth (t ++ rest) = some front ∧ front.length < t.length := by
  induction t generalizing depth with
  | nil => cases h
  | cons c t ih =>
    rw [List.cons_append, takeChain_cons]
    cases hnext : backward? depth c with
    | none => exact ⟨[], rfl, by simp⟩
    | some next =>
      rw [backwards?, hnext, Option.bind_some] at h
      obtain ⟨front, hfront, hlength⟩ := ih h
      exact ⟨c :: front, by dsimp only; rw [hfront]; rfl, by simpa using hlength⟩

/-! ## Counting brackets -/

theorem closers_cons (c : Char) (t : Text) :
    closers (c :: t) = closers t + if roundBracket c = .closing then 1 else 0 := by
  simp [closers, List.countP_cons]

theorem openers_cons (c : Char) (t : Text) :
    openers (c :: t) = openers t + if roundBracket c = .opening then 1 else 0 := by
  simp [openers, List.countP_cons]

theorem closers_reverse (t : Text) : closers t.reverse = closers t := List.countP_reverse

theorem openers_reverse (t : Text) : openers t.reverse = openers t := List.countP_reverse

theorem backward?_eq_some {depth deeper : Nat} {c : Char} (h : backward? depth c = some deeper) :
    (deeper + if roundBracket c = .opening then 1 else 0) =
        (depth + if roundBracket c = .closing then 1 else 0) ∧
      (depth = 0 → roundBracket c = .closing ∨ isChainChar c = true) := by
  unfold backward? at h
  grind

theorem forall_split_cons {p : Text → Char → Prop} {c : Char} {t : Text} :
    (∀ before x after, c :: t = before ++ x :: after → p before x) ↔
      p [] c ∧ ∀ before x after, t = before ++ x :: after → p (c :: before) x := by
  refine ⟨fun h => ⟨h [] c t rfl, fun before x after ht => h (c :: before) x after ?_⟩,
    fun ⟨hfirst, hmore⟩ before x after ht => ?_⟩
  · rw [ht]
    rfl
  · cases before with
    | nil =>
      obtain ⟨rfl, -⟩ := List.cons.inj ht
      exact hfirst
    | cons d before =>
      obtain ⟨rfl, hrest⟩ := List.cons.inj ht
      exact hmore before x after hrest

/-- **Where the search goes on** from one depth to another: the brackets make up the difference, and
    wherever all that were open are met, it does not end. -/
theorem backwards?_eq_some_iff {depth deeper : Nat} {t : Text} :
    backwards? depth t = some deeper ↔ deeper + openers t = depth + closers t ∧
      ∀ before c after, t = before ++ c :: after → depth + closers before ≤ openers before →
        roundBracket c = .closing ∨ isChainChar c = true := by
  induction t generalizing depth with
  | nil =>
    rw [backwards?, Option.some.injEq]
    exact ⟨fun h => ⟨h.symm, fun before c after ht => absurd ht (by simp)⟩, fun h => h.1.symm⟩
  | cons c t ih =>
    rw [forall_split_cons, backwards?]
    cases hnext : backward? depth c with
    | none =>
      obtain ⟨rfl, hclosing, hchain⟩ := backward?_eq_none_iff.mp hnext
      refine ⟨fun h => (nomatch h), fun ⟨_, hfirst, _⟩ => ?_⟩
      rcases hfirst (Nat.le_refl 0) with h | h
      · exact absurd h hclosing
      · rw [hchain] at h
        cases h
    | some next =>
      obtain ⟨hbalance, hfirst⟩ := backward?_eq_some hnext
      have hend : deeper + openers t = next + closers t ↔
          deeper + openers (c :: t) = depth + closers (c :: t) := by
        rw [openers_cons, closers_cons]
        omega
      have hmet (before : Text) : next + closers before ≤ openers before ↔
          depth + closers (c :: before) ≤ openers (c :: before) := by
        rw [openers_cons, closers_cons]
        omega
      have hhead : depth + closers [] ≤ openers [] →
          roundBracket c = .closing ∨ isChainChar c = true := fun h => hfirst (Nat.le_zero.mp h)
      rw [Option.bind_some, ih, hend]
      simp only [hmet]
      exact and_congr_right fun _ => (and_iff_right hhead).symm

/-- A text whose brackets meet is one that the search reads through. -/
theorem meetsBackwards_iff {t : Text} : MeetsBackwards t ↔ backwards? 0 t.reverse = some 0 := by
  rw [backwards?_eq_some_iff, openers_reverse, closers_reverse, Nat.zero_add, Nat.zero_add]
  refine and_congr_right fun _ => ⟨fun h before c after ht => ?_, fun h before c after ht => ?_⟩
  · have hsplit : t = after.reverse ++ c :: before.reverse := by
      rw [← List.reverse_reverse t, ht]
      simp
    have hcount := h _ _ _ hsplit
    rwa [closers_reverse, openers_reverse, ← Nat.zero_add (closers before)] at hcount
  · have hsplit : t.reverse = after.reverse ++ c :: before.reverse := by
      rw [ht]
      simp
    have hcount := h _ _ _ hsplit
    rwa [closers_reverse, openers_reverse, Nat.zero_add] at hcount

instance (t : Text) : Decidable (MeetsBackwards t) := decidable_of_iff _ meetsBackwards_iff.symm

/-! ## The search -/

theorem EndsSearch.getLast? {head : Text} (h : EndsSearch head) {c : Char}
    (hc : head.getLast? = some c) : backward? 0 c = none ∧ c ≠ '.' := by
  have hmem := h c hc
  simp only [List.mem_cons, List.not_mem_nil, or_false] at hmem
  rcases hmem with rfl | rfl | rfl | rfl <;> decide

theorem takeChain_of_endsSearch {head : Text} (h : EndsSearch head) :
    takeChain 0 head.reverse = some [] := by
  cases hreverse : head.reverse with
  | nil => rfl
  | cons c front =>
    have hlast : head.getLast? = some c := by rw [← List.head?_reverse, hreverse]; rfl
    rw [takeChain_cons, (h.getLast? hlast).1]

/-- Inside brackets the search goes beyond the start of the text. -/
theorem exists_of_takeChain_succ {depth : Nat} {head chain : Text} (h : EndsSearch head)
    (hchain : takeChain (depth + 1) head.reverse = some chain) :
    ∃ front c, chain.reverse = front ++ [c] ∧ c ≠ '.' := by
  cases hreverse : head.reverse with
  | nil =>
    rw [hreverse] at hchain
    cases hchain
  | cons c front =>
    have hlast : head.getLast? = some c := by rw [← List.head?_reverse, hreverse]; rfl
    rw [hreverse, takeChain_cons] at hchain
    split at hchain
    · rename_i hnone
      exact absurd (backward?_eq_none_iff.mp hnone).1 (Nat.succ_ne_zero depth)
    · obtain ⟨rest, -, rfl⟩ := Option.map_eq_some_iff.mp hchain
      exact ⟨rest.reverse, c, by simp, (h.getLast? hlast).2⟩

theorem length_dropWhile_append_lt {p : Char → Bool} {c : Char} (hc : p c = false)
    (front t : Text) : t.length < ((front ++ [c] ++ t).dropWhile p).length := by
  induction front with
  | nil => simp [hc]
  | cons d front ih =>
    rw [List.cons_append, List.cons_append, List.dropWhile_cons]
    split
    · exact ih
    · simp only [List.length_cons, List.length_append]
      omega

/-- **When a text is found behind another.** -/
theorem trailingExpr_append_eq_iff {head t : Text} (hhead : EndsSearch head) (hne : t ≠ [])
    (hdot : Stops (· == '.') t) : trailingExpr (head ++ t) = t ↔ MeetsBackwards t := by
  have hkeep : t.dropWhile (· == '.') = t := dropWhile_of_stops (s := []) (by simp) hdot
  rw [meetsBackwards_iff, trailingExpr, List.reverse_append]
  cases hend : backwards? 0 t.reverse with
  | none =>
    obtain ⟨front, hfront, hlength⟩ := takeChain_append_of_none hend head.reverse
    rw [hfront]
    refine ⟨fun heq => ?_, fun h => (nomatch h)⟩
    have hle := (List.dropWhile_suffix (· == '.') (l := front.reverse)).length_le
    dsimp only at heq
    rw [heq, List.length_reverse] at hle
    rw [List.length_reverse] at hlength
    omega
  | some depth =>
    rw [takeChain_append_of_some hend]
    cases depth with
    | zero =>
      rw [takeChain_of_endsSearch hhead]
      refine ⟨fun _ => rfl, fun _ => ?_⟩
      simpa using hkeep
    | succ depth =>
      refine ⟨fun heq => ?_, fun h => by cases h⟩
      cases hchain : takeChain (depth + 1) head.reverse with
      | none =>
        rw [hchain] at heq
        exact absurd heq.symm hne
      | some chain =>
        obtain ⟨front, c, hfront, hc⟩ := exists_of_takeChain_succ hhead hchain
        have hlength := length_dropWhile_append_lt (p := (· == '.')) (by simpa using hc) front t
        rw [hchain] at heq
        simp only [Option.map_some, List.reverse_append, List.reverse_reverse, hfront] at heq
        rw [heq] at hlength
        exact absurd hlength (Nat.lt_irrefl _)

/-! ## Chains -/

theorem isChainChar_of_isIdent {c : Char} (h : isIdent c = true) : isChainChar c = true := by
  unfold isIdent isAlphabetic isNumeric at h
  unfold isChainChar Char.isAlphanum
  grind

theorem backwards?_of_isChainChar {t : Text} (h : ∀ c ∈ t, isChainChar c = true) :
    backwards? 0 t = some 0 := by
  induction t with
  | nil => rfl
  | cons c t ih =>
    obtain ⟨hc, ht⟩ := List.forall_mem_cons.mp h
    rw [backwards?, backward?_of_isChainChar hc, Option.bind_some, ih ht]

/-- Read backwards, a text that both readings see alike undoes the depth that it was read to. -/
theorem backwards?_of_nesting {s r : Lexical} {depth deeper : Nat} {t : Text}
    (h : nesting s depth t = some (r, deeper))
    (halike : ∀ before c after, t = before ++ c :: after →
      (s.run before).bracket c = roundBracket c) :
    backwards? (deeper + 1) t.reverse = some (depth + 1) := by
  induction t generalizing s depth with
  | nil =>
    obtain ⟨rfl, rfl⟩ := Prod.mk.inj (Option.some.inj h)
    rfl
  | cons c t ih =>
    obtain ⟨next, hnext, hrest⟩ := Option.bind_eq_some_iff.mp h
    obtain ⟨hc, ht⟩ := forall_split_cons.mp halike
    have hbracket : s.bracket c = roundBracket c := hc
    have hback : backward? (next + 1) c = some (depth + 1) := by
      unfold Lexical.nest? at hnext
      unfold backward?
      rw [← hbracket]
      grind
    rw [List.reverse_cons, backwards?_append, ih hrest ht, Option.bind_some, backwards?, hback]
    rfl

theorem backwards?_grouped {opening closing : Char} (hopening : roundBracket opening = .opening)
    (hclosing : roundBracket closing = .closing) {group : Option Text}
    (h : ∀ args ∈ group, Balanced args ∧ SeenAlike args) :
    backwards? 0 (grouped opening closing group).reverse = some 0 := by
  cases group with
  | none => rfl
  | some args =>
    obtain ⟨hbalanced, halike⟩ := h args rfl
    obtain ⟨r, hnesting, -⟩ := balanced_iff.mp hbalanced
    have hreverse : (grouped opening closing (some args)).reverse =
        [closing] ++ (args.reverse ++ [opening]) := by simp [grouped]
    have hopen : backwards? 0 [closing] = some 1 := by simp [backwards?, backward?, hclosing]
    have hclose : backwards? 1 [opening] = some 0 := by simp [backwards?, backward?, hopening]
    rw [hreverse, backwards?_append, hopen, Option.bind_some, backwards?_append,
      backwards?_of_nesting hnesting halike]
    exact hclose

/-- The argument texts of a link. -/
def Segment.groups (s : Segment) : List Text := s.call.toList ++ s.subscript.toList

theorem backwards?_text {s : Segment} (hs : s.IsLink) (halike : ∀ args ∈ s.groups, SeenAlike args) :
    backwards? 0 s.text.reverse = some 0 := by
  have hname : ∀ c ∈ s.name.reverse, isChainChar c = true := fun c hc =>
    isChainChar_of_isIdent (hs.name c (List.mem_reverse.mp hc))
  have hcall : ∀ args ∈ s.call, Balanced args ∧ SeenAlike args := fun args hargs =>
    ⟨hs.call args hargs, halike args (by simp [Segment.groups, Option.mem_def.mp hargs])⟩
  have hsubscript : ∀ args ∈ s.subscript, Balanced args ∧ SeenAlike args := fun args hargs =>
    ⟨hs.subscript args hargs, halike args (by simp [Segment.groups, Option.mem_def.mp hargs])⟩
  rw [Segment.text, List.reverse_append, List.reverse_append, backwards?_append, backwards?_append,
    backwards?_grouped rfl rfl hsubscript, Option.bind_some, backwards?_grouped rfl rfl hcall,
    Option.bind_some, backwards?_of_isChainChar hname]

theorem backwards?_renderChain {chain : List Segment} (hlinks : ∀ s ∈ chain, s.IsLink)
    (halike : ∀ s ∈ chain, ∀ args ∈ s.groups, SeenAlike args) :
    backwards? 0 (renderChain chain).reverse = some 0 := by
  induction chain with
  | nil => rfl
  | cons s chain ih =>
    obtain ⟨hs, hlinks⟩ := List.forall_mem_cons.mp hlinks
    obtain ⟨hsalike, halike⟩ := List.forall_mem_cons.mp halike
    have htext := backwards?_text hs hsalike
    cases chain with
    | nil => exact htext
    | cons next chain =>
      have hdot : backwards? 0 ['.'] = some 0 := rfl
      have hcons : renderChain (s :: next :: chain) =
          s.text ++ ['.'] ++ renderChain (next :: chain) := rfl
      rw [hcons, List.reverse_append, List.reverse_append, backwards?_append, ih hlinks halike,
        Option.bind_some, List.reverse_singleton, backwards?_append, hdot, Option.bind_some, htext]

theorem exists_renderChain_cons (s : Segment) (chain : List Segment) :
    ∃ rest, renderChain (s :: chain) = s.text ++ rest := by
  cases chain with
  | nil => exact ⟨[], (List.append_nil _).symm⟩
  | cons next chain => exact ⟨['.'] ++ renderChain (next :: chain), List.append_assoc ..⟩

theorem stops_renderChain {chain : List Segment} (h : IsChain chain) :
    renderChain chain ≠ [] ∧ Stops (· == '.') (renderChain chain) := by
  obtain ⟨hne, hlinks⟩ := h
  obtain ⟨s, chain, rfl⟩ := List.exists_cons_of_ne_nil hne
  obtain ⟨c, more, hname, hstart⟩ := (hlinks s List.mem_cons_self).name_start
  obtain ⟨rest, hrest⟩ := exists_renderChain_cons s chain
  have hdot : (c == '.') = false := by
    rw [beq_eq_false_iff_ne]
    rintro rfl
    exact absurd hstart (by decide)
  rw [hrest, Segment.text, hname]
  exact ⟨List.cons_ne_nil _ _, stops_cons (p := (· == '.')) hdot _⟩

/-- **When the chain that a text ends with is found.** It is found, whatever stands in front of it,
    if and only if its round and square brackets meet when they are counted from the end, wherever
    they stand. And they meet if in every argument text the brackets that are counted are those that
    the scanner knows: round and square ones in code, no curly ones there. -/
theorem trailingExpr_renderChain_iff {chain : List Segment} (h : IsChain chain) {head : Text}
    (hhead : EndsSearch head) :
    (trailingExpr (head ++ renderChain chain) = renderChain chain ↔
      MeetsBackwards (renderChain chain)) ∧
    ((∀ s ∈ chain, ∀ args ∈ s.groups, SeenAlike args) →
      trailingExpr (head ++ renderChain chain) = renderChain chain) := by
  obtain ⟨hne, hdot⟩ := stops_renderChain h
  have hiff := trailingExpr_append_eq_iff hhead hne hdot
  refine ⟨hiff, fun halike => hiff.mpr ?_⟩
  exact meetsBackwards_iff.mpr (backwards?_renderChain h.links halike)

/-- A chain inside another call, with groups in groups, and a string whose brackets meet. -/
theorem trailingExpr_renderChain_iff_inner :
    let chain : List Segment :=
      [⟨"Book", none, none⟩, ⟨"objects", none, none⟩,
        ⟨"filter", some "a=(1, [2]), b='(c)'", some "0"⟩, ⟨"title", none, none⟩]
    IsChain chain ∧ EndsSearch "x = len(" ∧ MeetsBackwards (renderChain chain) ∧
      trailingExpr ("x = len(" ++ renderChain chain) = renderChain chain := by
  intro chain
  have hchain : IsChain chain := by decide +kernel
  have hhead : EndsSearch "x = len(" := by decide
  have hmeets : MeetsBackwards (renderChain chain) := by decide +kernel
  exact ⟨hchain, hhead, hmeets, (trailingExpr_renderChain_iff hchain hhead).1.mpr hmeets⟩

/-- A bracket in a string, one in a comment and one that closes another kind: each is balanced for
    the scanner, and each makes the search find nothing. -/
theorem bracket_hides_chain :
    let texts : List Text := ["title=\")\"", "1  # :)\n", "\x7b)"]
    ∀ args ∈ texts, IsChain [⟨"f", some args, none⟩] ∧ EndsSearch "x = " ∧
      trailingExpr ("x = " ++ renderChain [⟨"f", some args, none⟩]) = [] ∧
      trailingExpr ("x = " ++ renderChain [⟨"f", some args, none⟩]) ≠
        renderChain [⟨"f", some args, none⟩] := by
  decide +kernel

end OrmLens.Cursor
