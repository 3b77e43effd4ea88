/-
  The call around the cursor.

  It is found by reading forwards once with a stack: an opening bracket of the code is put on it,
  and a closing bracket of any kind takes the last one off. The partner of a single bracket is found
  by another reading, which starts right behind it and counts. `openCall?_eq_some_iff` puts the two
  together for the text of one line: the call is the last opening bracket for which the search for a
  partner fails, if this is a parenthesis.

  A bracket with `k` others above it on the stack is taken off exactly where a group that is `k`
  brackets deep ends (`staysOpen_step`). So the stack holds what was on it before and is not closed,
  and what is opened and has no partner (`mem_openBracketsFrom_iff`), in the order of the text
  (`pairwise_openBracketsFrom`).
-/
import OrmLens.Cursor.Context
import OrmLens.Proofs.Cursor.TrailingChain
import OrmLens.Proofs.Source.Splitting

namespace OrmLens.Cursor

open Source

/-! ## The stack -/

/-- The open brackets after a character at `offset`, innermost first. -/
def stackAfter (s : Lexical) (offset : Nat) (stack : List (Nat × Char)) (c : Char) :
    List (Nat × Char) :=
  match s.bracket c with
  | .opening => (offset, c) :: stack
  | .closing => stack.tail
  | .other => stack

/-- The bracket is open before a text and is not closed in it. -/
def StaysOpen (s : Lexical) (stack : List (Nat × Char)) (t : Text) (p : Nat × Char) : Prop :=
  ∃ k, stack[k]? = some p ∧ groupFrom s k t = none

/-- The bracket is opened in a text that stands at `offset`, and is not closed there. -/
def OpenedIn (s : Lexical) (offset : Nat) (t : Text) (p : Nat × Char) : Prop :=
  ∃ before after, t = before ++ p.2 :: after ∧ p.1 = offset + Text.bytes before ∧
    (s.run before).bracket p.2 = .opening ∧ group? after = none

theorem openBracketsFrom_cons (s : Lexical) (offset : Nat) (stack : List (Nat × Char)) (c : Char)
    (t : Text) :
    openBracketsFrom s offset stack (c :: t) =
      openBracketsFrom (Lexical.nextInLine s c) (offset + c.utf8Size) (stackAfter s offset stack c)
        t := rfl

theorem groupFrom_cons_eq_none_iff {s : Lexical} {depth : Nat} {c : Char} {t : Text} :
    groupFrom s depth (c :: t) = none ↔
      ∃ deeper, s.nest? depth c = some deeper ∧ groupFrom (s.next c) deeper t = none := by
  cases hnest : s.nest? depth c with
  | none => simp [groupFrom_cons_of_none hnest]
  | some deeper => simp [groupFrom_cons_of_some hnest]

/-- One character: what stays open of the brackets behind it is what stays open of those before it,
    and the character itself if it opens one. -/
theorem staysOpen_step {s : Lexical} {offset : Nat} {stack : List (Nat × Char)} {c : Char}
    {t : Text} {p : Nat × Char} :
    StaysOpen (s.next c) (stackAfter s offset stack c) t p ↔
      StaysOpen s stack (c :: t) p ∨
        s.bracket c = .opening ∧ p = (offset, c) ∧ groupFrom (s.next c) 0 t = none := by
  unfold StaysOpen stackAfter
  simp only [groupFrom_cons_eq_none_iff, Lexical.nest?]
  cases hbracket : s.bracket c with
  | opening =>
    constructor
    · rintro ⟨k, hk, hopen⟩
      cases k with
      | zero => exact .inr ⟨rfl, (Option.some.inj hk).symm, hopen⟩
      | succ k => exact .inl ⟨k, hk, k + 1, rfl, hopen⟩
    · rintro (⟨k, hk, deeper, hdeeper, hopen⟩ | ⟨-, rfl, hopen⟩)
      · obtain rfl := Option.some.inj hdeeper
        exact ⟨k + 1, hk, hopen⟩
      · exact ⟨0, rfl, hopen⟩
  | closing =>
    constructor
    · rintro ⟨k, hk, hopen⟩
      exact .inl ⟨k + 1, by rwa [← List.getElem?_tail], k, rfl, hopen⟩
    · rintro (⟨k, hk, deeper, hdeeper, hopen⟩ | ⟨hother, -⟩)
      · cases k with
        | zero => cases hdeeper
        | succ k =>
          obtain rfl := Option.some.inj hdeeper
          exact ⟨k, by rwa [List.getElem?_tail], hopen⟩
      · cases hother
  | other =>
    constructor
    · rintro ⟨k, hk, hopen⟩
      exact .inl ⟨k, hk, k, rfl, hopen⟩
    · rintro (⟨k, hk, deeper, hdeeper, hopen⟩ | ⟨hother, -⟩)
      · obtain rfl := Option.some.inj hdeeper
        exact ⟨k, hk, hopen⟩
      · cases hother

theorem openedIn_cons {s : Lexical} {offset : Nat} {c : Char} {t : Text} {p : Nat × Char} :
    OpenedIn s offset (c :: t) p ↔
      s.bracket c = .opening ∧ p = (offset, c) ∧ group? t = none ∨
        OpenedIn (s.next c) (offset + c.utf8Size) t p := by
  constructor
  · rintro ⟨before, after, htext, hoffset, hbracket, hopen⟩
    cases before with
    | nil =>
      obtain ⟨rfl, rfl⟩ := List.cons.inj htext
      exact .inl ⟨hbracket, Prod.ext hoffset rfl, hopen⟩
    | cons d before =>
      obtain ⟨rfl, rfl⟩ := List.cons.inj htext
      exact .inr ⟨before, after, rfl, by rw [hoffset, Text.bytes_cons, Nat.add_assoc], hbracket,
        hopen⟩
  · rintro (⟨hbracket, rfl, hopen⟩ | ⟨before, after, rfl, hoffset, hbracket, hopen⟩)
    · exact ⟨[], t, rfl, rfl, hbracket, hopen⟩
    · exact ⟨c :: before, after, rfl, by rw [hoffset, Text.bytes_cons, Nat.add_assoc], hbracket,
        hopen⟩

/-- Behind an opening bracket the scanner is where it started. -/
theorem next_of_opening {s : Lexical} (hs : s.Settled) {c : Char} (h : s.bracket c = .opening) :
    s.next c = {} := by
  have hmode : s.mode = .code := by
    unfold Lexical.bracket at h
    grind
  obtain rfl : s = {} := hs.eq_start hmode
  unfold Lexical.bracket isOpening at h
  unfold Lexical.next isQuote
  grind

/-- **What the stack holds** behind a text of one line: the brackets open before that the text does
    not close, and those that it opens and does not close. -/
theorem mem_openBracketsFrom_iff {s : Lexical} (hs : s.Settled) {t : Text} (ht : '\n' ∉ t)
    {offset : Nat} {stack : List (Nat × Char)} {p : Nat × Char} :
    p ∈ openBracketsFrom s offset stack t ↔
      StaysOpen s stack t p ∨ OpenedIn s offset t p := by
  induction t generalizing s offset stack with
  | nil =>
    have hown : ¬OpenedIn s offset [] p := by
      rintro ⟨before, after, htext, -⟩
      simp at htext
    rw [or_iff_left hown, openBracketsFrom, List.mem_iff_getElem?]
    constructor
    · rintro ⟨k, hk⟩
      exact ⟨k, hk, rfl⟩
    · rintro ⟨k, hk, -⟩
      exact ⟨k, hk⟩
  | cons c t ih =>
    have hnext : Lexical.nextInLine s c = s.next c := if_neg (List.ne_of_not_mem_cons ht).symm
    have hfresh : s.bracket c = .opening ∧ p = (offset, c) ∧ groupFrom (s.next c) 0 t = none ↔
        s.bracket c = .opening ∧ p = (offset, c) ∧ group? t = none :=
      and_congr_right fun hopening => by rw [next_of_opening hs hopening, group?]
    rw [openBracketsFrom_cons, hnext, ih (hs.next c) (List.not_mem_of_not_mem_cons ht),
      staysOpen_step, hfresh, or_assoc, ← openedIn_cons]

/-! ## The order of the stack -/

/-- The stack holds brackets in the order of the text, the last one first. -/
def Descending (stack : List (Nat × Char)) : Prop := stack.Pairwise fun p q => q.1 < p.1

theorem pairwise_openBracketsFrom {s : Lexical} {offset : Nat} {stack : List (Nat × Char)}
    (t : Text) (hstack : Descending stack) (hbefore : ∀ p ∈ stack, p.1 < offset) :
    Descending (openBracketsFrom s offset stack t) := by
  induction t generalizing s offset stack with
  | nil => exact hstack
  | cons c t ih =>
    have hlater : ∀ p ∈ stack, p.1 < offset + c.utf8Size := fun p hp =>
      Nat.lt_add_right _ (hbefore p hp)
    rw [openBracketsFrom_cons, stackAfter]
    cases s.bracket c with
    | opening =>
      refine ih (List.pairwise_cons.mpr ⟨hbefore, hstack⟩) ?_
      exact List.forall_mem_cons.mpr ⟨Nat.lt_add_of_pos_right c.utf8Size_pos, hlater⟩
    | closing => exact ih hstack.tail fun p hp => hlater p (List.mem_of_mem_tail hp)
    | other => exact ih hstack hlater

theorem Descending.head?_eq_some_iff {stack : List (Nat × Char)} (h : Descending stack)
    {p : Nat × Char} : stack.head? = some p ↔ p ∈ stack ∧ ∀ q ∈ stack, q.1 ≤ p.1 := by
  cases stack with
  | nil => simp
  | cons first stack =>
    have hfirst : ∀ q ∈ stack, q.1 < first.1 := fun _ hq => List.rel_of_pairwise_cons h hq
    rw [List.head?_cons, Option.some.injEq]
    constructor
    · rintro rfl
      exact ⟨List.mem_cons_self,
        List.forall_mem_cons.mpr ⟨Nat.le_refl _, fun q hq => Nat.le_of_lt (hfirst q hq)⟩⟩
    · rintro ⟨hp, hgreatest⟩
      rcases List.mem_cons.mp hp with rfl | hp
      · rfl
      · exact absurd (hfirst p hp) (Nat.not_lt.mpr (hgreatest first List.mem_cons_self))

/-! ## The innermost bracket -/

/-- An opening bracket of the code stands at `offset`, and the search for its partner finds none. -/
def Unclosed (t : Text) (offset : Nat) (c : Char) : Prop :=
  (∃ before after, t = before ++ c :: after ∧ offset = Text.bytes before ∧
    (Lexical.run {} before).bracket c = .opening) ∧ closingBracket? t (offset + 1) = none

theorem utf8Size_of_opening {s : Lexical} {c : Char} (h : s.bracket c = .opening) :
    c.utf8Size = 1 := by
  have hopening : isOpening c = true := by
    unfold Lexical.bracket at h
    grind
  simp only [isOpening, Bool.or_eq_true, beq_iff_eq] at hopening
  rcases hopening with (rfl | rfl) | rfl <;> rfl

theorem closingBracket?_behind {before after : Text} {c : Char} (hc : c.utf8Size = 1) :
    closingBracket? (before ++ c :: after) (Text.bytes before + 1) = none ↔
      group? after = none := by
  have hbytes : Text.bytes before + 1 = Text.bytes (before ++ [c]) := by
    rw [Text.bytes_append, Text.bytes_cons, hc, Text.bytes_nil]
  have hsplit : before ++ c :: after = (before ++ [c]) ++ after := by simp
  rw [closingBracket?, hbytes, hsplit, Text.dropBytes_bytes_append, Option.map_eq_none_iff]

theorem unclosed_iff {t : Text} {p : Nat × Char} :
    Unclosed t p.1 p.2 ↔ OpenedIn {} 0 t p := by
  unfold Unclosed OpenedIn
  constructor
  · rintro ⟨⟨before, after, rfl, hoffset, hbracket⟩, hopen⟩
    rw [hoffset, closingBracket?_behind (utf8Size_of_opening hbracket)] at hopen
    exact ⟨before, after, rfl, by rw [hoffset, Nat.zero_add], hbracket, hopen⟩
  · rintro ⟨before, after, rfl, hoffset, hbracket, hopen⟩
    rw [Nat.zero_add] at hoffset
    refine ⟨⟨before, after, rfl, hoffset, hbracket⟩, ?_⟩
    rwa [hoffset, closingBracket?_behind (utf8Size_of_opening hbracket)]

theorem mem_openBrackets_iff {t : Text} (ht : '\n' ∉ t) {p : Nat × Char} :
    p ∈ openBracketsFrom {} 0 [] t ↔ Unclosed t p.1 p.2 := by
  have hnone : ¬StaysOpen {} [] t p := by
    rintro ⟨k, hk, -⟩
    cases hk
  rw [mem_openBracketsFrom_iff Lexical.settled_start ht, or_iff_right hnone, unclosed_iff]

/-- The offset of the innermost bracket of a stack, if it is a parenthesis. -/
def innermostCall? (stack : List (Nat × Char)) : Option Nat :=
  stack.head?.bind fun p => if p.2 = '(' then some p.1 else none

theorem openCall?_eq (t : Text) : openCall? t = innermostCall? (openBracketsFrom {} 0 [] t) := by
  unfold openCall? innermostCall?
  cases openBracketsFrom {} 0 [] t <;> rfl

theorem innermostCall?_eq_some_iff {stack : List (Nat × Char)} {i : Nat} :
    innermostCall? stack = some i ↔ stack.head? = some (i, '(') := by
  unfold innermostCall?
  cases stack with
  | nil => simp
  | cons p stack =>
    obtain ⟨offset, c⟩ := p
    by_cases hc : c = '(' <;> simp [hc]

/-- **The call around the end of a line** is the last of the opening brackets in its code for which
    the search for a partner fails, if this one is a parenthesis; otherwise there is none. -/
theorem openCall?_eq_some_iff {t : Text} (ht : '\n' ∉ t) (i : Nat) :
    openCall? t = some i ↔ Unclosed t i '(' ∧ ∀ j c, Unclosed t j c → j ≤ i := by
  have horder : Descending (openBracketsFrom {} 0 [] t) :=
    pairwise_openBracketsFrom t List.Pairwise.nil fun _ hp => absurd hp List.not_mem_nil
  rw [openCall?_eq, innermostCall?_eq_some_iff, horder.head?_eq_some_iff]
  simp only [mem_openBrackets_iff ht, Prod.forall]

/-- Brackets in a string and in a comment, a group that another kind closes, and a call that is
    complete: the first call is still open. -/
theorem openCall?_eq_some_iff_mixed :
    let t : Text := "f('(', [1), g(a)  # ("
    '\n' ∉ t ∧ openCall? t = some 1 ∧ Unclosed t 1 '(' ∧ ∀ j c, Unclosed t j c → j ≤ 1 := by
  intro t
  have ht : '\n' ∉ t := by decide
  have hcall : openCall? t = some 1 := by decide +kernel
  exact ⟨ht, hcall, (openCall?_eq_some_iff ht 1).mp hcall⟩

end OrmLens.Cursor
