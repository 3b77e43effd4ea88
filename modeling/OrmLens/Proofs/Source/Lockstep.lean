/-
  The two readings of an argument list in step.

  A field's arguments are found by reading on to the bracket that closes its group (`group?`), and
  are then cut at their commas by another reading (`pieces`). Each counts open brackets for itself:
  the first one also the bracket of the group, and the second one nothing below zero.

  What each reading has got to behind a text is a state and a depth (`nesting`, `cutting`), from
  which it goes on (`groupFrom_append`, `pieces_goesOn`). That `cutting` is the state and the depth
  of the reading that makes the pieces is shown on a cutter that keeps all of them (`Cutter.run`):
  one run of it gives both (`Cutter.run_start`).

  One character leads both readings to the same state and depth as long as the group is open
  (`Lexical.depthAfter_of_nest?`), hence any beginning of the group does (`cutting_of_nesting`).
  `closingBracket?_in_step` puts this together with what the bracket that is found does not depend
  on.
-/
import OrmLens.Proofs.Source.Groups
import OrmLens.Proofs.Source.Splitting

namespace OrmLens.Source

/-! ## Cutting, with its state shown -/

/-- The state and the number of open brackets of the cutting at commas, behind a text. A closing
    bracket without partner leaves the number at zero. -/
def cutting (s : Lexical) (depth : Nat) : Text → Lexical × Nat
  | [] => (s, depth)
  | c :: t => cutting (s.next c) (s.depthAfter depth c) t

/-- How far cutting at commas has come. -/
structure Cutter where
  state : Lexical := {}
  /-- The number of open brackets. -/
  depth : Nat := 0
  /-- The pieces that a comma has ended. -/
  ended : List Text := []
  /-- What has been read behind the last of these commas. -/
  piece : Text := []

namespace Cutter

/-- Reads one more character. -/
def next (k : Cutter) (c : Char) : Cutter :=
  if k.state.comma c && k.depth == 0 then
    { k with state := k.state.next c, ended := k.ended ++ [k.piece], piece := [] }
  else
    { k with
      state := k.state.next c, depth := k.state.depthAfter k.depth c, piece := k.piece ++ [c] }

/-- Reads a text. -/
def run (k : Cutter) (t : Text) : Cutter := t.foldl next k

/-- The pieces if the text ends here. -/
def pieces (k : Cutter) : List Text := k.ended ++ [k.piece]

theorem run_cons (k : Cutter) (c : Char) (t : Text) : k.run (c :: t) = (k.next c).run t := rfl

theorem run_append (k : Cutter) (t u : Text) : k.run (t ++ u) = (k.run t).run u :=
  List.foldl_append ..

theorem next_of_comma {k : Cutter} {c : Char} (h : (k.state.comma c && k.depth == 0) = true) :
    k.next c = ⟨k.state.next c, k.depth, k.ended ++ [k.piece], []⟩ := if_pos h

theorem next_of_not_comma {k : Cutter} {c : Char}
    (h : ¬(k.state.comma c && k.depth == 0) = true) :
    k.next c = ⟨k.state.next c, k.state.depthAfter k.depth c, k.ended, k.piece ++ [c]⟩ := if_neg h

end Cutter

/-- Pieces that go on: the last one of the first and the first one of the others make up one. -/
def GoesOn (first more all : List Text) : Prop :=
  ∃ ps p q qs, first = ps ++ [p] ∧ more = q :: qs ∧ all = ps ++ (p ++ q) :: qs

theorem Lexical.depthAfter_of_comma {s : Lexical} {c : Char} (h : s.comma c = true) (depth : Nat) :
    s.depthAfter depth c = depth := by
  simp only [Lexical.comma, Bool.and_eq_true, beq_iff_eq] at h
  obtain ⟨hmode, rfl⟩ := h
  have hbracket : s.bracket ',' = .other := by
    rw [Lexical.bracket, if_neg (not_not_intro hmode)]
    rfl
  rw [Lexical.depthAfter, hbracket]

theorem Cutter.state_depth_run (k : Cutter) (t : Text) :
    ((k.run t).state, (k.run t).depth) = cutting k.state k.depth t := by
  induction t generalizing k with
  | nil => rfl
  | cons c t ih =>
    have hstep : ((k.next c).state, (k.next c).depth) =
        (k.state.next c, k.state.depthAfter k.depth c) := by
      by_cases hcomma : (k.state.comma c && k.depth == 0) = true
      · rw [next_of_comma hcomma,
          Lexical.depthAfter_of_comma (Bool.and_eq_true_iff.mp hcomma).1]
      · rw [next_of_not_comma hcomma]
    obtain ⟨hstate, hdepth⟩ := Prod.mk.inj hstep
    rw [run_cons, ih, hstate, hdepth, cutting]

theorem goesOn_concat_iff {ps : List Text} {p : Text} {more all : List Text} :
    GoesOn (ps ++ [p]) more all ↔ ∃ q qs, more = q :: qs ∧ all = ps ++ (p ++ q) :: qs := by
  constructor
  · intro h
    obtain ⟨ps', p', q, qs, hfirst, hmore, hall⟩ := h
    obtain ⟨rfl, hp⟩ := List.append_inj' hfirst rfl
    obtain rfl := List.singleton_inj.mp hp
    exact ⟨q, qs, hmore, hall⟩
  · intro h
    obtain ⟨q, qs, hmore, hall⟩ := h
    exact ⟨ps, p, q, qs, rfl, hmore, hall⟩

/-- What the cutter has read goes on with the pieces of the rest. -/
theorem Cutter.goesOn_run (k : Cutter) (t : Text) :
    GoesOn k.pieces (piecesFrom k.state k.depth t) (k.run t).pieces := by
  induction t generalizing k with
  | nil => exact goesOn_concat_iff.mpr ⟨[], [], rfl, by rw [List.append_nil]; rfl⟩
  | cons c t ih =>
    have hrest := ih (k.next c)
    by_cases hcomma : (k.state.comma c && k.depth == 0) = true
    · rw [next_of_comma hcomma] at hrest
      obtain ⟨q, qs, hmore, hall⟩ := goesOn_concat_iff.mp hrest
      refine goesOn_concat_iff.mpr ⟨[], q :: qs, ?_, ?_⟩
      · rw [piecesFrom_cons_of_comma hcomma, hmore]
      · rw [run_cons, next_of_comma hcomma, hall]
        simp
    · rw [next_of_not_comma hcomma] at hrest
      obtain ⟨q, qs, hmore, hall⟩ := goesOn_concat_iff.mp hrest
      refine goesOn_concat_iff.mpr ⟨c :: q, qs, ?_, ?_⟩
      · rw [piecesFrom_cons_of_not_comma hcomma, hmore]
        rfl
      · rw [run_cons, next_of_not_comma hcomma, hall]
        simp

/-- **One run of the cutter** gives both: the pieces of the text, and the state and the depth that
    cutting has got to behind it. -/
theorem Cutter.run_start (t : Text) :
    (Cutter.run {} t).pieces = Source.pieces t ∧
      ((Cutter.run {} t).state, (Cutter.run {} t).depth) = cutting {} 0 t := by
  refine ⟨?_, state_depth_run {} t⟩
  have hrun : GoesOn ([] ++ [[]]) (Source.pieces t) (Cutter.run {} t).pieces := goesOn_run {} t
  obtain ⟨q, qs, hmore, hall⟩ := goesOn_concat_iff.mp hrun
  exact hall.trans hmore.symm

/-! ## Reading on -/

/-- Behind a text, cutting at commas goes on from the state and the depth it has got to. -/
theorem pieces_goesOn (t u : Text) :
    GoesOn (pieces t) (piecesFrom (cutting {} 0 t).1 (cutting {} 0 t).2 u) (pieces (t ++ u)) := by
  obtain ⟨hpieces, hcutting⟩ := Cutter.run_start t
  rw [← (Cutter.run_start (t ++ u)).1, ← hpieces, ← hcutting, Cutter.run_append]
  exact (Cutter.run {} t).goesOn_run u

theorem nesting_append (s : Lexical) (depth : Nat) (t u : Text) :
    nesting s depth (t ++ u) = (nesting s depth t).bind fun r => nesting r.1 r.2 u := by
  induction t generalizing s depth with
  | nil => rfl
  | cons c t ih =>
    rw [List.cons_append, nesting, nesting, Option.bind_assoc]
    exact congrArg _ (funext fun deeper => ih _ deeper)

/-- Behind a text that does not close the group, the search for its end goes on from the state and
    the depth it has got to. -/
theorem groupFrom_append {s : Lexical} {depth : Nat} {t : Text} {r : Lexical × Nat}
    (h : nesting s depth t = some r) (u : Text) :
    groupFrom s depth (t ++ u) = (groupFrom r.1 r.2 u).map fun g => (t ++ g.1, g.2) := by
  induction t generalizing s depth with
  | nil =>
    obtain rfl := Option.some.inj h
    exact Option.map_id'.symm
  | cons c t ih =>
    obtain ⟨deeper, hnest, hrest⟩ := Option.bind_eq_some_iff.mp h
    rw [List.cons_append, groupFrom_cons_of_some hnest, ih hrest, Option.map_map]
    rfl

/-! ## Both readings at once -/

theorem Lexical.depthAfter_of_nest? {s : Lexical} {depth deeper : Nat} {c : Char}
    (h : s.nest? depth c = some deeper) : s.depthAfter depth c = deeper := by
  unfold Lexical.nest? at h
  unfold Lexical.depthAfter
  cases hbracket : s.bracket c with
  | closing =>
    rw [hbracket] at h
    cases depth with
    | zero => cases h
    | succ depth => exact Option.some.inj h
  | opening => rw [hbracket] at h; exact Option.some.inj h
  | other => rw [hbracket] at h; exact Option.some.inj h

/-- As long as the group is open, both readings are in the same state at the same depth. -/
theorem cutting_of_nesting {s : Lexical} {depth : Nat} {t : Text} {r : Lexical × Nat}
    (h : nesting s depth t = some r) : cutting s depth t = r := by
  induction t generalizing s depth with
  | nil => exact Option.some.inj h
  | cons c t ih =>
    obtain ⟨deeper, hnest, hrest⟩ := Option.bind_eq_some_iff.mp h
    rw [cutting, Lexical.depthAfter_of_nest? hnest]
    exact ih hrest

/-- The number of open brackets behind the beginning of a group, that of the group included, unless
    it has been closed. -/
def openBrackets? (t : Text) : Option Nat := (nesting {} 0 t).map (·.2 + 1)

/-- Behind the beginning of a group both readings are in the state `s`. The cutting at commas has
    counted `depth` open brackets and the search for the end of the group one more, and each goes on
    from there. -/
structure InStep (part : Text) (s : Lexical) (depth : Nat) : Prop where
  cutting_eq : cutting {} 0 part = (s, depth)
  open_eq : openBrackets? part = some (depth + 1)
  pieces_goOn (more : Text) : GoesOn (pieces part) (piecesFrom s depth more) (pieces (part ++ more))
  group_goesOn (more : Text) :
    group? (part ++ more) = (groupFrom s depth more).map fun g => (part ++ g.1, g.2)

theorem inStep_of_nesting {part : Text} {s : Lexical} {depth : Nat}
    (h : nesting {} 0 part = some (s, depth)) : InStep part s depth := by
  have hcutting := cutting_of_nesting h
  refine ⟨hcutting, by rw [openBrackets?, h]; rfl, fun more => ?_, groupFrom_append h⟩
  have hpieces := pieces_goesOn part more
  rwa [hcutting] at hpieces

theorem group?_of_isPrefix {inside part : Text} {r : Lexical × Nat}
    (h : nesting {} 0 inside = some r) (hpart : part <+: inside) : group? part = none := by
  obtain ⟨more, rfl⟩ := hpart
  rw [nesting_append] at h
  obtain ⟨q, hq, -⟩ := Option.bind_eq_some_iff.mp h
  have hgroup := groupFrom_append hq []
  rw [List.append_nil] at hgroup
  exact hgroup

/-- A closing bracket inside a group closes another one that was opened there. -/
theorem depth_pos_of_nesting {s : Lexical} {depth : Nat} {t : Text} {r : Lexical × Nat}
    (h : nesting s depth t = some r) : ∀ c ∈ t.head?, s.bracket c = .closing → 0 < depth := by
  intro c hc hclosing
  cases t with
  | nil => cases hc
  | cons d t =>
    obtain rfl : d = c := Option.some.inj hc
    obtain ⟨deeper, hnest, -⟩ := Option.bind_eq_some_iff.mp h
    refine Nat.pos_of_ne_zero fun hzero => ?_
    rw [Lexical.nest?_eq_none_iff.mpr ⟨hzero, hclosing⟩] at hnest
    cases hnest

/-- **The bracket that closes a group** is a closing bracket. It is found from the text between the
    two brackets alone, whatever stands in front and behind, and no beginning of this text has one.
    Cutting this text at commas stays in step with the search for the bracket: at every place it is
    in the same state with one bracket less, it meets no closing bracket without partner, and at the
    end it is in code with no bracket open. -/
theorem closingBracket?_in_step {before t : Text} {stop : Nat}
    (h : closingBracket? (before ++ t) (Text.bytes before) = some stop) :
    ∃ inside bracket after, t = inside ++ bracket :: after ∧
      stop = Text.bytes (before ++ inside) ∧ isClosing bracket = true ∧
      (∀ front back, closingBracket? (front ++ (inside ++ bracket :: back)) (Text.bytes front) =
        some (Text.bytes (front ++ inside))) ∧
      (∀ front part, part <+: inside →
        closingBracket? (front ++ part) (Text.bytes front) = none) ∧
      (∀ part more, inside = part ++ more → ∃ s depth, InStep part s depth ∧
        ∀ c ∈ more.head?, s.bracket c = .closing → 0 < depth) ∧
      ∃ s, InStep inside s 0 ∧ s.mode = .code := by
  unfold closingBracket? at h ⊢
  rw [Text.dropBytes_bytes_append] at h
  obtain ⟨⟨inside, after⟩, hgroup, rfl⟩ := Option.map_eq_some_iff.mp h
  obtain ⟨s, bracket, rfl, hnesting, hbracket⟩ := groupFrom_eq_some_iff.mp hgroup
  obtain ⟨hcode, hclosing⟩ := Lexical.bracket_eq_closing_iff.mp hbracket
  refine ⟨inside, bracket, after, rfl, (Text.bytes_append ..).symm, hclosing, fun front back => ?_,
    fun front part hpart => ?_, fun part more hinside => ?_, s, inStep_of_nesting hnesting, hcode⟩
  · have hfound : group? (inside ++ bracket :: back) = some (inside, back) :=
      groupFrom_eq_some_iff.mpr ⟨s, bracket, rfl, hnesting, hbracket⟩
    rw [Text.dropBytes_bytes_append, hfound, Text.bytes_append]
    rfl
  · rw [Text.dropBytes_bytes_append, group?_of_isPrefix hnesting hpart]
    rfl
  · rw [hinside, nesting_append] at hnesting
    obtain ⟨⟨r, depth⟩, hpart, hmore⟩ := Option.bind_eq_some_iff.mp hnesting
    exact ⟨r, depth, inStep_of_nesting hpart, depth_pos_of_nesting hmore⟩

/-- Brackets of another kind inside, brackets in strings and in a comment, and an escaped quote. -/
theorem closingBracket?_in_step_quoted :
    let before : Text := "x = F("
    let inside : Text := "a=['(\\'', \"]\"],  # )\n  b=\x7b(1)\x7d"
    let after : Text := " + g(y)"
    closingBracket? (before ++ (inside ++ ')' :: after)) (Text.bytes before) =
        some (Text.bytes (before ++ inside)) ∧
      (∀ part more, inside = part ++ more → ∃ s depth, InStep part s depth ∧
        ∀ c ∈ more.head?, s.bracket c = .closing → 0 < depth) ∧
      ∃ s, InStep inside s 0 ∧ s.mode = .code := by
  intro before inside after
  have hfound : closingBracket? (before ++ (inside ++ ')' :: after)) (Text.bytes before) =
      some (Text.bytes (before ++ inside)) := by decide +kernel
  obtain ⟨inside', bracket, after', htext, hstop, -, -, -, hstep, hend⟩ :=
    closingBracket?_in_step hfound
  rw [Text.bytes_append, Text.bytes_append] at hstop
  obtain ⟨rfl, -⟩ := Text.append_inj_of_bytes htext (Nat.add_left_cancel hstop)
  exact ⟨hfound, hstep, hend⟩

end OrmLens.Source
