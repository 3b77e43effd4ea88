/-
  Argument lists as they are written, read back.

  An item is a text that the scanner reads through: it meets no comma outside all brackets and is
  back where it started, in code and at depth zero (`readThrough`). Items are joined by commas, with
  white space around each comma and at both ends, and a comma may follow the last one.
  `splitArguments_join`: cutting such a list gives back the items.

  The scanner reads a concatenation part by part (`readThrough_append`), so what it has read through
  stays in one piece (`piecesFrom_append`) and behind a comma it starts anew. Comments are not
  written here: no piece has a `#`, so what is cut off it is white space (`IsCell.firstCode_eq`).
  Cells are pieces of this kind whose ends may be part of an item or not (`splitArguments_cells`).
-/
import Mathlib.Data.List.Forall2
import OrmLens.Proofs.Source.Spacing
import OrmLens.Proofs.Source.Splitting

namespace OrmLens.Source

open CharClass

/-! ## Reading through a text -/

/-- The state and the depth behind a text, unless a comma of it stands outside all brackets. -/
def readThrough (s : Lexical) (depth : Nat) : Text → Option (Lexical × Nat)
  | [] => some (s, depth)
  | c :: t =>
    if s.comma c && depth == 0 then none else readThrough (s.next c) (s.depthAfter depth c) t

theorem readThrough_cons_eq_some {s : Lexical} {depth : Nat} {c : Char} {t : Text}
    {r : Lexical × Nat} (h : readThrough s depth (c :: t) = some r) :
    ¬(s.comma c && depth == 0) = true ∧
      readThrough (s.next c) (s.depthAfter depth c) t = some r := by
  rw [readThrough] at h
  split at h
  · cases h
  · exact ⟨‹_›, h⟩

theorem readThrough_append {s : Lexical} {depth : Nat} {t : Text} {r : Lexical × Nat}
    (h : readThrough s depth t = some r) (u : Text) :
    readThrough s depth (t ++ u) = readThrough r.1 r.2 u := by
  induction t generalizing s depth with
  | nil =>
    obtain rfl := Option.some.inj h
    rfl
  | cons c t ih =>
    obtain ⟨hcomma, hrest⟩ := readThrough_cons_eq_some h
    rw [List.cons_append, readThrough, if_neg hcomma, ih hrest]

/-- What is read through is the beginning of a piece. -/
theorem piecesFrom_append {s : Lexical} {depth : Nat} {t : Text} {r : Lexical × Nat}
    (h : readThrough s depth t = some r) {u p : Text} {ps : List Text}
    (hu : piecesFrom r.1 r.2 u = p :: ps) : piecesFrom s depth (t ++ u) = (t ++ p) :: ps := by
  induction t generalizing s depth with
  | nil =>
    obtain rfl := Option.some.inj h
    exact hu
  | cons c t ih =>
    obtain ⟨hcomma, hrest⟩ := readThrough_cons_eq_some h
    rw [List.cons_append, piecesFrom_cons_of_not_comma hcomma, ih hrest]
    rfl

/-- From the initial state to the initial state: no top-level comma, and all brackets and strings
    closed. -/
def Whole (t : Text) : Prop := readThrough {} 0 t = some ({}, 0)

instance (t : Text) : Decidable (Whole t) := inferInstanceAs (Decidable (_ = _))

theorem Whole.append {t u : Text} (ht : Whole t) (hu : Whole u) : Whole (t ++ u) :=
  (readThrough_append ht u).trans hu

/-- Characters that mean nothing to the scanner in code. -/
def isInert (c : Char) : Bool :=
  !isQuote c && c != '#' && !isOpening c && !isClosing c && c != ','

theorem whole_of_inert {t : Text} (h : ∀ c ∈ t, isInert c = true) : Whole t := by
  induction t with
  | nil => rfl
  | cons c t ih =>
    obtain ⟨hc, ht⟩ := List.forall_mem_cons.mp h
    simp only [isInert, Bool.and_eq_true, Bool.not_eq_true', bne_iff_ne] at hc
    obtain ⟨⟨⟨⟨hquote, hhash⟩, hopening⟩, hclosing⟩, hcomma⟩ := hc
    have hnext : ({} : Lexical).next c = {} := by simp [Lexical.next, hquote, hhash]
    have hcode : ({} : Lexical).comma c = false := by simp [Lexical.comma, hcomma]
    have hdepth : ({} : Lexical).depthAfter 0 c = 0 := by
      simp [Lexical.depthAfter, Lexical.bracket, hopening, hclosing]
    rw [Whole, readThrough, hcode, Bool.false_and, if_neg Bool.false_ne_true, hnext, hdepth]
    exact ih ht

theorem White.whole {t : Text} (h : White t) : Whole t := by
  refine whole_of_inert fun c hc => ?_
  have hinert : (!isInert c) = false :=
    eq_false_of_isSpace (p := fun c => !isInert c) (by decide +kernel) (h c hc)
  simpa using hinert

/-- In a string nothing counts but its quote and backslashes. -/
theorem readThrough_quoted {quote : Char} {content : Text} (depth : Nat)
    (h : ∀ c ∈ content, c ≠ quote ∧ c ≠ '\\') :
    readThrough ⟨.quoted quote, false⟩ depth content = some (⟨.quoted quote, false⟩, depth) := by
  induction content with
  | nil => rfl
  | cons c content ih =>
    obtain ⟨⟨hquote, hescape⟩, hcontent⟩ := List.forall_mem_cons.mp h
    have hnext : (⟨.quoted quote, false⟩ : Lexical).next c = ⟨.quoted quote, false⟩ := by
      simp [Lexical.next, hquote, hescape]
    rw [readThrough, hnext]
    exact ih hcontent

theorem whole_quoted {quote : Char} (hquote : isQuote quote = true) {content : Text}
    (h : ∀ c ∈ content, c ≠ quote ∧ c ≠ '\\') : Whole (quote :: (content ++ [quote])) := by
  have hinside := readThrough_append (readThrough_quoted 0 h) [quote]
  rcases eq_of_isQuote hquote with rfl | rfl <;> exact hinside

theorem pieces_whole {t : Text} (h : Whole t) : pieces t = [t] := by
  have hp := piecesFrom_append h (u := []) rfl
  rwa [List.append_nil] at hp

/-- Behind a comma the scanner starts anew. -/
theorem pieces_whole_comma {t : Text} (h : Whole t) (u : Text) :
    pieces (t ++ ',' :: u) = t :: pieces u := by
  have hcomma : piecesFrom {} 0 (',' :: u) = [] :: pieces u := rfl
  have hp := piecesFrom_append h hcomma
  rwa [List.append_nil] at hp

/-! ## Items -/

/-- One argument of a list as written, without comments. -/
structure IsItem (t : Text) : Prop where
  trimmed : Trimmed t
  no_hash : '#' ∉ t
  whole : Whole t

instance (t : Text) : Decidable (IsItem t) :=
  decidable_of_iff (Trimmed t ∧ '#' ∉ t ∧ Whole t)
    ⟨fun h => ⟨h.1, h.2.1, h.2.2⟩, fun h => ⟨h.trimmed, h.no_hash, h.whole⟩⟩

/-- What may follow the last item: white space, or a comma with white space around it. -/
def IsEnding (t : Text) : Prop :=
  White t ∨ ∃ before after, White before ∧ White after ∧ t = before ++ ',' :: after

theorem segments_of_no_hash {t : Text} (h : '#' ∉ t) : segments t = [t] := by
  rcases segments_eq_or t with hall | ⟨code, rest, rfl, -⟩
  · exact hall
  · exact absurd (by simp) h

theorem White.no_hash {t : Text} (h : White t) : '#' ∉ t :=
  fun hmem => absurd (h _ hmem) (by decide)

theorem White.firstCode_eq {t : Text} (h : White t) : firstCode t = [] := by
  rw [firstCode_of_blank (segments_of_no_hash h.no_hash) h.trim_eq]
  rfl

/-- A piece between two commas of a list as written, without comments. -/
structure IsCell (t : Text) : Prop where
  whole : Whole t
  no_hash : '#' ∉ t
  not_blank : Text.trim t ≠ []

theorem Spaced.isCell {t cell : Text} (h : Spaced t cell) (hwhole : Whole t) (hhash : '#' ∉ t)
    (hblank : Text.trim cell ≠ []) : IsCell cell := by
  obtain ⟨before, after, hbefore, hafter, rfl⟩ := h
  refine ⟨hbefore.whole.append (hwhole.append hafter.whole), ?_, hblank⟩
  simp only [List.mem_append, not_or]
  exact ⟨hbefore.no_hash, hhash, hafter.no_hash⟩

theorem IsItem.isCell {item cell : Text} (hitem : IsItem item) (hcell : Spaced item cell) :
    IsCell cell :=
  hcell.isCell hitem.whole hitem.no_hash
    ((hcell.trim_eq hitem.trimmed).symm ▸ hitem.trimmed.ne_nil)

namespace IsCell

variable {cell : Text} (hcell : IsCell cell)
include hcell

theorem append {gap : Text} (hgap : White gap) : IsCell (cell ++ gap) := by
  refine ⟨hcell.whole.append hgap.whole, ?_, ?_⟩
  · rw [List.mem_append, not_or]
    exact ⟨hcell.no_hash, hgap.no_hash⟩
  · rw [hgap.trim_append hcell.not_blank]
    exact hcell.not_blank

theorem firstCode_eq : firstCode cell = Text.trim cell :=
  firstCode_of_not_blank (segments_of_no_hash hcell.no_hash) hcell.not_blank

theorem splitArguments_eq : splitArguments cell = [Text.trim cell] := by
  rw [splitArguments, pieces_whole hcell.whole, List.map_singleton, hcell.firstCode_eq,
    List.filter_cons_of_pos (by simp [hcell.not_blank])]
  rfl

theorem splitArguments_comma (rest : Text) :
    splitArguments (cell ++ ',' :: rest) = Text.trim cell :: splitArguments rest := by
  rw [splitArguments, pieces_whole_comma hcell.whole, List.map_cons, hcell.firstCode_eq,
    List.filter_cons_of_pos (by simp [hcell.not_blank])]
  rfl

end IsCell

theorem splitArguments_spaced_comma {item cell : Text} (hitem : IsItem item)
    (hcell : Spaced item cell) (rest : Text) :
    splitArguments (cell ++ ',' :: rest) = item :: splitArguments rest := by
  rw [(hitem.isCell hcell).splitArguments_comma, hcell.trim_eq hitem.trimmed]

/-! ## Endings -/

theorem splitArguments_white {t : Text} (h : White t) : splitArguments t = [] := by
  rw [splitArguments, pieces_whole h.whole, List.map_singleton, h.firstCode_eq]
  rfl

theorem splitArguments_ending {ending : Text} (h : IsEnding ending) :
    splitArguments ending = [] := by
  rcases h with hwhite | ⟨before, after, hbefore, hafter, rfl⟩
  · exact splitArguments_white hwhite
  · rw [splitArguments, pieces_whole_comma hbefore.whole, List.map_cons, hbefore.firstCode_eq]
    exact splitArguments_white hafter

theorem IsCell.splitArguments_last {cell ending : Text} (hcell : IsCell cell)
    (hending : IsEnding ending) : splitArguments (cell ++ ending) = [Text.trim cell] := by
  rcases hending with hwhite | ⟨before, after, hbefore, hafter, rfl⟩
  · rw [(hcell.append hwhite).splitArguments_eq, hwhite.trim_append hcell.not_blank]
  · rw [← List.append_assoc, (hcell.append hbefore).splitArguments_comma,
      hbefore.trim_append hcell.not_blank, splitArguments_white hafter]

theorem splitArguments_last {item cell ending : Text} (hitem : IsItem item)
    (hcell : Spaced item cell) (hending : IsEnding ending) :
    splitArguments (cell ++ ending) = [item] := by
  rw [(hitem.isCell hcell).splitArguments_last hending, hcell.trim_eq hitem.trimmed]

/-! ## Lists of items -/

/-- Cutting a list of cells gives them back trimmed. -/
theorem splitArguments_cells {cells : List Text} (hcells : ∀ cell ∈ cells, IsCell cell)
    {ending : Text} (hending : IsEnding ending) :
    splitArguments (Text.join [','] cells ++ ending) = cells.map Text.trim := by
  induction cells with
  | nil => exact splitArguments_ending hending
  | cons cell cells ih =>
    obtain ⟨hcell, hrest⟩ := List.forall_mem_cons.mp hcells
    cases cells with
    | nil => exact hcell.splitArguments_last hending
    | cons =>
      rw [Text.join_cons_of_ne_nil _ _ (List.cons_ne_nil _ _), List.append_assoc,
        List.append_assoc, List.singleton_append, hcell.splitArguments_comma, ih hrest]
      rfl

/-- **Splitting inverts joining.** Items with white space around them, joined by commas and with a
    comma after the last one or none, are what cutting the list gives. -/
theorem splitArguments_join {items cells : List Text} (hitems : ∀ item ∈ items, IsItem item)
    (hcells : List.Forall₂ Spaced items cells) {ending : Text} (hending : IsEnding ending) :
    splitArguments (Text.join [','] cells ++ ending) = items := by
  induction hcells with
  | nil => exact splitArguments_ending hending
  | @cons item cell items cells hcell hcells ih =>
    obtain ⟨hitem, hrest⟩ := List.forall_mem_cons.mp hitems
    cases hcells with
    | nil => exact splitArguments_last hitem hcell hending
    | cons =>
      rw [Text.join_cons_of_ne_nil _ _ (List.cons_ne_nil _ _), List.append_assoc,
        List.append_assoc, List.singleton_append, splitArguments_spaced_comma hitem hcell, ih hrest]

/-- Brackets of all kinds, strings with commas and brackets and an escaped quote, line breaks around
    the commas, and a comma at the end. -/
theorem splitArguments_join_lines :
    let items : List Text := ["f(a, [1, \x7b2: 3\x7d])", "help='it\\'s (a, b'", "x=\"\x7d\"", ")"]
    let cells : List Text :=
      ["\n    f(a, [1, \x7b2: 3\x7d])", "\thelp='it\\'s (a, b' ", "\n    x=\"\x7d\"", ")\r\n"]
    (∀ item ∈ items, IsItem item) ∧ List.Forall₂ Spaced items cells ∧ IsEnding " ,\n" ∧
      splitArguments (Text.join [','] cells ++ " ,\n") = items := by
  intro items cells
  have hitems : ∀ item ∈ items, IsItem item := by decide +kernel
  have hcells : List.Forall₂ Spaced items cells :=
    .cons ⟨"\n    ", [], by decide, by decide, by decide⟩ <|
    .cons ⟨"\t", " ", by decide, by decide, by decide⟩ <|
    .cons ⟨"\n    ", [], by decide, by decide, by decide⟩ <|
    .cons ⟨[], "\r\n", by decide, by decide, by decide⟩ .nil
  have hending : IsEnding " ,\n" := .inr ⟨" ", "\n", by decide, by decide, by decide⟩
  exact ⟨hitems, hcells, hending, splitArguments_join hitems hcells hending⟩

end OrmLens.Source
