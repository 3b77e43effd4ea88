/-
  What a completion replaces.

  The identifier before the cursor is read twice: from the text handed to the analysis, whose
  candidates go on with it, and as a number of code units by which the range of the edit goes back
  from the cursor. Both are the end of the cursor's line, where the identifier of the document ends
  as well: no line break is part of it (`Cut.stops_before_iff`), so how many lines above are read
  makes no difference (`takeEndWhile_preceding`).

  `completion_replaces_typed`: every item has the same range, which leads from the start of this
  identifier to the cursor, and goes on with it.
-/
import OrmLens.Proofs.Cursor.LookBack
import OrmLens.Proofs.Cursor.Selection
import OrmLens.Proofs.Words
import OrmLens.Server.Answer

namespace OrmLens

namespace Text

/-- A run ends where a character does not belong to it. -/
theorem takeEndWhile_append_of_stops {p : Char → Bool} {s : Text}
    (h : ∀ c ∈ s.getLast?, p c = false) (t : Text) :
    takeEndWhile p (s ++ t) = takeEndWhile p t := by
  have hstops : Source.Stops p s.reverse := by
    rw [← List.head?_reverse] at h
    exact h
  rw [takeEndWhile, List.reverse_append, Source.takeWhile_append_of_stops _ hstops, takeEndWhile]

end Text

namespace Json

/-- A member that is there is found under its key, unless a later member has the same key. -/
theorem get?_sparse {key : Text} {value : Json} (before : List (Text × Option Json))
    {after : List (Text × Option Json)} (h : key ∉ after.map Prod.fst) :
    (sparse (before ++ (key, some value) :: after)).get? key = some value := by
  have hlater : (after.filterMap fun m => m.2.map fun value => (m.1, value)).reverse.find?
      (·.1 = key) = none := by
    rw [List.find?_eq_none]
    intro entry hmem hkey
    obtain ⟨m, hm, hentry⟩ := List.mem_filterMap.mp (List.mem_reverse.mp hmem)
    obtain ⟨_, -, rfl⟩ := Option.map_eq_some_iff.mp hentry
    exact h (List.mem_map.mpr ⟨m, hm, of_decide_eq_true hkey⟩)
  have hfound : [(key, value)].find? (·.1 = key) = some (key, value) :=
    List.find?_cons_of_pos (decide_eq_true rfl)
  simp only [sparse, get?, List.filterMap_append, List.filterMap_cons, Option.map_some,
    List.reverse_append, List.reverse_cons, List.append_assoc, List.find?_append, hlater, hfound,
    Option.none_or, Option.some_or]

end Json

/-! ## The identifier being typed -/

namespace Cursor

open CharClass Text

/-- The identifier being typed is the one at the end of the text. -/
theorem typedName_eq (preceding : Text) : typedName preceding = takeEndWhile isIdent preceding := by
  obtain ⟨older, last, rfl, -, hlast⟩ := exists_lines preceding
  have hnewline : ∀ c ∈ (newlines older).getLast?, isIdent c = false := by
    intro c hc
    rcases List.eq_nil_or_concat older with rfl | ⟨older, line, rfl⟩
    · cases hc
    · obtain rfl : '\n' = c := by simpa [newlines_append] using hc
      decide
  rw [typedName, cursorLine_newlines_append hlast, takeEndWhile_append_of_stops hnewline]

theorem startsWith_of_mem_complete {s : Index.State} {preceding unit : Text} {c : Candidate}
    (h : c ∈ complete s preceding unit) : typedName preceding <+: c.name := by
  rw [complete_eq] at h
  exact (startsWith_iff _ _).mp (startsWith_of_mem_completeAll (List.mem_of_mem_take h))

end Cursor

namespace Server

open CharClass Cursor Document Text

/-! ## Items -/

theorem label_itemJson (range : Range) (c : Candidate) :
    (itemJson range c).get? "label" = some (.str c.name) := by
  have hlater : ("label" : Text) ∉ (["kind", "detail", "documentation", "insertTextFormat",
      "textEdit", "command"] : List Text) := by decide
  exact Json.get?_sparse [] hlater

theorem textEdit_itemJson (range : Range) (c : Candidate) :
    (itemJson range c).get? "textEdit" =
      some (.obj [("newText", .str ((snippet? c).getD c.name)), ("range", rangeJson range)]) := by
  have hlater : ("textEdit" : Text) ∉ (["command"] : List Text) := by decide
  exact Json.get?_sparse [_, _, _, _, _] hlater

theorem range_itemJson (range : Range) (c : Candidate) :
    ((itemJson range c).get? "textEdit").bind (·.get? "range") = some (rangeJson range) := by
  rw [textEdit_itemJson]
  rfl

/-! ## The range -/

/-- The analysis sees the whole identifier, however few lines it gets. -/
theorem takeEndWhile_preceding {t : Text} {above below : List Text} {left right : Text}
    (h : Cut t above left right below) (first : Nat) :
    takeEndWhile isIdent ((above.drop first).flatten ++ left) = takeEndWhile isIdent left := by
  refine takeEndWhile_append_of_stops (fun c hc => isIdent_of_isLineBreak ?_) left
  refine getLast?_above h.lines_eq c ?_
  rw [← List.take_append_drop first above, List.flatten_append, List.getLast?_append]
  rw [Option.mem_def.mp hc]
  rfl

theorem typedRange_cut {above : List Text} {left preceding : Text}
    (h : takeEndWhile isIdent preceding = takeEndWhile isIdent left) :
    typedRange preceding ⟨above.length, units16 left⟩ =
      ⟨⟨above.length, units16 (dropEndWhile isIdent left)⟩, ⟨above.length, units16 left⟩⟩ := by
  have hunits := congrArg units16 (dropEndWhile_append_takeEndWhile isIdent left)
  rw [units16_append] at hunits
  unfold typedRange
  rw [h]
  dsimp only
  rw [← hunits, Nat.add_sub_cancel]

/-- The items of a completion. -/
def itemsOf? (response : Json) : Option (List Json) := (response.get? "items").bind Json.items?

/-- The answer at a place is made of the candidates for the text before it. -/
theorem completion?_cut {s : State} {uri : Workspace.Uri} {unit t : Text}
    (hopen : documentAt? s uri = some (unit, t)) {above below : List Text} {left right : Text}
    (h : Cut t above left right below) {preceding : Text}
    (hpreceding : precedingText? t (bytes (above.flatten ++ left)) s.index.settings.lookBack =
      some preceding) :
    let p : Position := ⟨above.length, units16 left⟩
    ∃ response, completion? s ⟨uri, p⟩ = some response ∧
      itemsOf? response =
        some ((complete s.index preceding unit).map (itemJson (typedRange preceding p))) := by
  intro p
  unfold completion?
  dsimp only [Option.bind_eq_bind]
  rw [hopen, Option.bind_some]
  dsimp only
  rw [h.offsetOf?_eq, Option.bind_some, hpreceding, Option.bind_some]
  exact ⟨_, rfl, rfl⟩

/-- The end of a text as an identifier: its characters are part of it, the one in front is not. -/
structure EndsWith (before head typed : Text) : Prop where
  eq_append : before = head ++ typed
  ident : ∀ c ∈ typed, isIdent c = true
  whole : ∀ c ∈ head.getLast?, isIdent c = false

/-- **A completion replaces what is typed.** At a place in an open document there is an answer, and
    all its items have one range. It ends at the place and starts where the identifier before the
    place starts: all characters between are part of it, and the one in front is not. The identifier
    is the one that the candidates were chosen for, so the label of every item goes on with it. -/
theorem completion_replaces_typed {s : State} {uri : Workspace.Uri} {unit before after : Text}
    (hopen : documentAt? s uri = some (unit, before ++ after)) {p : Position}
    (hp : positionOf? (before ++ after) (bytes before) = some p) :
    ∃ head typed range preceding response,
      EndsWith before head typed ∧ range.stop = p ∧
      offsetOf? (before ++ after) range.start = some (bytes head) ∧
      offsetOf? (before ++ after) range.stop = some (bytes before) ∧
      precedingText? (before ++ after) (bytes before) s.index.settings.lookBack = some preceding ∧
      typedName preceding = typed ∧ completion? s ⟨uri, p⟩ = some response ∧
      itemsOf? response = some ((complete s.index preceding unit).map (itemJson range)) ∧
      ∀ item ∈ (complete s.index preceding unit).map (itemJson range),
        ((item.get? "textEdit").bind fun edit => edit.get? "range") = some (rangeJson range) ∧
        ∃ rest, item.get? "label" = some (.str (typed ++ rest)) := by
  obtain ⟨above, left, right, below, hcut, rfl, rfl⟩ := exists_cut_of_append before after
  obtain rfl : ⟨above.length, units16 left⟩ = p :=
    Option.some.inj (hcut.positionOf?_eq.symm.trans hp)
  have hpreceding := hcut.precedingText?_eq s.index.settings.lookBack
  have htyped := takeEndWhile_preceding hcut (above.length - s.index.settings.lookBack)
  have hname := (typedName_eq _).trans htyped
  obtain ⟨response, hresponse, hitems⟩ := completion?_cut hopen hcut hpreceding
  rw [typedRange_cut htyped] at hitems
  have hends : EndsWith (above.flatten ++ left) (above.flatten ++ dropEndWhile isIdent left)
      (takeEndWhile isIdent left) := by
    refine ⟨?_, fun c => of_mem_takeEndWhile, ?_⟩
    · rw [List.append_assoc, dropEndWhile_append_takeEndWhile]
    · exact hcut.start.stops_before_iff.mpr (getLast?_dropEndWhile isIdent left)
  refine ⟨_, _, _, _, _, hends, rfl, hcut.start.offsetOf?_eq, hcut.offsetOf?_eq, hpreceding, hname,
    hresponse, hitems, fun item hitem => ?_⟩
  obtain ⟨c, hc, rfl⟩ := List.mem_map.mp hitem
  obtain ⟨rest, hrest⟩ := startsWith_of_mem_complete hc
  exact ⟨range_itemJson _ c, rest, by rw [label_itemJson, ← hrest, hname]⟩

/-- The name of a model is typed below a line with a character of two code units: its first two
    letters are replaced, whatever stands behind them. -/
theorem completion_replaces_typed_import :
    let before : Text := "x = '😀'\r\nfrom shop.models import Bo"
    let after : Text := "x\n"
    let s : State := {
      index := (Index.State.new {}).analyze "models.py" "class Book(Model):\n"
      documents := Table.empty.insert "/w/views.py" (before ++ after) }
    documentAt? s ⟨"/w/views.py"⟩ = some (("/w/views.py" : Text), before ++ after) ∧
      positionOf? (before ++ after) (bytes before) = some ⟨1, 26⟩ ∧
      ∃ head range preceding response, EndsWith before head "Bo" ∧ range.stop = ⟨1, 26⟩ ∧
        offsetOf? (before ++ after) range.start = some (bytes head) ∧
        completion? s ⟨⟨"/w/views.py"⟩, ⟨1, 26⟩⟩ = some response ∧
        itemsOf? response = some ((complete s.index preceding "/w/views.py").map (itemJson range)) ∧
        (complete s.index preceding "/w/views.py").map (·.name) = (["Book"] : List Text) := by
  intro before after s
  have hopen : documentAt? s ⟨"/w/views.py"⟩ = some (("/w/views.py" : Text), before ++ after) := by
    decide +kernel
  have hp : positionOf? (before ++ after) (bytes before) = some ⟨1, 26⟩ := by decide +kernel
  obtain ⟨head, typed, range, preceding, response, hends, hstop, hstart, -, hpreceding, htyped,
    hresponse, hitems, -⟩ := completion_replaces_typed hopen hp
  obtain rfl : before = preceding :=
    Option.some.inj (Eq.trans (by decide +kernel) hpreceding)
  obtain rfl : typed = "Bo" := htyped.symm.trans (by decide +kernel)
  exact ⟨hopen, hp, head, range, before, response, hends, hstop, hstart, hresponse, hitems,
    by decide +kernel⟩

end Server

end OrmLens
