/-
  How far back an analysis looks.

  Three readers look at lines before the cursor's: the document hands out the cursor's line and as
  many lines before it as the settings allow, the scope takes the last of these lines for its
  bindings, and the search for an open call goes back one line less. `look_back_loses_nothing`: what
  the document leaves out is read by neither of the others, so completion, description and place are
  those for the whole text before the cursor.

  This holds for documents whose line breaks are newlines, with or without a carriage return. At
  other breaks the document starts a new line and the analysis does not.
-/
import OrmLens.Cursor.Symbol
import OrmLens.Proofs.Lines

namespace OrmLens.Cursor

open CharClass Index Text

/-! ## What is read of a text

  In each of these statements the text is `older` lines and a `last` one. -/

section

variable {older : List Text} {last : Text} (holder : Unbroken older) (hlast : '\n' ∉ last)
include hlast

theorem cursorLine_newlines_append :
    CursorLine.ofPreceding (newlines older ++ last) =
      ⟨dropEndWhile isIdent last, takeEndWhile isIdent last⟩ := by
  unfold CursorLine.ofPreceding
  rw [afterLast_newlines_append hlast]

include holder

theorem scope_newlines_append (s : State) (unit : Text) :
    Scope.ofPreceding s (newlines older ++ last) unit =
      { graph := s.graph, unit,
        lines := (older.drop (older.length - s.settings.lookBack)).reverse,
        indent := indentOf last } := by
  unfold Scope.ofPreceding
  rw [tailLines_newlines_append holder hlast, List.reverse_append]
  rfl

theorem window_newlines_append (count : Nat) :
    window (newlines older ++ last) count =
      newlines (older.drop (older.length - (count - 1))) ++ last := by
  have hcount : max count 1 = count - 1 + 1 := by omega
  rw [window, hcount, tailLines_newlines_append holder hlast, join_append_singleton]

end

/-- What is left of a text without the identifier being typed. -/
theorem take_newlines_append (older : List Text) (last : Text) :
    (newlines older ++ last).take
        ((newlines older ++ last).length - (takeEndWhile isIdent last).length) =
      newlines older ++ dropEndWhile isIdent last := by
  have hcut : newlines older ++ last =
      (newlines older ++ dropEndWhile isIdent last) ++ takeEndWhile isIdent last := by
    rw [List.append_assoc, dropEndWhile_append_takeEndWhile]
  rw [hcut, List.length_append, Nat.add_sub_cancel, List.take_left]

theorem endsWith_reverse (t : Text) (c : Char) : endsWith t.reverse [c] = (t.head? == some c) := by
  rw [endsWith, before?, List.reverse_reverse, Option.isSome_map]
  cases t with
  | nil => rfl
  | cons d t =>
    by_cases h : c = d
    · simp [after?, h]
    · simp [after?, h, Ne.symm h]

/-- Whether a dot precedes the word at the end of a text shows in its last line. -/
theorem endsWith_dot_newlines_append (older : List Text) (last : Text) :
    endsWith (dropEndWhile isIdent (newlines older ++ last)) ['.'] =
      endsWith (dropEndWhile isIdent last) ['.'] := by
  rw [dropEndWhile, dropEndWhile, endsWith_reverse, endsWith_reverse, List.reverse_append,
    List.dropWhile_append]
  split
  · rename_i hempty
    -- The line is all identifier, and before it is nothing or a newline.
    rw [List.isEmpty_iff.mp hempty]
    rcases List.eq_nil_or_concat older with rfl | ⟨older, line, rfl⟩
    · rfl
    · have hend : (newlines (older.concat line)).reverse =
          '\n' :: (newlines older ++ line).reverse := by
        rw [List.concat_eq_append, newlines_append]
        simp
      rw [hend, List.dropWhile_cons_of_neg (by decide)]
      rfl
  · rename_i hrest
    obtain ⟨c, rest, hcons⟩ := List.exists_cons_of_ne_nil (mt List.isEmpty_iff.mpr hrest)
    rw [hcons]
    rfl

/-! ## What is found -/

section

variable (s : State) {older : List Text} {last : Text} (holder : Unbroken older)
  (hlast : '\n' ∉ last) (unit : Text)
include holder hlast

theorem context?_recent :
    context? s (newlines (older.drop (older.length - s.settings.lookBack)) ++ last) unit =
      context? s (newlines older ++ last) unit := by
  have hrecent := holder.drop (older.length - s.settings.lookBack)
  have hhead : '\n' ∉ dropEndWhile isIdent last := by
    intro hmem
    rw [← dropEndWhile_append_takeEndWhile isIdent last] at hlast
    exact hlast (List.mem_append_left _ hmem)
  have hscope : Scope.ofPreceding s
      (newlines (older.drop (older.length - s.settings.lookBack)) ++ last) unit =
        Scope.ofPreceding s (newlines older ++ last) unit := by
    rw [scope_newlines_append hrecent hlast, scope_newlines_append holder hlast,
      drop_length_sub_drop older (Nat.le_refl _)]
  have hwindow : window (newlines (older.drop (older.length - s.settings.lookBack)) ++
        dropEndWhile isIdent last) s.settings.lookBack =
      window (newlines older ++ dropEndWhile isIdent last) s.settings.lookBack := by
    rw [window_newlines_append hrecent hhead, window_newlines_append holder hhead,
      drop_length_sub_drop older (Nat.sub_le _ _)]
  unfold context?
  rw [cursorLine_newlines_append hlast, cursorLine_newlines_append hlast, hscope]
  dsimp only
  rw [take_newlines_append, take_newlines_append, hwindow]

theorem symbol?_recent (word : Text) :
    symbol? s (newlines (older.drop (older.length - s.settings.lookBack)) ++ last) word unit =
      symbol? s (newlines older ++ last) word unit := by
  unfold symbol?
  rw [context?_recent s holder hlast, endsWith_dot_newlines_append, endsWith_dot_newlines_append]

theorem complete_recent :
    complete s (newlines (older.drop (older.length - s.settings.lookBack)) ++ last) unit =
      complete s (newlines older ++ last) unit := by
  unfold complete typedName
  rw [context?_recent s holder hlast, cursorLine_newlines_append hlast,
    cursorLine_newlines_append hlast]

end

/-- **The look-back loses nothing.** In a document with newlines for breaks, at every offset between
    two characters, the text that is handed to an analysis gives the same candidates, and for every
    word the same description and the same place, as all of the text before the offset. -/
theorem look_back_loses_nothing (s : State) (before after unit : Text)
    (h : Document.hasPlainBreaks (before ++ after) = true) :
    ∃ preceding, Document.precedingText? (before ++ after) (bytes before) s.settings.lookBack =
        some preceding ∧
      complete s preceding unit = complete s before unit ∧
      ∀ word, describe? s preceding word unit = describe? s before word unit ∧
        locate? s preceding word unit = locate? s before word unit := by
  obtain ⟨older, last, rfl, holder, hlast⟩ := exists_lines before
  refine ⟨_, Document.precedingText?_newlines holder hlast h _,
    complete_recent s holder hlast unit, fun word => ?_⟩
  rw [describe?, describe?, locate?, locate?, symbol?_recent s holder hlast]
  exact ⟨rfl, rfl⟩

/-- One line of look-back in a document with both kinds of breaks: the first line is left out, and
    the cursor is still found in a query on `Book`. -/
theorem look_back_loses_nothing_open_call :
    let s := (State.new { lookBack := 1 }).analyze "models.py"
      "class Book(Model):\n    title = CharField()\n"
    let before : Text := "x = 1\r\nqs = Book.objects.all()\r\nqs.filter(ti"
    let preceding : Text := "qs = Book.objects.all()\r\nqs.filter(ti"
    Document.hasPlainBreaks (before ++ ")\n") = true ∧
      Document.precedingText? (before ++ ")\n") (bytes before) 1 = some preceding ∧
      complete s preceding "views.py" = complete s before "views.py" ∧
      (context? s before "views.py").map Context.kind = some "filter-kwargs" := by
  intro s before preceding
  have hplain : Document.hasPlainBreaks (before ++ ")\n") = true := by decide
  obtain ⟨p, hp, hcomplete, -⟩ := look_back_loses_nothing s before ")\n" "views.py" hplain
  have hpreceding : Document.precedingText? (before ++ ")\n") (bytes before) 1 =
      some preceding := by decide
  obtain rfl : p = preceding := Option.some.inj (hp.symm.trans hpreceding)
  exact ⟨hplain, hp, hcomplete, by decide +kernel⟩

end OrmLens.Cursor
