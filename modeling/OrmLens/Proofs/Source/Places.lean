/-
  Places of declarations.

  A declaration is found at a byte offset, and its place is the line that the offset lies on. The
  line shows the declaration: `class` and the name (`declaration_shown`), the target and an equals
  sign (`call_shown`), `def` and the name (`method_shown`). What stands in a body is found by a
  search of the body alone, which starts in the middle of a line; `exists_in_body` puts it back into
  the text.

  The line is one of `Text.lines`, so its number is below their count.
-/
import OrmLens.Proofs.Source.Heads
import OrmLens.Proofs.Source.Search

namespace OrmLens.Source

open CharClass

/-! ## What lines show -/

/-- A line that starts with `class`, blanks and the name. -/
def ShowsClass (name line : Text) : Prop :=
  ∃ before gap after, line = before ++ ("class" ++ (gap ++ (name ++ after))) ∧ Blank before ∧
    gap ≠ [] ∧ Blank gap ∧ Stops isWord after

/-- A line with the name as a word of its own, followed later by an equals sign. -/
def ShowsField (name line : Text) : Prop :=
  ∃ before between after, line = before ++ (name ++ (between ++ '=' :: after)) ∧
    Stops isWord before.reverse ∧ Stops isWord (between ++ '=' :: after) ∧ '=' ∉ between

/-- A line with `def` as a word of its own, blanks and the name. -/
def ShowsMethod (name line : Text) : Prop :=
  ∃ before gap after, line = before ++ ("def" ++ (gap ++ (name ++ after))) ∧
    Stops isWord before.reverse ∧ gap ≠ [] ∧ Blank gap ∧ Stops isWord after

/-- The text has a line of this number, and it is as asked. -/
def LineShows (text : Text) (number : Nat) (form : Text → Prop) : Prop :=
  ∃ line, (Text.lines text)[number]? = some line ∧ form line

/-! ## The line of an offset -/

theorem lineOf_append (a t : Text) : lineOf (a ++ t) (Text.bytes a) = a.count '\n' := by
  rw [lineOf, Text.takeBytes_bytes_append]

/-- The line of an offset: what stands before the offset on it, and what follows. -/
theorem lineShows_append {a t : Text} {form : Text → Prop}
    (h : form (Text.afterLast '\n' a ++ t.takeWhile (· != '\n'))) :
    LineShows (a ++ t) (lineOf (a ++ t) (Text.bytes a)) form := by
  refine ⟨_, ?_, h⟩
  rw [lineOf_append, Text.getElem?_lines]

/-- What has no newline stays on the line. -/
theorem takeWhile_line_append {s : Text} (hs : '\n' ∉ s) (t : Text) :
    (s ++ t).takeWhile (· != '\n') = s ++ t.takeWhile (· != '\n') :=
  List.takeWhile_append_of_pos (Text.bne_of_not_mem hs)

theorem stops_takeWhile {p q : Char → Bool} {t : Text} (h : Stops p t) :
    Stops p (t.takeWhile q) := by
  intro c hc
  cases t with
  | nil => cases hc
  | cons d t =>
    rw [List.takeWhile_cons] at hc
    split at hc
    · exact h c hc
    · cases hc

/-- The start of the line ends as the text before the place does. -/
theorem stops_afterLast {p : Char → Bool} {a : Text} (h : Stops p a.reverse) :
    Stops p (Text.afterLast '\n' a).reverse := by
  rw [Text.afterLast, List.reverse_reverse]
  exact stops_takeWhile h

theorem afterLast_of_fresh {a : Text} (h : freshAfter true a = true) :
    Text.afterLast '\n' a = [] := by
  rcases eq_nil_or_newline h with ⟨rfl, -⟩ | ⟨line, rfl⟩
  · rfl
  · rw [Text.afterLast, List.reverse_append]
    rfl

/-- Behind a blank no word goes on. -/
theorem stops_reverse_append {a s : Text} (ha : Stops isWord a.reverse)
    (hs : ∀ c ∈ s.getLast?, isBlank c = true) : Stops isWord (a ++ s).reverse := by
  rcases List.eq_nil_or_concat s with rfl | ⟨s, c, rfl⟩
  · rwa [List.append_nil]
  · have hc : isBlank c = true := hs c (by simp)
    rw [List.concat_eq_append, List.reverse_append, List.reverse_append]
    exact stops_cons (isWord_of_isBlank hc) _

/-! ## Classes -/

/-- A header that is read, with the text before and after it, and the body that it opens. -/
theorem exists_header {t : Text} {d : Declaration} (hd : d ∈ declarations t) :
    ∃ (before : Text) (s : HeaderStart) (more rest : Text),
      t = before ++ (s.text ++ (more ++ ':' :: rest)) ∧ freshAfter true before = true ∧
      s.name = d.name ∧ d.start = Text.bytes before ∧ Stops isWord (more ++ ':' :: rest) ∧
      d.body.start = Text.bytes (before ++ (s.text ++ (more ++ [':']))) ∧
      Text.bytes s.indent = d.indent ∧ d.body.stop = blockEnd d.indent d.body.start rest := by
  obtain ⟨f, hf, rfl⟩ := List.mem_map.mp hd
  obtain ⟨before, rest, rfl, hfresh, hstart, hread, hstop⟩ := reading_of_mem hf
  obtain ⟨s, after, bases, gap, htext, hname, hindent, hafter, hgap, hbases⟩ :=
    readClassHeader_eq_some hread
  have hrest : rest = s.text ++ ((after ++ (bases ++ gap)) ++ ':' :: f.rest) := by
    rw [htext]
    simp
  have hstops : Stops isWord ((after ++ (bases ++ gap)) ++ ':' :: f.rest) := by
    rcases hbases with rfl | ⟨inside, -, rfl⟩
    · have hblank : Blank (after ++ gap) := by
        intro c hc
        rcases List.mem_append.mp hc with hc | hc
        · exact hafter c hc
        · exact hgap c hc
      exact hblank.stops_append (by decide) _
    · rw [List.append_assoc]
      exact hafter.stops_append (by decide) _
  have hcolon : Text.bytes (':' :: f.rest) = Text.bytes [':'] + Text.bytes f.rest := by
    rw [← Text.bytes_append]
    rfl
  rw [Nat.zero_add] at hstart
  refine ⟨before, s, after ++ (bases ++ gap), f.rest, congrArg _ hrest, hfresh, hname, hstart,
    hstops, ?_, hindent, rfl⟩
  show f.stop = _
  rw [hstop, hstart, hrest]
  simp only [Text.bytes_append, hcolon]
  omega

/-- **The line of a class** shows `class` and its name. -/
theorem declaration_shown {t : Text} {d : Declaration} (hd : d ∈ declarations t) :
    LineShows t (lineOf t d.start) (ShowsClass d.name) := by
  obtain ⟨before, s, more, rest, rfl, hfresh, hname, hstart, hstops, -⟩ := exists_header hd
  rw [hstart]
  apply lineShows_append
  rw [afterLast_of_fresh hfresh, List.nil_append,
    takeWhile_line_append (s.not_mem (by decide) (by decide)), ← hname]
  refine ⟨s.indent, s.gap, (more ++ ':' :: rest).takeWhile (· != '\n'), ?_, s.blank_indent,
    s.gap_ne_nil, s.blank_gap, stops_takeWhile hstops⟩
  rw [HeaderStart.text]
  simp

/-! ## Statements in a body -/

/-- What is found in the body of a class stands in the text, at the start of a line or right after
    the colon of the header. -/
theorem exists_in_body {α : Type} {read : Reader α} {t : Text} {d : Declaration}
    (hd : d ∈ declarations t) {f : Found α}
    (hf : f ∈ foundAt read d.body.start (d.body.slice t)) :
    ∃ a rest tail, t = a ++ (rest ++ tail) ∧ f.start = Text.bytes a ∧ Stops isWord a.reverse ∧
      read rest = some (f.value, f.rest) := by
  obtain ⟨before, s, more, rest, htext, -, -, -, -, hbody, -⟩ := exists_header hd
  have hcut : t = (before ++ (s.text ++ (more ++ [':']))) ++ rest := by
    rw [htext]
    simp
  have hslice : d.body.slice t = Text.takeBytes (d.body.stop - d.body.start) rest := by
    rw [Span.slice, hbody, hcut, Text.dropBytes_bytes_append]
  obtain ⟨above, found, habove, hfresh, hstart, hread, -⟩ := reading_of_mem hf
  have hrest : rest = (above ++ found) ++
      Text.dropBytes (d.body.stop - d.body.start) rest := by
    rw [← habove, hslice, Text.takeBytes_append_dropBytes]
  refine ⟨(before ++ (s.text ++ (more ++ [':']))) ++ above, found,
    Text.dropBytes (d.body.stop - d.body.start) rest, ?_, ?_, ?_, hread⟩
  · rw [List.append_assoc, ← List.append_assoc above, ← hrest]
    exact hcut
  · rw [hstart, hbody, ← Text.bytes_append]
  · rcases eq_nil_or_newline hfresh with ⟨rfl, -⟩ | ⟨line, rfl⟩
    · have hcolon : (before ++ (s.text ++ (more ++ [':'])) ++ []).reverse =
          ':' :: (before ++ (s.text ++ more)).reverse := by simp
      rw [hcolon]
      exact stops_cons (by decide) _
    · rw [List.reverse_append, List.reverse_append]
      exact stops_cons (by decide) _

/-- A call that is closed comes from a head. -/
theorem exists_head_of_closed {t : Text} {consumed : Nat} {heads : List (Found CallHead)}
    {call : CallAssignment} (h : .ok call ∈ closeCalls t consumed heads) :
    ∃ f ∈ heads, call.target = f.value.target ∧ call.stmt.start = f.start + f.value.indent := by
  induction heads generalizing consumed with
  | nil => cases h
  | cons f heads ih =>
    have later {consumed : Nat} (h : .ok call ∈ closeCalls t consumed heads) :
        ∃ g ∈ f :: heads, call.target = g.value.target ∧
          call.stmt.start = g.start + g.value.indent := by
      obtain ⟨g, hg, hcall⟩ := ih h
      exact ⟨g, List.mem_cons_of_mem _ hg, hcall⟩
    rw [closeCalls] at h
    split at h
    · exact later h
    · split at h
      · rcases List.mem_cons.mp h with h | h
        · cases h
        · exact later h
      · rcases List.mem_cons.mp h with h | h
        · cases h
          exact ⟨f, List.mem_cons_self, rfl, rfl⟩
        · exact later h

/-- **The line of an assignment** shows its target and an equals sign. -/
theorem call_shown {t : Text} {d : Declaration} (hd : d ∈ declarations t) {call : CallAssignment}
    (hcall : .ok call ∈ callAssignments t d.body) :
    LineShows t (lineOf t call.stmt.start) (ShowsField call.target) := by
  obtain ⟨f, hf, htarget, hplace⟩ := exists_head_of_closed hcall
  obtain ⟨a, rest, tail, rfl, hstart, hends, hread⟩ := exists_in_body hd hf
  obtain ⟨indent, between, after, rfl, hblank, hindent, hname, hequals, hline, hstops⟩ :=
    readCallHead_eq_some hread
  have htext : a ++ (indent ++ (f.value.target ++ (between ++ '=' :: after)) ++ tail) =
      (a ++ indent) ++ ((f.value.target ++ (between ++ ['='])) ++ (after ++ tail)) := by simp
  have hunbroken : '\n' ∉ f.value.target ++ (between ++ ['=']) := by
    simp only [List.mem_append, not_or]
    exact ⟨hname.not_mem (by decide), hline, by decide⟩
  rw [hplace, hstart, ← hindent, ← Text.bytes_append, htarget, htext]
  apply lineShows_append
  rw [takeWhile_line_append hunbroken]
  refine ⟨Text.afterLast '\n' (a ++ indent), between, (after ++ tail).takeWhile (· != '\n'), ?_,
    stops_afterLast (stops_reverse_append hends hblank.getLast?), ?_, hequals⟩
  · rw [List.append_assoc, List.append_assoc, List.singleton_append]
  · -- The first character after the target is the same.
    cases between with
    | nil => exact stops_cons (by decide) _
    | cons c between => exact stops_cons (hstops c rfl) _

/-- **The line of a method** shows `def` and its name. -/
theorem method_shown {t : Text} {d : Declaration} (hd : d ∈ declarations t) {h : MethodHeader}
    (hheader : .ok h ∈ methodHeaders t d.body) :
    LineShows t (lineOf t h.start) (ShowsMethod h.name) := by
  obtain ⟨f, hf, hmethod⟩ := List.mem_map.mp hheader
  unfold methodHeader at hmethod
  split at hmethod
  · cases hmethod
  · cases hmethod
    obtain ⟨a, rest, tail, rfl, hstart, hends, hread⟩ := exists_in_body hd hf
    obtain ⟨before, gap, after, rfl, hblank, hline, hne, hgap, hname, hafter⟩ :=
      readMethodHead_eq_some hread
    have htext : a ++ (before ++ ("def" ++ (gap ++ (f.value.name ++ (after ++ '(' :: f.rest)))) ++
        tail) = a ++ ((before ++ ("def" ++ (gap ++ f.value.name))) ++
          (after ++ '(' :: (f.rest ++ tail))) := by simp
    have hunbroken : '\n' ∉ before ++ ("def" ++ (gap ++ f.value.name)) := by
      simp only [List.mem_append, not_or]
      exact ⟨hline, by decide, hgap.not_mem (by decide), hname.not_mem (by decide)⟩
    dsimp only
    rw [hstart, htext]
    apply lineShows_append
    rw [takeWhile_line_append hunbroken]
    exact ⟨Text.afterLast '\n' a ++ before, gap,
      (after ++ '(' :: (f.rest ++ tail)).takeWhile (· != '\n'), by simp,
      stops_reverse_append (stops_afterLast hends) hblank, hne, hgap,
      stops_takeWhile (hafter.stops_append (by decide) _)⟩

end OrmLens.Source
