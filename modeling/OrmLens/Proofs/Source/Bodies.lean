/-
  Bodies as blocks of lines.

  A body reaches from the colon of its header to the first line below that carries code and is not
  indented deeper. No such line starts inside it (`blockEnd_le`), and it ends with the text or where
  one of them starts (`blockEnd_cases`). A header is such a line for every class that is indented as
  deep as it or deeper, so a body never goes on into a sibling (`stop_le_start`).
  `bodies_are_blocks` puts this together.
-/
import OrmLens.Proofs.Source.Blocks

namespace OrmLens.Source

/-- A line of the text starts at the offset, and this is what stands on it. -/
def LineStarts (t : Text) (offset : Nat) (line : Text) : Prop :=
  ∃ before rest, t = before ++ rest ∧ freshAfter true before = true ∧
    Text.bytes before = offset ∧ line = rest.takeWhile (· != '\n')

/-! ## Lines of a text -/

theorem exists_lines_cons (t : Text) :
    ∃ more, Text.lines t = t.takeWhile (· != '\n') :: more := by
  have hfirst := Text.getElem?_lines [] t
  cases hlines : Text.lines t with
  | nil => exact absurd hlines (Text.splitOn_ne_nil '\n' t)
  | cons line more =>
    rw [List.nil_append, hlines] at hfirst
    exact ⟨more, congrArg (· :: more) (Option.some.inj hfirst)⟩

theorem freshAfter_newlines {lines : List Text} (hne : lines ≠ []) (fresh : Bool) :
    freshAfter fresh (Text.newlines lines) = true := by
  rcases List.eq_nil_or_concat lines with rfl | ⟨older, last, rfl⟩
  · exact absurd rfl hne
  · rw [List.concat_eq_append, Text.newlines_append, Text.newlines_singleton, freshAfter_append,
      freshAfter_append]
    rfl

/-- What ends with a newline is some lines. -/
theorem exists_newlines {fresh : Bool} {t : Text} (hne : t ≠ []) (h : freshAfter fresh t = true) :
    ∃ lines, lines ≠ [] ∧ Text.Unbroken lines ∧ t = Text.newlines lines := by
  rcases eq_nil_or_newline h with ⟨hnil, -⟩ | ⟨front, rfl⟩
  · exact absurd hnil hne
  · obtain ⟨older, last, rfl, holder, hlast⟩ := Text.exists_lines front
    refine ⟨older ++ [last], by simp, holder.append (Text.unbroken_nil.cons hlast), ?_⟩
    rw [Text.newlines_append, Text.newlines_singleton, List.append_assoc]

/-! ## Where a block ends -/

theorem blockEndFrom_le {indent : Nat} {line : Text} (h : staysInside indent line = false)
    (total offset : Nat) (above more : List Text) :
    blockEndFrom indent total offset (above ++ line :: more) ≤
      offset + Text.bytes (Text.newlines above) := by
  induction above generalizing offset with
  | nil =>
    rw [List.nil_append, blockEndFrom_cons_of_not_inside h]
    exact Nat.le_refl _
  | cons first above ih =>
    rw [List.cons_append, Text.bytes_newlines_cons]
    cases hfirst : staysInside indent first with
    | false =>
      rw [blockEndFrom_cons_of_not_inside hfirst]
      omega
    | true =>
      rw [blockEndFrom_cons_of_inside hfirst]
      have := ih (offset + Text.bytes first + 1)
      omega

/-- A block does not go beyond the start of a line that does not stay inside. -/
theorem blockEnd_le {indent : Nat} {lines : List Text} (hne : lines ≠ [])
    (hlines : Text.Unbroken lines) {t : Text}
    (h : staysInside indent (t.takeWhile (· != '\n')) = false) (offset : Nat) :
    blockEnd indent offset (Text.newlines lines ++ t) ≤
      offset + Text.bytes (Text.newlines lines) := by
  obtain ⟨first, above, rfl⟩ := List.exists_cons_of_ne_nil hne
  obtain ⟨more, hmore⟩ := exists_lines_cons t
  unfold blockEnd
  rw [Text.lines_newlines hlines, hmore, List.cons_append, Text.bytes_newlines_cons first]
  have := blockEndFrom_le h (offset + Text.bytes (Text.newlines (first :: above) ++ t))
    (offset + Text.bytes first + 1) above more
  dsimp only
  omega

theorem blockEndFrom_cases (indent total offset : Nat) (lines : List Text) :
    blockEndFrom indent total offset lines = total ∨
      ∃ above line more, lines = above ++ line :: more ∧ staysInside indent line = false ∧
        blockEndFrom indent total offset lines = offset + Text.bytes (Text.newlines above) := by
  induction lines generalizing offset with
  | nil => exact .inl rfl
  | cons first lines ih =>
    cases hfirst : staysInside indent first with
    | false =>
      exact .inr ⟨[], first, lines, rfl, hfirst, blockEndFrom_cons_of_not_inside hfirst ..⟩
    | true =>
      rw [blockEndFrom_cons_of_inside hfirst]
      rcases ih (offset + Text.bytes first + 1) with htotal | ⟨above, line, more, rfl, hline, hend⟩
      · exact .inl htotal
      · refine .inr ⟨first :: above, line, more, rfl, hline, ?_⟩
        rw [hend, Text.bytes_newlines_cons]
        omega

/-- Lines above and a line below them, found among all lines of a text. -/
theorem below_of_lines {above more older : List Text} {line last : Text}
    (h : older ++ [last] = above ++ line :: more) (holder : Text.Unbroken older)
    (hlast : '\n' ∉ last) : ∃ below, Text.newlines older ++ last = Text.newlines above ++ below ∧
      below.takeWhile (· != '\n') = line := by
  rcases List.eq_nil_or_concat more with rfl | ⟨more, final, rfl⟩
  · obtain ⟨rfl, hline⟩ := List.append_inj' h rfl
    obtain rfl := List.singleton_inj.mp hline
    refine ⟨last, rfl, ?_⟩
    have htake := takeWhile_line_append hlast []
    rwa [List.append_nil, List.takeWhile_nil, List.append_nil] at htake
  · rw [List.concat_eq_append, ← List.cons_append, ← List.append_assoc] at h
    obtain ⟨rfl, hfinal⟩ := List.append_inj' h rfl
    obtain rfl := List.singleton_inj.mp hfinal
    refine ⟨Text.newlines (line :: more) ++ last, ?_, ?_⟩
    · rw [Text.newlines_append, List.append_assoc]
    · rw [Text.newlines_cons, List.append_assoc,
        takeWhile_line_append (holder line (by simp)), List.cons_append,
        List.takeWhile_cons_of_neg (by decide), List.append_nil]

/-- **A block** ends with the text, or where a line starts that does not stay inside. -/
theorem blockEnd_cases (indent offset : Nat) (t : Text) :
    blockEnd indent offset t = offset + Text.bytes t ∨
      ∃ lines below, t = Text.newlines lines ++ below ∧ lines ≠ [] ∧
        staysInside indent (below.takeWhile (· != '\n')) = false ∧
        blockEnd indent offset t = offset + Text.bytes (Text.newlines lines) := by
  obtain ⟨older, last, rfl, holder, hlast⟩ := Text.exists_lines t
  have hlines := Text.lines_newlines_append holder hlast
  unfold blockEnd
  cases older with
  | nil =>
    rw [hlines]
    exact .inl rfl
  | cons first older =>
    rw [hlines, List.cons_append]
    dsimp only
    rcases blockEndFrom_cases indent (offset + Text.bytes (Text.newlines (first :: older) ++ last))
      (offset + Text.bytes first + 1) (older ++ [last]) with
      htotal | ⟨above, line, more, hsplit, hline, hend⟩
    · exact .inl htotal
    · obtain ⟨below, hbelow, rfl⟩ :=
        below_of_lines hsplit (fun l hl => holder l (List.mem_cons_of_mem _ hl)) hlast
      refine .inr ⟨first :: above, below, ?_, List.cons_ne_nil _ _, hline, ?_⟩
      · rw [Text.newlines_cons, Text.newlines_cons, List.append_assoc, List.append_assoc,
          List.cons_append, List.cons_append, hbelow]
      · rw [hend, Text.bytes_newlines_cons]
        omega

/-! ## Bodies -/

/-- The text behind the colon of a header, where the body starts. -/
theorem exists_opening {t : Text} {d : Declaration} (hd : d ∈ declarations t) :
    ∃ above rest, t = above ++ ':' :: rest ∧ d.body.start = Text.bytes (above ++ [':']) ∧
      d.body.stop = blockEnd d.indent d.body.start rest := by
  obtain ⟨before, s, more, rest, rfl, -, -, -, -, hstart, -, hstop⟩ := exists_header hd
  have hassoc : before ++ (s.text ++ (more ++ [':'])) = (before ++ (s.text ++ more)) ++ [':'] := by
    simp
  exact ⟨before ++ (s.text ++ more), rest, by simp, hassoc ▸ hstart, hstop⟩

/-- A line behind the header's colon, and the lines from the colon to it. -/
theorem exists_lines_between {above rest : Text} {offset : Nat} {line : Text}
    (hline : LineStarts (above ++ rest) offset line) (hoffset : Text.bytes above < offset) :
    ∃ lines below, lines ≠ [] ∧ Text.Unbroken lines ∧ rest = Text.newlines lines ++ below ∧
      offset = Text.bytes above + Text.bytes (Text.newlines lines) ∧
      line = below.takeWhile (· != '\n') := by
  obtain ⟨before, below, htext, hfresh, rfl, rfl⟩ := hline
  obtain ⟨between, hne, rfl, hrest⟩ := append_of_bytes_lt htext.symm hoffset
  rw [freshAfter_append] at hfresh
  obtain ⟨lines, hlinesne, hlines, rfl⟩ := exists_newlines hne hfresh
  exact ⟨lines, below, hlinesne, hlines, hrest, Text.bytes_append _ _, rfl⟩

/-- A line of code that is not indented deeper than the header is not inside the body. -/
theorem stop_le_of_lineStarts {t : Text} {d : Declaration} (hd : d ∈ declarations t) {offset : Nat}
    {line : Text} (hline : LineStarts t offset line) (hoffset : d.body.start < offset)
    (h : staysInside d.indent line = false) : d.body.stop ≤ offset := by
  obtain ⟨above, rest, rfl, hstart, hstop⟩ := exists_opening hd
  rw [← List.singleton_append, ← List.append_assoc] at hline
  rw [hstart] at hoffset
  obtain ⟨lines, below, hne, hlines, rfl, rfl, rfl⟩ := exists_lines_between hline hoffset
  rw [hstop, hstart]
  exact blockEnd_le hne hlines h _

/-- A body that ends before the text does ends where such a line starts. -/
theorem exists_lineStarts_stop {t : Text} {d : Declaration} (hd : d ∈ declarations t)
    (h : d.body.stop < Text.bytes t) :
    ∃ line, LineStarts t d.body.stop line ∧ staysInside d.indent line = false := by
  obtain ⟨above, rest, rfl, hstart, hstop⟩ := exists_opening hd
  rcases blockEnd_cases d.indent d.body.start rest with
    hend | ⟨lines, below, rfl, hne, hline, hend⟩
  · have hcolon : (':').utf8Size = 1 := rfl
    simp only [Text.bytes_append, Text.bytes_cons, Text.bytes_nil] at h hstart
    omega
  · refine ⟨_, ⟨above ++ ':' :: Text.newlines lines, below, by simp, ?_, ?_, rfl⟩, hline⟩
    · rw [freshAfter_append]
      exact freshAfter_newlines hne _
    · rw [hstop, hend, hstart, ← Text.bytes_append, List.append_assoc, List.singleton_append]

/-! ## Siblings -/

/-- The line of a header carries code, and its indentation is that of the class. -/
theorem lineStarts_start {t : Text} {d : Declaration} (hd : d ∈ declarations t) :
    ∃ line, LineStarts t d.start line ∧ Text.isBlankLine line = false ∧
      Text.indentOf line = d.indent := by
  obtain ⟨before, s, more, rest, rfl, hfresh, -, hstart, -, -, hindent, -⟩ := exists_header hd
  have hline : (s.text ++ (more ++ ':' :: rest)).takeWhile (· != '\n') =
      s.indent ++ 'c' :: ("lass" ++ (s.gap ++ s.name) ++
        (more ++ ':' :: rest).takeWhile (· != '\n')) := by
    rw [takeWhile_line_append (s.not_mem (by decide) (by decide)), HeaderStart.text]
    simp
  obtain ⟨hcode, hdeep⟩ := code_line s.blank_indent (c := 'c') (by decide)
    (t := "lass" ++ (s.gap ++ s.name) ++ (more ++ ':' :: rest).takeWhile (· != '\n'))
  exact ⟨_, ⟨before, _, rfl, hfresh, hstart.symm, rfl⟩, hline ▸ hcode, hline ▸ hdeep.trans hindent⟩

/-- A header that starts later starts behind the colon. -/
theorem body_start_lt_start {t : Text} {d e : Declaration} (hd : d ∈ declarations t)
    (he : e ∈ declarations t) (h : d.start < e.start) : d.body.start < e.start := by
  obtain ⟨f, hf, rfl⟩ := List.mem_map.mp hd
  obtain ⟨g, hg, rfl⟩ := List.mem_map.mp he
  have hle : f.stop ≤ g.start := stop_le_of_mem hf hg h
  refine Nat.lt_of_le_of_ne hle fun heq => ?_
  obtain ⟨above, rest, htext, hstart, -⟩ := exists_opening hd
  obtain ⟨line, ⟨before, below, htext', hfresh, hplace, -⟩, -⟩ := lineStarts_start he
  -- Both are the same place, and no line starts behind a colon.
  have hsame : above ++ [':'] = before := by
    have hbytes : Text.bytes (above ++ [':']) = Text.bytes before := by
      rw [← hstart, hplace]
      exact heq
    have hparts : (above ++ [':']) ++ rest = before ++ below := by
      rw [List.append_assoc, List.singleton_append, ← htext, htext']
    exact (Text.append_inj_of_bytes hparts hbytes).1
  rw [← hsame, freshAfter_append] at hfresh
  exact absurd (show (':' == '\n') = true from hfresh) (by decide)

/-- **A body does not go on into a sibling.** -/
theorem stop_le_start {t : Text} {d e : Declaration} (hd : d ∈ declarations t)
    (he : e ∈ declarations t) (h : d.start < e.start) (hindent : e.indent ≤ d.indent) :
    d.body.stop ≤ e.start := by
  obtain ⟨line, hline, hcode, hdeep⟩ := lineStarts_start he
  refine stop_le_of_lineStarts hd hline (body_start_lt_start hd he h) ?_
  exact staysInside_eq_false_iff.mpr ⟨hcode, hdeep ▸ hindent⟩

/-! ## Order -/

theorem pairwise_start {α : Type} (read : Reader α) (offset resume : Nat) (fresh : Bool)
    (t : Text) : (foundFrom read offset resume fresh t).Pairwise (·.start < ·.start) := by
  induction t generalizing offset resume fresh with
  | nil => exact List.Pairwise.nil
  | cons c t ih =>
    rcases foundFrom_cons_cases read offset resume fresh c t with
      ⟨value, rest, -, -, -, heq⟩ | ⟨-, heq⟩
    · rw [heq]
      refine List.Pairwise.cons (fun f hf => ?_) (ih _ _ _)
      have hpos := c.utf8Size_pos
      have := (le_start_of_mem hf).1
      dsimp only
      omega
    · rw [heq]
      exact ih _ _ _

/-- **Bodies are blocks of lines.** A body lies in the text; every line that starts inside it is
    blank, a comment, or indented deeper than the header; and if it ends before the text does, then
    where a line of code starts that is not. The classes come in the order in which they start, and
    the body of a class ends before the next one that is not indented deeper starts. -/
theorem bodies_are_blocks (t : Text) :
    (∀ d ∈ declarations t,
      d.body.start ≤ d.body.stop ∧ d.body.stop ≤ Text.bytes t ∧
      (∀ offset line, LineStarts t offset line → d.body.start < offset → offset < d.body.stop →
        Text.isBlankLine line = true ∨ d.indent < Text.indentOf line) ∧
      (d.body.stop < Text.bytes t → ∃ line, LineStarts t d.body.stop line ∧
        Text.isBlankLine line = false ∧ Text.indentOf line ≤ d.indent)) ∧
    (declarations t).Pairwise (·.start < ·.start) ∧
    ∀ d ∈ declarations t, ∀ e ∈ declarations t, d.start < e.start → e.indent ≤ d.indent →
      d.body.stop ≤ e.start := by
  refine ⟨fun d hd => ?_, ?_, fun d hd e he => stop_le_start hd he⟩
  · have hwithin : d.body.start ≤ d.body.stop ∧ d.body.stop ≤ Text.bytes t := by
      obtain ⟨before, body, after, rfl, hstart, hstop⟩ := exists_body hd
      rw [hstart, hstop, Text.bytes_append, Text.bytes_append]
      omega
    refine ⟨hwithin.1, hwithin.2, fun offset line hline hbehind hbefore => ?_, fun hend => ?_⟩
    · rw [← staysInside_eq_true_iff, ← Bool.not_eq_false]
      intro hout
      have := stop_le_of_lineStarts hd hline hbehind hout
      omega
    · obtain ⟨line, hline, hout⟩ := exists_lineStarts_stop hd hend
      exact ⟨line, hline, staysInside_eq_false_iff.mp hout⟩
  · exact List.pairwise_map.mpr (pairwise_start readClassHeader 0 0 true t)

/-- A header over several lines, a class in the body of another, comments, and a file that ends
    without a newline. -/
theorem bodies_are_blocks_nested :
    let t : Text := "class A(\n  Base,\n):\r\n\n# note\n    x = 1\n" ++
      "    class Meta: pass\n  # end\nclass B: pass"
    let a : Declaration := ⟨"A", ["Base"], 0, 0, ⟨19, 68⟩⟩
    let m : Declaration := ⟨"Meta", [], 4, 39, ⟨54, 68⟩⟩
    let b : Declaration := ⟨"B", [], 0, 68, ⟨76, 81⟩⟩
    declarations t = [a, m, b] ∧ a.body.stop ≤ b.start ∧ m.body.stop ≤ b.start ∧
      ∃ line, LineStarts t m.body.stop line ∧ Text.isBlankLine line = false ∧
        Text.indentOf line ≤ m.indent := by
  intro t a m b
  have hread : declarations t = [a, m, b] := by decide +kernel
  have ha : a ∈ declarations t := by simp [hread]
  have hm : m ∈ declarations t := by simp [hread]
  have hb : b ∈ declarations t := by simp [hread]
  obtain ⟨hblocks, -, hsiblings⟩ := bodies_are_blocks t
  obtain ⟨-, -, -, hstops⟩ := hblocks m hm
  exact ⟨hread, hsiblings a ha b hb (by decide) (by decide),
    hsiblings m hm b hb (by decide) (by decide), hstops (by decide +kernel)⟩

end OrmLens.Source
