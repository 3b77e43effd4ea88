/-
  Blocks below a header.

  The block of a header is the rest of the header's own line and the lines below it that carry no
  code or are indented deeper (`blockLines`). `exists_block`: a block ends between two characters of
  the text and not before the last of these lines, so the text of a body has the length of its span
  (`bytes_slice_body`) and every statement of a body starts inside it (`start_lt_stop`).

  A method reaches from its head to the end of its block (`InMethod`), also where its parameters go
  on over several lines. `holds_span_of_inMethod`: the span of a header covers all of this that lies
  in the class body.
-/
import OrmLens.Proofs.Source.Places
import OrmLens.Proofs.Source.Recovery

namespace OrmLens.Source

open CharClass

/-! ## Lines of a block -/

/-- Whether a line cannot end the block of a header with the indentation: it carries no code, or it
    is indented deeper. -/
def staysInside (indent : Nat) (line : Text) : Bool :=
  Text.isBlankLine line || indent < Text.indentOf line

theorem staysInside_eq_false_iff {indent : Nat} {line : Text} :
    staysInside indent line = false ↔
      Text.isBlankLine line = false ∧ Text.indentOf line ≤ indent := by
  rw [staysInside, Bool.or_eq_false_iff, decide_eq_false_iff_not, Nat.not_lt]

theorem staysInside_eq_true_iff {indent : Nat} {line : Text} :
    staysInside indent line = true ↔
      Text.isBlankLine line = true ∨ indent < Text.indentOf line := by
  rw [staysInside, Bool.or_eq_true, decide_eq_true_eq]

/-- The lines of the block of a header, given the text after the header. -/
def blockLines (indent : Nat) (rest : Text) : List Text :=
  match Text.lines rest with
  | [] => []
  | first :: below => first :: below.takeWhile (staysInside indent)

/-- A line that starts, after blanks, with a character of a word carries code, and the blanks are
    its indentation. -/
theorem code_line {indent t : Text} (hindent : Blank indent) {c : Char} (hc : isWord c = true) :
    Text.isBlankLine (indent ++ c :: t) = false ∧
      Text.indentOf (indent ++ c :: t) = Text.bytes indent := by
  have hspace : ∀ b ∈ indent, isSpace b = true := fun b hb => isSpace_of_isBlank (hindent b hb)
  have hstops : Stops isSpace (c :: t) := stops_cons (isSpace_of_isWord hc) t
  refine ⟨?_, ?_⟩
  · rw [Text.isBlankLine, Text.trimStart, dropWhile_of_stops hspace hstops]
    dsimp only
    rw [beq_eq_false_iff_ne]
    rintro rfl
    revert hc
    decide
  · rw [Text.indentOf, takeWhile_of_stops hspace hstops]

theorem blockEndFrom_cons_of_inside {indent : Nat} {line : Text}
    (h : staysInside indent line = true) (total offset : Nat) (rest : List Text) :
    blockEndFrom indent total offset (line :: rest) =
      blockEndFrom indent total (offset + Text.bytes line + 1) rest := by
  rw [blockEndFrom, if_neg]
  rw [Bool.and_eq_true, decide_eq_true_eq, Bool.not_eq_true', ← staysInside_eq_false_iff, h]
  exact Bool.noConfusion

theorem blockEndFrom_cons_of_not_inside {indent : Nat} {line : Text}
    (h : staysInside indent line = false) (total offset : Nat) (rest : List Text) :
    blockEndFrom indent total offset (line :: rest) = offset := by
  rw [blockEndFrom, if_pos]
  rw [Bool.and_eq_true, decide_eq_true_eq, Bool.not_eq_true']
  exact staysInside_eq_false_iff.mp h

/-- Lines that stay inside are left behind. -/
theorem blockEndFrom_append {indent : Nat} {lines : List Text}
    (h : ∀ line ∈ lines, staysInside indent line = true) (total offset : Nat) (more : List Text) :
    blockEndFrom indent total offset (lines ++ more) =
      blockEndFrom indent total (offset + Text.bytes (Text.newlines lines)) more := by
  induction lines generalizing offset with
  | nil => rfl
  | cons line lines ih =>
    obtain ⟨hline, hlines⟩ := List.forall_mem_cons.mp h
    rw [List.cons_append, blockEndFrom_cons_of_inside hline, ih hlines, Text.bytes_newlines_cons,
      ← Nat.add_assoc, ← Nat.add_assoc]

/-- Where a block ends: `lines` with newlines between them start at `offset`, the block is the
    beginning of them up to `stop`, and it holds `inside`. -/
def BlockOf (lines inside : List Text) (offset stop : Nat) : Prop :=
  ∃ block more, Text.join ['\n'] lines = block ++ more ∧ Text.join ['\n'] inside <+: block ∧
    stop = offset + Text.bytes block

/-- A line in front of a block belongs to it. -/
theorem BlockOf.cons {below inside : List Text} {offset stop : Nat} (line : Text)
    (h : BlockOf below inside (offset + Text.bytes line + 1) stop) (hbelow : below ≠ []) :
    BlockOf (line :: below) (line :: inside) offset stop := by
  obtain ⟨block, more, hjoin, hinside, rfl⟩ := h
  refine ⟨line ++ ['\n'] ++ block, more, ?_, ?_, ?_⟩
  · rw [Text.join_cons_of_ne_nil _ _ hbelow, hjoin, ← List.append_assoc]
  · cases inside with
    | nil =>
      rw [List.append_assoc]
      exact List.prefix_append line _
    | cons next inside =>
      rw [Text.join_cons_of_ne_nil _ _ (List.cons_ne_nil next inside)]
      exact (List.prefix_append_right_inj _).mpr hinside
  · rw [Text.bytes_append, Text.bytes_newline]
    omega

theorem bytes_join_cons (line : Text) {rest : List Text} (h : rest ≠ []) :
    Text.bytes (Text.join ['\n'] (line :: rest)) =
      Text.bytes line + 1 + Text.bytes (Text.join ['\n'] rest) := by
  rw [Text.join_cons_of_ne_nil _ _ h, Text.bytes_append, Text.bytes_newline]

/-- Lines below a header: the block ends where one of them starts, or with the last. -/
theorem blockOf_below (indent offset : Nat) (below : List Text) :
    BlockOf below (below.takeWhile (staysInside indent)) offset
      (blockEndFrom indent (offset + Text.bytes (Text.join ['\n'] below)) offset below) := by
  induction below generalizing offset with
  | nil => exact ⟨[], [], rfl, List.prefix_rfl, rfl⟩
  | cons line below ih =>
    cases hinside : staysInside indent line with
    | false =>
      rw [List.takeWhile_cons_of_neg (by simp [hinside]),
        blockEndFrom_cons_of_not_inside hinside]
      exact ⟨[], _, rfl, List.prefix_rfl, rfl⟩
    | true =>
      rw [List.takeWhile_cons_of_pos hinside, blockEndFrom_cons_of_inside hinside]
      by_cases hbelow : below = []
      · subst hbelow
        exact ⟨line, [], (List.append_nil line).symm, List.prefix_rfl, rfl⟩
      · refine BlockOf.cons line ?_ hbelow
        rw [bytes_join_cons line hbelow, ← Nat.add_assoc, ← Nat.add_assoc]
        exact ih _

/-- **A block** is the beginning of the text after its header, and its lines are in it. -/
theorem exists_block (indent offset : Nat) (rest : Text) :
    ∃ block more, rest = block ++ more ∧
      Text.join ['\n'] (blockLines indent rest) <+: block ∧
      blockEnd indent offset rest = offset + Text.bytes block := by
  have hrest : Text.join ['\n'] (Text.lines rest) = rest := Text.join_splitOn '\n' rest
  unfold blockEnd blockLines
  cases hlines : Text.lines rest with
  | nil => exact absurd hlines (Text.splitOn_ne_nil '\n' rest)
  | cons first below =>
    rw [hlines] at hrest
    dsimp only
    by_cases hbelow : below = []
    · subst hbelow
      exact ⟨rest, [], (List.append_nil rest).symm, hrest ▸ List.prefix_rfl, rfl⟩
    · have hblock := (blockOf_below indent (offset + Text.bytes first + 1) below).cons first hbelow
      have htotal : offset + Text.bytes first + 1 + Text.bytes (Text.join ['\n'] below) =
          offset + Text.bytes rest := by
        rw [← hrest, bytes_join_cons first hbelow]
        omega
      rw [htotal] at hblock
      unfold BlockOf at hblock
      rwa [hrest] at hblock

/-! ## Bodies -/

/-- The body of a class is a part of the text, as long as its span. -/
theorem exists_body {t : Text} {d : Declaration} (hd : d ∈ declarations t) :
    ∃ before body after, t = before ++ (body ++ after) ∧ d.body.start = Text.bytes before ∧
      d.body.stop = Text.bytes before + Text.bytes body := by
  obtain ⟨f, hf, rfl⟩ := List.mem_map.mp hd
  obtain ⟨before, header, rfl, -, -, hstop, -⟩ := consumed_of_mem hf
  obtain ⟨block, more, hrest, -, hend⟩ := exists_block f.value.indent f.stop f.rest
  rw [← Text.bytes_append] at hstop
  refine ⟨before ++ header, block, more, ?_, hstop, ?_⟩
  · rw [← hrest, List.append_assoc]
  · rw [← hstop]
    exact hend

theorem bytes_slice_body {t : Text} {d : Declaration} (hd : d ∈ declarations t) :
    d.body.start + Text.bytes (d.body.slice t) = d.body.stop := by
  obtain ⟨before, body, after, rfl, hstart, hstop⟩ := exists_body hd
  rw [Span.slice, hstop, hstart, Nat.add_sub_cancel_left, Text.dropBytes_bytes_append,
    Text.takeBytes_bytes_append]

/-- An assignment of a body starts before the body ends. -/
theorem start_lt_stop {t : Text} {d : Declaration} (hd : d ∈ declarations t)
    {call : CallAssignment} (hcall : .ok call ∈ callAssignments t d.body) :
    call.stmt.start < d.body.stop := by
  obtain ⟨f, hf, -, hplace⟩ := exists_head_of_closed hcall
  obtain ⟨before, rest, hslice, -, hstart, hread, -⟩ := reading_of_mem hf
  obtain ⟨indent, between, after, rfl, -, hindent, hname, -⟩ := readCallHead_eq_some hread
  have hbytes := bytes_slice_body hd
  rw [hslice] at hbytes
  simp only [Text.bytes_append, Text.bytes_cons] at hbytes
  have hpos := ('=').utf8Size_pos
  omega

/-! ## Methods -/

/-- Whether an offset lies in a method: not before its head, and before the end of its block, which
    starts where the parameters are closed. -/
def InMethod (t : Text) (head : Found MethodHead) (offset : Nat) : Prop :=
  ∃ params rest, group? (Text.dropBytes head.stop t) = some (params, rest) ∧
    head.start ≤ offset ∧
    offset < head.stop + Text.bytes params + 1 +
      Text.bytes (Text.join ['\n'] (blockLines head.value.indent rest))

/-- **The span of a header covers its method** as far as the body goes. -/
theorem holds_span_of_inMethod {t : Text} {body : Span} {head : Found MethodHead}
    (hhead : head ∈ foundAt readMethodHead body.start (body.slice t)) {offset : Nat}
    (h : InMethod t head offset) (hoffset : offset < body.stop) :
    ∃ header, .ok header ∈ methodHeaders t body ∧ header.span.holds offset = true := by
  obtain ⟨params, rest, hgroup, hstart, hstop⟩ := h
  obtain ⟨block, more, -, ⟨tail, rfl⟩, hend⟩ :=
    exists_block head.value.indent (head.stop + Text.bytes params + 1) rest
  have hheader := List.mem_map_of_mem (f := methodHeader t body) hhead
  unfold methodHeader at hheader
  rw [hgroup] at hheader
  refine ⟨_, hheader, ?_⟩
  rw [Text.bytes_append] at hend
  simp only [Span.holds, Bool.and_eq_true, decide_eq_true_eq]
  exact ⟨hstart, by omega⟩

end OrmLens.Source
