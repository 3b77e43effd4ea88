/-
  Model classes laid out line by line.

  A class block is the line `class Name(models.Model):` and below it lines
  `    name = models.Type(arguments)`, at least one. Names are any runs of word characters, and the
  arguments any text on one line whose brackets close as the scanner counts them: what the scanner
  needs is carried by the two types. `render` writes blocks below each other.

  The scanner reads a rendered text as it was written: one declaration for each block, with the
  lines of the block as its body (`declarations_render`), in the body one call for each line
  (`callAssignments_body`) and no method (`methodHeaders_body`). A field may be called `class` or
  `def`, and its arguments may look like anything.
-/
import OrmLens.Text.LetterCase
import OrmLens.Proofs.Source.Blocks
import OrmLens.Proofs.Source.Groups

namespace OrmLens

open CharClass

namespace Source

/-! ## Searches of many lines -/

/-- Lines at whose starts nothing is read. -/
theorem foundFrom_lines_none {α : Type} {read : Reader α} {lines : List Text}
    (hlines : Text.Unbroken lines)
    (hread : ∀ line ∈ lines, ∀ next, read (line ++ '\n' :: next) = none)
    (offset resume : Nat) (t : Text) :
    foundFrom read offset resume true (Text.newlines lines ++ t) =
      foundFrom read (offset + Text.bytes (Text.newlines lines)) resume true t := by
  induction lines generalizing offset with
  | nil => rfl
  | cons line lines ih =>
    have hrest : Text.Unbroken lines := fun l hl => hlines l (List.mem_cons_of_mem _ hl)
    have hnext : offset + Text.bytes line + 1 + Text.bytes (Text.newlines lines) =
        offset + Text.bytes (Text.newlines (line :: lines)) := by
      rw [Text.bytes_newlines_cons]
      omega
    rw [← hnext, Text.newlines_cons, List.append_assoc, List.cons_append,
      foundFrom_line_none (hlines line List.mem_cons_self) (hread line List.mem_cons_self _),
      ih hrest (fun l hl => hread l (List.mem_cons_of_mem _ hl))]

/-! ## Fields and classes as written -/

/-- A field on a line of its own. -/
structure FieldLine where
  name : Text
  type : Text
  args : Text
  isName : IsName name
  isName_type : IsName type
  capitalized : Text.isCapitalized type = true
  no_manager : Text.hasPart "Manager" type = false
  no_querySet : Text.hasPart "QuerySet" type = false
  unbroken : '\n' ∉ args
  balanced : Balanced args

namespace FieldLine

/-- The constructor that the line calls. -/
def callee (f : FieldLine) : Text := "models." ++ f.type

/-- The line up to its opening parenthesis. -/
def head (f : FieldLine) : Text := "    " ++ (f.name ++ (" = " ++ (f.callee ++ ['('])))

/-- The line without its newline. -/
def line (f : FieldLine) : Text := f.head ++ (f.args ++ [')'])

/-- What a search sees at the line. -/
theorem line_append (f : FieldLine) (next : Text) :
    f.line ++ next = "    " ++ (f.name ++ (" = " ++ (f.callee ++
      '(' :: (f.args ++ ')' :: next)))) := by
  rw [line, head]
  simp

theorem unbroken_line (f : FieldLine) : '\n' ∉ f.line := by
  have htype : '\n' ∉ f.type := f.isName_type.not_mem (by decide)
  have hname : '\n' ∉ f.name := f.isName.not_mem (by decide)
  unfold line head callee
  simp only [List.mem_append, not_or]
  refine ⟨⟨?_, hname, ?_, ⟨?_, htype⟩, ?_⟩, f.unbroken, ?_⟩
  · decide
  · decide
  · decide
  · decide
  · decide

theorem code_line (f : FieldLine) :
    Text.isBlankLine f.line = false ∧ Text.indentOf f.line = 4 := by
  obtain ⟨c, more, hname⟩ := List.exists_cons_of_ne_nil f.isName.ne_nil
  have hword : isWord c = true := f.isName.word c (hname ▸ List.mem_cons_self)
  have hline := f.line_append []
  rw [List.append_nil, hname, List.cons_append] at hline
  rw [hline]
  exact Source.code_line (by decide) hword

end FieldLine

/-- A class with its fields. -/
structure ClassBlock where
  name : Text
  fields : List FieldLine
  isName : IsName name
  fields_ne_nil : fields ≠ []

namespace ClassBlock

/-- The start of the header. -/
def start (b : ClassBlock) : HeaderStart where
  indent := []
  gap := " "
  name := b.name
  blank_indent := by decide
  gap_ne_nil := by decide
  blank_gap := by decide
  isName := b.isName

/-- The line of the header without its newline. -/
def header (b : ClassBlock) : Text := b.start.text ++ "(models.Model):"

/-- The lines below the header. -/
def below (b : ClassBlock) : List Text := b.fields.map FieldLine.line

/-- All lines. -/
def lines (b : ClassBlock) : List Text := b.header :: b.below

theorem unbroken_header (b : ClassBlock) : '\n' ∉ b.header := by
  rw [header, List.mem_append, not_or]
  exact ⟨b.start.not_mem (by decide) (by decide), by decide⟩

theorem unbroken_below (b : ClassBlock) : Text.Unbroken b.below := by
  intro line hline
  obtain ⟨f, -, rfl⟩ := List.mem_map.mp hline
  exact f.unbroken_line

/-- The lines of the body: behind the colon of the header nothing is left of its line. -/
theorem unbroken_rest (b : ClassBlock) : Text.Unbroken ([] :: b.below) :=
  b.unbroken_below.cons (by simp)

theorem unbroken_lines (b : ClassBlock) : Text.Unbroken b.lines :=
  b.unbroken_below.cons b.unbroken_header

end ClassBlock

/-- The lines of all blocks. -/
def renderedLines (blocks : List ClassBlock) : List Text := blocks.flatMap ClassBlock.lines

/-- The blocks below each other. -/
def render (blocks : List ClassBlock) : Text := Text.newlines (renderedLines blocks)

theorem render_cons (b : ClassBlock) (blocks : List ClassBlock) :
    render (b :: blocks) = b.header ++ '\n' :: (Text.newlines b.below ++ render blocks) := by
  rw [render, renderedLines, List.flatMap_cons, Text.newlines_append, ClassBlock.lines,
    Text.newlines_cons]
  simp [render, renderedLines]

/-! ## Lines as the readers see them -/

/-- The only keyword that an assignment can start with is its target, and then no name follows. -/
theorem keyword?_assignment {word name t rest : Text} (hword : IsName word) (hname : IsName name)
    (h : keyword? word (name ++ (" = " ++ t)) = some rest) :
    rest = '=' :: ' ' :: t := by
  obtain ⟨after, hafter, hblanks⟩ := Option.bind_eq_some_iff.mp h
  have htext := (Text.after?_eq_some_iff _ _ _).mp hafter
  have hstops : Stops isWord after := by
    obtain ⟨gap, hne, hgap, rfl⟩ := blanks?_eq_some hblanks
    obtain ⟨c, gap, rfl⟩ := List.exists_cons_of_ne_nil hne
    exact stops_cons (isWord_of_isBlank (hgap c List.mem_cons_self)) _
  have hequals : Stops isWord ((" = " : Text) ++ t) := stops_cons (by decide) _
  have hsame : name = word := by
    have htake := congrArg (List.takeWhile isWord) htext
    rwa [takeWhile_of_stops hname.word hequals, takeWhile_of_stops hword.word hstops] at htake
  subst hsame
  obtain rfl := List.append_cancel_left htext
  exact (Option.some.inj hblanks).symm

namespace FieldLine

theorem dropWhile_line (f : FieldLine) (next : Text) :
    (f.line ++ next).dropWhile isBlank =
      f.name ++ (" = " ++ (f.callee ++ '(' :: (f.args ++ ')' :: next))) := by
  have hindent : Blank "    " := by decide
  rw [f.line_append]
  exact dropWhile_of_stops hindent (f.isName.stops_append _)

theorem readClassHeader_line (f : FieldLine) (next : Text) :
    readClassHeader (f.line ++ next) = none := by
  unfold readClassHeader
  rw [f.dropWhile_line]
  cases hkeyword : keyword? "class" (f.name ++ (" = " ++ (f.callee ++
      '(' :: (f.args ++ ')' :: next)))) with
  | none => rfl
  | some rest =>
    rw [keyword?_assignment (by decide) f.isName hkeyword]
    rfl

theorem readMethodHead_line (f : FieldLine) (next : Text) :
    readMethodHead (f.line ++ next) = none := by
  unfold readMethodHead
  rw [f.dropWhile_line]
  generalize f.callee ++ '(' :: (f.args ++ ')' :: next) = t
  unfold optionalKeyword
  cases hasync : keyword? "async" (f.name ++ (" = " ++ t)) with
  | some rest =>
    rw [keyword?_assignment (by decide) f.isName hasync]
    rfl
  | none =>
    cases hdef : keyword? "def" (f.name ++ (" = " ++ t)) with
    | none =>
      rw [Option.getD_none, hdef]
      rfl
    | some rest =>
      rw [Option.getD_none, hdef, keyword?_assignment (by decide) f.isName hdef]
      rfl

theorem readCallHead_line (f : FieldLine) (next : Text) :
    readCallHead (f.line ++ next) = some (⟨4, f.name, f.callee⟩, f.args ++ ')' :: next) := by
  have hstart : ∃ c more, f.callee = c :: more ∧ isNameStart c = true :=
    ⟨'m', "odels." ++ f.type, rfl, by decide⟩
  have hcallee : ∀ c ∈ f.callee, (isWord c || c == '.') = true := by
    intro c hc
    rcases List.mem_append.mp hc with hc | hc
    · have hall : ∀ d ∈ ("models." : Text), (isWord d || d == '.') = true :=
        List.all_eq_true.mp rfl
      exact hall c hc
    · rw [f.isName_type.word c hc, Bool.true_or]
  rw [f.line_append, readCallHead_append (by decide) f.isName hstart hcallee]
  rfl

end FieldLine

theorem ClassBlock.readClassHeader_header (b : ClassBlock) (next : Text) :
    readClassHeader (b.header ++ next) = some (⟨0, b.name, some "models.Model"⟩, next) := by
  have hblank : Blank [] := by decide
  have hinside : ')' ∉ ("models.Model" : Text) := by decide
  have htext : b.header ++ next =
      b.start.text ++ ([] ++ '(' :: ("models.Model" ++ ')' :: ([] ++ ':' :: next))) := by
    rw [header, List.append_assoc]
    rfl
  rw [htext]
  exact readClassHeader_append b.start hblank hinside hblank next

/-! ## Declarations -/

namespace ClassBlock

/-- The declaration of a block that stands at `offset`. -/
def declaration (b : ClassBlock) (offset : Nat) : Declaration where
  name := b.name
  bases := ["models.Model"]
  indent := 0
  start := offset
  body := ⟨offset + Text.bytes b.header, offset + Text.bytes (Text.newlines b.lines)⟩

theorem bytes_lines (b : ClassBlock) : Text.bytes (Text.newlines b.lines) =
    Text.bytes b.header + 1 + Text.bytes (Text.newlines b.below) :=
  Text.bytes_newlines_cons b.header b.below

theorem indentOf_header (b : ClassBlock) :
    Text.isBlankLine b.header = false ∧ Text.indentOf b.header = 0 := by
  have hblank : Blank [] := by decide
  have hclass : isWord 'c' = true := by decide
  exact code_line hblank hclass

end ClassBlock

/-- The declarations of blocks that stand at `offset`. -/
def declarationsFrom (offset : Nat) : List ClassBlock → List Declaration
  | [] => []
  | b :: blocks =>
    b.declaration offset :: declarationsFrom (offset + Text.bytes (Text.newlines b.lines)) blocks

/-- The block of a class ends where the next class starts. -/
theorem blockEnd_below (b : ClassBlock) (blocks : List ClassBlock) (offset : Nat) :
    blockEnd 0 offset ('\n' :: (Text.newlines b.below ++ render blocks)) =
      offset + 1 + Text.bytes (Text.newlines b.below) := by
  have hdeep : ∀ line ∈ b.below, staysInside 0 line = true := by
    intro line hline
    obtain ⟨f, -, rfl⟩ := List.mem_map.mp hline
    rw [staysInside, f.code_line.1, f.code_line.2]
    rfl
  have hlines : Text.lines ('\n' :: (Text.newlines b.below ++ render blocks)) =
      [] :: (b.below ++ Text.lines (render blocks)) := by
    rw [← Text.lines_newlines b.unbroken_below]
    rfl
  have hbreak : ('\n').utf8Size = 1 := rfl
  unfold blockEnd
  rw [hlines]
  dsimp only
  rw [blockEndFrom_append hdeep, Text.bytes_nil, Nat.add_zero]
  cases blocks with
  | nil =>
    -- Below the last class there is an empty line, and then the text ends.
    show blockEndFrom 0 _ _ [[]] = _
    rw [blockEndFrom_cons_of_inside (by decide), blockEndFrom, Text.bytes_cons, hbreak]
    show _ + (1 + Text.bytes (_ ++ [])) = _
    rw [List.append_nil]
    omega
  | cons next blocks =>
    have hnext : Text.lines (render (next :: blocks)) =
        next.header :: Text.lines (Text.newlines next.below ++ render blocks) := by
      rw [render_cons]
      exact Text.splitOn_append_cons next.unbroken_header _
    have hheader : staysInside 0 next.header = false := by
      rw [staysInside, next.indentOf_header.1, next.indentOf_header.2]
      rfl
    rw [hnext, blockEndFrom_cons_of_not_inside hheader]

theorem ofHeader_header (b : ClassBlock) (blocks : List ClassBlock) (offset : Nat) :
    Declaration.ofHeader ⟨offset, offset + Text.bytes b.header, ⟨0, b.name, some "models.Model"⟩,
      '\n' :: (Text.newlines b.below ++ render blocks)⟩ = b.declaration offset := by
  have hbases : baseExprs "models.Model" = (["models.Model"] : List Text) := by decide
  unfold Declaration.ofHeader ClassBlock.declaration
  dsimp only
  rw [blockEnd_below, b.bytes_lines, Option.map_some, Option.getD_some, hbases, Nat.add_assoc,
    Nat.add_assoc, Nat.add_assoc]

theorem foundFrom_render {offset resume : Nat} (h : resume ≤ offset) (blocks : List ClassBlock) :
    (foundFrom readClassHeader offset resume true (render blocks)).map Declaration.ofHeader =
      declarationsFrom offset blocks := by
  induction blocks generalizing offset resume with
  | nil => rfl
  | cons b blocks ih =>
    have hbelow : ∀ line ∈ b.below, ∀ next, readClassHeader (line ++ '\n' :: next) = none := by
      intro line hline next
      obtain ⟨f, -, rfl⟩ := List.mem_map.mp hline
      exact f.readClassHeader_line _
    have hhead : b.header = b.header ++ [] := (List.append_nil _).symm
    rw [render_cons, foundFrom_line_some hhead b.unbroken_header h
      (b.readClassHeader_header _), foundFrom_lines_none b.unbroken_below hbelow, List.map_cons,
      ih (Nat.zero_le _), declarationsFrom, b.bytes_lines]
    have hnext : offset + Text.bytes b.header + 1 + Text.bytes (Text.newlines b.below) =
        offset + (Text.bytes b.header + 1 + Text.bytes (Text.newlines b.below)) := by omega
    rw [List.nil_append, ofHeader_header, hnext]

/-- **The declarations of a rendered text** are those of its blocks. -/
theorem declarations_render (blocks : List ClassBlock) :
    declarations (render blocks) = declarationsFrom 0 blocks :=
  foundFrom_render (Nat.le_refl 0) blocks

/-! ## Bodies -/

/-- The call of a line that stands at `offset`. -/
def FieldLine.call (f : FieldLine) (offset : Nat) : CallAssignment where
  target := f.name
  callee := f.callee
  indent := 4
  stmt := ⟨offset + 4, offset + Text.bytes f.line⟩
  args := ⟨offset + Text.bytes f.head, offset + Text.bytes f.head + Text.bytes f.args⟩

/-- The calls of lines that stand at `offset`. -/
def callsFrom (offset : Nat) : List FieldLine → List CallAssignment
  | [] => []
  | f :: fields => f.call offset :: callsFrom (offset + Text.bytes f.line + 1) fields

section

variable (b : ClassBlock) (before after : Text)

/-- The body of a class is the end of its header's line and the lines below. -/
theorem slice_body : (b.declaration (Text.bytes before)).body.slice
    (before ++ (Text.newlines b.lines ++ after)) = Text.newlines ([] :: b.below) := by
  have htext : before ++ (Text.newlines b.lines ++ after) =
      (before ++ b.header) ++ (Text.newlines ([] :: b.below) ++ after) := by
    simp [ClassBlock.lines]
  have hlength : Text.bytes before + Text.bytes (Text.newlines b.lines) -
      (Text.bytes before + Text.bytes b.header) = Text.bytes (Text.newlines ([] :: b.below)) := by
    rw [b.bytes_lines, Text.bytes_newlines_cons, Text.bytes_nil]
    omega
  rw [Span.slice, htext]
  show Text.takeBytes (Text.bytes before + Text.bytes (Text.newlines b.lines) -
    (Text.bytes before + Text.bytes b.header))
    (Text.dropBytes (Text.bytes before + Text.bytes b.header) _) = _
  rw [hlength, ← Text.bytes_append, Text.dropBytes_bytes_append, Text.takeBytes_bytes_append]

theorem memberIndent?_body : (b.declaration (Text.bytes before)).memberIndent?
    (before ++ (Text.newlines b.lines ++ after)) = some 4 := by
  obtain ⟨f, fields, hfields⟩ := List.exists_cons_of_ne_nil b.fields_ne_nil
  have hlines : Text.lines (Text.newlines ([] :: b.below)) = [] :: (b.below ++ [[]]) := by
    have h := Text.lines_newlines b.unbroken_rest []
    rwa [List.append_nil] at h
  have hbelow : b.below = f.line :: fields.map FieldLine.line := by
    rw [ClassBlock.below, hfields, List.map_cons]
  rw [Declaration.memberIndent?, Declaration.bodyText, slice_body, hlines, hbelow, List.drop_one,
    List.tail_cons, List.cons_append, List.find?_cons_of_pos, Option.map_some, f.code_line.2]
  rw [f.code_line.1]
  rfl

theorem methodHeaders_body : methodHeaders (before ++ (Text.newlines b.lines ++ after))
    (b.declaration (Text.bytes before)).body = [] := by
  have hread : ∀ line ∈ [] :: b.below, ∀ next, readMethodHead (line ++ '\n' :: next) = none := by
    intro line hline next
    rcases List.mem_cons.mp hline with rfl | hline
    · rfl
    · obtain ⟨f, -, rfl⟩ := List.mem_map.mp hline
      exact f.readMethodHead_line _
  have hnone (offset : Nat) := foundFrom_lines_none b.unbroken_rest hread offset offset []
  rw [List.append_nil] at hnone
  rw [methodHeaders, slice_body, foundAt, hnone]
  rfl

/-- Each line is closed before the next one starts. -/
theorem closeCalls_below {t before post : Text} {consumed resume : Nat} {fields : List FieldLine}
    (ht : t = before ++ (Text.newlines (fields.map FieldLine.line) ++ post))
    (hconsumed : consumed ≤ Text.bytes before) (hresume : resume ≤ Text.bytes before) :
    closeCalls t consumed (foundFrom readCallHead (Text.bytes before) resume true
      (Text.newlines (fields.map FieldLine.line))) =
        (callsFrom (Text.bytes before) fields).map .ok := by
  induction fields generalizing before consumed resume with
  | nil => rfl
  | cons f fields ih =>
    have hparen : (')').utf8Size = 1 := rfl
    have hline : Text.bytes f.line = Text.bytes f.head + Text.bytes f.args + 1 := by
      rw [FieldLine.line, Text.bytes_append, Text.bytes_append, Text.bytes_cons, hparen,
        Text.bytes_nil]
      omega
    have hbefore : Text.bytes before + Text.bytes f.line + 1 =
        Text.bytes (before ++ (f.line ++ ['\n'])) := by
      rw [Text.bytes_append, Text.bytes_newline, Nat.add_assoc]
    have hread := f.readCallHead_line ('\n' :: Text.newlines (fields.map FieldLine.line))
    have htail : f.args ++ ')' :: '\n' :: Text.newlines (fields.map FieldLine.line) =
        (f.args ++ [')']) ++ '\n' :: Text.newlines (fields.map FieldLine.line) := by simp
    rw [htail] at hread
    -- The text from the arguments on.
    have hcall : t = (before ++ f.head) ++ (f.args ++
        ')' :: '\n' :: (Text.newlines (fields.map FieldLine.line) ++ post)) := by
      rw [ht, List.map_cons, Text.newlines_cons, FieldLine.line]
      simp
    have hnext : t = (before ++ (f.line ++ ['\n'])) ++
        (Text.newlines (fields.map FieldLine.line) ++ post) := by
      rw [ht, List.map_cons, Text.newlines_cons]
      simp
    have hclose : closingBracket? t (Text.bytes before + Text.bytes f.head) =
        some (Text.bytes before + Text.bytes f.head + Text.bytes f.args) := by
      rw [hcall, ← Text.bytes_append]
      exact f.balanced.closingBracket? _ _
    have hsplit : f.line = f.head ++ (f.args ++ [')']) := rfl
    rw [List.map_cons, Text.newlines_cons,
      foundFrom_line_some hsplit f.unbroken_line hresume hread, closeCalls]
    dsimp only
    rw [if_neg (by omega), hclose, hbefore]
    dsimp only
    rw [ih hnext (by omega) (Nat.zero_le _), callsFrom, List.map_cons, hbefore, FieldLine.call,
      hline, ← Nat.add_assoc, ← Nat.add_assoc]

/-- **The calls of a body** are those of its lines. -/
theorem callAssignments_body : callAssignments (before ++ (Text.newlines b.lines ++ after))
    (b.declaration (Text.bytes before)).body =
      (callsFrom (Text.bytes (before ++ (b.header ++ ['\n']))) b.fields).map .ok := by
  have hstart : (b.declaration (Text.bytes before)).body.start + Text.bytes [] + 1 =
      Text.bytes (before ++ (b.header ++ ['\n'])) := by
    show Text.bytes before + Text.bytes b.header + 0 + 1 = _
    rw [Text.bytes_append, Text.bytes_newline, Nat.add_zero, Nat.add_assoc]
  have htext : before ++ (Text.newlines b.lines ++ after) =
      (before ++ (b.header ++ ['\n'])) ++ (Text.newlines b.below ++ after) := by
    simp [ClassBlock.lines]
  have hle : (b.declaration (Text.bytes before)).body.start ≤
      Text.bytes (before ++ (b.header ++ ['\n'])) := by omega
  rw [callAssignments, slice_body, foundAt, Text.newlines_cons,
    foundFrom_line_none (by simp) rfl, hstart]
  exact closeCalls_below htext (Nat.zero_le _) hle

end

end Source

end OrmLens
