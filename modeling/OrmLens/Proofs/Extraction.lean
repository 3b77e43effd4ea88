/-
  Extraction reads back what was laid out.

  From a rendered list of class blocks exactly the entities that the blocks say are extracted
  (`extract_render`): one for each block and in their order, on the line of its header, with the
  fields of its lines and with what the framework supplies. A field has the type that its line
  names, the attributes that its arguments say, and its own line as its place; of a name that is
  repeated the last definition counts, at the place of the first.

  What single arguments say is not at issue here: the arguments of a line go through the same
  `Argument.parseAll` as everywhere.
-/
import OrmLens.Proofs.Schema
import OrmLens.Proofs.Source.Layout

namespace OrmLens

/-- A text with a separator, after which there is no other. -/
theorem Text.splitLast?_append {sep : Char} (a : Text) {b : Text} (hb : sep ∉ b) :
    Text.splitLast? sep (a ++ sep :: b) = some (a, b) := by
  have hkeep : ∀ c ∈ b.reverse, (c != sep) = true :=
    bne_of_not_mem fun hmem => hb (List.mem_reverse.mp hmem)
  have hreverse : (a ++ sep :: b).reverse = b.reverse ++ sep :: a.reverse := by simp
  have hstop : Source.Stops (· != sep) (sep :: a.reverse) := Source.stops_cons (by simp) _
  rw [splitLast?, afterLast_append hb, hreverse, Source.dropWhile_of_stops hkeep hstop]
  dsimp only
  rw [List.reverse_reverse]

namespace Source

open Framework Model

/-! ## What the lines say -/

/-- The field of a line, in a unit and at a line number. `owner` is the class. -/
def FieldLine.field (f : FieldLine) (path owner : Text) (line : Nat) : Field :=
  let args := Argument.parseAll f.args
  let textLike := lookupFamily f.type == .text
  { args.foldl (Field.withArgument textLike) { name := f.name, declaredType := f.type } with
    required := !args.any makesOptional
    relatedEntity := if isRelational f.type then resolveTarget? args owner else none
    location := some ⟨path, line⟩ }

namespace ClassBlock

/-- The fields of the lines, the first of which has the number `line`. -/
def fieldsAt (b : ClassBlock) (path : Text) (line : Nat) : List Field :=
  (b.fields.zipIdx line).map fun f => f.1.field path b.name f.2

/-- The entity of a block whose header has the number `line`. -/
def entity (b : ClassBlock) (path : Text) (line : Nat) : Entity where
  name := b.name
  unit := path
  app := (UnitPath.ofText path).app?
  location := ⟨path, line⟩
  members := {
    fields := Named.lastOfEach (b.fieldsAt path (line + 1))
    methods := suppliedMethods
    properties := defaultProperties
    managers := [Manager.default] }
  bases := ["models.Model"]
  isAbstract := false

end ClassBlock

/-- The entities of blocks, the first of which starts at `line`. -/
def entitiesFrom (path : Text) (line : Nat) : List ClassBlock → List Entity
  | [] => []
  | b :: blocks => b.entity path line :: entitiesFrom path (line + b.lines.length) blocks

theorem names_entitiesFrom (path : Text) (line : Nat) (blocks : List ClassBlock) :
    Named.names (entitiesFrom path line blocks) = blocks.map (·.name) := by
  induction blocks generalizing line with
  | nil => rfl
  | cons b blocks ih => exact congrArg (b.name :: ·) (ih _)

/-! ## Lines -/

theorem FieldLine.fieldTypeOf?_callee (f : FieldLine) : fieldTypeOf? f.callee = some f.type := by
  have hdot : '.' ∉ f.type := f.isName_type.not_mem (by decide)
  have hsplit : Text.splitLast? '.' f.callee = some (("models" : Text), f.type) :=
    Text.splitLast?_append "models" hdot
  unfold fieldTypeOf?
  rw [hsplit]
  dsimp only
  rw [f.capitalized, f.no_manager, f.no_querySet]
  rfl

section

variable {u : SourceUnit} {older : List Text} (holder : Text.Unbroken older) {post : Text}
include holder

/-- The number of a line is the number of lines above it. -/
theorem lineOf_newlines {indent t : Text} (hindent : Blank indent) :
    lineOf (Text.newlines older ++ (indent ++ t))
      (Text.bytes (Text.newlines older) + Text.bytes indent) = older.length := by
  rw [lineOf, ← List.append_assoc, ← Text.bytes_append, Text.takeBytes_bytes_append,
    Text.count_newlines_append holder (hindent.not_mem (by decide))]

theorem attributeOf?_call (f : FieldLine) (owner : Text)
    (ht : u.text = Text.newlines older ++ (f.line ++ '\n' :: post)) :
    attributeOf? u owner (f.call (Text.bytes (Text.newlines older))) =
      some (.field (f.field u.path owner older.length)) := by
  have hargs : (f.call (Text.bytes (Text.newlines older))).args.slice u.text = f.args := by
    have htext : u.text = (Text.newlines older ++ f.head) ++ (f.args ++ ')' :: '\n' :: post) := by
      rw [ht, FieldLine.line]
      simp
    rw [Span.slice, htext]
    dsimp only [FieldLine.call]
    rw [Nat.add_sub_cancel_left, ← Text.bytes_append, Text.dropBytes_bytes_append,
      Text.takeBytes_bytes_append]
  have hplace : u.locate (f.call (Text.bytes (Text.newlines older))).stmt.start =
      ⟨u.path, older.length⟩ := by
    have hindent : Blank "    " := by decide
    rw [SourceUnit.locate, ht, f.line_append]
    exact congrArg _ (lineOf_newlines holder hindent)
  unfold attributeOf?
  dsimp only
  rw [hargs, show (f.call (Text.bytes (Text.newlines older))).callee = f.callee from rfl,
    f.fieldTypeOf?_callee]
  dsimp only
  unfold fieldOf FieldLine.field
  rw [hplace]
  rfl

/-- Every line of a body gives its field, at the number of the line. -/
theorem filterMap_attributeOf? (fields : List FieldLine) (owner : Text)
    (ht : u.text = Text.newlines older ++
      (Text.newlines (fields.map FieldLine.line) ++ post)) :
    (callsFrom (Text.bytes (Text.newlines older)) fields).filterMap (attributeOf? u owner) =
      ((fields.zipIdx older.length).map fun f => f.1.field u.path owner f.2).map .field := by
  induction fields generalizing older with
  | nil => rfl
  | cons f fields ih =>
    have hline : u.text = Text.newlines older ++
        (f.line ++ '\n' :: (Text.newlines (fields.map FieldLine.line) ++ post)) := by
      rw [ht, List.map_cons, Text.newlines_cons]
      simp
    have hmore : Text.Unbroken (older ++ [f.line]) :=
      holder.append (Text.unbroken_nil.cons f.unbroken_line)
    have hnext : u.text = Text.newlines (older ++ [f.line]) ++
        (Text.newlines (fields.map FieldLine.line) ++ post) := by
      rw [hline, Text.newlines_append]
      simp
    have hoffset : Text.bytes (Text.newlines older) + Text.bytes f.line + 1 =
        Text.bytes (Text.newlines (older ++ [f.line])) := by
      rw [Text.newlines_append, Text.bytes_append, Text.bytes_newlines_cons, Text.newlines_nil,
        Text.bytes_nil, Nat.add_zero, Nat.add_assoc]
    have hrest := ih hmore hnext
    rw [List.length_append, List.length_singleton] at hrest
    rw [callsFrom, List.filterMap_cons, attributeOf?_call holder f owner hline, hoffset, hrest]
    rfl

end

/-! ## Bodies -/

theorem foldl_withAttribute_fields (news items : List Field) :
    (news.map Attribute.field).foldl Members.withAttribute { fields := items } =
      { fields := news.foldl Named.upsert items } := by
  induction news generalizing items with
  | nil => rfl
  | cons f news ih => exact ih (Named.upsert items f)

/-- The framework's base is no class of the unit, whatever the classes there are called. -/
theorem ancestors_of_framework {u : SourceUnit} {d : Declaration}
    (h : d.bases = (["models.Model"] : List Text)) : ancestors u d = [] := by
  have hnone : findDeclaration? "models.Model" (u.decls.filter fun c =>
      c.name ≠ d.name && !frameworkBases.contains c.name) = none := by
    rw [findDeclaration?, List.find?_eq_none]
    intro c hc hname
    have hother := (List.mem_filter.mp hc).2
    rw [of_decide_eq_true hname, Bool.and_eq_true] at hother
    exact absurd hother.2 (by decide)
  unfold ancestors walk
  dsimp only
  rw [h]
  generalize (u.decls.filter _).length = count
  cases count with
  | zero => rfl
  | succ count =>
    rw [walkFrom, nextDeclared?, hnone]
    rfl

theorem indent_of_mem_callsFrom {offset : Nat} {fields : List FieldLine} {call : CallAssignment}
    (h : call ∈ callsFrom offset fields) : call.indent = 4 := by
  induction fields generalizing offset with
  | nil => cases h
  | cons f fields ih =>
    rcases List.mem_cons.mp h with rfl | h
    · rfl
    · exact ih h

theorem indent_of_mem_declarationsFrom {offset : Nat} {blocks : List ClassBlock} {d : Declaration}
    (h : d ∈ declarationsFrom offset blocks) : d.indent = 0 := by
  induction blocks generalizing offset with
  | nil => cases h
  | cons b blocks ih =>
    rcases List.mem_cons.mp h with rfl | h
    · rfl
    · exact ih h

section

variable {u : SourceUnit} {older : List Text} (holder : Text.Unbroken older) {post : Text}
  (b : ClassBlock) (ht : u.text = Text.newlines older ++ (Text.newlines b.lines ++ post))
include holder ht

/-- The members of the body of a block are its fields. -/
theorem membersOf_block :
    membersOf u (b.declaration (Text.bytes (Text.newlines older))) b.name =
      { fields := Named.lastOfEach (b.fieldsAt u.path (older.length + 1)) } := by
  have hindent : (b.declaration (Text.bytes (Text.newlines older))).memberIndent? u.text =
      some 4 := by
    rw [ht]
    exact memberIndent?_body b _ post
  have hheaders : u.headersOf (b.declaration (Text.bytes (Text.newlines older))) = [] := by
    rw [SourceUnit.headersOf, ht, methodHeaders_body]
    rfl
  have hbelow : Text.newlines older ++ (b.header ++ ['\n']) =
      Text.newlines (older ++ [b.header]) := by
    rw [Text.newlines_append]
    simp
  have hcalls : u.callsOf (b.declaration (Text.bytes (Text.newlines older))) =
      callsFrom (Text.bytes (Text.newlines (older ++ [b.header]))) b.fields := by
    rw [SourceUnit.callsOf, ht, callAssignments_body, hbelow, List.filterMap_map]
    exact List.filterMap_some
  have hlevel : classLevelCalls u (b.declaration (Text.bytes (Text.newlines older))) 4 =
      callsFrom (Text.bytes (Text.newlines (older ++ [b.header]))) b.fields := by
    unfold classLevelCalls
    rw [hheaders, hcalls, List.filter_eq_self]
    intro call hcall
    rw [indent_of_mem_callsFrom hcall]
    rfl
  have hmore : Text.Unbroken (older ++ [b.header]) :=
    holder.append (Text.unbroken_nil.cons b.unbroken_header)
  have htext : u.text = Text.newlines (older ++ [b.header]) ++
      (Text.newlines (b.fields.map FieldLine.line) ++ post) := by
    rw [ht, ← hbelow, ClassBlock.lines, ClassBlock.below]
    simp
  have hattributes := filterMap_attributeOf? hmore b.fields b.name htext
  rw [List.length_append, List.length_singleton] at hattributes
  unfold membersOf
  rw [hindent]
  dsimp only
  rw [hheaders, hlevel, hattributes, List.filter_nil, List.filterMap_nil, List.foldl_nil,
    ← Named.foldl_upsert_eq]
  exact foldl_withAttribute_fields _ []

theorem entityOf_block (hdecls : ∀ d ∈ u.decls, d.indent = 0) :
    entityOf u (b.declaration (Text.bytes (Text.newlines older))) =
      b.entity u.path older.length := by
  have hplace : u.locate (b.declaration (Text.bytes (Text.newlines older))).start =
      ⟨u.path, older.length⟩ := by
    have hblank : Blank [] := by decide
    rw [SourceUnit.locate, ht]
    exact congrArg _ (lineOf_newlines holder hblank)
  have hmembers : (inheritedMembers u (b.declaration (Text.bytes (Text.newlines older)))) =
      { fields := Named.lastOfEach (b.fieldsAt u.path (older.length + 1)) } := by
    rw [inheritedMembers, ancestors_of_framework rfl]
    exact membersOf_block holder b ht
  have habstract : isAbstract u (b.declaration (Text.bytes (Text.newlines older))) = false := by
    unfold isAbstract
    rw [List.any_eq_false]
    intro d hd
    rw [hdecls d hd, show (b.declaration (Text.bytes (Text.newlines older))).indent = 0 from rfl]
    simp
  have hmethods : Named.mergeAll [] suppliedMethods = suppliedMethods := by decide
  have hproperties : Named.mergeAll [] defaultProperties = defaultProperties := by decide
  unfold entityOf ClassBlock.entity
  rw [hplace, hmembers, habstract, Members.withDefaults, hmethods, hproperties]
  rfl

end

/-! ## Rendered texts -/

theorem map_entityOf_declarationsFrom {u : SourceUnit} {older : List Text}
    (holder : Text.Unbroken older) {blocks : List ClassBlock}
    (ht : u.text = Text.newlines older ++ render blocks) (hdecls : ∀ d ∈ u.decls, d.indent = 0) :
    (declarationsFrom (Text.bytes (Text.newlines older)) blocks).map (entityOf u) =
      entitiesFrom u.path older.length blocks := by
  induction blocks generalizing older with
  | nil => rfl
  | cons b blocks ih =>
    have hblock : u.text = Text.newlines older ++ (Text.newlines b.lines ++ render blocks) := by
      rw [ht, render_cons, ClassBlock.lines, Text.newlines_cons]
      simp
    have hmore : Text.Unbroken (older ++ b.lines) := holder.append b.unbroken_lines
    have hnext : u.text = Text.newlines (older ++ b.lines) ++ render blocks := by
      rw [hblock, Text.newlines_append, List.append_assoc]
    have hoffset : Text.bytes (Text.newlines older) + Text.bytes (Text.newlines b.lines) =
        Text.bytes (Text.newlines (older ++ b.lines)) := by
      rw [Text.newlines_append, Text.bytes_append]
    rw [declarationsFrom, List.map_cons, entityOf_block holder b hblock hdecls, hoffset,
      ih hmore hnext, List.length_append, entitiesFrom]

/-- Every block is a model. -/
theorem modelDeclarationsFrom_declarationsFrom (known : List Text) (offset : Nat)
    (blocks : List ClassBlock) :
    modelDeclarationsFrom known (declarationsFrom offset blocks) =
      declarationsFrom offset blocks := by
  induction blocks generalizing known offset with
  | nil => rfl
  | cons b blocks ih =>
    have hmodel : (b.declaration offset).bases.any (isModelBase known) = true := by
      have hbase : Text.endsWith (Text.afterLast '.' "models.Model") "Model" = true := by decide
      show (isModelBase known "models.Model" || false) = true
      rw [isModelBase, hbase]
      rfl
    rw [declarationsFrom, modelDeclarationsFrom, if_pos hmodel, ih]

theorem entities_ofUnit {u : SourceUnit} {blocks : List ClassBlock} (ht : u.text = render blocks)
    (h : (blocks.map (·.name)).Nodup) :
    (Schema.ofUnit u).entities = entitiesFrom u.path 0 blocks := by
  have hdecls : u.decls = declarationsFrom 0 blocks := by
    rw [u.decls_eq, ht, declarations_render]
  have hindent : ∀ d ∈ u.decls, d.indent = 0 := by
    intro d hd
    rw [hdecls] at hd
    exact indent_of_mem_declarationsFrom hd
  have hentities : (declarationsFrom 0 blocks).map (entityOf u) = entitiesFrom u.path 0 blocks :=
    map_entityOf_declarationsFrom Text.unbroken_nil ht hindent
  have hnames : (Named.names ([] ++ entitiesFrom u.path 0 blocks)).Nodup := by
    rw [List.nil_append, names_entitiesFrom]
    exact h
  show ((modelDeclarationsFrom [] u.decls).map (entityOf u)).foldl Named.upsert [] = _
  rw [hdecls, modelDeclarationsFrom_declarationsFrom, hentities,
    Named.foldl_upsert_of_nodup hnames, List.nil_append]

/-- **Extraction inverts rendering.** From class blocks with distinct names, written below each
    other, exactly their entities are extracted, in order: not abstract, with the base and the
    manager of every model, and with the fields of their lines. -/
theorem extract_render (path : Text) (blocks : List ClassBlock)
    (h : (blocks.map (·.name)).Nodup) :
    (Schema.extract path (render blocks)).entities = entitiesFrom path 0 blocks :=
  entities_ofUnit rfl h

/-- A field that is called like a keyword and assigned twice, the second time with a closing
    parenthesis in a string. -/
theorem extract_render_repeated :
    let text : Text := "class A(models.Model):\n    class = models.CharField(null=True)\n" ++
      "    class = models.TextField(')')\n"
    ∃ blocks, render blocks = text ∧ (blocks.map (·.name)).Nodup ∧
      (Schema.extract "m.py" text).entities = entitiesFrom "m.py" 0 blocks ∧
      (entitiesFrom "m.py" 0 blocks).map (·.fields.map fun f => (f.name, f.declaredType)) =
        ([[("class", "TextField")]] : List (List (Text × Text))) := by
  intro text
  let first : FieldLine := ⟨"class", "CharField", "null=True", by decide, by decide, by decide,
    by decide, by decide, by decide, rfl⟩
  let second : FieldLine := ⟨"class", "TextField", "')'", by decide, by decide, by decide,
    by decide, by decide, by decide, rfl⟩
  let block : ClassBlock := ⟨"A", [first, second], by decide, by simp⟩
  have hdistinct : ([block].map (·.name)).Nodup := by simp
  have htext : render [block] = text := rfl
  refine ⟨[block], htext, hdistinct, ?_, by decide⟩
  rw [← htext]
  exact extract_render "m.py" [block] hdistinct

end Source

end OrmLens
