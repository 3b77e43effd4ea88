/-
  Reading lines forwards.

  The cursor's scope has no table of names: it looks for the nearest line that binds a name and goes
  back from there for the names on that line's right-hand side. This file has the plain reading
  beside it. Lines are read from the oldest on, each in the environment that the lines before it
  leave, and a line enters the names that it binds (`Reading.read`). A name may be entered as not
  known, and is then not looked up any further.

  `backward_scan_eq_forward_reading`: at the cursor both give every name the same value.

  How a single line is taken apart, and what a chain stands for once the names in it are settled,
  is common to both and not at issue here. For the scan, `lineBinding?_eq_patternBinding?` says what
  the first of these comes to: a line is tried against one pattern after the other.
-/
import OrmLens.Cursor.Scope
import OrmLens.Proofs.Table

namespace OrmLens.Cursor

open Index Model Source

/-! ## What one line binds -/

/-- The parameters by name, each with the first of its annotations. -/
def firstNotes : List (Text × Text) → List (Text × Text)
  | [] => []
  | param :: params => param :: (firstNotes params).filter (·.1 ≠ param.1)

/-- What an annotation says of a name: if it names an entity, a record of that. -/
def noted? (g : Graph) (note : Text) : Option Value := (annotated? g note).map .record

/-- The names that a line binds, and what it binds them to; `none` if that is not known. `meaning`
    is what names stand for before the line. -/
def LineForm.bindings (g : Graph) (unit : Text) (meaning : Text → Option Value) :
    LineForm → List (Text × Option Value)
  | .assignment name noted value =>
    [(name, (noted.bind (noted? g)).or (evaluateText? g unit meaning value))]
  | .pair name value =>
    -- Of two names the first is known, and only if the value is a call that returns a record and
    -- a flag.
    [(name, (parseChain? value).bind fun chain =>
      match chain.reverse with
      | [] => none
      | call :: before =>
        if call.name = "get_or_create" ∨ call.name = "update_or_create" then
          match evaluate? g unit meaning before.reverse with
          | some (.querySet e) => some (.record e)
          | _ => none
        else none)]
  | .loop name values =>
    [(name, (evaluateText? g unit meaning values).bind fun v => v.querySet?.map .record)]
  | .note name noted => [(name, noted? g noted)]
  | .function params =>
    (firstNotes params).filterMap fun param =>
      ((noted? g param.2).map some).map (param.1, ·)
  | .other => []

/-! ## The patterns, one after another -/

theorem exists_of_readAssignment {line : Text} {form : LineForm}
    (h : readAssignment line = some form) :
    ∃ name note value, form = .assignment name note value := by
  unfold readAssignment at h
  obtain ⟨⟨name, afterName⟩, -, h⟩ := Option.bind_eq_some_iff.mp h
  dsimp only at h
  split at h
  · obtain ⟨value, -, rfl⟩ := Option.map_eq_some_iff.mp h
    exact ⟨name, none, value, rfl⟩
  · split at h
    · obtain ⟨value, -, rfl⟩ := Option.map_eq_some_iff.mp h
      exact ⟨name, _, value, rfl⟩
    · cases h
  · cases h

theorem exists_of_readPair {line : Text} {form : LineForm} (h : readPair line = some form) :
    ∃ name value, form = .pair name value := by
  unfold readPair at h
  obtain ⟨⟨name, afterName⟩, -, h⟩ := Option.bind_eq_some_iff.mp h
  obtain ⟨afterComma, -, h⟩ := Option.bind_eq_some_iff.mp h
  obtain ⟨other, -, h⟩ := Option.bind_eq_some_iff.mp h
  obtain ⟨rest, -, h⟩ := Option.bind_eq_some_iff.mp h
  obtain ⟨value, -, rfl⟩ := Option.map_eq_some_iff.mp h
  exact ⟨name, value, rfl⟩

theorem exists_of_readLoop {line : Text} {form : LineForm} (h : readLoop line = some form) :
    ∃ name values, form = .loop name values := by
  unfold readLoop at h
  obtain ⟨afterFor, -, h⟩ := Option.bind_eq_some_iff.mp h
  obtain ⟨⟨name, afterName⟩, -, h⟩ := Option.bind_eq_some_iff.mp h
  obtain ⟨afterIn, -, h⟩ := Option.bind_eq_some_iff.mp h
  obtain ⟨body, -, h⟩ := Option.bind_eq_some_iff.mp h
  obtain ⟨head, -, h⟩ := Option.bind_eq_some_iff.mp h
  split at h
  · split at h
    · exact ⟨name, [' '], (Option.some.inj h).symm⟩
    · cases h
  · exact ⟨name, _, (Option.some.inj h).symm⟩

theorem exists_of_readBareNote {line : Text} {form : LineForm}
    (h : readBareNote line = some form) : ∃ name note, form = .note name note := by
  obtain ⟨⟨⟨name, note⟩, rest⟩, -, h⟩ := Option.bind_eq_some_iff.mp h
  dsimp only at h
  split at h
  · exact ⟨name, note, (Option.some.inj h).symm⟩
  · cases h

theorem exists_of_readFunction {line : Text} {form : LineForm}
    (h : readFunction line = some form) : ∃ params, form = .function params := by
  obtain ⟨afterDef, -, h⟩ := Option.bind_eq_some_iff.mp h
  obtain ⟨word, -, h⟩ := Option.bind_eq_some_iff.mp h
  obtain ⟨afterMark, -, h⟩ := Option.bind_eq_some_iff.mp h
  exact ⟨_, (Option.some.inj h).symm⟩

section

variable (g : Graph) (unit : Text) (meaning : Text → Option Value)

/-- What a line says about a name, tried against one pattern after the other. The first one that
    fits decides, also if the name it binds is another one. -/
def patternBinding? (line name : Text) : Option (Option Value) :=
  let code := stripComment line
  match readAssignment code with
  | some (.assignment bound note value) =>
    if bound = name then
      match note.bind (annotated? g) with
      | some e => some (some (.record e))
      | none => some ((parseChain? value).bind (evaluate? g unit meaning))
    else none
  | _ =>
    match readPair code with
    | some (.pair bound value) =>
      if bound = name then some (pairValue? g unit meaning value) else none
    | _ =>
      match readLoop code with
      | some (.loop bound values) =>
        if bound = name then
          match (parseChain? values).bind (evaluate? g unit meaning) with
          | some (.querySet e) => some (some (.record e))
          | _ => some none
        else none
      | _ =>
        match readBareNote code with
        | some (.note bound note) =>
          if bound = name then some ((annotated? g note).map .record) else none
        | _ =>
          match readFunction code with
          | some (.function params) =>
            match (params.find? (·.1 = name)).bind fun param => annotated? g param.2 with
            | some e => some (some (.record e))
            | none => none
          | _ => none

/-- **A line is tried against one pattern after the other.** What it says about a name is what the
    first pattern that fits says, and nothing if none fits. -/
theorem lineBinding?_eq_patternBinding? (line name : Text) :
    lineBinding? g unit meaning line name = patternBinding? g unit meaning line name := by
  unfold lineBinding? patternBinding? LineForm.ofLine
  simp only [List.findSome?_cons, List.findSome?_nil]
  cases hassignment : readAssignment (stripComment line) with
  | some form =>
    obtain ⟨bound, note, value, rfl⟩ := exists_of_readAssignment hassignment
    rfl
  | none =>
  cases hpair : readPair (stripComment line) with
  | some form =>
    obtain ⟨bound, value, rfl⟩ := exists_of_readPair hpair
    rfl
  | none =>
  cases hloop : readLoop (stripComment line) with
  | some form =>
    obtain ⟨bound, values, rfl⟩ := exists_of_readLoop hloop
    dsimp only [Option.getD_some, evaluateText?]
    cases (parseChain? values).bind (evaluate? g unit meaning) with
    | none => rfl
    | some v => cases v <;> rfl
  | none =>
  cases hnote : readBareNote (stripComment line) with
  | some form =>
    obtain ⟨bound, note, rfl⟩ := exists_of_readBareNote hnote
    rfl
  | none =>
  cases hfunction : readFunction (stripComment line) with
  | some form =>
    obtain ⟨params, rfl⟩ := exists_of_readFunction hfunction
    dsimp only [Option.getD_some]
    cases (params.find? (·.1 = name)).bind fun param => annotated? g param.2 <;> rfl
  | none => rfl

end

/-! ## Readings -/

/-- How far a reading has come. -/
structure Reading where
  /-- What names were last bound to. -/
  names : Table Text (Option Value) := Table.empty
  /-- The lines read, the last one first. -/
  past : List Text := []

namespace Reading

section

variable (g : Graph) (unit : Text) (indent : Nat)

/-- What a name stands for after the lines read. `self` and `cls` are the class around, as it looks
    from here to a cursor at `indent`; other names are those of the environment, or else stand for
    themselves. -/
def valueOf? (r : Reading) (name : Text) : Option Value :=
  if name = "self" then (enclosing? g indent r.past).map .record
  else if name = "cls" then (enclosing? g indent r.past).map .model
  else
    match r.names.get? name with
    | some value => value
    | none => fallback? g unit name

/-- Reads one more line. -/
def read (r : Reading) (line : Text) : Reading where
  names := ((LineForm.ofLine line).bindings g unit (r.valueOf? g unit indent)).foldl
    (fun names binding => names.insert binding.1 binding.2) r.names
  past := line :: r.past

/-- Reads lines, which come oldest first. -/
def readAll (lines : List Text) : Reading := lines.foldl (read g unit indent) {}

theorem readAll_reverse_cons (line : Text) (older : List Text) :
    readAll g unit indent (line :: older).reverse =
      (readAll g unit indent older.reverse).read g unit indent line := by
  rw [readAll, List.reverse_cons, List.foldl_append]
  rfl

theorem past_readAll_reverse (lines : List Text) :
    (readAll g unit indent lines.reverse).past = lines := by
  induction lines with
  | nil => rfl
  | cons line older ih =>
    rw [readAll_reverse_cons, read, ih]

end

end Reading

/-! ## One line, both ways -/

theorem nodup_firstNotes (params : List (Text × Text)) :
    ((firstNotes params).map Prod.fst).Nodup := by
  induction params with
  | nil => exact List.nodup_nil
  | cons param params ih =>
    rw [firstNotes, List.map_cons, List.nodup_cons]
    refine ⟨?_, ih.sublist (List.filter_sublist.map Prod.fst)⟩
    intro h
    obtain ⟨other, hother, hname⟩ := List.mem_map.mp h
    exact of_decide_eq_true (List.mem_filter.mp hother).2 hname

/-- The note found under a name is the first one given for it. -/
theorem valueIn?_firstNotes (params : List (Text × Text)) (name : Text) :
    Table.valueIn? name (firstNotes params) = (params.find? (·.1 = name)).map Prod.snd := by
  induction params with
  | nil => rfl
  | cons param params ih =>
    obtain ⟨bound, note⟩ := param
    rw [firstNotes, Table.valueIn?]
    by_cases h : bound = name
    · rw [if_pos h, List.find?_cons_of_pos (by simpa using h)]
      rfl
    · rw [if_neg h, List.find?_cons_of_neg (by simpa using h), Table.valueIn?_filter_ne,
        if_neg (Ne.symm h), ih]

section

variable (g : Graph) (unit : Text) (meaning : Text → Option Value)

theorem bindings_pair (name value : Text) :
    (LineForm.pair name value).bindings g unit meaning =
      [(name, pairValue? g unit meaning value)] := by
  rw [LineForm.bindings, pairValue?]
  refine congrArg (fun v => [(name, v)]) (congrArg (Option.bind _) (funext fun chain => ?_))
  rcases List.eq_nil_or_concat chain with rfl | ⟨before, call, rfl⟩
  · rfl
  · rw [List.concat_eq_append, List.reverse_append, List.reverse_singleton, List.singleton_append,
      List.getLast?_concat, List.dropLast_concat]
    dsimp only [Option.bind_some]
    rw [List.reverse_reverse]
    split
    · cases evaluate? g unit meaning before with
      | none => rfl
      | some v => cases v <;> rfl
    · rfl

/-- A line binds a name once. -/
theorem nodup_bindings (form : LineForm) :
    ((form.bindings g unit meaning).map Prod.fst).Nodup := by
  cases form with
  | assignment name noted value => exact List.pairwise_singleton _ name
  | pair name value => exact List.pairwise_singleton _ name
  | loop name values => exact List.pairwise_singleton _ name
  | note name noted => exact List.pairwise_singleton _ name
  | function params =>
    exact (nodup_firstNotes params).sublist
      (Table.keys_filterMap_sublist (fun noted => (noted? g noted).map some) _)
  | other => exact List.nodup_nil

/-- What a line says about a name when asked for it is what it enters under the name. -/
theorem lineBinding?_eq (line name : Text) :
    lineBinding? g unit meaning line name =
      Table.valueIn? name ((LineForm.ofLine line).bindings g unit meaning) := by
  unfold lineBinding?
  cases LineForm.ofLine line with
  | assignment bound noted value =>
    have hnoted : noted.bind (noted? g) = (noted.bind (annotated? g)).map .record := by
      rw [Option.map_bind]
      rfl
    rw [LineForm.bindings, hnoted]
    dsimp only
    cases noted.bind (annotated? g) <;> rfl
  | pair bound value =>
    rw [bindings_pair]
    rfl
  | loop bound values => rfl
  | note bound noted => rfl
  | function params =>
    rw [LineForm.bindings,
      Table.valueIn?_filterMap (fun noted => (noted? g noted).map some) (nodup_firstNotes params),
      valueIn?_firstNotes]
    dsimp only
    cases params.find? (·.1 = name) with
    | none => rfl
    | some param => simp [noted?, Function.comp_def]
  | other => rfl

end

/-! ## All lines -/

/-- After any lines, the nearest binding of a name is the one in the environment. -/
theorem binding?_eq_valueOf? (g : Graph) (unit : Text) (indent : Nat) (lines : List Text) :
    binding? g unit indent lines =
      (Reading.readAll g unit indent lines.reverse).valueOf? g unit indent := by
  induction lines with
  | nil =>
    funext name
    rw [binding?]
    rfl
  | cons line older ih =>
    funext name
    rw [binding?, Reading.valueOf?, Reading.past_readAll_reverse]
    split
    · rfl
    · split
      · rfl
      · rename_i hself hcls
        rw [ih, lineBinding?_eq, Reading.readAll_reverse_cons, Reading.read]
        dsimp only
        rw [Table.get?_foldl_insert (nodup_bindings g unit _ _)]
        cases Table.valueIn? name ((LineForm.ofLine line).bindings g unit
            ((Reading.readAll g unit indent older.reverse).valueOf? g unit indent)) with
        | some value => rfl
        | none =>
          rw [Reading.valueOf?, if_neg hself, if_neg hcls]
          rfl

namespace Scope

/-- The lines before the cursor, read from the oldest on. -/
def reading (s : Scope) : Reading := Reading.readAll s.graph s.unit s.indent s.lines.reverse

end Scope

/-- **Looking backwards agrees with reading forwards.** Whatever the index, the text before the
    cursor and the unit, a name stands for what the environment gives it once all lines in view have
    been read from the oldest on, and so does a chain. -/
theorem backward_scan_eq_forward_reading (s : State) (preceding unit : Text) :
    let scope := Scope.ofPreceding s preceding unit
    (∀ name, scope.valueOf? name =
      scope.reading.valueOf? scope.graph scope.unit scope.indent name) ∧
    ∀ chain, scope.evaluate? chain = evaluate? scope.graph scope.unit
      (scope.reading.valueOf? scope.graph scope.unit scope.indent) chain := by
  intro scope
  have h : scope.valueOf? = scope.reading.valueOf? scope.graph scope.unit scope.indent :=
    binding?_eq_valueOf? scope.graph scope.unit scope.indent scope.lines
  refine ⟨fun name => congrFun h name, fun chain => ?_⟩
  rw [Scope.evaluate?, h]

end OrmLens.Cursor
