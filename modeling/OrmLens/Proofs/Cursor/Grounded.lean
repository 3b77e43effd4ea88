/-
  Symbols at the cursor are those of the graph.

  Whatever is read before the cursor, a value that a name or a chain stands for is a value of an
  entity that the graph holds (`holds_binding?`, `holds_evaluate?`), and a symbol that is named
  there is such an entity or a member of one (`grounded_symbol?`). The readers of the text have no
  part in this: what they return is only looked up.
-/
import OrmLens.Cursor.Symbol
import OrmLens.Proofs.Table

namespace OrmLens

open Framework Model Source

namespace Index.Graph

/-! ## Entities of a graph -/

/-- The entity is one of the graph's. -/
def Holds (g : Graph) (e : Entity) : Prop := e ∈ g.entities.values

variable {g : Graph} {e : Entity}

theorem holds_of_entity? {n : Text} (h : g.entity? n = some e) : g.Holds e :=
  (Table.mem_values_iff _ _).mpr ⟨n, h⟩

theorem holds_of_pick? {unit : Text} {rule : Entity → Bool} (h : g.pick? unit rule = some e) :
    g.Holds e := by
  rcases Option.or_eq_some_iff.mp h with h | ⟨-, h⟩
  · exact (List.mem_filter.mp (List.mem_of_find?_eq_some h)).1
  · exact (List.mem_filter.mp (List.mem_of_head? h)).1

theorem holds_of_find? {name unit : Text} (h : g.find? name unit = some e) : g.Holds e := by
  unfold find? at h
  split at h
  · rename_i hfound
    cases h
    exact holds_of_entity? hfound
  · split at h
    · cases h
    · rcases Option.or_eq_some_iff.mp h with h | ⟨-, h⟩
      · exact holds_of_pick? h
      · rcases Option.or_eq_some_iff.mp h with h | ⟨-, h⟩
        · exact holds_of_pick? h
        · exact holds_of_pick? h

end Index.Graph

namespace Cursor

open Index

variable {g : Graph}

/-! ## Values -/

/-- Whatever a name stands for is a value of an entity of the graph. -/
def Grounding (g : Graph) (binding : Text → Option Value) : Prop :=
  ∀ name v, binding name = some v → g.Holds v.entity

theorem holds_subscript? {v w : Value} {s : Segment} (hv : g.Holds v.entity)
    (h : v.subscript? s = some w) : g.Holds w.entity := by
  unfold Value.subscript? at h
  split at h
  · cases h
    exact hv
  · split at h
    · cases h
      exact hv
    · cases h
      exact hv
  · cases h

theorem holds_querySet? {v : Value} {e : Entity} (hv : g.Holds v.entity)
    (h : v.querySet? = some e) : g.Holds e := by
  cases v with
  | querySet e' =>
    cases h
    exact hv
  | model e' => cases h
  | record e' => cases h

theorem holds_entityNamed? {unit expr : Text} {e : Entity}
    (h : entityNamed? g unit expr = some e) : g.Holds e := by
  rcases Option.or_eq_some_iff.mp h with h | ⟨-, h⟩
  · exact Graph.holds_of_entity? h
  · exact Graph.holds_of_find? h

theorem holds_annotated? {note : Text} {e : Entity} (h : annotated? g note = some e) :
    g.Holds e :=
  Graph.holds_of_entity? h

theorem holds_rootValue? {unit : Text} {binding : Text → Option Value}
    (hbinding : Grounding g binding) {s : Segment} {v : Value}
    (h : rootValue? g unit binding s = some v) : g.Holds v.entity := by
  obtain ⟨w, hw, hv⟩ := Option.bind_eq_some_iff.mp h
  refine holds_subscript? ?_ hv
  split at hw
  · exact hbinding _ w hw
  · split at hw
    · obtain ⟨model, -, hw⟩ := Option.bind_eq_some_iff.mp hw
      obtain ⟨e, he, rfl⟩ := Option.map_eq_some_iff.mp hw
      exact holds_entityNamed? he
    · split at hw
      · obtain ⟨e, he, rfl⟩ := Option.map_eq_some_iff.mp hw
        exact holds_entityNamed? he
      · cases hw

theorem holds_attributeValue? {e : Entity} {name : Text} {v : Value}
    (h : attributeValue? g e name = some v) : g.Holds v.entity := by
  obtain ⟨field, -, h⟩ := Option.bind_eq_some_iff.mp h
  obtain ⟨target, htarget, h⟩ := Option.bind_eq_some_iff.mp h
  obtain ⟨related, -, htarget⟩ := Option.bind_eq_some_iff.mp htarget
  have hholds := Graph.holds_of_entity? htarget
  -- Every case is a value of the target, or none.
  split at h
  · cases h
    exact hholds
  · cases h
    exact hholds
  · cases h
    exact hholds
  · split at h
    · cases h
      exact hholds
    · cases h

theorem holds_stepValue? {v w : Value} {s : Segment} (hv : g.Holds v.entity)
    (h : stepValue? g v s = some w) : g.Holds w.entity := by
  obtain ⟨next, hnext, hw⟩ := Option.bind_eq_some_iff.mp h
  refine holds_subscript? ?_ hw
  split at hnext
  · split at hnext
    · cases hnext
      exact hv
    · cases hnext
  · split at hnext
    · cases hnext
      exact hv
    · cases hnext
      exact hv
  · split at hnext
    · cases hnext
      exact hv
    · cases hnext
      exact hv
    · cases hnext
    · cases hnext
      exact hv
  · cases hnext
  · exact holds_attributeValue? hnext
  · cases hnext

theorem holds_foldlM_stepValue? {segments : List Segment} {v w : Value} (hv : g.Holds v.entity)
    (h : segments.foldlM (stepValue? g) v = some w) : g.Holds w.entity := by
  induction segments generalizing v with
  | nil =>
    cases h
    exact hv
  | cons s segments ih =>
    rw [List.foldlM_cons] at h
    obtain ⟨next, hnext, h⟩ := Option.bind_eq_some_iff.mp h
    exact ih (holds_stepValue? hv hnext) h

/-- A chain stands for a value of an entity of the graph if its names do. -/
theorem holds_evaluate? {unit : Text} {binding : Text → Option Value}
    (hbinding : Grounding g binding) {chain : List Segment} {v : Value}
    (h : evaluate? g unit binding chain = some v) : g.Holds v.entity := by
  cases chain with
  | nil => cases h
  | cons root rest =>
    obtain ⟨first, hfirst, h⟩ := Option.bind_eq_some_iff.mp h
    exact holds_foldlM_stepValue? (holds_rootValue? hbinding hfirst) h

theorem holds_evaluateText? {unit : Text} {binding : Text → Option Value}
    (hbinding : Grounding g binding) {expr : Text} {v : Value}
    (h : evaluateText? g unit binding expr = some v) : g.Holds v.entity := by
  obtain ⟨chain, -, h⟩ := Option.bind_eq_some_iff.mp h
  exact holds_evaluate? hbinding h

/-! ## Bindings -/

theorem holds_enclosing? {indent : Nat} {lines : List Text} {e : Entity}
    (h : enclosing? g indent lines = some e) : g.Holds e := by
  induction lines generalizing indent with
  | nil => cases h
  | cons line older ih =>
    rw [enclosing?] at h
    split at h
    · exact ih h
    · split at h
      · split at h
        · exact Graph.holds_of_entity? h
        · exact ih h
      · exact ih h

theorem holds_fallback? {unit name : Text} {v : Value} (h : fallback? g unit name = some v) :
    g.Holds v.entity := by
  obtain ⟨e, he, rfl⟩ := Option.map_eq_some_iff.mp h
  have hholds := Graph.holds_of_find? he
  split
  · exact hholds
  · exact hholds

theorem holds_record_of_querySet? {v w : Value} (hv : g.Holds v.entity)
    (h : (v.querySet?.map Value.record) = some w) : g.Holds w.entity := by
  obtain ⟨e, he, rfl⟩ := Option.map_eq_some_iff.mp h
  exact holds_querySet? hv he

theorem holds_pairValue? {unit : Text} {binding : Text → Option Value}
    (hbinding : Grounding g binding) {value : Text} {v : Value}
    (h : pairValue? g unit binding value = some v) : g.Holds v.entity := by
  obtain ⟨chain, -, h⟩ := Option.bind_eq_some_iff.mp h
  obtain ⟨last, -, h⟩ := Option.bind_eq_some_iff.mp h
  split at h
  · obtain ⟨w, hw, h⟩ := Option.bind_eq_some_iff.mp h
    exact holds_record_of_querySet? (holds_evaluate? hbinding hw) h
  · cases h

/-- What a line binds a name to, if it is known. -/
theorem holds_lineBinding? {unit : Text} {binding : Text → Option Value}
    (hbinding : Grounding g binding) {line name : Text} {v : Value}
    (h : lineBinding? g unit binding line name = some (some v)) : g.Holds v.entity := by
  unfold lineBinding? at h
  split at h
  · split at h
    · split at h
      · rename_i e he
        cases h
        obtain ⟨note, -, he⟩ := Option.bind_eq_some_iff.mp he
        exact holds_annotated? he
      · exact holds_evaluateText? hbinding (Option.some.inj h)
    · cases h
  · split at h
    · exact holds_pairValue? hbinding (Option.some.inj h)
    · cases h
  · split at h
    · obtain ⟨w, hw, h⟩ := Option.bind_eq_some_iff.mp (Option.some.inj h)
      exact holds_record_of_querySet? (holds_evaluateText? hbinding hw) h
    · cases h
  · split at h
    · obtain ⟨e, he, rfl⟩ := Option.map_eq_some_iff.mp (Option.some.inj h)
      exact holds_annotated? he
    · cases h
  · obtain ⟨e, he, h⟩ := Option.map_eq_some_iff.mp h
    obtain ⟨param, -, he⟩ := Option.bind_eq_some_iff.mp he
    cases h
    exact holds_annotated? he
  · cases h

/-- **Names stand for values of entities of the graph**, whatever the lines bind. -/
theorem holds_binding? (g : Graph) (unit : Text) (indent : Nat) (lines : List Text) :
    Grounding g (binding? g unit indent lines) := by
  induction lines with
  | nil =>
    intro name v h
    rw [binding?] at h
    split at h
    · cases h
    · split at h
      · cases h
      · exact holds_fallback? h
  | cons line older ih =>
    intro name v h
    rw [binding?] at h
    split at h
    · obtain ⟨e, he, rfl⟩ := Option.map_eq_some_iff.mp h
      exact holds_enclosing? he
    · split at h
      · obtain ⟨e, he, rfl⟩ := Option.map_eq_some_iff.mp h
        exact holds_enclosing? he
      · split at h
        · rename_i value hvalue
          rw [h] at hvalue
          exact holds_lineBinding? ih hvalue
        · exact ih name v h

theorem holds_valueOf? {scope : Scope} {name : Text} {v : Value}
    (h : scope.valueOf? name = some v) : scope.graph.Holds v.entity :=
  holds_binding? _ _ _ _ name v h

theorem Scope.holds_evaluate? {scope : Scope} {chain : List Segment} {v : Value}
    (h : scope.evaluate? chain = some v) : scope.graph.Holds v.entity :=
  Cursor.holds_evaluate? (fun _ _ => holds_valueOf?) h

/-! ## Contexts -/

/-- The entity of a context, if it has one, is one of the graph's. -/
def Context.Grounded (g : Graph) (c : Context) : Prop := ∀ e, c.entity? = some e → g.Holds e

theorem grounded_filterKeyword? {scope : Scope} {before : Text} {c : Context}
    (h : filterKeyword? scope before = some c) : c.Grounded scope.graph := by
  unfold filterKeyword? at h
  obtain ⟨opening, -, h⟩ := Option.bind_eq_some_iff.mp h
  dsimp only at h
  split at h
  · cases h
  · obtain ⟨chain, -, h⟩ := Option.bind_eq_some_iff.mp h
    obtain ⟨call, -, h⟩ := Option.bind_eq_some_iff.mp h
    split at h
    · cases h
    · cases h
      intro e he
      obtain ⟨v, hv, he⟩ := Option.bind_eq_some_iff.mp he
      exact holds_querySet? (Scope.holds_evaluate? hv) he

theorem grounded_twoNames? {scope : Scope} {root middle : Text} {c : Context}
    (h : twoNames? scope root middle = some c) : c.Grounded scope.graph := by
  have howner (e : Entity) (he : (scope.valueOf? root).map Value.entity = some e) :
      scope.graph.Holds e := by
    obtain ⟨v, hv, rfl⟩ := Option.map_eq_some_iff.mp he
    exact holds_valueOf? hv
  unfold twoNames? at h
  dsimp only at h
  split at h
  · cases h
    exact howner
  · obtain ⟨e, he, rfl⟩ := Option.map_eq_some_iff.mp h
    intro e' he'
    cases he'
    exact howner e (Option.filter_eq_some_iff.mp he).1

theorem grounded_chainContext? {scope : Scope} {chain : List Segment} {c : Context}
    (h : chainContext? scope chain = some c) : c.Grounded scope.graph := by
  unfold chainContext? at h
  split at h
  · rename_i e hvalue
    cases h
    intro e' he'
    cases he'
    exact Scope.holds_evaluate? hvalue
  · rename_i v _ hvalue
    cases h
    intro e' he'
    cases he'
    exact Scope.holds_evaluate? hvalue
  · split at h
    · split at h
      · cases h
        exact nofun
      · cases h
    · cases h

theorem grounded_dotted? {scope : Scope} {chain : List Segment} {c : Context}
    (h : dotted? scope chain = some c) : c.Grounded scope.graph := by
  unfold dotted? at h
  split at h
  · split at h
    · rcases Option.or_eq_some_iff.mp h with h | ⟨-, h⟩
      · exact grounded_twoNames? h
      · exact grounded_chainContext? h
    · exact grounded_chainContext? h
  · exact grounded_chainContext? h

/-- The context at the cursor is about an entity of the graph, if about any. -/
theorem grounded_context? {s : State} {preceding unit : Text} {c : Context}
    (h : context? s preceding unit = some c) : c.Grounded s.graph := by
  unfold context? at h
  dsimp only at h
  split at h
  · split at h
    · cases h
      exact nofun
    · cases h
      exact nofun
  · split at h
    · cases h
      exact nofun
    · split at h
      · cases h
      · split at h
        · cases h
          exact nofun
        · split at h
          · rename_i hfilter
            cases h
            exact grounded_filterKeyword? hfilter
          · obtain ⟨receiver, -, h⟩ := Option.bind_eq_some_iff.mp h
            obtain ⟨chain, -, h⟩ := Option.bind_eq_some_iff.mp h
            exact grounded_dotted? h

/-! ## Symbols -/

/-- The symbol is an entity of the graph or a member of one; what has no place of its own is not at
    issue. -/
def Symbol.Grounded (g : Graph) : Symbol → Prop
  | .entity e => g.Holds e
  | .field e f => g.Holds e ∧ f ∈ e.fields
  | .method e m => g.Holds e ∧ m ∈ e.methods
  | .lookup f _ => ∃ e, g.Holds e ∧ f ∈ e.fields
  | .property .. | .manager .. | .managerMethod .. | .operation _ | .fieldType _ => True

theorem grounded_member? {e : Entity} (he : g.Holds e) {word : Text} {x : Symbol}
    (h : member? e word = some x) : x.Grounded g := by
  rcases Option.or_eq_some_iff.mp h with h | ⟨-, h⟩
  · obtain ⟨f, hf, rfl⟩ := Option.map_eq_some_iff.mp h
    exact ⟨he, List.mem_of_find?_eq_some hf⟩
  · rcases Option.or_eq_some_iff.mp h with h | ⟨-, h⟩
    · obtain ⟨m, hm, rfl⟩ := Option.map_eq_some_iff.mp h
      exact ⟨he, List.mem_of_find?_eq_some hm⟩
    · rcases Option.or_eq_some_iff.mp h with h | ⟨-, h⟩
      · obtain ⟨m, -, rfl⟩ := Option.map_eq_some_iff.mp h
        trivial
      · obtain ⟨p, -, rfl⟩ := Option.map_eq_some_iff.mp h
        trivial

theorem grounded_operator? {e : Entity} (he : g.Holds e) {f : Field} (hf : f ∈ e.fields)
    {op : Text} {more : List Text} {x : Symbol} (h : operator? f op more = some x) :
    x.Grounded g := by
  unfold operator? at h
  split at h
  · cases h
    exact ⟨e, he, hf⟩
  · cases h

theorem grounded_lookupPath? {e : Entity} (he : g.Holds e) {parts : List Text} {x : Symbol}
    (h : lookupPath? g e parts = some x) : x.Grounded g := by
  induction parts generalizing e with
  | nil => cases h
  | cons part parts ih =>
    cases parts with
    | nil =>
      obtain ⟨f, hf, rfl⟩ := Option.map_eq_some_iff.mp h
      exact ⟨he, List.mem_of_find?_eq_some hf⟩
    | cons next more =>
      obtain ⟨f, hf, h⟩ := Option.bind_eq_some_iff.mp h
      have hmem : f ∈ e.fields := List.mem_of_find?_eq_some hf
      split at h
      · exact grounded_operator? he hmem h
      · rename_i related hrelated
        split at h
        · obtain ⟨name, -, hrelated⟩ := Option.bind_eq_some_iff.mp hrelated
          exact ih (Graph.holds_of_entity? hrelated) h
        · exact grounded_operator? he hmem h

theorem grounded_managerMember? {e : Entity} {manager : Option Text} {word : Text} {x : Symbol}
    (h : managerMember? e manager word = some x) : x.Grounded g := by
  unfold managerMember? at h
  split at h
  · obtain ⟨op, -, rfl⟩ := Option.map_eq_some_iff.mp h
    trivial
  · obtain ⟨m, -, h⟩ := Option.bind_eq_some_iff.mp h
    split at h
    · cases h
      trivial
    · obtain ⟨op, -, rfl⟩ := Option.map_eq_some_iff.mp h
      trivial

/-- **What a word names is in the graph**, for every text before it. -/
theorem grounded_symbol? {s : State} {preceding word unit : Text} {x : Symbol}
    (h : symbol? s preceding word unit = some x) : x.Grounded s.graph := by
  unfold symbol? at h
  dsimp only at h
  split at h
  · obtain ⟨e, he, rfl⟩ := Option.map_eq_some_iff.mp h
    exact Graph.holds_of_find? he
  · obtain ⟨type, -, rfl⟩ := Option.map_eq_some_iff.mp h
    trivial
  · rename_i hcontext
    obtain ⟨e, rfl, h⟩ := Option.bind_eq_some_iff.mp h
    exact grounded_lookupPath? (grounded_context? hcontext e rfl) h
  · obtain ⟨e, -, h⟩ := Option.bind_eq_some_iff.mp h
    exact grounded_managerMember? h
  · obtain ⟨target, htarget, h⟩ := Option.bind_eq_some_iff.mp h
    obtain ⟨name, -, htarget⟩ := Option.bind_eq_some_iff.mp htarget
    exact grounded_member? (Graph.holds_of_entity? htarget) h
  · rename_i e hcontext
    exact grounded_member? (grounded_context? hcontext e rfl) h
  · split at h
    · cases h
    · obtain ⟨e, he, rfl⟩ := Option.map_eq_some_iff.mp h
      exact Graph.holds_of_entity? he
  · split at h
    · cases h
    · obtain ⟨e, he, rfl⟩ := Option.map_eq_some_iff.mp h
      exact Graph.holds_of_entity? he

end Cursor

end OrmLens
