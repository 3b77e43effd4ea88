/-
  What completion and description say of a name after a manager.

  Completion ranks the operations of every query set before what the manager adds, and keeps the
  first candidate of a name; a description looks at what the manager adds first. So the two differ
  exactly on names that the manager overrides (`offered_as_described_iff`): a method of a custom
  manager that is called like an operation, and `create` on a reverse relation, which is the one
  name that both tables of operations have (`tables_share_create`).
-/
import OrmLens.Cursor.Symbol
import OrmLens.Proofs.Cursor.Narrowing

namespace OrmLens.Cursor

open CharClass Framework Index Model

/-! ## Candidates by name -/

theorem find?_of_mem_fitting {typed : Text} {ranked : List Candidate} {c : Candidate}
    (h : c ∈ fitting typed ranked) : Named.find? ranked c.name = some c := by
  have hfind := (Named.find?_eq_some_iff (nodup_fitting typed ranked) c.name c).mpr ⟨h, rfl⟩
  have hchosen : fitting typed ranked =
      Named.firstOfEach (ranked.filter fun c => Text.startsWith (Named.nameOf c) typed) :=
    Named.mergeAll_nil_eq _
  rw [hchosen, Named.find?_firstOfEach, Named.find?_filter (Text.startsWith · typed),
    if_pos (mem_of_mem_fitting h).2] at hfind
  exact hfind

/-- Of the ranked candidates of a name the first is offered. -/
theorem find?_of_mem_complete {s : State} {preceding unit : Text} {context : Context}
    (hcontext : context? s preceding unit = some context) {c : Candidate}
    (hc : c ∈ complete s preceding unit) :
    Named.find? (rankedCandidates s.graph (typedName preceding) context) c.name = some c := by
  rw [complete_eq] at hc
  have hall := List.mem_of_mem_take hc
  rw [completeAll, hcontext] at hall
  exact find?_of_mem_fitting hall

theorem find?_operationCandidates (ops : List Operation) (n : Text) :
    Named.find? (ops.map operationCandidate) n =
      (ops.find? (·.name = n)).map operationCandidate :=
  List.find?_map

/-! ## One name, two orders -/

/-- The operation of the name that a manager has beyond those of every query set. -/
def addedOperation? (m : Manager) (n : Text) : Option Operation :=
  if m.kind = .reverse then relatedManagerOperation? n else none

section

variable {e : Entity} {name : Text} {m : Manager} (hm : e.manager? name = some m) {n : Text}
include hm

/-- A candidate is an operation, one of every query set before one that the manager adds, or a
    method of a custom manager. -/
theorem managerCandidate_cases {c : Candidate}
    (h : Named.find? (managerCandidates e (some name)) n = some c) :
    (∃ op, (querySetOperation? n).or (addedOperation? m n) = some op ∧ c = operationCandidate op) ∨
      m.kind = .custom ∧ n ∈ m.methods ∧ c.kind = .method := by
  have hranked : ((querySetOperation? n).map operationCandidate).or
      (Named.find? (ownCandidates m) n) = some c := by
    rw [querySetOperation?, ← find?_operationCandidates, ← Named.find?_append, ← h]
    unfold managerCandidates
    dsimp only
    rw [hm]
  cases hstock : querySetOperation? n with
  | some op =>
    rw [hstock] at hranked
    exact Or.inl ⟨op, rfl, (Option.some.inj hranked).symm⟩
  | none =>
    rw [hstock, Option.map_none, Option.none_or, ownCandidates] at hranked
    rw [Option.none_or, addedOperation?]
    cases hkind : m.kind with
    | stock =>
      rw [hkind] at hranked
      cases hranked
    | custom =>
      rw [hkind] at hranked
      obtain ⟨method, hmethod, rfl⟩ := List.mem_map.mp (List.mem_of_find?_eq_some hranked)
      have hname : method = n := Named.name_of_find? hranked
      exact Or.inr ⟨rfl, hname ▸ hmethod, rfl⟩
    | reverse =>
      rw [hkind] at hranked
      dsimp only at hranked
      rw [find?_operationCandidates] at hranked
      obtain ⟨op, hop, rfl⟩ := Option.map_eq_some_iff.mp hranked
      exact Or.inl ⟨op, by rw [if_pos rfl]; exact hop, rfl⟩

/-- A description looks for a method of the manager, then for an operation, one that the manager
    adds before one of every query set. -/
theorem managerMember?_eq (n : Text) :
    managerMember? e (some name) n =
      if n ∈ m.methods then some (.managerMethod m n)
      else ((addedOperation? m n).or (querySetOperation? n)).map .operation := by
  simp [managerMember?, hm, addedOperation?]

end

/-- The one name in both tables, with a text of its own in each. -/
theorem tables_share_create {n : Text} {op related : Operation}
    (hop : querySetOperation? n = some op) (hrelated : relatedManagerOperation? n = some related) :
    n = "create" ∧ related.doc ≠ op.doc := by
  have htables : ∀ r ∈ relatedManagerOperations, ∀ q ∈ querySetOperations, q.name = r.name →
      r.name = "create" ∧ r.doc ≠ q.doc := by decide +kernel
  have hname : op.name = n := by simpa using List.find?_some hop
  have hname' : related.name = n := by simpa using List.find?_some hrelated
  have h := htables related (List.mem_of_find?_eq_some hrelated) op (List.mem_of_find?_eq_some hop)
    (hname.trans hname'.symm)
  exact ⟨hname' ▸ h.1, h.2⟩

theorem create_in_both :
    (querySetOperation? "create").isSome ∧ (relatedManagerOperation? "create").isSome := by
  decide +kernel

/-- Whether a symbol is the operation that a candidate shows. -/
def Candidate.Shows (c : Candidate) : Symbol → Prop
  | .operation op => c.detail = op.signature ∧ c.documentation = some op.doc
  | _ => False

instance (c : Candidate) : DecidablePred c.Shows
  | .operation op =>
    inferInstanceAs (Decidable (c.detail = op.signature ∧ c.documentation = some op.doc))
  | .entity _ | .field _ _ | .method _ _ | .property _ _ | .manager _ _ | .managerMethod _ _
  | .lookup _ _ | .fieldType _ => inferInstanceAs (Decidable False)

/-- Whether a manager has something of its own under a name that is offered as an operation. -/
def Overrides (m : Manager) (n : Text) : Prop := n ∈ m.methods ∨ m.kind = .reverse ∧ n = "create"

instance (m : Manager) (n : Text) : Decidable (Overrides m n) :=
  inferInstanceAs (Decidable (_ ∨ _ ∧ _))

/-- In the two orders the same operation is found, except for `create` on a reverse relation. -/
theorem shows_operation_iff {m : Manager} {n : Text} {op : Operation}
    (hop : (querySetOperation? n).or (addedOperation? m n) = some op) :
    ∃ op', (addedOperation? m n).or (querySetOperation? n) = some op' ∧
      ((operationCandidate op).Shows (.operation op') ↔ ¬ (m.kind = .reverse ∧ n = "create")) := by
  have hsame : (operationCandidate op).Shows (.operation op) := ⟨rfl, rfl⟩
  cases hadded : addedOperation? m n with
  | none =>
    rw [hadded, Option.or_none] at hop
    refine ⟨op, hop, iff_of_true hsame ?_⟩
    rintro ⟨hreverse, rfl⟩
    rw [addedOperation?, if_pos hreverse] at hadded
    exact Option.isSome_iff_ne_none.mp create_in_both.2 hadded
  | some related =>
    refine ⟨related, rfl, ?_⟩
    have hreverse : m.kind = .reverse := by
      by_contra hother
      rw [addedOperation?, if_neg hother] at hadded
      cases hadded
    cases hstock : querySetOperation? n with
    | none =>
      rw [hstock, hadded] at hop
      cases hop
      refine iff_of_true hsame ?_
      rintro ⟨-, rfl⟩
      exact Option.isSome_iff_ne_none.mp create_in_both.1 hstock
    | some stock =>
      -- Both tables have the name, so the texts shown come from two entries.
      rw [hstock] at hop
      cases hop
      rw [addedOperation?, if_pos hreverse] at hadded
      obtain ⟨hname, hdoc⟩ := tables_share_create hstock hadded
      refine iff_of_false ?_ (not_not_intro ⟨hreverse, hname⟩)
      rintro ⟨-, hshown⟩
      exact hdoc (Option.some.inj hshown).symm

/-! ## Completion and description -/

/-- A candidate after a manager of the entity, and what a description makes of its name. -/
theorem managerMember?_of_candidate {e : Entity} {manager : Option Text} {n : Text} {c : Candidate}
    (h : Named.find? (managerCandidates e manager) n = some c) :
    ∃ symbol, managerMember? e manager n = some symbol ∧
      ((c.kind = .operation ∧ (c.Shows symbol ↔
          ∀ m, manager.bind e.manager? = some m → ¬ Overrides m n)) ∨
        (c.kind = .method ∧ ∃ m, manager.bind e.manager? = some m ∧ m.kind = .custom ∧
          n ∈ m.methods ∧ symbol = .managerMethod m n)) := by
  cases manager with
  | none =>
    rw [managerCandidates, find?_operationCandidates] at h
    obtain ⟨op, hop, rfl⟩ := Option.map_eq_some_iff.mp h
    refine ⟨.operation op, by rw [managerMember?, querySetOperation?, hop]; rfl, Or.inl ⟨rfl, ?_⟩⟩
    exact iff_of_true ⟨rfl, rfl⟩ (by simp)
  | some name =>
    rw [Option.bind_some]
    cases hm : e.manager? name with
    | none =>
      rw [managerCandidates, hm] at h
      cases h
    | some m =>
      have hthis (P : Manager → Prop) : (∀ m', some m = some m' → P m') ↔ P m := by simp
      rw [managerMember?_eq hm, hthis]
      rcases managerCandidate_cases hm h with ⟨op, hop, rfl⟩ | ⟨hkind, hmethod, hc⟩
      · by_cases hmethod : n ∈ m.methods
        · rw [if_pos hmethod]
          exact ⟨_, rfl, Or.inl ⟨rfl, iff_of_false id (not_not_intro (Or.inl hmethod))⟩⟩
        · rw [if_neg hmethod]
          obtain ⟨op', hop', hshows⟩ := shows_operation_iff hop
          refine ⟨.operation op', by rw [hop']; rfl, Or.inl ⟨rfl, hshows.trans ?_⟩⟩
          rw [Overrides, or_iff_right hmethod]
      · exact ⟨_, if_pos hmethod, Or.inr ⟨hc, m, rfl, hkind, hmethod, rfl⟩⟩

/-- **When completion and description agree.** For every graph and every text after which a manager
    or a query set of a known model is used, every name offered has a description. A candidate shown
    as a method is described as this method of the manager, which is a custom one. A candidate shown
    as an operation is described as an operation with the same signature and text exactly if the
    manager does not override the name. -/
theorem offered_as_described_iff {s : State} {preceding unit : Text} {e : Entity}
    {manager : Option Text}
    (hcontext : context? s preceding unit = some (.managerChain (some e) manager))
    {more : Text} (hmore : ∀ c ∈ more, isIdent c = true)
    {c : Candidate} (hc : c ∈ complete s (preceding ++ more) unit) :
    ∃ symbol, symbol? s preceding c.name unit = some symbol ∧
      ((c.kind = .operation ∧ (c.Shows symbol ↔
          ∀ m, manager.bind e.manager? = some m → ¬ Overrides m c.name)) ∨
        (c.kind = .method ∧ ∃ m, manager.bind e.manager? = some m ∧ m.kind = .custom ∧
          c.name ∈ m.methods ∧ symbol = .managerMethod m c.name)) := by
  have hlonger : context? s (preceding ++ more) unit = some (.managerChain (some e) manager) := by
    rw [context?_append hmore, hcontext]
  have hsymbol : symbol? s preceding c.name unit = managerMember? e manager c.name := by
    rw [symbol?, hcontext]
    rfl
  rw [hsymbol]
  exact managerMember?_of_candidate (find?_of_mem_complete hlonger hc)

/-- A custom manager with methods `fresh` and `filter`: of the operations offered, `first` is
    described as it is shown and `filter` is not. -/
theorem offered_as_described_iff_custom :
    let text : Text := "class Book(Model):\n    shelf = ShelfManager()\n" ++
      "class ShelfManager(Manager):\n    def fresh(self):\n        pass\n" ++
      "    def filter(self):\n        pass\n"
    let s := (State.new {}).run [.analyze "models.py" text]
    let offered := complete s "Book.shelf.f" "views.py"
    offered.map (fun c => (c.name, c.kind)) =
        ([("filter", .operation), ("first", .operation), ("fresh", .method)] :
          List (Text × CandidateKind)) ∧
      ∀ c ∈ offered, ∃ symbol, symbol? s "Book.shelf." c.name "views.py" = some symbol ∧
        (c.kind = .operation →
          (c.Shows symbol ↔ c.name ∉ (["fresh", "filter"] : List Text))) := by
  intro text s offered
  have hrun : context? s "Book.shelf." "views.py" = (s.graph.entity? "Book").map (fun e =>
        .managerChain (some e) (some "shelf")) ∧
      ((s.graph.entity? "Book").bind (·.manager? "shelf")).any (fun m =>
        m.kind = .custom ∧ m.methods = (["fresh", "filter"] : List Text)) ∧
      offered.map (fun c => (c.name, c.kind)) =
        ([("filter", .operation), ("first", .operation), ("fresh", .method)] :
          List (Text × CandidateKind)) := by
    decide +kernel
  obtain ⟨hcontext, hmanager, hoffered⟩ := hrun
  obtain ⟨m, hfound, hfacts⟩ := (Option.any_eq_true ..).mp hmanager
  obtain ⟨hcustom, hmethods⟩ := of_decide_eq_true hfacts
  obtain ⟨e, he, hm⟩ := Option.bind_eq_some_iff.mp hfound
  rw [he] at hcontext
  refine ⟨hoffered, fun c hc => ?_⟩
  have hletter : ("f" : Text).all isIdent = true := by decide
  obtain ⟨symbol, hsymbol, hcases⟩ :=
    offered_as_described_iff hcontext (List.all_eq_true.mp hletter) hc
  refine ⟨symbol, hsymbol, fun hkind => ?_⟩
  rcases hcases with ⟨-, hshows⟩ | ⟨hmethod, -⟩
  · rw [hshows, Option.bind_some, hm, ← hmethods]
    simp [Overrides, hcustom]
  · cases hkind.symm.trans hmethod

/-- On a reverse relation `create` is offered as the operation of every query set and described as
    its own. -/
theorem create_offered_otherwise :
    ¬ ∀ (s : State) (preceding unit : Text) (e : Entity) (manager : Option Text), s.Reached →
      context? s preceding unit = some (.managerChain (some e) manager) →
      ∀ c ∈ complete s preceding unit, c.kind = .operation →
        ∃ symbol, symbol? s preceding c.name unit = some symbol ∧ c.Shows symbol := by
  intro h
  let text : Text := "class Author(Model):\n    pass\n" ++
    "class Book(Model):\n    author = ForeignKey(Author)\n"
  let calls : List Call := [.analyze "models.py" text]
  let s := (State.new {}).run calls
  have hs : s.Reached := (State.Reached.new {}).run calls
  let preceding : Text := "Author.book_set.cre"
  have hrun : context? s preceding "views.py" = (s.graph.entity? "Author").map (fun e =>
        .managerChain (some e) (some "book_set")) ∧
      (s.graph.entity? "Author").isSome ∧
      (complete s preceding "views.py").any fun c => c.name = "create" ∧ c.kind = .operation ∧
        (symbol? s preceding "create" "views.py").any fun symbol => ¬ c.Shows symbol := by
    decide +kernel
  obtain ⟨hcontext, hentity, hoffered⟩ := hrun
  obtain ⟨e, he⟩ := Option.isSome_iff_exists.mp hentity
  obtain ⟨c, hc, hfacts⟩ := List.any_eq_true.mp hoffered
  obtain ⟨hname, hkind, hdiffers⟩ := of_decide_eq_true hfacts
  rw [he] at hcontext
  obtain ⟨symbol, hsymbol, hshows⟩ := h s preceding "views.py" e _ hs hcontext c hc hkind
  rw [← hname, hsymbol, Option.any_some, decide_eq_true_eq] at hdiffers
  exact hdiffers hshows

end OrmLens.Cursor
