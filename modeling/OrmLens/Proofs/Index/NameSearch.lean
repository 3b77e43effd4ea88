/-
  Searching entities by the beginning of their names.

  Beside the table of entities the graph keeps a second list, their names in search order. A name
  enters it when an entity is stored and leaves it when the unit that holds the entity gives it up;
  in between it may pass from one unit to another. The list is in step with the table
  (`Graph.Listed`) as long as the graph is changed by commits and removals only, whatever schemas
  are committed (`Reached.listed`).

  `search_finds_exactly`: a search finds the entities whose names start as asked, each once, in an
  order that depends on the names alone.

  The search for the empty beginning does not use the list. It gives the entities in order of
  arrival.
-/
import OrmLens.Proofs.Address
import OrmLens.Proofs.Index.FiledRelations

namespace OrmLens

namespace Text

/-! ## Beginnings -/

/-- The bytes of one text start with those of another only if the texts do: a character is read from
    its bytes whatever follows. -/
theorem encode_prefix_iff (lead t : Text) : encode lead <+: encode t ↔ lead <+: t := by
  have hcons (c : Char) (t : Text) : encode (c :: t) = charBytes c ++ encode t := List.flatMap_cons
  constructor
  · intro h
    obtain ⟨rest, h⟩ := h
    induction lead generalizing t with
    | nil => exact List.nil_prefix
    | cons c lead ih =>
      rw [hcons, List.append_assoc] at h
      have hread : c :: decode (encode lead ++ rest) = t := by
        rw [← decode_charBytes_append, h, decode_encode]
      subst hread
      rw [hcons, List.append_cancel_left_eq] at h
      exact (List.prefix_cons_inj c).mpr (ih _ h)
  · rintro ⟨rest, rfl⟩
    exact ⟨encode rest, List.flatMap_append.symm⟩

theorem encode_injective {s t : Text} (h : encode s = encode t) : s = t := by
  rw [← decode_encode s, h, decode_encode]

end Text

namespace Index

open Model

/-! ## The order of names -/

theorem listBefore_iff (a b : List Nat) : listBefore a b = true ↔ a < b := by
  induction a generalizing b with
  | nil => cases b <;> simp [listBefore]
  | cons x a ih => cases b <;> simp [listBefore, List.cons_lt_cons_iff, ih]

/-- Both halves of every byte are kept. -/
theorem halfBytes_injective {s t : Text} (h : halfBytes s = halfBytes t) : s = t := by
  have hbytes : ∀ a b : List Nat, a.flatMap (fun n => [n % 16, n / 16]) =
      b.flatMap (fun n => [n % 16, n / 16]) → a = b := by
    intro a
    induction a with
    | nil => intro b hb; cases b <;> simp_all
    | cons m a ih =>
      intro b hb
      cases b with
      | nil => simp at hb
      | cons n b =>
        simp only [List.flatMap_cons, List.cons_append, List.nil_append, List.cons.injEq] at hb
        obtain ⟨hlow, hhigh, hrest⟩ := hb
        rw [ih b hrest, show m = n by omega]
  exact Text.encode_injective (hbytes _ _ h)

theorem nameBefore_irrefl (n : Text) : ¬ nameBefore n n = true := by
  rw [nameBefore, listBefore_iff]
  exact List.lt_irrefl _

theorem nameBefore_trans {m n k : Text} (h : nameBefore m n = true) (h' : nameBefore n k = true) :
    nameBefore m k = true := by
  rw [nameBefore, listBefore_iff] at *
  exact List.lt_trans h h'

theorem nameBefore_of_not {m n : Text} (hne : m ≠ n) (h : ¬ nameBefore n m = true) :
    nameBefore m n = true := by
  rw [nameBefore, listBefore_iff] at *
  by_contra hnot
  exact hne (halfBytes_injective (List.le_antisymm (List.not_lt.mp h) (List.not_lt.mp hnot)))

theorem mem_insertName (name : Text) (names : List Text) (n : Text) :
    n ∈ insertName name names ↔ n = name ∨ n ∈ names := by
  induction names with
  | nil => simp [insertName]
  | cons m names ih =>
    rw [insertName]
    split
    · rename_i hm
      simp [hm]
    · split
      · exact List.mem_cons
      · rw [List.mem_cons, ih, List.mem_cons]
        exact or_left_comm

/-- In search order, so that none stands twice. -/
def SearchOrder (names : List Text) : Prop := names.Pairwise fun m n => nameBefore m n = true

theorem SearchOrder.nodup {names : List Text} (h : SearchOrder names) : names.Nodup := by
  refine List.Pairwise.imp ?_ h
  rintro m n hbefore rfl
  exact nameBefore_irrefl m hbefore

theorem SearchOrder.insertName {names : List Text} (h : SearchOrder names) (name : Text) :
    SearchOrder (insertName name names) := by
  induction names with
  | nil => exact List.pairwise_singleton _ _
  | cons m names ih =>
    obtain ⟨hm, hrest⟩ := List.pairwise_cons.mp h
    rw [Index.insertName]
    split
    · exact h
    · rename_i hne
      split
      · rename_i hbefore
        refine List.pairwise_cons.mpr ⟨fun n hn => ?_, h⟩
        rcases List.mem_cons.mp hn with rfl | hn
        · exact hbefore
        · exact nameBefore_trans hbefore (hm n hn)
      · rename_i hbefore
        refine List.pairwise_cons.mpr ⟨fun n hn => ?_, ih hrest⟩
        rcases (mem_insertName name names n).mp hn with rfl | hn
        · exact nameBefore_of_not hne hbefore
        · exact hm n hn

/-! ## Names and entities in step -/

namespace Graph

/-- The names are those of the entities, in search order, and every entity is stored under its
    own. -/
structure Listed (g : Graph) : Prop where
  keyed : g.Keyed
  ordered : SearchOrder g.names
  mem_names_iff : ∀ n, n ∈ g.names ↔ (g.entity? n).isSome

theorem listed_empty : Listed {} := ⟨by simp [Keyed, entity?], .nil, by simp [entity?]⟩

namespace Listed

variable {g : Graph} (h : g.Listed)
include h

theorem insert (e : Entity) : (g.insert e).Listed := by
  refine ⟨?_, h.ordered.insertName e.name, ?_⟩
  · intro n x hx
    rw [entity?_insert] at hx
    split at hx
    · rename_i hn
      rw [← Option.some.inj hx, hn]
    · exact h.keyed n x hx
  · intro n
    show n ∈ insertName e.name g.names ↔ _
    rw [mem_insertName, h.mem_names_iff, entity?_insert]
    by_cases hn : n = e.name
    · simp [hn]
    · simp [hn]

theorem removeEntitiesOf (unit : Text) : (g.removeEntitiesOf unit).Listed := by
  refine ⟨keyed_removeEntitiesOf h.keyed unit, List.Pairwise.filter _ h.ordered, ?_⟩
  intro n
  rw [entity?_removeEntitiesOf]
  -- The names dropped are those that the unit holds.
  have hstale : n ∈ (g.entities.entries.filter (·.2.unit = unit)).map Prod.fst ↔
      ∃ e, g.entity? n = some e ∧ e.unit = unit := by
    rw [List.mem_map]
    constructor
    · rintro ⟨⟨m, e⟩, hm, rfl⟩
      obtain ⟨hentry, hunit⟩ := List.mem_filter.mp hm
      exact ⟨e, (Table.mem_entries_iff _ _ _).mp hentry, of_decide_eq_true hunit⟩
    · rintro ⟨e, he, hunit⟩
      exact ⟨(n, e), List.mem_filter.mpr
        ⟨(Table.mem_entries_iff _ _ _).mpr he, decide_eq_true hunit⟩, rfl⟩
  show n ∈ g.names.filter _ ↔ _
  rw [List.mem_filter, h.mem_names_iff, Bool.not_eq_true', List.contains_eq_mem,
    decide_eq_false_iff_not, hstale]
  cases g.entity? n with
  | none => simp
  | some e => simp [Option.isSome_filter]

/-- Relations have no part in it. -/
theorem withRelations (relations : Table Text (List Relation)) :
    Listed { g with relations } :=
  ⟨h.keyed, h.ordered, h.mem_names_iff⟩

theorem rebuild : g.rebuild.Listed := by
  have hstripped (n : Text) : (g.rebuild.entity? n).map Entity.withoutReverse =
      (g.entity? n).map Entity.withoutReverse := stripped?_rebuild g n
  refine ⟨fun n e he => ?_, h.ordered, fun n => ?_⟩
  · have hmap := hstripped n
    rw [he] at hmap
    obtain ⟨x, hx, hxe⟩ := Option.map_eq_some_iff.mp hmap.symm
    rw [← h.keyed n x hx, ← x.name_withoutReverse, hxe, e.name_withoutReverse]
  · show n ∈ g.names ↔ _
    rw [h.mem_names_iff, ← Option.isSome_map (f := Entity.withoutReverse), ← hstripped n,
      Option.isSome_map]

end Listed

end Graph

namespace State

/-- A state of the index: settings, commits of any schemas, removals and the passing of time led to
    it from an empty one. -/
inductive Reached : State → Prop where
  | new (settings : Settings) : Reached (new settings)
  | commit {s : State} (schema : Schema) (content : Text) :
      Reached s → Reached (s.commit schema content).1
  | remove {s : State} (path : Text) : Reached s → Reached (s.remove path).1
  | configure {s : State} (settings : Settings) : Reached s → Reached (s.configure settings)
  | wait {s : State} (milliseconds : Nat) : Reached s → Reached (s.wait milliseconds)

theorem listed_adopt {s : State} (h : s.graph.Listed) (path : Text) (e : Entity) :
    (adopt path s e).graph.Listed := by
  rw [adopt_eq h.keyed]
  cases s.graph.loser? path e.name with
  | none => exact h.insert e
  | some unit => exact (h.insert e).withRelations _

theorem listed_adoptAll {s : State} (h : s.graph.Listed) (path : Text) (es : List Entity) :
    (es.foldl (adopt path) s).graph.Listed := by
  induction es generalizing s with
  | nil => exact h
  | cons e es ih => exact ih (listed_adopt h path e)

/-- One commit: what the unit held goes, what the schema defines comes, in whatever unit it was. -/
theorem listed_commit {s : State} (h : s.graph.Listed) (schema : Schema) (content : Text) :
    (s.commit schema content).1.graph.Listed := by
  have hgiven : ({ s with graph := s.graph.removeEntitiesOf schema.path } : State).graph.Listed :=
    h.removeEntitiesOf schema.path
  exact ((listed_adoptAll hgiven schema.path schema.entities).withRelations _).rebuild

theorem listed_remove {s : State} (h : s.graph.Listed) (path : Text) :
    (s.remove path).1.graph.Listed :=
  ((h.removeEntitiesOf path).withRelations _).rebuild

theorem Reached.listed {s : State} (h : s.Reached) : s.graph.Listed := by
  induction h with
  | new settings => exact Graph.listed_empty
  | commit schema content _ ih => exact listed_commit ih schema content
  | remove path _ ih => exact listed_remove ih path
  | configure settings _ ih => exact ih
  | wait milliseconds _ ih => exact ih

theorem Reached.call {s : State} (h : s.Reached) (c : Call) : (c.apply s).Reached := by
  cases c with
  | edit e =>
    cases e with
    | commit path text content => exact h.commit _ content
    | remove path => exact h.remove path
  | analyze path text =>
    rw [Call.apply, analyze]
    split
    · exact h
    · exact h.commit _ text
  | configure settings => exact h.configure settings
  | wait milliseconds => exact h.wait milliseconds

theorem Reached.run {s : State} (h : s.Reached) (calls : List Call) : (s.run calls).Reached := by
  induction calls generalizing s with
  | nil => exact h
  | cons c calls ih => exact ih (h.call c)

end State

/-! ## Searching -/

theorem Graph.entitiesStarting_of_ne_nil (g : Graph) {start : Text} (hstart : start ≠ []) :
    g.entitiesStarting start = (g.names.filter (Text.startsWith · start)).filterMap g.entity? :=
  if_neg (by simpa using hstart)

namespace Graph.Listed

variable {g : Graph} (h : g.Listed)
include h

/-- Names of the list lead to the entities of these names. -/
theorem map_name_filterMap {names : List Text} (hnames : ∀ n ∈ names, n ∈ g.names) :
    (names.filterMap g.entity?).map (·.name) = names := by
  induction names with
  | nil => rfl
  | cons n names ih =>
    obtain ⟨e, he⟩ := Option.isSome_iff_exists.mp ((h.mem_names_iff n).mp (hnames n (by simp)))
    rw [List.filterMap_cons_some he, List.map_cons, h.keyed n e he,
      ih fun m hm => hnames m (List.mem_cons_of_mem _ hm)]

theorem map_name_entitiesStarting {start : Text} (hstart : start ≠ []) :
    (g.entitiesStarting start).map (·.name) = g.names.filter (Text.startsWith · start) := by
  rw [g.entitiesStarting_of_ne_nil hstart]
  exact h.map_name_filterMap fun n hn => (List.mem_filter.mp hn).1

theorem mem_entitiesStarting_iff {start : Text} (hstart : start ≠ []) (e : Entity) :
    e ∈ g.entitiesStarting start ↔ e ∈ g.entities.values ∧ Text.startsWith e.name start = true := by
  rw [g.entitiesStarting_of_ne_nil hstart, List.mem_filterMap, Table.mem_values_iff]
  constructor
  · rintro ⟨n, hn, he⟩
    refine ⟨⟨n, he⟩, ?_⟩
    rw [h.keyed n e he]
    exact (List.mem_filter.mp hn).2
  · rintro ⟨⟨n, he⟩, hs⟩
    have hname : e.name = n := h.keyed n e he
    refine ⟨n, List.mem_filter.mpr ⟨(h.mem_names_iff n).mpr ?_, hname ▸ hs⟩, he⟩
    rw [entity?, he]
    rfl

theorem nodup_values : (g.entities.values.map (·.name)).Nodup := by
  rw [h.keyed.map_name_values]
  exact g.entities.keys_nodup

theorem nodup_entitiesStarting (start : Text) :
    ((g.entitiesStarting start).map (·.name)).Nodup := by
  by_cases hstart : start = []
  · rw [hstart]
    exact h.nodup_values
  · rw [h.map_name_entitiesStarting hstart]
    exact h.ordered.nodup.filter _

/-- A search finds what a filter over all entities finds. -/
theorem perm_entitiesStarting {start : Text} (hstart : start ≠ []) :
    (g.entitiesStarting start).Perm
      (g.entities.values.filter fun e => Text.startsWith e.name start) := by
  have hfound : (g.entitiesStarting start).Nodup :=
    List.Nodup.of_map _ (h.nodup_entitiesStarting start)
  have hall : (g.entities.values.filter fun e => Text.startsWith e.name start).Nodup :=
    (List.Nodup.of_map _ h.nodup_values).filter _
  rw [List.perm_ext_iff_of_nodup hfound hall]
  intro e
  rw [h.mem_entitiesStarting_iff hstart, List.mem_filter]

end Graph.Listed

/-- **A search finds exactly the entities asked for.** In every state that commits and removals lead
    to, a search for a beginning that is not empty gives the entities of the graph whose names start
    with it, be it character by character or byte by byte. Each is given once, in search order. -/
theorem search_finds_exactly {s : State} (hs : s.Reached) {start : Text} (hstart : start ≠ []) :
    let found := s.graph.entitiesStarting start
    found.Perm (s.graph.entities.values.filter fun e => Text.startsWith e.name start) ∧
      found.Nodup ∧
      (∀ e, e ∈ found ↔
        (∃ n, s.graph.entity? n = some e) ∧ Text.encode start <+: Text.encode e.name) ∧
      SearchOrder (found.map (·.name)) := by
  intro found
  have h := hs.listed
  have hordered : SearchOrder (found.map (·.name)) := by
    rw [h.map_name_entitiesStarting hstart]
    exact List.Pairwise.filter _ h.ordered
  refine ⟨h.perm_entitiesStarting hstart, List.Nodup.of_map _ hordered.nodup, fun e => ?_, hordered⟩
  rw [h.mem_entitiesStarting_iff hstart, Table.mem_values_iff, Text.startsWith_iff,
    Text.encode_prefix_iff]
  rfl

/-- One of two names passes to another unit, and the first unit goes: the name that passed is still
    found, with its new neighbour, and the other is not. -/
theorem search_finds_exactly_takeover :
    let calls := [.analyze "a.py" "class Book(Model):\nclass Bookmark(Model):\n",
      .analyze "b.py" "class Bookend(Model):\nclass Author(Model):\nclass Book(Model):\n",
      .edit (.remove "a.py")]
    let g := ((State.new {}).run calls).graph
    (g.entitiesStarting "Boo").map (fun e => (e.name, e.unit)) =
        ([("Book", "b.py"), ("Bookend", "b.py")] : List (Text × Text)) ∧
      (g.entitiesStarting "Boo").Perm
        (g.entities.values.filter fun e => Text.startsWith e.name "Boo") := by
  intro calls g
  have hreached : ((State.new {}).run calls).Reached := (State.Reached.new {}).run calls
  exact ⟨by decide +kernel, (search_finds_exactly hreached (by decide)).1⟩

end Index

end OrmLens
