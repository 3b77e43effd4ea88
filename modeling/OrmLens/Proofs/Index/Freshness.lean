/-
  A fresh unit needs no commit.

  `Coherent`: what the cache says of a unit is what was last committed for it, the unit still owns
  every name of it, and every record of a loss is of a name that somebody else holds. Each call
  keeps this, as long as a commit is cached under the very text it was made from (`Call.Faithful`).
  Evictions enter only here: a unit that loses a name also loses its entry.

  In a coherent state, committing again what the cache has changes nothing but the order of the
  entities and the cache (`commit_of_cached`). `fresh_commit_unchanged` is this for every run of
  faithful calls. The lifetime of an entry decides when the cache answers, never what it says.
-/
import OrmLens.Proofs.Index.Ownership

namespace OrmLens.Index

open Model

/-- A commit is cached under the text that its schema was extracted from. -/
def Call.Faithful : Call → Prop
  | .edit (.commit _ text content) => content = text
  | _ => True

theorem Call.Faithful.content_eq {s : State} {c : Call} (h : c.Faithful)
    {path text content : Text} (he : c.edit? s = some (.commit path text content)) :
    content = text := by
  cases c with
  | edit e =>
    obtain rfl := Option.some.inj he
    exact h
  | analyze p t =>
    rw [edit?] at he
    split at he
    · cases he
    · cases he
      rfl
  | configure settings => cases he
  | wait milliseconds => cases he

theorem cached_of_isFresh {s : State} {path text : Text} (h : s.isFresh path text = true) :
    (s.cache.entries.get? path).map (·.content) = some text := by
  rw [State.isFresh, Cache.isFresh, Option.any_eq_true] at h
  obtain ⟨entry, hentry, hc⟩ := h
  simp only [Bool.and_eq_true, decide_eq_true_eq] at hc
  rw [hentry, Option.map_some, hc.1]

/-- The schema is the latest of its unit, and the unit owns every name of it. -/
def Ownership.Owns (o : Ownership) (schema : Schema) : Prop :=
  o.latest schema.path = some schema ∧ ∀ n ∈ schema.names, o.owner n = some schema.path

/-- The cache speaks of what its units own, and the records of losses are settled. -/
structure Coherent (s : State) (o : Ownership) : Prop where
  represents : s.graph.Represents o
  cached : ∀ u entry, s.cache.entries.get? u = some entry →
    o.Owns (Schema.extract u entry.content)
  settled : ∀ n u, s.shadowed.get? n = some u → ∃ v, o.owner n = some v ∧ v ≠ u

theorem coherent_new (settings : Settings) : Coherent (State.new settings) Ownership.empty where
  represents := represents_new settings
  cached := by
    intro u entry h
    cases h
  settled := by
    intro n u h
    cases h

/-! ## What one call preserves -/

namespace Ownership

theorem owns_commit_self (o : Ownership) (schema : Schema) : (o.commit schema).Owns schema :=
  ⟨if_pos rfl, fun n => (owner_commit_self o schema n).mpr⟩

theorem Owns.commit {o : Ownership} {x schema : Schema} (h : o.Owns x)
    (hp : x.path ≠ schema.path) (hn : ∀ n ∈ schema.names, o.owner n ≠ some x.path) :
    (o.commit schema).Owns x := by
  refine ⟨(if_neg hp).trans h.1, fun n hx => ?_⟩
  rw [owner_commit_of_ne hp]
  exact ⟨fun hs => hn n hs (h.2 n hx), h.2 n hx⟩

theorem Owns.remove {o : Ownership} {x : Schema} (h : o.Owns x) {path : Text}
    (hp : x.path ≠ path) : (o.remove path).Owns x := by
  refine ⟨(if_neg hp).trans h.1, fun n hx => ?_⟩
  rw [owner_remove_iff]
  exact ⟨h.2 n hx, hp⟩

end Ownership

/-- An edit settles the records of losses, whatever they were before. -/
theorem settled_apply {s : State} {o : Ownership} (h : s.graph.Represents o) (e : Edit)
    {n u : Text} (hu : (e.apply s).shadowed.get? n = some u) :
    ∃ v, (o.apply e).owner n = some v ∧ v ≠ u := by
  rw [Edit.shadowed_apply, (represents_write h e).holder?_eq, Option.filter_eq_some_iff,
    Option.any_eq_true] at hu
  obtain ⟨-, v, hv, hne⟩ := hu
  exact ⟨v, hv, by simpa using hne⟩

theorem coherent_commit {s : State} {o : Ownership} (h : Coherent s o) (path text : Text) :
    Coherent ((Edit.commit path text text).apply s) (o.apply (.commit path text text)) where
  represents := represents_apply h.represents _
  cached := by
    intro u entry hu
    have hw := Schema.wellFormed_extract path text
    rcases State.cacheEntries_install h.represents.keyed hw text hu with
      ⟨hp, hc⟩ | ⟨hp, hold, hl⟩
    · rw [hc, hp, Schema.path_extract]
      exact Ownership.owns_commit_self o (Schema.extract path text)
    · have hx := Schema.path_extract u entry.content
      refine (h.cached u entry hold).commit (hx.symm ▸ hp) fun n hn => ?_
      rw [hx, ← h.represents.holder?_eq]
      exact hl n hn
  settled _ _ := settled_apply h.represents _

theorem coherent_remove {s : State} {o : Ownership} (h : Coherent s o) (path : Text) :
    Coherent ((Edit.remove path).apply s) (o.apply (.remove path)) where
  represents := represents_apply h.represents _
  cached := by
    intro u entry hu
    have hu : (s.cache.evict path).entries.get? u = some entry := hu
    rw [Cache.entries_evict] at hu
    split at hu
    · cases hu
    · rename_i hp
      refine (h.cached u entry hu).remove ?_
      rw [Schema.path_extract]
      exact hp
  settled _ _ := settled_apply h.represents _

/-- Calls that are no edits only drop entries of the cache. -/
theorem cacheEntries_of_edit?_eq_none {s : State} {c : Call} (h : c.edit? s = none) {u : Text}
    {entry : CacheEntry} (hu : (c.apply s).cache.entries.get? u = some entry) :
    s.cache.entries.get? u = some entry := by
  cases c with
  | edit e => cases h
  | analyze path text =>
    rw [Call.edit?] at h
    split at h
    · rename_i hf
      rw [Call.apply, State.analyze, if_pos hf] at hu
      exact hu
    · cases h
  | configure settings => exact Cache.entries_configure hu
  | wait milliseconds => exact hu

theorem coherent_step {s : State} {o : Ownership} (h : Coherent s o) {c : Call}
    (hc : c.Faithful) : Coherent (c.apply s) (o.step s c) := by
  unfold Ownership.step
  cases he : c.edit? s with
  | none =>
    obtain ⟨hg, hs⟩ := Call.apply_of_edit?_eq_none he
    constructor
    · rw [hg]
      exact h.represents
    · intro u entry hu
      exact h.cached u entry (cacheEntries_of_edit?_eq_none he hu)
    · rw [hs]
      exact h.settled
  | some e =>
    rw [Call.apply_of_edit? he]
    cases e with
    | commit path text content =>
      obtain rfl := hc.content_eq he
      exact coherent_commit h path content
    | remove path => exact coherent_remove h path

/-! ## What a run preserves -/

theorem coherent_run {s : State} {o : Ownership} (h : Coherent s o) {calls : List Call}
    (hc : ∀ c ∈ calls, c.Faithful) : Coherent (s.run calls) (o.run s calls) := by
  induction calls generalizing s o with
  | nil => exact h
  | cons c calls ih =>
    exact ih (coherent_step h (hc c List.mem_cons_self))
      fun c' hc' => hc c' (List.mem_cons_of_mem c hc')

/-! ## Commits of what is there already -/

/-- Committing what a unit owns already changes no ownership. -/
theorem Ownership.Owns.commit_eq {o : Ownership} (ho : o.Sound) {schema : Schema}
    (h : o.Owns schema) : o.commit schema = o := by
  have hlatest : (o.commit schema).latest = o.latest := by
    funext u
    show (if u = schema.path then some schema else o.latest u) = o.latest u
    split
    · rename_i hu
      rw [hu, h.1]
    · rfl
  have howner : (o.commit schema).owner = o.owner := by
    funext n
    show (if n ∈ schema.names then some schema.path
      else (o.owner n).filter (· ≠ schema.path)) = o.owner n
    split
    · rename_i hn
      exact (h.2 n hn).symm
    · rename_i hn
      apply filter_ne_of_ne_some
      intro hp
      -- An owner defines what it owns.
      obtain ⟨x, hx, hm⟩ := ho.owner n schema.path hp
      rw [h.1] at hx
      exact hn (Option.some.inj hx ▸ hm)
  exact Ownership.ext hlatest howner

/-- Two states have the same entities by name, the same relations and the same records of losses. -/
structure Agree (s t : State) : Prop where
  entities : ∀ n, s.graph.entity? n = t.graph.entity? n
  relations : s.graph.relations = t.graph.relations
  shadowed : s.shadowed = t.shadowed

theorem install_of_owns {s : State} {o : Ownership} (h : s.graph.Represents o) {schema : Schema}
    (hw : schema.WellFormed) (ho : o.Owns schema) (content : Text) :
    Agree (s.install schema content) s := by
  have huncontested : ∀ n ∈ schema.names, s.graph.loser? schema.path n = none := by
    intro n hn
    rw [Graph.loser?, h.holder?_eq, ho.2 n hn]
    simp
  have hfiled : s.graph.relations.get? schema.path = some schema.relations := by
    rw [h.relations, Ownership.relations?, ho.1, Option.map_some, Option.some.injEq,
      List.filter_eq_self]
    intro r hr
    rw [decide_eq_true_eq]
    exact ho.2 r.source (hw.source_mem_names hr)
  obtain ⟨hrel, hsh⟩ := State.install_of_uncontested h.keyed hw content huncontested hfiled
  refine ⟨fun n => ?_, hrel, hsh⟩
  have h' := represents_install h hw content
  rw [ho.commit_eq h.sound] at h'
  have hstripped : ∀ m, (s.install schema content).graph.stripped? m = s.graph.stripped? m :=
    fun m => (h'.stripped m).trans (h.stripped m).symm
  -- Both graphs have the reverse accessors of a rebuild, and rebuilds see the same.
  rw [← h'.rebuilt, ← h.rebuilt]
  exact Graph.entity?_rebuild_congr hrel hstripped n

/-- Where every name of a record is held by somebody else, settling drops and reports nothing. -/
theorem settle_of_settled {s : State}
    (h : ∀ n u, s.shadowed.get? n = some u → ∃ v, s.graph.holder? n = some v ∧ v ≠ u) :
    s.settleShadows.shadowed = s.shadowed ∧ s.orphans = [] := by
  constructor
  · unfold State.settleShadows
    dsimp only
    apply Table.filter_eq_self
    intro n u hu
    obtain ⟨v, hv, hne⟩ := h n u hu
    obtain ⟨e, he, rfl⟩ := Option.map_eq_some_iff.mp hv
    simpa [he] using hne
  · rw [List.eq_nil_iff_forall_not_mem]
    intro u hu
    obtain ⟨n, hn, hnone⟩ := (State.mem_orphans_iff s u).mp hu
    obtain ⟨v, hv, -⟩ := h n u hn
    rw [hnone] at hv
    cases hv

/-- Committing what the cache has agrees with leaving it, whatever the age of the entry. -/
theorem commit_of_cached {s : State} {o : Ownership} (h : Coherent s o) {path text : Text}
    (hc : (s.cache.entries.get? path).map (·.content) = some text) :
    Agree (s.commit (Schema.extract path text) text).1 s ∧
      (s.commit (Schema.extract path text) text).2 = [] := by
  obtain ⟨entry, hentry, rfl⟩ := Option.map_eq_some_iff.mp hc
  have hw := Schema.wellFormed_extract path entry.content
  have hi := install_of_owns h.represents hw (h.cached path entry hentry) entry.content
  obtain ⟨hsettle, hnone⟩ := settle_of_settled
      (s := s.install (Schema.extract path entry.content) entry.content) fun n u hu => by
    rw [hi.shadowed] at hu
    rw [Graph.holder?, hi.entities, ← Graph.holder?, h.represents.holder?_eq]
    exact h.settled n u hu
  exact ⟨⟨hi.entities, hi.relations, hsettle.trans hi.shadowed⟩, hnone⟩

/-- After an analysis the cache has the text analyzed. -/
theorem cached_analyze (s : State) (path text : Text) :
    ((s.analyze path text).cache.entries.get? path).map (·.content) = some text := by
  unfold State.analyze
  split
  · rename_i hf
    exact cached_of_isFresh hf
  · have h := State.cacheEntries_install_self s (Schema.extract path text) text
    rw [Schema.path_extract] at h
    exact h

/-- **A fresh unit needs no commit.** After every run of faithful calls, committing a text that is
    fresh agrees with leaving the index as it is and reports nothing. So a second analysis of the
    same text, however long after the first and whatever the lifetime of entries, gives the same
    index as the first. -/
theorem fresh_commit_unchanged (settings : Settings) (calls : List Call)
    (hfaithful : ∀ c ∈ calls, c.Faithful) (path text : Text) :
    let s := (State.new settings).run calls
    (s.isFresh path text = true →
      Agree (s.commit (Schema.extract path text) text).1 s ∧
        (s.commit (Schema.extract path text) text).2 = []) ∧
      ∀ milliseconds,
        Agree (((s.analyze path text).wait milliseconds).analyze path text)
          (s.analyze path text) := by
  intro s
  have h := coherent_run (coherent_new settings) hfaithful
  refine ⟨fun hf => commit_of_cached h (cached_of_isFresh hf), fun milliseconds => ?_⟩
  have h' := coherent_step (coherent_step h (c := .analyze path text) trivial)
    (c := .wait milliseconds) trivial
  have hc := cached_analyze s path text
  by_cases hf : ((s.analyze path text).wait milliseconds).isFresh path text
  · rw [State.analyze, if_pos hf]
    exact ⟨fun _ => rfl, rfl, rfl⟩
  · rw [State.analyze, if_neg hf]
    obtain ⟨⟨he, hr, hs⟩, -⟩ := commit_of_cached h' hc
    exact ⟨he, hr, hs⟩

/-- Two units related to each other, the lifetime cut to one millisecond: the text of the first is
    fresh, so committing it once more changes and reports nothing. -/
theorem fresh_commit_unchanged_related :
    let a : Text := "class A(Model):\n    b = ForeignKey('B')\n"
    let calls := [.edit (.commit "b.py" "class B(Model):\n" "class B(Model):\n"),
      .configure { cacheTtl := 1 }, .wait 5, .analyze "a.py" a]
    let s := (State.new {}).run calls
    s.isFresh "a.py" a = true ∧
      Agree (s.commit (Schema.extract "a.py" a) a).1 s ∧
        (s.commit (Schema.extract "a.py" a) a).2 = [] := by
  intro a calls s
  have hfresh : s.isFresh "a.py" a = true := by decide
  have hfaithful : ∀ c ∈ calls, c.Faithful := by simp [calls, Call.Faithful]
  exact ⟨hfresh, (fresh_commit_unchanged {} calls hfaithful "a.py" a).1 hfresh⟩

end OrmLens.Index
