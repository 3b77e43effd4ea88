/-
  What the server never does to its index.

  All that a message does to the index comes down to edits, to waiting and to other settings. Some
  edits are asked for by the message; the others restore units that an edit before them reported.
  So a property of the index that holds of an empty one holds whatever is sent, if edits keep it
  and report only units that may be committed (`Stable`).

  Which units may be committed can be limited (`admits`). Then the limit has to hold of the units
  whose texts the messages bring (`Notification.units`), and of nothing else: `Stable.serve`.

  As a first case, the graph of a server stands for an ownership of names at any time
  (`ordered_serve`).
-/
import OrmLens.Proofs.Index.Freshness
import OrmLens.Proofs.Index.Succession
import OrmLens.Proofs.Server.Step

namespace OrmLens.Server

open Index Model Workspace

/-! ## Stable properties -/

/-- Edits that commit admitted units only keep the property, and report only such units. Neither
    time nor settings matter. -/
structure Stable (admits : Text → Prop) (P : Index.State → Prop) : Prop where
  configure : ∀ i settings, P i → P (i.configure settings)
  wait : ∀ i milliseconds, P i → P (i.wait milliseconds)
  edit : ∀ i (e : Edit), P i → (∀ u, e.Commits u → admits u) →
    P (e.apply i) ∧ ∀ u ∈ (e.perform i).2, admits u

/-- The second state is the first with another index, which has the property. -/
def Reindexed (P : Index.State → Prop) (s t : State) : Prop :=
  ∃ index, P index ∧ t = { s with index }

namespace Reindexed

variable {P : Index.State → Prop} {s t u : State}

theorem refl (h : P s.index) : Reindexed P s s := ⟨s.index, h, rfl⟩

theorem index (h : Reindexed P s t) : P t.index := by
  obtain ⟨index, hi, rfl⟩ := h
  exact hi

theorem roots (h : Reindexed P s t) : t.roots = s.roots := by
  obtain ⟨index, -, rfl⟩ := h
  rfl

theorem trans (h : Reindexed P s t) (h' : Reindexed P t u) : Reindexed P s u := by
  obtain ⟨index, -, rfl⟩ := h
  obtain ⟨index', hi, rfl⟩ := h'
  exact ⟨index', hi, rfl⟩

end Reindexed

/-! ## Units that a message brings -/

/-- The units at and below a folder, by their paths from the folder on. -/
def unitsBelow (files : FileTree) (folder : Text) : List Text :=
  (files.filesBelow folder).map fun file => FileTree.below folder file.1

/-- Whether the units of a folder have been indexed. -/
def State.indexed (s : State) (folder : Text) : Bool :=
  s.roots.any (UnitPath.ofText · = UnitPath.ofText folder)

/-- The units whose texts a notification brings. Those of a folder come when it is indexed, and
    nothing comes with a file that is gone. -/
def Notification.units (files : FileTree) (s : State) : Notification → List Text
  | .ready => (s.workspaces.filter (!s.indexed ·)).flatMap (unitsBelow files)
  | .opened uri _ _ => uri.unit?.toList
  | .changed uri _ => uri.unit?.toList
  | .saved uri _ => uri.unit?.toList
  | .closed _ => []
  | .settingsChanged _ => []
  | .foldersChanged _ added => (added.filterMap Uri.unit?).flatMap (unitsBelow files)
  | .filesChanged changes => (changes.filter (!·.deleted)).filterMap (·.uri.unit?)

namespace State

/-- The state after folders are removed one after another. -/
def removeRoots (s : State) (files : FileTree) (roots : List Text) : State :=
  roots.foldl (fun s root => s.removeRoot files root) s

/-- The state after folders are opened one after another. -/
def addRoots (s : State) (files : FileTree) (roots : List Text) : State :=
  roots.foldl (fun s root => s.addRoot files root) s

/-- The units whose texts a turn brings. -/
def units (s : State) (t : Turn) : List Text :=
  match s.heard? t.message with
  | some n => n.units t.files s
  | none => []

/-- Every unit whose text one of the turns brings is admitted. -/
def BringsOnly (admits : Text → Prop) (s : State) : List Turn → Prop
  | [] => True
  | t :: turns => (∀ u ∈ s.units t, admits u) ∧ (s.take t).BringsOnly admits turns

instance decidableBringsOnly (admits : Text → Prop) [DecidablePred admits] (s : State) :
    (turns : List Turn) → Decidable (s.BringsOnly admits turns)
  | [] => isTrue trivial
  | t :: turns =>
    have := decidableBringsOnly admits (s.take t) turns
    inferInstanceAs (Decidable ((∀ u ∈ s.units t, admits u) ∧ (s.take t).BringsOnly admits turns))

theorem BringsOnly.imp {p q : Text → Prop} (hpq : ∀ u, p u → q u) {s : State} {turns : List Turn}
    (h : s.BringsOnly p turns) : s.BringsOnly q turns := by
  induction turns generalizing s with
  | nil => trivial
  | cons t turns ih => exact ⟨fun u hu => hpq u (h.1 u hu), ih h.2⟩

end State

/-! ## Restoring -/

/-- The next unit and those after it were pending. -/
theorem subset_of_nextUnseen? {seen pending rest : List Text} {unit : Text}
    (h : State.nextUnseen? seen pending = some (unit, rest)) : unit :: rest ⊆ pending := by
  induction pending with
  | nil => cases h
  | cons v pending ih =>
    unfold State.nextUnseen? at h
    split at h
    · exact List.subset_cons_of_subset v (ih h)
    · cases h
      exact List.Subset.refl _

namespace Stable

variable {admits : Text → Prop} {P : Index.State → Prop} (h : Stable admits P) (files : FileTree)
include h

theorem restoreFrom (count : Nat) (seen : List Text) {pending : List Text} {s : State}
    (hs : P s.index) (hp : ∀ u ∈ pending, admits u) :
    Reindexed P s (State.restoreFrom files count seen pending s) := by
  -- Units are pending because they were reported, so all of them are admitted at every turn of
  -- the loop.
  induction count generalizing seen pending s with
  | zero => exact .refl hs
  | succ count ih =>
    unfold State.restoreFrom
    split
    · exact .refl hs
    · rename_i unit rest hnext
      have hsub := subset_of_nextUnseen? hnext
      have hrest : ∀ u ∈ rest, admits u := fun u hu => hp u (hsub (List.mem_cons_of_mem unit hu))
      split
      · exact ih (unit :: seen) hs hrest
      · rename_i text _
        let e := Edit.commit unit text text
        have hunit : ∀ u, e.Commits u → admits u := by
          rintro u rfl
          exact hp unit (hsub List.mem_cons_self)
        obtain ⟨hi, ho⟩ := h.edit s.index e hs hunit
        have hpending : ∀ u ∈ (e.perform s.index).2.reverse ++ rest, admits u := by
          intro u hu
          rcases List.mem_append.mp hu with hu | hu
          · exact ho u (List.mem_reverse.mp hu)
          · exact hrest u hu
        obtain ⟨index, hindex, heq⟩ :=
          ih (unit :: seen) (s := { s with index := e.apply s.index }) hi hpending
        exact ⟨index, hindex, heq⟩

theorem restore {pending : List Text} {s : State} (hs : P s.index)
    (hp : ∀ u ∈ pending, admits u) : Reindexed P s (s.restore files pending) :=
  h.restoreFrom files _ [] hs fun u hu => hp u (List.mem_reverse.mp hu)

/-- An edit, and what it gives back. -/
theorem restore_edit {s : State} (hs : P s.index) (e : Edit) (he : ∀ u, e.Commits u → admits u) :
    Reindexed P s
      (State.restore { s with index := e.apply s.index } files (e.perform s.index).2) := by
  obtain ⟨hi, ho⟩ := h.edit s.index e hs he
  obtain ⟨index, hindex, heq⟩ :=
    h.restore files (s := { s with index := e.apply s.index }) hi ho
  exact ⟨index, hindex, heq⟩

/-! ## Units -/

theorem commit {s : State} (hs : P s.index) {unit : Text} (hu : admits unit) (text : Text) :
    Reindexed P s (s.commit files unit text) :=
  h.restore_edit files hs (.commit unit text text) (by rintro u rfl; exact hu)

theorem analyze {s : State} (hs : P s.index) {unit : Text} (hu : admits unit) (text : Text) :
    Reindexed P s (s.analyze files unit text) := by
  unfold State.analyze
  split
  · exact .refl hs
  · exact h.commit files hs hu text

theorem update {s : State} (hs : P s.index) {uri : Uri} (hu : ∀ u ∈ uri.unit?, admits u)
    (text : Text) : P (s.update files uri text).index := by
  unfold State.update
  split
  · exact hs
  · rename_i unit hunit
    refine (h.analyze files ?_ (hu unit hunit) text).index
    exact hs

theorem forget {s : State} (hs : P s.index) (uri : Uri) : P (s.forget files uri).index := by
  unfold State.forget
  split
  · exact hs
  · rename_i unit _
    split
    · exact (h.restore_edit files hs (.remove unit) fun _ hc => hc.elim).index
    · exact hs

theorem fileChanged {s : State} (hs : P s.index) {change : FileChange}
    (hu : change.deleted = false → ∀ u ∈ change.uri.unit?, admits u) :
    P (s.fileChanged files change).index := by
  unfold State.fileChanged
  split
  · exact h.forget files hs change.uri
  · rename_i hdeleted
    split
    · exact hs
    · split
      · rename_i unit text hread
        obtain ⟨unit', hunit, hread⟩ := Option.bind_eq_some_iff.mp hread
        obtain ⟨text', -, hpair⟩ := Option.map_eq_some_iff.mp hread
        cases hpair
        exact (h.analyze files hs (hu (by simpa using hdeleted) unit hunit) text).index
      · exact hs

/-! ## Folders -/

theorem indexUnits {s : State} (hs : P s.index) {units : List (Text × Content)}
    (hu : ∀ unit ∈ units, admits unit.1) : Reindexed P s (s.indexUnits files units) := by
  refine List.foldlRecOn units _ (.refl hs) fun t ht unit hunit => ?_
  split
  · exact ht.trans (h.commit files ht.index (hu unit hunit) _)
  · exact ht

/-- Folders that count as indexed go on doing so. -/
theorem indexRoot {s : State} (hs : P s.index) {root : Text}
    (hu : s.indexed root = false → ∀ u ∈ unitsBelow files root, admits u) :
    P (s.indexRoot files root).index ∧ s.roots ⊆ (s.indexRoot files root).roots := by
  unfold State.indexRoot
  split
  · exact ⟨hs, List.Subset.refl _⟩
  · rename_i hnew
    have hgrows : s.roots ⊆ addPath s.roots root := by
      unfold addPath
      split
      · exact List.Subset.refl _
      · exact List.subset_append_left _ _
    dsimp only
    split
    · exact ⟨hs, hgrows⟩
    · rename_i globs _
      have hselected : ∀ unit ∈ files.selected root globs, admits unit.1 := by
        intro unit hunit
        obtain ⟨file, hfile, rfl⟩ := List.mem_map.mp hunit
        apply hu (by simpa [State.indexed] using hnew)
        exact List.mem_map.mpr ⟨file, (List.mem_filter.mp hfile).1, rfl⟩
      have hdone := h.indexUnits files (s := { s with roots := addPath s.roots root }) hs hselected
      exact ⟨hdone.index, hdone.roots ▸ hgrows⟩

theorem indexWorkspaces {s : State} (hs : P s.index)
    (hu : ∀ u ∈ Notification.ready.units files s, admits u) :
    P (s.indexWorkspaces files).index := by
  refine (List.foldlRecOn (motive := fun t : State => P t.index ∧ s.roots ⊆ t.roots) s.workspaces _
    ⟨hs, List.Subset.refl _⟩ fun t ht folder hfolder => ?_).1
  have hnew : t.indexed folder = false → s.indexed folder = false := by
    unfold State.indexed
    rw [List.any_eq_false, List.any_eq_false]
    exact fun hnone root hroot => hnone root (ht.2 hroot)
  have hbelow : t.indexed folder = false → ∀ u ∈ unitsBelow files folder, admits u := by
    intro hn u hunit
    apply hu
    refine List.mem_flatMap.mpr ⟨folder, List.mem_filter.mpr ⟨hfolder, ?_⟩, hunit⟩
    rw [hnew hn]
    rfl
  obtain ⟨hi, hr⟩ := h.indexRoot files ht.1 hbelow
  exact ⟨hi, List.Subset.trans ht.2 hr⟩

theorem removeUnits {i : Index.State} (hi : P i) (units : List Text) :
    P (State.removeUnits i units).1 ∧ ∀ u ∈ (State.removeUnits i units).2, admits u := by
  induction units generalizing i with
  | nil => exact ⟨hi, by simp [State.removeUnits]⟩
  | cons unit units ih =>
    obtain ⟨hnext, ho⟩ := h.edit i (.remove unit) hi fun _ hc => hc.elim
    obtain ⟨hlast, hmore⟩ := ih hnext
    refine ⟨hlast, fun u hu => ?_⟩
    rcases List.mem_append.mp hu with hu | hu
    · exact ho u hu
    · exact hmore u hu

theorem removeRoot {s : State} (hs : P s.index) (root : Text) :
    P (s.removeRoot files root).index := by
  obtain ⟨hi, ho⟩ := h.removeUnits hs (s.unitsUnder root)
  unfold State.removeRoot
  dsimp only
  refine (h.restore files ?_ fun u hu => ho u (List.mem_filter.mp hu).1).index
  exact hi

theorem addRoot {s : State} (hs : P s.index) {root : Text}
    (hu : ∀ u ∈ unitsBelow files root, admits u) : P (s.addRoot files root).index :=
  (h.indexRoot files (s := { s with workspaces := addPath s.workspaces root }) hs
    fun _ => hu).1

theorem removeRoots {s : State} (hs : P s.index) (roots : List Text) :
    P (s.removeRoots files roots).index :=
  List.foldlRecOn (motive := fun t : State => P t.index) roots _ hs fun _ ht root _ =>
    h.removeRoot files ht root

theorem addRoots {s : State} (hs : P s.index) {roots : List Text}
    (hu : ∀ u ∈ roots.flatMap (unitsBelow files), admits u) :
    P (s.addRoots files roots).index :=
  List.foldlRecOn (motive := fun t : State => P t.index) roots _ hs fun _ ht root hroot =>
    h.addRoot files ht fun u hunit => hu u (List.mem_flatMap.mpr ⟨root, hroot, hunit⟩)

/-! ## Settings -/

theorem configureJson {s : State} (hs : P s.index) (config : Json) :
    P (s.configure config).index := by
  unfold State.configure
  split
  · exact h.configure _ _ hs
  · exact hs

theorem mergeReply {s : State} (hs : P s.index) (reply : Json) : P (mergeReply s reply).index :=
  List.foldlRecOn (motive := fun t : State => P t.index) _ _ hs fun _ ht config _ =>
    h.configureJson ht config

theorem greet {s : State} (hs : P s.index) (folders : List Uri) (options : Option Json)
    (capabilities : Capabilities) : P (greet s folders options capabilities).index := by
  cases options with
  | none => exact hs
  | some config =>
    exact h.configureJson
      (s := { s with workspaces := (folders.filterMap Uri.unit?).foldl addPath s.workspaces }) hs
      config

/-! ## Messages -/

theorem notice (replies : List Json) {s : State} (hs : P s.index) {n : Notification}
    (hu : ∀ u ∈ n.units files s, admits u) : P (notice files replies s n).state.index := by
  cases n with
  | ready => exact h.indexWorkspaces files hs hu
  | opened uri language text =>
    have huri : ∀ u ∈ uri.unit?, admits u := fun u hm => hu u (Option.mem_toList.mpr hm)
    show P (if State.isFollowed uri language then s.update files uri text else s).index
    split
    · exact h.update files hs huri text
    · exact hs
  | changed uri texts =>
    have huri : ∀ u ∈ uri.unit?, admits u := fun u hm => hu u (Option.mem_toList.mpr hm)
    unfold Server.notice Server.notice.keep
    dsimp only
    split
    · exact h.update files hs huri _
    · exact hs
  | saved uri text =>
    have huri : ∀ u ∈ uri.unit?, admits u := fun u hm => hu u (Option.mem_toList.mpr hm)
    cases text with
    | none => exact hs
    | some text => exact h.update files hs huri text
  | closed uri => exact hs
  | settingsChanged settings =>
    unfold Server.notice
    dsimp only
    split
    · exact h.configureJson hs settings
    · exact h.mergeReply hs _
  | foldersChanged removed added => exact h.addRoots files (h.removeRoots files hs _) hu
  | filesChanged changes =>
    refine List.foldlRecOn (motive := fun t : State => P t.index) _ _ hs ?_
    intro t ht change hchange
    refine h.fileChanged files ht fun hkept u hunit => hu u ?_
    exact List.mem_filterMap.mpr ⟨change, List.mem_filter.mpr ⟨hchange, by rw [hkept]; rfl⟩, hunit⟩

theorem take {s : State} (hs : P s.index) {t : Turn} (hu : ∀ u ∈ s.units t, admits u) :
    P (s.take t).index := by
  have hwait : P (s.wait t.elapsed).index := h.wait _ _ hs
  cases hheard : s.heard? t.message with
  | some n =>
    rw [State.take_of_heard hheard]
    rw [State.units, hheard] at hu
    exact h.notice t.files t.replies hwait hu
  | none =>
    unfold State.take
    obtain ⟨phase, heq⟩ | ⟨-, folders, options, capabilities, heq⟩ :=
      step_of_unheard (s := s.wait t.elapsed) hheard t.files t.replies
    · rw [heq]
      exact hwait
    · rw [heq]
      exact h.greet hwait folders options capabilities

/-- A stable property holds through every run of turns that brings admitted units only. -/
theorem serve {s : State} (hs : P s.index) {turns : List Turn} (hu : s.BringsOnly admits turns) :
    P (s.serve turns).index := by
  induction turns generalizing s with
  | nil => exact hs
  | cons t turns ih => exact ih (h.take hs hu.1) hu.2

end Stable

/-! ## Order -/

/-- The graph stands for an ownership of names, and whoever has lost a name has lost it to a holder
    that is still there. -/
structure Ordered (i : Index.State) : Prop where
  represented : ∃ o, i.graph.Represents o
  settled : ∀ n u, i.shadowed.get? n = some u → ∃ v, i.graph.holder? n = some v

theorem ordered_new (settings : Settings) : Ordered (Index.State.new settings) where
  represented := ⟨Ownership.empty, represents_new settings⟩
  settled _ _ h := by cases h

theorem ordered_apply {i : Index.State} (h : Ordered i) (e : Edit) : Ordered (e.apply i) := by
  obtain ⟨o, ho⟩ := h.represented
  refine ⟨⟨o.apply e, represents_apply ho e⟩, fun n u hu => ?_⟩
  obtain ⟨v, hv, -⟩ := settled_apply ho e hu
  exact ⟨v, ((represents_apply ho e).holder?_eq n).trans hv⟩

theorem stable_ordered : Stable (fun _ => True) Ordered where
  configure _ _ h := ⟨h.represented, h.settled⟩
  wait _ _ h := ⟨h.represented, h.settled⟩
  edit _ e h _ := ⟨ordered_apply h e, fun _ _ => trivial⟩

theorem bringsOnly_true (s : State) (turns : List Turn) : s.BringsOnly (fun _ => True) turns := by
  induction turns generalizing s with
  | nil => trivial
  | cons t turns ih => exact ⟨fun _ _ => trivial, ih (s.take t)⟩

/-- Every index that a server comes to is in order. -/
theorem ordered_serve (settings : Settings) (turns : List Turn) :
    Ordered ((State.new settings).serve turns).index :=
  stable_ordered.serve (ordered_new settings) (bringsOnly_true _ turns)

end OrmLens.Server
