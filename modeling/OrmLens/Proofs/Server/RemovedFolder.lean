/-
  What comes back from a folder that was removed.

  Removing a folder removes the units that hold a name in the graph and lie below it. A unit of the
  folder that holds nothing, because it lost its names to other units, is not among them. If a
  unit outside has such a name, the record of the loss stays, and when that unit gives the name up
  the loser is restored from its document or its file: the folder is back, although nothing was
  said about it (`removed_folder_returns`).

  There is no other way back: `removed_folder_returns_only_by_losses` says that as long as the
  messages bring no unit of the folder, the graph holds none, apart from those that had lost a name
  to a unit outside at the moment of the removal.

  The property carried through the run is that all units of the index are admitted (`Confined`),
  be it as holders or in records of losses.
-/
import OrmLens.Proofs.Server.Invariant

namespace OrmLens.Server

open Index Model Workspace

/-! ## Holders and losers -/

theorem holder?_apply {i : Index.State} (h : Ordered i) (e : Edit) (n : Text) :
    (e.apply i).graph.holder? n =
      if n ∈ e.names then some e.path else (i.graph.holder? n).filter (· ≠ e.path) := by
  obtain ⟨o, ho⟩ := h.represented
  rw [(represents_apply ho e).holder?_eq, Ownership.owner_apply, ho.holder?_eq]

theorem holder?_remove_iff {i : Index.State} (h : Ordered i) {unit n u : Text} :
    ((Edit.remove unit).apply i).graph.holder? n = some u ↔
      i.graph.holder? n = some u ∧ u ≠ unit := by
  rw [holder?_apply h, if_neg (by exact List.not_mem_nil), Option.filter_eq_some_iff,
    decide_eq_true_eq]
  rfl

/-- Who has lost a name after an edit had lost it before, or held it. -/
theorem loser_write {i : Index.State} (h : Ordered i) {e : Edit} {n u : Text}
    (hu : (e.write i).shadowed.get? n = some u) :
    i.shadowed.get? n = some u ∨ i.graph.holder? n = some u := by
  obtain ⟨o, ho⟩ := h.represented
  rw [e.shadowed_write ho.keyed] at hu
  split at hu
  · rcases Option.or_eq_some_iff.mp hu with hu | ⟨-, hu⟩
    · exact Or.inr ((Graph.loser?_eq_some_iff _ _ _ _).mp hu).1
    · exact Or.inl hu
  · exact Or.inl hu

/-- All units of the index are admitted, those that hold a name and those that have lost one. -/
structure Confined (admits : Text → Prop) (i : Index.State) : Prop where
  ordered : Ordered i
  holder : ∀ n u, i.graph.holder? n = some u → admits u
  loser : ∀ n u, i.shadowed.get? n = some u → admits u

theorem Confined.loser_write {admits : Text → Prop} {i : Index.State} (h : Confined admits i)
    {e : Edit} {n u : Text} (hu : (e.write i).shadowed.get? n = some u) : admits u := by
  rcases Server.loser_write h.ordered hu with hu | hu
  · exact h.loser n u hu
  · exact h.holder n u hu

theorem Confined.unit {admits : Text → Prop} {i : Index.State} (h : Confined admits i)
    {e : Entity} (he : e ∈ i.graph.entities.values) : admits e.unit := by
  obtain ⟨n, hn⟩ := (Table.mem_values_iff _ e).mp he
  apply h.holder n
  rw [Graph.holder?, Graph.entity?, hn]
  rfl

/-- Units come into the index by commits only. -/
theorem stable_confined (admits : Text → Prop) : Stable admits (Confined admits) where
  configure _ _ h := ⟨stable_ordered.configure _ _ h.ordered, h.holder, h.loser⟩
  wait _ _ h := ⟨stable_ordered.wait _ _ h.ordered, h.holder, h.loser⟩
  edit := by
    intro i e h hcommits
    refine ⟨⟨ordered_apply h.ordered e, ?_, ?_⟩, ?_⟩
    · intro n u hu
      rw [holder?_apply h.ordered] at hu
      split at hu
      · rename_i hn
        cases hu
        exact hcommits e.path (e.commits_of_mem_names hn)
      · exact h.holder n u (Option.filter_eq_some_iff.mp hu).1
    · intro n u hu
      rw [Edit.shadowed_apply] at hu
      exact h.loser_write (Option.filter_eq_some_iff.mp hu).1
    · intro u hu
      rw [Edit.perform_eq] at hu
      obtain ⟨n, hn, -⟩ := (State.mem_orphans_iff _ u).mp hu
      exact h.loser_write hn

/-! ## Removing a folder -/

/-- The unit has lost a name to a unit outside of the folder. -/
def LostOutside (root : Text) (i : Index.State) (u : Text) : Prop :=
  ∃ n v, i.shadowed.get? n = some u ∧ i.graph.holder? n = some v ∧ isUnder root v = false

/-- The unit lies outside of the folder, or had lost a name to a unit outside. -/
def MayReturn (root : Text) (i : Index.State) (u : Text) : Prop :=
  isUnder root u = true → LostOutside root i u

theorem mayReturn_of_outside {root u : Text} (i : Index.State) (hu : isUnder root u = false) :
    MayReturn root i u := by
  intro hunder
  rw [hu] at hunder
  cases hunder

theorem mem_unitsUnder {s : State} {root n u : Text} (hn : s.index.graph.holder? n = some u)
    (hu : isUnder root u = true) : u ∈ s.unitsUnder root := by
  obtain ⟨e, he, rfl⟩ := Option.map_eq_some_iff.mp hn
  unfold State.unitsUnder
  rw [List.mem_mergeSort, Named.mem_mergeAll_texts, List.mem_filter]
  exact ⟨List.mem_map.mpr ⟨e, (Table.mem_values_iff _ e).mpr ⟨n, he⟩, rfl⟩, hu⟩

/-- One unit after another is removed: the names they held are free, and who had lost one of these
    to them is not on record any more. -/
theorem removeUnits_spec {i : Index.State} (h : Ordered i) (units : List Text) :
    (∀ n u, (State.removeUnits i units).1.graph.holder? n = some u →
      i.graph.holder? n = some u ∧ u ∉ units) ∧
    ∀ n u, (State.removeUnits i units).1.shadowed.get? n = some u →
      i.shadowed.get? n = some u ∧ ∀ v, i.graph.holder? n = some v → v ∉ units := by
  induction units generalizing i with
  | nil =>
    refine ⟨fun n u hu => ⟨hu, List.not_mem_nil⟩, fun n u hu => ⟨hu, ?_⟩⟩
    exact fun _ _ => List.not_mem_nil
  | cons unit units ih =>
    have hordered := ordered_apply h (.remove unit)
    obtain ⟨hholders, hlosers⟩ := ih hordered
    constructor
    · intro n u hu
      obtain ⟨hu, hrest⟩ := hholders n u hu
      obtain ⟨hu, hne⟩ := (holder?_remove_iff h).mp hu
      exact ⟨hu, List.not_mem_cons_of_ne_of_not_mem hne hrest⟩
    · intro n u hu
      obtain ⟨hu, hrest⟩ := hlosers n u hu
      -- A record that outlives the removal has a holder, the same as before.
      obtain ⟨w, hw⟩ := hordered.settled n u hu
      obtain ⟨hw', hne⟩ := (holder?_remove_iff h).mp hw
      rw [Edit.shadowed_apply] at hu
      refine ⟨(Option.filter_eq_some_iff.mp hu).1, fun v hv => ?_⟩
      obtain rfl : w = v := Option.some.inj (hw'.symm.trans hv)
      exact List.not_mem_cons_of_ne_of_not_mem hne (hrest w hw)

theorem confined_removeRoot (files : FileTree) {s : State} (h : Ordered s.index) (root : Text) :
    Confined (MayReturn root s.index) (s.removeRoot files root).index := by
  have hstable := stable_confined (MayReturn root s.index)
  obtain ⟨hholders, hlosers⟩ := removeUnits_spec h (s.unitsUnder root)
  have hi : Confined (MayReturn root s.index)
      (State.removeUnits s.index (s.unitsUnder root)).1 := by
    refine ⟨(stable_ordered.removeUnits h _).1, ?_, ?_⟩
    · intro n u hu hunder
      obtain ⟨hu, hout⟩ := hholders n u hu
      exact absurd (mem_unitsUnder hu hunder) hout
    · intro n u hu hunder
      obtain ⟨hu, hout⟩ := hlosers n u hu
      obtain ⟨v, hv⟩ := h.settled n u hu
      refine ⟨n, v, hu, hv, ?_⟩
      rw [← Bool.not_eq_true]
      exact fun hv' => hout v hv (mem_unitsUnder hv hv')
  unfold State.removeRoot
  dsimp only
  refine (hstable.restore files ?_ ?_).index
  · exact hi
  · intro u hu
    apply mayReturn_of_outside
    simpa using (List.mem_filter.mp hu).2

/-- A change of folders confines the index to what may return from one that is removed. -/
theorem confined_foldersChanged (files : FileTree) (replies : List Json) {s : State}
    (h : Ordered s.index) {removed added : List Uri} {earlier others : List Text} {root : Text}
    (hroot : removed.filterMap Uri.unit? = earlier ++ root :: others)
    (hadded : ∀ u ∈ (Notification.foldersChanged removed added).units files s,
      isUnder root u = false) :
    Confined (MayReturn root (s.removeRoots files earlier).index)
      (notice files replies s (.foldersChanged removed added)).state.index := by
  have hstable := stable_confined (MayReturn root (s.removeRoots files earlier).index)
  have hremoved := confined_removeRoot files (stable_ordered.removeRoots files h earlier) root
  have hothers := hstable.removeRoots files hremoved others
  have hsplit : s.removeRoots files (removed.filterMap Uri.unit?) =
      ((s.removeRoots files earlier).removeRoot files root).removeRoots files others := by
    rw [hroot, State.removeRoots, List.foldl_append]
    rfl
  rw [← hsplit] at hothers
  exact hstable.addRoots files hothers fun u hu => mayReturn_of_outside _ (hadded u hu)

/-- **What comes back from a removed folder.** From any state that a server comes to, a message
    removes folders, one of them `root`. As long as no text of a unit below `root` comes with this
    message or a later one, an entity of such a unit is in the graph only if the unit had lost a
    name to a unit outside when the folder was removed. -/
theorem removed_folder_returns_only_by_losses (settings : Settings) (before later : List Turn)
    (t : Turn) (removed added : List Uri) (earlier others : List Text) (root : Text)
    (hheard : ((State.new settings).serve before).heard? t.message =
      some (.foldersChanged removed added))
    (hroot : removed.filterMap Uri.unit? = earlier ++ root :: others)
    (hspared : ((State.new settings).serve before).BringsOnly (isUnder root · = false)
      (t :: later)) :
    let s := ((State.new settings).serve before).wait t.elapsed
    ∀ e ∈ ((State.new settings).serve (before ++ t :: later)).index.graph.entities.values,
      isUnder root e.unit = true →
        LostOutside root (s.removeRoots t.files earlier).index e.unit := by
  intro s e he hunder
  obtain ⟨ht, hlater⟩ := hspared
  have hordered : Ordered s.index := stable_ordered.wait _ _ (ordered_serve settings before)
  have htake : Confined (MayReturn root (s.removeRoots t.files earlier).index)
      (((State.new settings).serve before).take t).index := by
    rw [State.take_of_heard hheard]
    rw [State.units, hheard] at ht
    exact confined_foldersChanged t.files t.replies hordered hroot ht
  have hspared : (((State.new settings).serve before).take t).BringsOnly
      (MayReturn root (s.removeRoots t.files earlier).index) later :=
    hlater.imp fun u hu => mayReturn_of_outside _ hu
  have hserve := (stable_confined _).serve htake hspared
  rw [State.serve_append] at he
  exact hserve.unit he hunder

/-! ## Two runs -/

namespace Turn

/-- A notification that arrives while the files are these. -/
def notify (files : FileTree) (method : Text) (params : Json) : Turn :=
  { files, message := ⟨method, some params, false⟩ }

/-- The greeting of a client with no folder open. -/
def greeting : Turn :=
  { message := ⟨"initialize", some (.obj [("capabilities", .obj [])]), true⟩ }

/-- A file was created. -/
def created (files : FileTree) (uri : Text) : Turn :=
  notify files "workspace/didChangeWatchedFiles"
    (.obj [("changes", .arr [.obj [("uri", .str uri), ("type", .ofNat 1)]])])

/-- A document was opened. -/
def opened (files : FileTree) (uri text : Text) : Turn :=
  notify files "textDocument/didOpen" (.obj [("textDocument", .obj [("uri", .str uri),
    ("languageId", .str "python"), ("version", .ofNat 1), ("text", .str text)])])

/-- A document has another text. -/
def changed (files : FileTree) (uri text : Text) : Turn :=
  notify files "textDocument/didChange" (.obj [
    ("textDocument", .obj [("uri", .str uri), ("version", .ofNat 2)]),
    ("contentChanges", .arr [.obj [("text", .str text)]])])

/-- A folder was closed. -/
def folderRemoved (files : FileTree) (uri : Text) : Turn :=
  notify files "workspace/didChangeWorkspaceFolders" (.obj [("event", .obj [
    ("removed", .arr [.obj [("uri", .str uri), ("name", .str "")]]), ("added", .arr [])])])

end Turn

/-- Two units of a folder define a name, and the folder is removed. The unit that had lost the name
    had lost it inside, so both stay out. -/
theorem removed_folder_returns_only_by_losses_inside :
    let root : Text := "/r"
    let a : Text := "/r/a/models.py"
    let n : Text := "class N(Model):\n"
    let files := (FileTree.write {} a (some n)).write "/r/b/models.py" (some n)
    let before : List Turn := [.greeting, .created files "file:///r/a/models.py",
      .created files "file:///r/b/models.py",
      .opened files "file:///w/models.py" "class M(Model):\n"]
    let t := Turn.folderRemoved files "file:///r"
    let later := [Turn.changed files "file:///w/models.py" ""]
    let s := (State.new {}).serve before
    s.index.shadowed.get? "N" = some a ∧
      ∀ e ∈ ((State.new {}).serve (before ++ t :: later)).index.graph.entities.values,
        isUnder root e.unit = false := by
  intro root a n files before t later s
  have hrun : s.phase = .running ∧ s.BringsOnly (isUnder root · = false) (t :: later) ∧
      s.index.shadowed.get? "N" = some a ∧
      ∀ r ∈ (s.wait t.elapsed).index.shadowed.entries,
        ((s.wait t.elapsed).index.graph.holder? r.1).all (isUnder root) = true := by
    decide +kernel
  obtain ⟨hphase, hspared, hlost, hinside⟩ := hrun
  have hheard : s.heard? t.message = some (.foldersChanged [⟨root⟩] []) :=
    State.heard?_eq_some_iff.mpr ⟨hphase, rfl, rfl⟩
  refine ⟨hlost, fun e he => ?_⟩
  rw [← Bool.not_eq_true]
  intro hunder
  obtain ⟨name, v, hloser, hholder, hout⟩ := removed_folder_returns_only_by_losses {} before later t
    [⟨root⟩] [] [] [] root hheard (by decide) hspared e he hunder
  have hall := hinside (name, e.unit) ((Table.mem_entries_iff _ name e.unit).mpr hloser)
  have hholder : (s.wait t.elapsed).index.graph.holder? name = some v := hholder
  rw [hholder, Option.all_some, hout] at hall
  cases hall

/-- A unit of a folder loses its name to a unit outside, and the folder is removed. When the other
    unit gives the name up, the unit of the folder has it again. -/
theorem removed_folder_returns :
    let root : Text := "/r"
    let n : Text := "class N(Model):\n"
    let files := FileTree.write {} "/r/models.py" (some n)
    let before : List Turn := [.greeting, .created files "file:///r/models.py",
      .opened files "file:///w/models.py" n]
    let t := Turn.folderRemoved files "file:///r"
    let later := [Turn.changed files "file:///w/models.py" ""]
    let s := (State.new {}).serve before
    s.heard? t.message = some (.foldersChanged [⟨root⟩] []) ∧
      s.BringsOnly (isUnder root · = false) (t :: later) ∧
      ∃ e ∈ ((State.new {}).serve (before ++ t :: later)).index.graph.entities.values,
        isUnder root e.unit = true := by
  intro root n files before t later s
  have hrun : s.phase = .running ∧ s.BringsOnly (isUnder root · = false) (t :: later) ∧
      ∃ e ∈ ((State.new {}).serve (before ++ t :: later)).index.graph.entities.values,
        isUnder root e.unit = true := by
    decide +kernel
  exact ⟨State.heard?_eq_some_iff.mpr ⟨hrun.1, rfl, rfl⟩, hrun.2⟩

end OrmLens.Server
