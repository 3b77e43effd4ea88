/-
  What stays of a unit whose file was deleted.

  A deletion is heeded for units of models only. Any other unit may be in the graph too, if the
  patterns of a folder select it, and then its deletion changes nothing (`deleted_view_stays`).

  A unit of models leaves the graph at once. What the removal gives back may give back more, and in
  the end the unit itself, from a document that is still open or a file that is there again. But
  that takes a record of a loss: `deleted_unit_leaves` says that a unit of models is in the graph
  after its deletion only if it had lost a name to another unit before, and still has a text.
-/
import OrmLens.Proofs.Server.Moves

namespace OrmLens.Server

open Index Model Workspace

/-- A unit that holds nothing goes on holding nothing while others are restored, if it has no text
    or nothing could bring it up. -/
theorem Restores.absent {text? : Text → Option Text} {seen pending seen' : List Text}
    {i i' : Index.State} (h : Restores text? seen pending i seen' i') (hi : Ordered i) {p : Text}
    (habsent : ∀ n, i.graph.holder? n ≠ some p)
    (hcause : text? p = none ∨ p ∉ pending ∧ ∀ n, i.shadowed.get? n ≠ some p) (n : Text) :
    i'.graph.holder? n ≠ some p := by
  induction h with
  | done => exact habsent n
  | again _ _ ih =>
    exact ih hi habsent (hcause.imp_right fun hc => ⟨List.not_mem_of_not_mem_cons hc.1, hc.2⟩)
  | unreadable _ _ _ ih =>
    exact ih hi habsent (hcause.imp_right fun hc => ⟨List.not_mem_of_not_mem_cons hc.1, hc.2⟩)
  | @commit seen pending seen' i i' unit text hnew htext _ ih =>
    have hunit : unit ≠ p := by
      rintro rfl
      rcases hcause with hnone | ⟨hpending, -⟩
      · rw [hnone] at htext
        cases htext
      · exact hpending List.mem_cons_self
    have hloser {m : Text} (hloss : ∀ m, i.shadowed.get? m ≠ some p) :
        ((Edit.commit unit text text).write i).shadowed.get? m ≠ some p := by
      intro hm
      rcases loser_write hi hm with hm | hm
      · exact hloss m hm
      · exact habsent m hm
    refine ih (ordered_apply hi _) (fun m hm => ?_) (hcause.imp_right fun hc => ⟨?_, ?_⟩)
    · rw [holder?_apply hi] at hm
      split at hm
      · exact hunit (Option.some.inj hm)
      · exact habsent m (Option.filter_eq_some_iff.mp hm).1
    · intro hmem
      rcases List.mem_append.mp hmem with hmem | hmem
      · rw [List.mem_reverse, Edit.perform_eq] at hmem
        obtain ⟨m, hm, -⟩ := (State.mem_orphans_iff _ p).mp hmem
        exact hloser hc.2 hm
      · exact hc.1 (List.mem_cons_of_mem unit hmem)
    · intro m hm
      rw [Edit.shadowed_apply] at hm
      exact hloser hc.2 (Option.filter_eq_some_iff.mp hm).1

/-- The unit has lost a name to another unit. -/
def Lost (i : Index.State) (u : Text) : Prop :=
  ∃ n v, i.shadowed.get? n = some u ∧ i.graph.holder? n = some v ∧ v ≠ u

/-- A unit that is removed comes back only if it had lost a name, and by a text of its own. -/
theorem lost_of_removed (files : FileTree) {s : State} {o : Ownership} (h : Coherent s.index o)
    {p n : Text} (hn : ((Move.removed p).perform files s).index.graph.holder? n = some p) :
    Lost s.index p ∧ (s.textOf? files p).isSome := by
  have hordered := ordered_of_coherent h
  let e := Edit.remove p
  obtain ⟨seen, i, hloop, heq⟩ := restores_restore files
    (s := { s with index := e.apply s.index }) (ordered_apply hordered e) (e.perform s.index).2
  have hi : i.graph.holder? n = some p := by
    rw [Move.perform, heq] at hn
    exact hn
  have hlost {m : Text} (hm : s.index.shadowed.get? m = some p) : Lost s.index p := by
    obtain ⟨v, hv, hne⟩ := h.settled m p hm
    exact ⟨m, v, hm, (h.represents.holder?_eq m).trans hv, hne⟩
  have habsent : ∀ m, (e.apply s.index).graph.holder? m ≠ some p := fun m hm =>
    ((holder?_remove_iff hordered).mp hm).2 rfl
  have habsent' := fun hcause => hloop.absent (ordered_apply hordered e) habsent hcause n hi
  constructor
  · apply Classical.byContradiction
    intro hnone
    refine habsent' (Or.inr ⟨fun hmem => ?_, fun m hm => ?_⟩)
    · rw [List.mem_reverse, Edit.perform_eq] at hmem
      obtain ⟨m, hm, -⟩ := (State.mem_orphans_iff _ p).mp hmem
      exact hnone (hlost hm)
    · rw [Edit.shadowed_apply] at hm
      exact hnone (hlost (Option.filter_eq_some_iff.mp hm).1)
  · rw [← Option.ne_none_iff_isSome]
    exact fun hnone => habsent' (Or.inl hnone)

/-- **What stays of a deleted unit.** In any state that a server comes to, whatever its settings, a
    message says that the file of a unit was deleted and nothing else. If the unit is not one of
    models, the graph stays as it is. If it is one, an entity of the unit is in the graph afterwards
    only if the unit had lost a name to another unit, and has a text. -/
theorem deleted_unit_leaves (settings : Settings) (turns : List Turn) (t : Turn) (uri : Uri)
    (p : Text)
    (hheard : ((State.new settings).serve turns).heard? t.message =
      some (.filesChanged [⟨uri, true⟩]))
    (hunit : uri.unit? = some p) :
    let s := (State.new settings).serve turns
    ((UnitPath.ofText p).isModels = false → (s.take t).index.graph = s.index.graph) ∧
      ((UnitPath.ofText p).isModels = true →
        ∀ e ∈ (s.take t).index.graph.entities.values, e.unit = p →
          Lost s.index p ∧ (s.textOf? t.files p).isSome) := by
  intro s
  have htake : s.take t = (s.wait t.elapsed).forget t.files uri := State.take_of_heard hheard
  rw [htake]
  unfold State.forget
  rw [hunit]
  dsimp only
  constructor
  · intro hother
    rw [if_neg (by rw [hother]; exact Bool.false_ne_true)]
    rfl
  · intro hmodels e he hp
    rw [if_pos hmodels] at he
    obtain ⟨o, ho⟩ := coherent_serve settings turns
    obtain ⟨n, hn⟩ := (Table.mem_values_iff _ e).mp he
    have hwait : Coherent (s.wait t.elapsed).index o :=
      coherent_quiet (c := .wait t.elapsed) ho rfl
    have hholder : ((Move.removed p).perform t.files (s.wait t.elapsed)).index.graph.holder? n =
        some e.unit := Option.map_eq_some_iff.mpr ⟨e, hn, rfl⟩
    rw [hp] at hholder
    exact lost_of_removed t.files hwait hholder

/-! ## Two runs -/

namespace Turn

/-- A file was deleted. -/
def deleted (files : FileTree) (uri : Text) : Turn :=
  notify files "workspace/didChangeWatchedFiles"
    (.obj [("changes", .arr [.obj [("uri", .str uri), ("type", .ofNat 3)]])])

/-- A folder was opened. -/
def folderAdded (files : FileTree) (uri : Text) : Turn :=
  notify files "workspace/didChangeWorkspaceFolders" (.obj [("event", .obj [
    ("removed", .arr []), ("added", .arr [.obj [("uri", .str uri), ("name", .str "")]])])])

end Turn

/-- A unit that has lost one of its names is deleted. It has no text any more, so it is gone. -/
theorem deleted_unit_leaves_without_text :
    let p : Text := "/w/a/models.py"
    let files := (FileTree.write {} p (some "class N(Model):\nclass M(Model):\n")).write
      "/w/b/models.py" (some "class N(Model):\n")
    let turns : List Turn := [.greeting, .created files "file:///w/a/models.py",
      .created files "file:///w/b/models.py"]
    let t := Turn.deleted (files.unlink p) "file:///w/a/models.py"
    ((State.new {}).serve turns).index.graph.holder? "M" = some p ∧
      Lost ((State.new {}).serve turns).index p ∧
      ∀ e ∈ (((State.new {}).serve turns).take t).index.graph.entities.values, e.unit ≠ p := by
  intro p files turns t
  have hrun : ((State.new {}).serve turns).phase = .running ∧
      ((State.new {}).serve turns).index.graph.holder? "M" = some p ∧
      ((State.new {}).serve turns).index.shadowed.get? "N" = some p ∧
      ((State.new {}).serve turns).index.graph.holder? "N" = some "/w/b/models.py" ∧
      ((State.new {}).serve turns).textOf? t.files p = none := by
    decide +kernel
  obtain ⟨hphase, hholds, hlost, hholder, hgone⟩ := hrun
  have hheard : ((State.new {}).serve turns).heard? t.message =
      some (.filesChanged [⟨⟨p⟩, true⟩]) := State.heard?_eq_some_iff.mpr ⟨hphase, rfl, rfl⟩
  refine ⟨hholds, ⟨"N", "/w/b/models.py", hlost, hholder, by decide⟩, fun e he hp => ?_⟩
  obtain ⟨-, htext⟩ := (deleted_unit_leaves {} turns t ⟨p⟩ p hheard (by decide +kernel)).2
    (by decide +kernel) e he hp
  rw [hgone] at htext
  cases htext

/-- The patterns of a folder select a unit that is not one of models. When its file is deleted, its
    entity stays. -/
theorem deleted_view_stays :
    let p : Text := "/w/views.py"
    let files := FileTree.write {} p (some "class N(Model):\n")
    let turns : List Turn := [.greeting, .folderAdded files "file:///w"]
    let t := Turn.deleted (files.unlink p) "file:///w/views.py"
    let s := (State.new { modelGlobs := ["**/*.py"] }).serve turns
    s.heard? t.message = some (.filesChanged [⟨⟨p⟩, true⟩]) ∧
      ∃ e ∈ (s.take t).index.graph.entities.values, e.unit = p := by
  intro p files turns t s
  have hrun : s.phase = .running ∧
      ∃ e ∈ (s.take t).index.graph.entities.values, e.unit = p := by
    decide +kernel
  exact ⟨State.heard?_eq_some_iff.mpr ⟨hrun.1, rfl, rfl⟩, hrun.2⟩

end OrmLens.Server
