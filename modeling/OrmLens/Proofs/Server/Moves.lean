/-
  What a turn comes down to.

  A turn may change one document. After that it makes moves: units are committed or removed, folders
  are removed, and each time what was reported is restored. Which moves those can be is read off
  the message (`State.moves`); a move asked for need not be made, for instance when the text is
  fresh. Besides there are only changes of settings, time and folders, which edit nothing
  (`State.Quiet`). `moves_take` says so, once for all messages.

  A property that the edits of the moves keep, and the edits that restore units, holds after the
  turn (`Moves.preserved`). As a first case, what the cache says is coherent with the graph in every
  state that a server comes to (`coherent_serve`).
-/
import OrmLens.Proofs.Server.Restoration

namespace OrmLens.Server

open Index Model Workspace

/-! ## Moves -/

/-- A change that a message can ask for. -/
inductive Move where
  | committed (unit text : Text)
  | removed (unit : Text)
  | rootRemoved (root : Text)
deriving DecidableEq, Repr

namespace Move

/-- The state after a move, and after what the move gives back. -/
def perform (files : FileTree) (s : State) : Move → State
  | .committed unit text => s.commit files unit text
  | .removed unit =>
    let e := Edit.remove unit
    State.restore { s with index := e.apply s.index } files (e.perform s.index).2
  | .rootRemoved root => s.removeRoot files root

/-- The edits that a move makes itself. -/
def Makes : Move → Edit → Prop
  | .committed unit text, e => e = .commit unit text text
  | .removed unit, e => e = .remove unit
  | .rootRemoved root, e => ∃ unit, isUnder root unit = true ∧ e = .remove unit

end Move

/-- Documents stay, and the index is edited in nothing. -/
def State.Quiet (s t : State) : Prop :=
  t.documents = s.documents ∧ ∃ c : Call, c.edit? s.index = none ∧ t.index = c.apply s.index

theorem State.Quiet.of_same {s t : State} (hdocuments : t.documents = s.documents)
    (hindex : t.index = s.index) : s.Quiet t :=
  ⟨hdocuments, .wait 0, rfl, hindex⟩

/-- The second state comes from the first by moves that are asked for, each any number of times, and
    by quiet changes. -/
inductive Moves (files : FileTree) (asked : List Move) : State → State → Prop
  | refl (s : State) : Moves files asked s s
  | quiet {s t u : State} (first : Moves files asked s t) (hquiet : t.Quiet u) :
    Moves files asked s u
  | move {s t : State} {m : Move} (first : Moves files asked s t) (hasked : m ∈ asked) :
    Moves files asked s (m.perform files t)

/-! ## Moves of a message -/

/-- The moves of an analysis. -/
def analysisMoves (unit text : Text) : List Move :=
  if (UnitPath.ofText unit).isModels then [.committed unit text] else []

/-- The moves of indexing a folder. Which files the patterns select is left open. -/
def folderMoves (files : FileTree) (folder : Text) : List Move :=
  (files.filesBelow folder).filterMap fun file =>
    file.2.map (Move.committed (FileTree.below folder file.1))

/-- The moves of a changed file, given the open documents. -/
def fileMoves (files : FileTree) (documents : Table Text Text) (change : FileChange) :
    List Move :=
  match change.uri.unit? with
  | none => []
  | some unit =>
    if change.deleted then
      if (UnitPath.ofText unit).isModels then [.removed unit] else []
    else if documents.has change.uri.path then []
    else ((files.read? unit).map (analysisMoves unit)).getD []

namespace Notification

/-- The document that a notification brings a text of, if it is one to follow. -/
def edited? : Notification → Option (Uri × Text)
  | .opened uri language text => if State.isFollowed uri language then some (uri, text) else none
  | .changed uri texts => texts.getLast?.map (uri, ·)
  | .saved uri text => text.map (uri, ·)
  | _ => none

/-- The moves that a notification asks for. -/
def moves (files : FileTree) (s : State) : Notification → List Move
  | .ready => (s.workspaces.filter (!s.indexed ·)).flatMap (folderMoves files)
  | .foldersChanged removed added =>
    (removed.filterMap Uri.unit?).map .rootRemoved ++
      (added.filterMap Uri.unit?).flatMap (folderMoves files)
  | .filesChanged changes => changes.flatMap (fileMoves files s.documents)
  | n => (n.edited?.bind fun edit => edit.1.unit?.map (analysisMoves · edit.2)).getD []

end Notification

namespace State

/-- The moves that a turn asks for. -/
def moves (s : State) (t : Turn) : List Move :=
  match s.heard? t.message with
  | some n => n.moves t.files s
  | none => []

/-- The document that a turn brings a text of. -/
def edited? (s : State) (t : Turn) : Option (Uri × Text) :=
  (s.heard? t.message).bind Notification.edited?

end State

namespace Moves

variable {files : FileTree} {asked : List Move} {s t u : State}

theorem trans (h : Moves files asked s t) (h' : Moves files asked t u) :
    Moves files asked s u := by
  induction h' with
  | refl => exact h
  | quiet _ hquiet ih => exact .quiet ih hquiet
  | move _ hasked ih => exact .move ih hasked

theorem of_quiet (h : s.Quiet t) : Moves files asked s t := .quiet (.refl s) h

theorem of_mem {m : Move} (h : m ∈ asked) : Moves files asked s (m.perform files s) :=
  .move (.refl s) h

/-- A loop makes moves if each turn of it does. -/
theorem foldl {α : Type} (step : State → α → State) (xs : List α)
    (h : ∀ t, Moves files asked s t → ∀ x ∈ xs, Moves files asked t (step t x)) :
    Moves files asked s (xs.foldl step s) :=
  List.foldlRecOn (motive := Moves files asked s) xs step (.refl s) fun t ht x hx =>
    ht.trans (h t ht x hx)

end Moves

/-! ## Documents stay -/

theorem stable_true : Stable (fun _ => True) (fun _ => True) :=
  ⟨fun _ _ _ => trivial, fun _ _ _ => trivial, fun _ _ _ _ => ⟨trivial, fun _ _ => trivial⟩⟩

theorem documents_restore (files : FileTree) (s : State) (pending : List Text) :
    (s.restore files pending).documents = s.documents := by
  have hreindexed : Reindexed (fun _ => True) s (s.restore files pending) :=
    stable_true.restore files trivial fun _ _ => trivial
  obtain ⟨index, -, heq⟩ := hreindexed
  rw [heq]

theorem documents_perform (files : FileTree) (s : State) (m : Move) :
    (m.perform files s).documents = s.documents := by
  cases m with
  | committed unit text => exact documents_restore files _ _
  | removed unit => exact documents_restore files _ _
  | rootRemoved root => exact documents_restore files _ _

theorem Moves.documents {files : FileTree} {asked : List Move} {s t : State}
    (h : Moves files asked s t) : t.documents = s.documents := by
  induction h with
  | refl => rfl
  | quiet _ hquiet ih => exact hquiet.1.trans ih
  | move _ _ ih => exact (documents_perform files _ _).trans ih

/-! ## Units and folders -/

namespace Moves

variable {files : FileTree} {asked : List Move} {s : State}

theorem analyze {unit text : Text} (h : analysisMoves unit text ⊆ asked) :
    Moves files asked s (s.analyze files unit text) := by
  unfold State.analyze
  split
  · exact .refl s
  · rename_i hcommit
    have hmodels : (UnitPath.ofText unit).isModels = true := by
      cases hm : (UnitPath.ofText unit).isModels with
      | true => rfl
      | false => simp [hm] at hcommit
    rw [analysisMoves, if_pos hmodels] at h
    exact of_mem (h List.mem_cons_self)

theorem forget {uri : Uri} (h : ∀ unit, uri.unit? = some unit →
    (UnitPath.ofText unit).isModels = true → .removed unit ∈ asked) :
    Moves files asked s (s.forget files uri) := by
  unfold State.forget
  split
  · exact .refl s
  · rename_i unit hunit
    split
    · rename_i hmodels
      exact of_mem (h unit hunit hmodels)
    · exact .refl s

theorem fileChanged {change : FileChange} (h : fileMoves files s.documents change ⊆ asked) :
    Moves files asked s (s.fileChanged files change) := by
  unfold State.fileChanged
  split
  · rename_i hdeleted
    refine forget fun unit hunit hmodels => h ?_
    rw [fileMoves, hunit]
    simp [hdeleted, hmodels]
  · rename_i hdeleted
    split
    · exact .refl s
    · rename_i hopen
      split
      · rename_i unit text hread
        obtain ⟨unit', hunit, hread⟩ := Option.bind_eq_some_iff.mp hread
        obtain ⟨text', hread, hpair⟩ := Option.map_eq_some_iff.mp hread
        cases hpair
        refine analyze (List.Subset.trans ?_ h)
        rw [fileMoves, hunit]
        simp [hdeleted, hopen, hread]
      · exact .refl s

theorem indexRoot {root : Text} (h : s.indexed root = false → folderMoves files root ⊆ asked) :
    Moves files asked s (s.indexRoot files root) := by
  unfold State.indexRoot
  split
  · exact .refl s
  · rename_i hnew
    have hasked := h (by simpa [State.indexed] using hnew)
    have hroots : Moves files asked s { s with roots := addPath s.roots root } :=
      of_quiet (.of_same rfl rfl)
    dsimp only
    split
    · exact hroots
    · refine hroots.trans (foldl _ _ fun t _ unit hunit => ?_)
      split
      · rename_i text htext
        refine of_mem (m := .committed unit.1 text) (hasked ?_)
        obtain ⟨file, hfile, rfl⟩ := List.mem_map.mp hunit
        refine List.mem_filterMap.mpr ⟨file, (List.mem_filter.mp hfile).1, ?_⟩
        rw [show file.2 = some text from htext]
        rfl
      · exact .refl t

theorem indexWorkspaces (h : Notification.ready.moves files s ⊆ asked) :
    Moves files asked s (s.indexWorkspaces files) := by
  refine (List.foldlRecOn
    (motive := fun t : State => Moves files asked s t ∧ s.roots ⊆ t.roots) s.workspaces _
    ⟨.refl s, List.Subset.refl _⟩ fun t ht folder hfolder => ?_).1
  have hnew : t.indexed folder = false → s.indexed folder = false := by
    unfold State.indexed
    rw [List.any_eq_false, List.any_eq_false]
    exact fun hnone root hroot => hnone root (ht.2 hroot)
  refine ⟨ht.1.trans (indexRoot fun hn m hm => h ?_), ?_⟩
  · refine List.mem_flatMap.mpr ⟨folder, List.mem_filter.mpr ⟨hfolder, ?_⟩, hm⟩
    rw [hnew hn]
    rfl
  · exact List.Subset.trans ht.2
      (stable_true.indexRoot files trivial fun _ _ _ => trivial).2

theorem addRoot {root : Text} (h : folderMoves files root ⊆ asked) :
    Moves files asked s (s.addRoot files root) := by
  have hopened : Moves files asked s { s with workspaces := addPath s.workspaces root } :=
    of_quiet (.of_same rfl rfl)
  exact hopened.trans (indexRoot fun _ => h)

/-! ## Settings -/

theorem configure (config : Json) : Moves files asked s (s.configure config) := by
  unfold State.configure
  split
  · rename_i c _
    exact of_quiet ⟨rfl, .configure (s.index.settings.merge c), rfl, rfl⟩
  · exact .refl s

theorem greet (folders : List Uri) (options : Option Json) (capabilities : Capabilities) :
    Moves files asked s (greet s folders options capabilities) := by
  have hfolders : Moves files asked s
      { s with workspaces := (folders.filterMap Uri.unit?).foldl addPath s.workspaces } :=
    of_quiet (.of_same rfl rfl)
  cases options with
  | none => exact hfolders.trans (of_quiet (.of_same rfl rfl))
  | some config =>
    exact (hfolders.trans (configure config)).trans (of_quiet (.of_same rfl rfl))

end Moves

/-! ## Turns -/

/-- A notification that brings a text of a document updates the document. -/
theorem notice_of_edited? {n : Notification} {uri : Uri} {text : Text}
    (h : n.edited? = some (uri, text)) (files : FileTree) (replies : List Json) (s : State) :
    (notice files replies s n).state = s.update files uri text := by
  cases n with
  | opened uri' language text' =>
    unfold Notification.edited? at h
    dsimp only at h
    split at h
    · rename_i hfollowed
      cases h
      exact congrArg Outcome.state (congrArg _ (if_pos hfollowed))
    · cases h
  | changed uri' texts =>
    obtain ⟨text', hlast, hpair⟩ := Option.map_eq_some_iff.mp h
    cases hpair
    unfold notice notice.keep
    dsimp only
    rw [hlast]
  | saved uri' text' =>
    obtain ⟨text'', rfl, hpair⟩ := Option.map_eq_some_iff.mp h
    cases hpair
    rfl
  | _ => cases h

theorem moves_of_edited? {n : Notification} {uri : Uri} {text unit : Text}
    (h : n.edited? = some (uri, text)) (hunit : uri.unit? = some unit) (files : FileTree)
    (s : State) : n.moves files s = analysisMoves unit text := by
  have hmoves : (n.edited?.bind fun edit => edit.1.unit?.map (analysisMoves · edit.2)).getD [] =
      analysisMoves unit text := by
    rw [h, Option.bind_some, hunit]
    rfl
  cases n with
  | opened uri' language text' => exact hmoves
  | changed uri' texts => exact hmoves
  | saved uri' text' => exact hmoves
  | _ => cases h

theorem moves_update {files : FileTree} {asked : List Move} {uri : Uri} {text : Text}
    (h : ∀ unit, uri.unit? = some unit → analysisMoves unit text ⊆ asked) (s : State) :
    Moves files asked { s with documents := (s.update files uri text).documents }
      (s.update files uri text) := by
  unfold State.update
  cases hunit : uri.unit? with
  | none => exact .refl s
  | some unit =>
    let s' := { s with documents := s.documents.insert uri.path text }
    have hmoves : Moves files asked s' (s'.analyze files unit text) := .analyze (h unit hunit)
    dsimp only
    rw [hmoves.documents]
    exact hmoves

theorem moves_notice (files : FileTree) (replies : List Json) (s : State) (n : Notification) :
    Moves files (n.moves files s)
      { s with documents := (notice files replies s n).state.documents }
      (notice files replies s n).state := by
  -- Only a notification that brings a text, or closes a document, changes the documents.
  have hsame {t : State} (h : Moves files (n.moves files s) s t) :
      Moves files (n.moves files s) { s with documents := t.documents } t := by
    rw [h.documents]
    exact h
  cases hedit : n.edited? with
  | some edit =>
    obtain ⟨uri, text⟩ := edit
    rw [notice_of_edited? hedit]
    refine moves_update (fun unit hunit => ?_) s
    rw [moves_of_edited? hedit hunit]
    exact List.Subset.refl _
  | none =>
    cases n with
    | ready => exact hsame (.indexWorkspaces (List.Subset.refl _))
    | opened uri language text =>
      have hother : ¬ State.isFollowed uri language = true := by
        intro hfollowed
        rw [Notification.edited?, if_pos hfollowed] at hedit
        cases hedit
      have hstate : (notice files replies s (.opened uri language text)).state = s :=
        if_neg hother
      rw [hstate]
      exact .refl s
    | changed uri texts =>
      have hnone : texts.getLast? = none := Option.map_eq_none_iff.mp hedit
      have hstate : (notice files replies s (.changed uri texts)).state = s := by
        unfold notice notice.keep
        dsimp only
        rw [hnone]
      rw [hstate]
      exact .refl s
    | saved uri text =>
      obtain rfl : text = none := Option.map_eq_none_iff.mp hedit
      exact .refl s
    | closed uri => exact .refl _
    | settingsChanged settings =>
      apply hsame
      unfold notice
      dsimp only
      split
      · exact .configure settings
      · exact Moves.foldl _ _ fun t _ config _ => .configure config
    | foldersChanged removed added =>
      apply hsame
      refine Moves.trans (t := s.removeRoots files (removed.filterMap Uri.unit?)) ?_ ?_
      · refine Moves.foldl _ _ fun t _ root hroot => ?_
        exact .of_mem (m := .rootRemoved root)
          (List.mem_append_left _ (List.mem_map.mpr ⟨root, hroot, rfl⟩))
      · refine Moves.foldl _ _ fun t _ root hroot => Moves.addRoot fun m hm => ?_
        exact List.mem_append_right _ (List.mem_flatMap.mpr ⟨root, hroot, hm⟩)
    | filesChanged changes =>
      apply hsame
      refine Moves.foldl _ _ fun t ht change hchange => Moves.fileChanged fun m hm => ?_
      rw [ht.documents] at hm
      exact List.mem_flatMap.mpr ⟨change, hchange, hm⟩

/-- A turn changes a document at most, and then makes moves that it asks for. -/
theorem moves_take (s : State) (t : Turn) :
    Moves t.files (s.moves t) { s with documents := (s.take t).documents } (s.take t) := by
  have hwait : Moves t.files (s.moves t) { s with documents := (s.take t).documents }
      { s.wait t.elapsed with documents := (s.take t).documents } :=
    .of_quiet ⟨rfl, .wait t.elapsed, rfl, rfl⟩
  refine hwait.trans ?_
  cases hheard : s.heard? t.message with
  | some n =>
    rw [State.take_of_heard hheard, State.moves, hheard]
    exact moves_notice t.files t.replies (s.wait t.elapsed) n
  | none =>
    have hmoves : Moves t.files (s.moves t) (s.wait t.elapsed) (s.take t) := by
      unfold State.take
      obtain ⟨phase, heq⟩ | ⟨-, folders, options, capabilities, heq⟩ :=
        step_of_unheard (s := s.wait t.elapsed) hheard t.files t.replies
      · rw [heq]
        exact .of_quiet (.of_same rfl rfl)
      · rw [heq]
        exact (Moves.greet folders options capabilities).trans (.of_quiet (.of_same rfl rfl))
    rw [hmoves.documents]
    exact hmoves

/-! ## Properties that moves keep -/

theorem isUnder_of_mem_unitsUnder {s : State} {root u : Text} (h : u ∈ s.unitsUnder root) :
    isUnder root u = true := by
  unfold State.unitsUnder at h
  rw [List.mem_mergeSort, Named.mem_mergeAll_texts, List.mem_filter] at h
  exact h.2

/-- A stable property holds after a move that commits an admitted unit, or none. -/
theorem Stable.perform {admits : Text → Prop} {P : Index.State → Prop} (h : Stable admits P)
    (files : FileTree) {s : State} (hs : P s.index) {m : Move}
    (hmove : ∀ e, m.Makes e → ∀ u, e.Commits u → admits u) : P (m.perform files s).index := by
  cases m with
  | committed unit text => exact (h.commit files hs (hmove _ rfl unit rfl) text).index
  | removed unit => exact (h.restore_edit files hs (.remove unit) fun _ hc => hc.elim).index
  | rootRemoved root => exact h.removeRoot files hs root

/-- A property of an index in order that edits of some kinds keep, and quiet calls too. -/
structure Preserved (kinds : Edit → Prop) (P : Index.State → Prop) : Prop where
  ordered : ∀ i, P i → Ordered i
  quiet : ∀ i (c : Call), c.edit? i = none → P i → P (c.apply i)
  edit : ∀ i (e : Edit), kinds e → P i → P (e.apply i)

namespace Preserved

variable {kinds : Edit → Prop} {P : Index.State → Prop} (h : Preserved kinds P)
include h

theorem restores {text? : Text → Option Text} {seen pending seen' : List Text} {i i' : Index.State}
    (hloop : Restores text? seen pending i seen' i')
    (htexts : ∀ u x, text? u = some x → kinds (.commit u x x)) (hi : P i) : P i' := by
  induction hloop with
  | done => exact hi
  | again _ _ ih => exact ih hi
  | unreadable _ _ _ ih => exact ih hi
  | commit _ htext _ ih => exact ih (h.edit _ _ (htexts _ _ htext) hi)

theorem restore (files : FileTree) {s : State} (hs : P s.index)
    (htexts : ∀ u x, s.textOf? files u = some x → kinds (.commit u x x)) (pending : List Text) :
    P (s.restore files pending).index := by
  obtain ⟨seen, i, hloop, heq⟩ := restores_restore files (h.ordered _ hs) pending
  rw [heq]
  exact h.restores hloop htexts hs

theorem removeUnits {i : Index.State} (hi : P i) {units : List Text}
    (hunits : ∀ u ∈ units, kinds (.remove u)) : P (State.removeUnits i units).1 := by
  induction units generalizing i with
  | nil => exact hi
  | cons unit units ih =>
    exact ih (h.edit i (.remove unit) (hunits unit List.mem_cons_self) hi) fun u hu =>
      hunits u (List.mem_cons_of_mem unit hu)

theorem perform (files : FileTree) {s : State} (hs : P s.index) {m : Move}
    (hmove : ∀ e, m.Makes e → kinds e)
    (htexts : ∀ u x, s.textOf? files u = some x → kinds (.commit u x x)) :
    P (m.perform files s).index := by
  cases m with
  | committed unit text =>
    exact h.restore files (s := { s with index := (Edit.commit unit text text).apply s.index })
      (h.edit _ _ (hmove _ rfl) hs) htexts _
  | removed unit =>
    exact h.restore files (s := { s with index := (Edit.remove unit).apply s.index })
      (h.edit _ _ (hmove _ rfl) hs) htexts _
  | rootRemoved root =>
    have hi : P (State.removeUnits s.index (s.unitsUnder root)).1 :=
      h.removeUnits hs fun u hu => hmove _ ⟨u, isUnder_of_mem_unitsUnder hu, rfl⟩
    unfold Move.perform State.removeRoot
    dsimp only
    refine h.restore files ?_ ?_ _
    · exact hi
    · exact htexts

end Preserved

theorem preserved_ordered : Preserved (fun _ => True) Ordered where
  ordered _ h := h
  quiet i c hc h := by
    obtain ⟨hgraph, hshadowed⟩ := Call.apply_of_edit?_eq_none hc
    constructor
    · rw [hgraph]
      exact h.represented
    · rw [hgraph, hshadowed]
      exact h.settled
  edit _ e _ h := ordered_apply h e

theorem Moves.textOf? {files : FileTree} {asked : List Move} {s t : State}
    (h : Moves files asked s t) : t.textOf? files = s.textOf? files := by
  funext u
  rw [State.textOf?, State.buffer?, h.documents]
  rfl

/-- What the edits of the moves keep, and those that restore units, holds after the moves. -/
theorem Moves.preserved {kinds : Edit → Prop} {P : Index.State → Prop} (h : Preserved kinds P)
    {files : FileTree} {asked : List Move} {s t : State} (hmoves : Moves files asked s t)
    (hasked : ∀ m ∈ asked, ∀ e, m.Makes e → kinds e)
    (htexts : ∀ u x, s.textOf? files u = some x → kinds (.commit u x x)) (hs : P s.index) :
    P t.index := by
  induction hmoves with
  | refl => exact hs
  | quiet _ hquiet ih =>
    obtain ⟨-, c, hc, heq⟩ := hquiet
    rw [heq]
    exact h.quiet _ c hc ih
  | move first hm ih =>
    refine h.perform files ih (hasked _ hm) ?_
    rw [first.textOf?]
    exact htexts

/-! ## Coherence -/

/-- Commits are cached under the text they were made from. -/
theorem Move.Makes.faithful {m : Move} {e : Edit} (h : m.Makes e) : (Call.edit e).Faithful := by
  cases m with
  | committed unit text => cases h; rfl
  | removed unit => cases h; trivial
  | rootRemoved root =>
    obtain ⟨unit, -, rfl⟩ := h
    trivial

theorem ordered_of_coherent {i : Index.State} {o : Ownership} (h : Coherent i o) : Ordered i := by
  refine ⟨⟨o, h.represents⟩, fun n u hu => ?_⟩
  obtain ⟨v, hv, -⟩ := h.settled n u hu
  exact ⟨v, (h.represents.holder?_eq n).trans hv⟩

theorem coherent_quiet {i : Index.State} {o : Ownership} (h : Coherent i o) {c : Call}
    (hc : c.edit? i = none) : Coherent (c.apply i) o := by
  have hfaithful : c.Faithful := by
    cases c with
    | edit e => cases hc
    | _ => trivial
  have hstep := coherent_step h hfaithful
  rw [Ownership.step, hc] at hstep
  exact hstep

theorem preserved_coherent :
    Preserved (fun e => (Call.edit e).Faithful) fun i => ∃ o, Coherent i o where
  ordered _ h := ordered_of_coherent h.choose_spec
  quiet _ _ hc h := ⟨_, coherent_quiet h.choose_spec hc⟩
  edit _ _ he h := ⟨_, coherent_step h.choose_spec he⟩

theorem coherent_take {s : State} (h : ∃ o, Coherent s.index o) (t : Turn) :
    ∃ o, Coherent (s.take t).index o :=
  (moves_take s t).preserved preserved_coherent (fun _ _ _ => Move.Makes.faithful)
    (fun _ _ _ => rfl) h

/-- Every index that a server comes to is coherent. -/
theorem coherent_serve (settings : Settings) (turns : List Turn) :
    ∃ o, Coherent ((State.new settings).serve turns).index o :=
  List.foldlRecOn (motive := fun s : State => ∃ o, Coherent s.index o) turns State.take
    ⟨_, coherent_new settings⟩ fun _ hs t _ => coherent_take hs t

end OrmLens.Server
