/-
  A document that is open counts with the text it has in the editor.

  A text that comes from the editor is committed for the unit of its document, unless it is fresh,
  and then it was committed before. From there on the unit goes with this text
  (`open_document_prevails`): its entities in the graph are those of the text, and a name of the
  text is in the graph as long as no more than one other unit defines it. Other units may take its
  names and give them back, files may change and folders may go: what is restored is the text of
  the document, whatever the file says.

  Two conditions are not the editor's. The document is looked for under the address that its unit
  has when it is written plainly, so it must have been opened under that one. And a folder that is
  indexed brings the texts of its files, also for documents that are open
  (`folder_overrides_open_document`).
-/
import OrmLens.Proofs.Address
import OrmLens.Proofs.Server.DeletedUnit
import OrmLens.Proofs.Server.Rival

namespace OrmLens.Server

open Index Model Workspace

/-! ## Conditions on turns -/

namespace State

/-- Every turn satisfies the condition, in the state in which it is taken. -/
def Always (condition : State → Turn → Prop) (s : State) : List Turn → Prop
  | [] => True
  | t :: turns => condition s t ∧ (s.take t).Always condition turns

instance decidableAlways (condition : State → Turn → Prop) [∀ s, DecidablePred (condition s)]
    (s : State) : (turns : List Turn) → Decidable (s.Always condition turns)
  | [] => isTrue trivial
  | t :: turns =>
    have := decidableAlways condition (s.take t) turns
    inferInstanceAs (Decidable (condition s t ∧ (s.take t).Always condition turns))

theorem Always.and {p q : State → Turn → Prop} {s : State} {turns : List Turn}
    (hp : s.Always p turns) (hq : s.Always q turns) :
    s.Always (fun s t => p s t ∧ q s t) turns := by
  induction turns generalizing s with
  | nil => trivial
  | cons t turns ih => exact ⟨⟨hp.1, hq.1⟩, ih hp.2 hq.2⟩

/-- What turns under a condition keep holds after them. -/
theorem Always.serve {condition : State → Turn → Prop} {P : State → Prop}
    (hstep : ∀ s t, P s → condition s t → P (s.take t)) {s : State} (hs : P s)
    {turns : List Turn} (h : s.Always condition turns) : P (s.serve turns) := by
  induction turns generalizing s with
  | nil => exact hs
  | cons t turns ih => exact ih (hstep s t hs h.1) h.2

end State

/-- The move takes nothing from the unit but to give it the text. -/
def Move.Spares (p text : Text) : Move → Prop
  | .committed unit x => unit = p → x = text
  | .removed unit => unit ≠ p
  | .rootRemoved root => isUnder root p = false

instance (p text : Text) : DecidablePred (Move.Spares p text)
  | .committed unit x => inferInstanceAs (Decidable (unit = p → x = text))
  | .removed unit => inferInstanceAs (Decidable (unit ≠ p))
  | .rootRemoved root => inferInstanceAs (Decidable (isUnder root p = false))

/-- After the turn the document is open with the text, and each move of the turn spares the unit. -/
def State.Respects (uri : Uri) (p text : Text) (s : State) (t : Turn) : Prop :=
  (s.take t).documents.get? uri.path = some text ∧ ∀ m ∈ s.moves t, m.Spares p text

instance (uri : Uri) (p text : Text) (s : State) : DecidablePred (s.Respects uri p text) :=
  fun t => inferInstanceAs (Decidable (_ ∧ ∀ m ∈ s.moves t, m.Spares p text))

/-- The unit that a move commits, and its text. -/
def Move.commit? : Move → Option (Text × Text)
  | .committed unit text => some (unit, text)
  | _ => none

namespace State

/-- The units that a turn may commit: those that its moves bring, and those of the index, which may
    be restored. -/
def reach (s : State) (t : Turn) : List Text :=
  s.index.graph.entities.values.map (·.unit) ++ s.index.shadowed.values ++
    ((s.moves t).filterMap Move.commit?).map Prod.fst

/-- The units that a turn may commit, with the texts that it may commit them with. -/
def offers (s : State) (t : Turn) : List (Text × Text) :=
  (s.moves t).filterMap Move.commit? ++
    (s.reach t).filterMap fun u => ((s.take t).textOf? t.files u).map (u, ·)

/-- Nobody but these units can take the name in the turn. -/
def LeavesTo (units : List Text) (n : Text) (s : State) (t : Turn) : Prop :=
  ∀ offer ∈ s.offers t, n ∈ (Schema.extract offer.1 offer.2).names → offer.1 ∈ units

instance (units : List Text) (n : Text) (s : State) : DecidablePred (s.LeavesTo units n) :=
  fun t => inferInstanceAs (Decidable (∀ offer ∈ s.offers t, _ → offer.1 ∈ units))

end State

/-! ## The text of a unit -/

/-- The edit takes nothing from the unit but to give it the text. -/
def Respectful (p text : Text) : Edit → Prop
  | .commit unit x _ => unit = p → x = text
  | .remove unit => unit ≠ p

theorem Move.Spares.respectful {p text : Text} {m : Move} (h : m.Spares p text) {e : Edit}
    (he : m.Makes e) : Respectful p text e := by
  cases m with
  | committed unit x => cases he; exact h
  | removed unit => cases he; exact h
  | rootRemoved root =>
    obtain ⟨unit, hunder, rfl⟩ := he
    rintro rfl
    rw [show isUnder root unit = false from h] at hunder
    cases hunder

/-- The unit was last committed with the text, and it was not removed since. -/
def Latest (p text : Text) (i : Index.State) : Prop :=
  ∃ o, Coherent i o ∧ o.latest p = some (Schema.extract p text)

theorem latest_apply {o : Ownership} {p text : Text}
    (h : o.latest p = some (Schema.extract p text)) {e : Edit} (he : Respectful p text e) :
    (o.apply e).latest p = some (Schema.extract p text) := by
  cases e with
  | commit unit x content =>
    show (if p = (Schema.extract unit x).path then some (Schema.extract unit x)
      else o.latest p) = _
    split
    · rename_i hp
      have hunit : unit = p := hp.symm
      rw [he hunit, hunit]
    · exact h
  | remove unit => exact (if_neg (Ne.symm he)).trans h

theorem preserved_latest (p text : Text) :
    Preserved (fun e => (Call.edit e).Faithful ∧ Respectful p text e) (Latest p text) where
  ordered i h := by
    obtain ⟨o, ho, -⟩ := h
    exact ordered_of_coherent ho
  quiet i c hc h := by
    obtain ⟨o, ho, hlatest⟩ := h
    exact ⟨o, coherent_quiet ho hc, hlatest⟩
  edit i e he h := by
    obtain ⟨o, ho, hlatest⟩ := h
    exact ⟨o.apply e, coherent_step ho (c := .edit e) he.1, latest_apply hlatest he.2⟩

/-- The entities of the unit are those of the text, without what relations put on them. -/
theorem Latest.entity? {p text : Text} {i : Index.State} (h : Latest p text i) {e : Entity}
    (he : e ∈ i.graph.entities.values) (hp : e.unit = p) :
    (Schema.extract p text).entity? e.name = some e.withoutReverse := by
  obtain ⟨o, ho, hlatest⟩ := h
  obtain ⟨n, hn⟩ := (Table.mem_values_iff _ e).mp he
  obtain ⟨rfl, -, schema, hschema, hentity⟩ := ho.represents.exists_schema hn
  rw [hp, hlatest] at hschema
  cases hschema
  exact hentity

/-! ## A text from the editor -/

/-- The unit was last committed with the text, and has all its names. -/
def Owned (p text : Text) (i : Index.State) : Prop :=
  ∃ o, Coherent i o ∧ o.Owns (Schema.extract p text)

theorem Owned.latest {p text : Text} {i : Index.State} (h : Owned p text i) : Latest p text i := by
  obtain ⟨o, ho, howns⟩ := h
  exact ⟨o, ho, howns.1⟩

theorem Owned.holder? {p text n : Text} {i : Index.State} (h : Owned p text i)
    (hn : n ∈ (Schema.extract p text).names) : i.graph.holder? n = some p := by
  obtain ⟨o, ho, howns⟩ := h
  exact (ho.represents.holder?_eq n).trans (howns.2 n hn)

/-- An analysis leaves the unit with all names of its text, up to what is restored then, and brings
    no unit besides. -/
theorem exists_restore_analyze (files : FileTree) {s : State} (h : ∃ o, Coherent s.index o)
    {p : Text} (hmodels : (UnitPath.ofText p).isModels = true) (text : Text) :
    ∃ i pending, Owned p text i ∧
      (∀ admits, Confined admits s.index → admits p →
        Confined admits i ∧ ∀ u ∈ pending, admits u) ∧
      s.analyze files p text = State.restore { s with index := i } files pending := by
  obtain ⟨o, ho⟩ := h
  unfold State.analyze
  rw [hmodels]
  cases hfresh : s.index.isFresh p text with
  | true =>
    obtain ⟨entry, hentry, rfl⟩ := Option.map_eq_some_iff.mp (cached_of_isFresh hfresh)
    refine ⟨s.index, [], ⟨o, ho, ho.cached p entry hentry⟩, ?_, ?_⟩
    · exact fun admits hs _ => ⟨hs, fun u hu => absurd hu List.not_mem_nil⟩
    · unfold State.restore
      cases s.restorable [] <;> rfl
  | false =>
    refine ⟨_, _, ⟨_, coherent_commit ho p text, Ownership.owns_commit_self o _⟩, ?_, rfl⟩
    exact fun admits hs hp => (stable_confined admits).edit _ _ hs fun u hu => hu ▸ hp

/-- A text from the editor leaves the unit with all its names and the document with the text, up to
    what is restored then, and brings no unit besides. -/
theorem exists_restore_take {s : State} (h : ∃ o, Coherent s.index o) {t : Turn} {uri : Uri}
    {p text : Text} (hedited : s.edited? t = some (uri, text)) (hunit : uri.unit? = some p)
    (hmodels : (UnitPath.ofText p).isModels = true) :
    ∃ (s' : State) (pending : List Text), Owned p text s'.index ∧
      (∀ admits, Confined admits s.index → admits p →
        Confined admits s'.index ∧ ∀ u ∈ pending, admits u) ∧
      s'.documents.get? uri.path = some text ∧ s.take t = s'.restore t.files pending := by
  obtain ⟨n, hheard, hedited⟩ := Option.bind_eq_some_iff.mp hedited
  let s' : State := { s.wait t.elapsed with documents := s.documents.insert uri.path text }
  have hcoherent : ∃ o, Coherent s'.index o := by
    obtain ⟨o, ho⟩ := h
    exact ⟨o, coherent_quiet (c := .wait t.elapsed) ho rfl⟩
  obtain ⟨i, pending, howned, hconfined, hanalyze⟩ :=
    exists_restore_analyze t.files hcoherent hmodels text
  refine ⟨{ s' with index := i }, pending, howned, ?_, ?_, ?_⟩
  · exact fun admits hs hp => hconfined admits ((stable_confined admits).wait _ _ hs) hp
  · exact (Table.get?_insert s.documents uri.path uri.path text).trans (if_pos rfl)
  · rw [← hanalyze, State.take_of_heard hheard, notice_of_edited? hedited, State.update, hunit]
    rfl

/-! ## Turns -/

/-- Only the moves that commit a unit make edits that do. -/
theorem Move.Makes.of_commits {m : Move} {e : Edit} (he : m.Makes e) {u : Text}
    (hu : e.Commits u) : ∃ x, m = .committed u x ∧ e = .commit u x x := by
  cases m with
  | committed unit x =>
    cases he
    obtain rfl : unit = u := hu
    exact ⟨x, rfl, rfl⟩
  | removed unit => cases he; exact hu.elim
  | rootRemoved root =>
    obtain ⟨unit, -, rfl⟩ := he
    exact hu.elim

/-- An edit that respects the unit is fair to a name of its text. -/
theorem Respectful.fair {p text n rival : Text} (hn : n ∈ (Schema.extract p text).names)
    {e : Edit} (he : Respectful p text e) (hleft : n ∈ e.names → e.path ∈ [p, rival]) :
    Fair n p rival e := by
  refine ⟨fun hnames => by simpa using hleft hnames, fun hpath => ?_⟩
  cases e with
  | commit unit x content =>
    have hpath : unit = p := hpath
    rw [Edit.names, he hpath, hpath]
    exact hn
  | remove unit => exact absurd hpath he

theorem confined_reach {s : State} (h : Ordered s.index) (t : Turn) :
    Confined (· ∈ s.reach t) s.index := by
  refine ⟨h, fun n u hu => ?_, fun n u hu => ?_⟩
  · obtain ⟨e, he, rfl⟩ := Option.map_eq_some_iff.mp hu
    refine List.mem_append_left _ (List.mem_append_left _ (List.mem_map.mpr ⟨e, ?_, rfl⟩))
    exact (Table.mem_values_iff _ e).mpr ⟨n, he⟩
  · exact List.mem_append_left _
      (List.mem_append_right _ ((Table.mem_values_iff _ u).mpr ⟨n, hu⟩))

theorem mem_offers_of_moves {s : State} {t : Turn} {u x : Text}
    (h : .committed u x ∈ s.moves t) : (u, x) ∈ s.offers t ∧ u ∈ s.reach t := by
  have hmem : (u, x) ∈ (s.moves t).filterMap Move.commit? := List.mem_filterMap.mpr ⟨_, h, rfl⟩
  exact ⟨List.mem_append_left _ hmem, List.mem_append_right _ (List.mem_map.mpr ⟨_, hmem, rfl⟩)⟩

theorem mem_offers_of_reach {s : State} {t : Turn} {u x : Text} (hu : u ∈ s.reach t)
    (hx : (s.take t).textOf? t.files u = some x) : (u, x) ∈ s.offers t := by
  refine List.mem_append_right _ (List.mem_filterMap.mpr ⟨u, hu, ?_⟩)
  rw [hx]
  rfl

section Turns

variable {uri : Uri} {p text : Text} (haddress : Uri.ofUnit? p = some uri)
include haddress

theorem textOf?_of_open {s : State} (h : s.documents.get? uri.path = some text)
    (files : FileTree) : s.textOf? files p = some text := by
  rw [State.textOf?, State.buffer?, haddress, Option.bind_some, h]
  rfl

/-- What is restored while the document is open respects its unit. -/
theorem respectful_of_open {s : State} (h : s.documents.get? uri.path = some text)
    {files : FileTree} {u x : Text} (hx : s.textOf? files u = some x) :
    Respectful p text (.commit u x x) := by
  rintro rfl
  exact Option.some.inj (hx.symm.trans (textOf?_of_open haddress h files))

theorem latest_take {s : State} {t : Turn} (ht : s.Respects uri p text t)
    (h : Latest p text s.index) : Latest p text (s.take t).index := by
  refine (moves_take s t).preserved (preserved_latest p text) ?_ ?_ h
  · exact fun m hm e he => ⟨he.faithful, (ht.2 m hm).respectful he⟩
  · exact fun u x hx => ⟨rfl, respectful_of_open haddress ht.1 hx⟩

theorem held_take {n rival : Text} (hn : n ∈ (Schema.extract p text).names) {s : State} {t : Turn}
    (ht : s.Respects uri p text t) (hleft : s.LeavesTo [p, rival] n t) (hs : Ordered s.index)
    (h : Held n p rival s.index) : Held n p rival (s.take t).index := by
  have hconfined := confined_reach hs t
  refine (moves_take s t).held (fun u x hu hx => ?_) ?_ (fun m hm e he u hu => ?_)
    (fun m hm e he => ?_) hconfined h
  · exact (respectful_of_open haddress ht.1 hx).fair hn (hleft _ (mem_offers_of_reach hu hx))
  · exact Option.isSome_of_eq_some (textOf?_of_open haddress ht.1 t.files)
  · obtain ⟨x, rfl, -⟩ := he.of_commits hu
    exact (mem_offers_of_moves hm).2
  · refine ((ht.2 m hm).respectful he).fair hn fun hnames => ?_
    obtain ⟨x, rfl, heq⟩ := he.of_commits (e.commits_of_mem_names hnames)
    generalize e.path = u at hm heq ⊢
    subst heq
    exact hleft (u, x) (mem_offers_of_moves hm).1 hnames

/-- After a text from the editor the unit goes with it. -/
theorem edited_take {s : State} (hs : ∃ o, Coherent s.index o) {t : Turn}
    (hmodels : (UnitPath.ofText p).isModels = true) (hedited : s.edited? t = some (uri, text)) :
    Latest p text (s.take t).index ∧ ∀ n ∈ (Schema.extract p text).names, ∀ rival,
      s.LeavesTo [p, rival] n t → Held n p rival (s.take t).index := by
  have hunit := Uri.unit?_of_ofUnit? haddress
  obtain ⟨s', pending, howned, hconfined, hopen, htake⟩ :=
    exists_restore_take hs hedited hunit hmodels
  have htexts : (s.take t).textOf? t.files = s'.textOf? t.files := by
    rw [htake]
    funext u
    rw [State.textOf?, State.buffer?, documents_restore]
    rfl
  constructor
  · rw [htake]
    exact (preserved_latest p text).restore t.files howned.latest
      (fun u x hx => ⟨rfl, respectful_of_open haddress hopen hx⟩) pending
  · intro n hn rival hleft
    have hp : p ∈ s.reach t := by
      refine (mem_offers_of_moves (x := text) ?_).2
      obtain ⟨notification, hheard, hedited⟩ := Option.bind_eq_some_iff.mp hedited
      rw [State.moves, hheard]
      dsimp only
      rw [moves_of_edited? hedited hunit, analysisMoves, if_pos hmodels]
      exact List.mem_cons_self
    have hordered := ordered_of_coherent hs.choose_spec
    obtain ⟨hs', hpending⟩ := hconfined (· ∈ s.reach t) (confined_reach hordered t) hp
    rw [htake]
    refine held_restore (fun u x hu hx => ?_) ?_ hs' hpending
      (Or.inl (Or.inl (howned.holder? hn)))
    · refine (respectful_of_open haddress hopen hx).fair hn (hleft _ (mem_offers_of_reach hu ?_))
      rw [htexts]
      exact hx
    · exact Option.isSome_of_eq_some (textOf?_of_open haddress hopen t.files)

end Turns

/-! ## Runs -/

/-- **An open document prevails.** In any state that a server comes to, a message brings a text of a
    document, which is a unit of models under its plain address. As long as the document stays open
    with this text, and nobody removes the unit or its folder or brings another text for it, the
    entities of the unit in the graph are those of the text; and a name of the text is in the graph,
    if all texts that define it and that a turn may commit belong to the unit and one other. -/
theorem open_document_prevails (settings : Settings) (before later : List Turn) (t : Turn)
    (uri : Uri) (p text : Text) (haddress : Uri.ofUnit? p = some uri)
    (hmodels : (UnitPath.ofText p).isModels = true)
    (hedited : ((State.new settings).serve before).edited? t = some (uri, text))
    (hrespected : (((State.new settings).serve before).take t).Always
      (State.Respects uri p text) later) :
    let s := (State.new settings).serve (before ++ t :: later)
    (∀ e ∈ s.index.graph.entities.values, e.unit = p →
      (Schema.extract p text).entity? e.name = some e.withoutReverse) ∧
    ∀ n ∈ (Schema.extract p text).names, ∀ rival,
      ((State.new settings).serve before).Always (State.LeavesTo [p, rival] n) (t :: later) →
        (s.index.graph.entity? n).isSome = true := by
  intro s
  have hserve : s = (((State.new settings).serve before).take t).serve later :=
    State.serve_append _ before (t :: later)
  obtain ⟨hlatest, hheld⟩ :=
    edited_take haddress (coherent_serve settings before) hmodels hedited
  constructor
  · intro e he hp
    have hlater : Latest p text s.index := by
      rw [hserve]
      exact hrespected.serve (P := fun s => Latest p text s.index)
        (fun _ _ h ht => latest_take haddress ht h) hlatest
    exact hlater.entity? he hp
  · intro n hn rival hleft
    have hlater : Ordered s.index ∧ Held n p rival s.index := by
      rw [hserve]
      refine (hrespected.and hleft.2).serve
        (P := fun s => Ordered s.index ∧ Held n p rival s.index) ?_ ?_
      · rintro s' t' ⟨hs, h⟩ ⟨ht, hl⟩
        exact ⟨stable_ordered.take hs fun _ _ => trivial, held_take haddress hn ht hl hs h⟩
      · exact ⟨(preserved_latest p text).ordered _ hlatest, hheld n hn rival hleft.1⟩
    rw [← Option.isSome_map (f := fun e : Entity => e.unit)]
    show (s.index.graph.holder? n).isSome = true
    rcases hlater.2 with hholder | ⟨hholder, -⟩
    · rw [hholder]
      rfl
    · rw [hholder]
      rfl

/-- The file of an open document has another text, and a change of the file is reported. Another
    unit takes a name of the document and gives it up again. The document prevails throughout. -/
theorem open_document_prevails_over_rival :
    let p : Text := "/w/a/models.py"
    let text : Text := "class N(Model):\nclass M(Model):\n"
    let files := FileTree.write {} p (some "class B(Model):\n")
    let t := Turn.opened files "file:///w/a/models.py" text
    let later := [.created files "file:///w/a/models.py",
      .opened files "file:///w/b/models.py" "class N(Model):\n",
      .changed files "file:///w/b/models.py" ""]
    (∀ e ∈ ((State.new {}).serve ([.greeting] ++ t :: later)).index.graph.entities.values,
      e.unit = p → (Schema.extract p text).entity? e.name = some e.withoutReverse) ∧
    (((State.new {}).serve ([.greeting] ++ t :: later)).index.graph.entity? "N").isSome = true := by
  intro p text files t later
  have haddress : Uri.ofUnit? p = some ⟨p⟩ ∧ (UnitPath.ofText p).isModels = true := by
    decide +kernel
  have hedited : ((State.new {}).serve [.greeting]).edited? t = some (⟨p⟩, text) := by
    decide +kernel
  have hrespected : (((State.new {}).serve [.greeting]).take t).Always
      (State.Respects ⟨p⟩ p text) later := by
    decide +kernel
  have hleft : ((State.new {}).serve [.greeting]).Always
      (State.LeavesTo [p, "/w/b/models.py"] "N") (t :: later) := by
    decide +kernel
  have hnames : ("N" : Text) ∈ (Schema.extract p text).names := by
    decide +kernel
  obtain ⟨hentities, hpresent⟩ := open_document_prevails {} [.greeting] later t ⟨p⟩ p text
    haddress.1 haddress.2 hedited hrespected
  exact ⟨hentities, hpresent "N" hnames "/w/b/models.py" hleft⟩

/-- A folder is added after one of its files was opened with another text. The graph has what the
    file says. -/
theorem folder_overrides_open_document :
    let p : Text := "/w/models.py"
    let text : Text := "class A(Model):\n"
    let files := FileTree.write {} p (some "class B(Model):\n")
    let s := (State.new {}).serve [.greeting, .opened files "file:///w/models.py" text,
      .folderAdded files "file:///w"]
    s.buffer? p = some text ∧ (UnitPath.ofText p).isModels = true ∧
      ("A" : Text) ∈ (Schema.extract p text).names ∧ s.index.graph.entity? "A" = none ∧
      ∃ e ∈ s.index.graph.entities.values, e.unit = p ∧
        (Schema.extract p text).entity? e.name = none := by
  decide +kernel

end OrmLens.Server
