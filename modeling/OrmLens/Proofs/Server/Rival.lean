/-
  A name that a unit shares with one rival.

  Of the units that have lost a name only the last is on record. While at most one other unit
  defines the name, that is enough: the unit holds it, or the rival does and the loss of the unit is
  on record (`Held`). An edit keeps this or reports the unit, and a unit that is reported and has a
  text is restored (`Moves.held`).

  In the loop that restores units the rival may give the name up after the unit has had its turn.
  But then the rival has had its turn too, and each has only one (`Awaited`).
-/
import OrmLens.Proofs.Server.Moves

namespace OrmLens.Server

open Index Model Workspace

/-- The unit holds the name, or its rival does and the loss is on record. -/
def Held (n unit rival : Text) (i : Index.State) : Prop :=
  i.graph.holder? n = some unit ∨
    i.graph.holder? n = some rival ∧ i.shadowed.get? n = some unit

/-- Nobody but the unit and its rival takes the name by the edit, and the unit does if the edit is
    its own. -/
structure Fair (n unit rival : Text) (e : Edit) : Prop where
  among : n ∈ e.names → e.path = unit ∨ e.path = rival
  own : e.path = unit → n ∈ e.names

variable {n unit rival : Text}

/-! ## Edits -/

section Edits

variable {i : Index.State} {e : Edit}

theorem record_apply {u v : Text} (hholder : (e.apply i).graph.holder? n = some v)
    (hlost : (e.write i).shadowed.get? n = some u) (hne : v ≠ u) :
    (e.apply i).shadowed.get? n = some u := by
  rw [Edit.shadowed_apply, hlost, ← Edit.graph_apply, hholder]
  simp [hne]

variable (hi : Ordered i) (he : Fair n unit rival e)
include hi he

theorem holder?_apply_own (hpath : e.path = unit) :
    (e.apply i).graph.holder? n = some unit := by
  rw [holder?_apply hi, if_pos (he.own hpath), hpath]

theorem holder?_apply_of_holds (h : i.graph.holder? n = some unit) :
    (e.apply i).graph.holder? n = some unit ∨
      e.path = rival ∧ (e.apply i).graph.holder? n = some rival ∧
        (e.apply i).shadowed.get? n = some unit := by
  by_cases hpath : e.path = unit
  · exact Or.inl (holder?_apply_own hi he hpath)
  by_cases hn : n ∈ e.names
  · have hrival : e.path = rival := (he.among hn).resolve_left hpath
    have hholder : (e.apply i).graph.holder? n = some rival := by
      rw [holder?_apply hi, if_pos hn, hrival]
    obtain ⟨o, ho⟩ := hi.represented
    have hlost : (e.write i).shadowed.get? n = some unit := by
      rw [e.shadowed_write ho.keyed, if_pos hn,
        (Graph.loser?_eq_some_iff _ _ _ _).mpr ⟨h, Ne.symm hpath⟩]
      rfl
    exact Or.inr ⟨hrival, hholder, record_apply hholder hlost (hrival ▸ hpath)⟩
  · left
    rw [holder?_apply hi, if_neg hn, h, Ownership.filter_ne_of_ne_some]
    exact fun hsame => hpath (Option.some.inj hsame).symm

theorem record_apply_of_lost (hholder : i.graph.holder? n = some rival)
    (hlost : i.shadowed.get? n = some unit) (hne : rival ≠ unit) (hpath : e.path ≠ unit) :
    ((e.apply i).graph.holder? n = some rival ∧ (e.apply i).shadowed.get? n = some unit) ∨
      e.path = rival ∧ unit ∈ (e.perform i).2 := by
  obtain ⟨o, ho⟩ := hi.represented
  have hwritten : (e.write i).shadowed.get? n = some unit := by
    rw [e.shadowed_write ho.keyed]
    split
    · rename_i hn
      -- The rival takes a name that it holds, so nobody loses it.
      have hnone : i.graph.loser? e.path n = none := by
        rw [Graph.loser?, hholder, (he.among hn).resolve_left hpath]
        simp
      rw [hnone, hlost]
      rfl
    · exact hlost
  by_cases hn : n ∈ e.names
  · left
    have hholder' : (e.apply i).graph.holder? n = some rival := by
      rw [holder?_apply hi, if_pos hn, (he.among hn).resolve_left hpath]
    exact ⟨hholder', record_apply hholder' hwritten hne⟩
  · by_cases hrival : e.path = rival
    · right
      refine ⟨hrival, ?_⟩
      rw [Edit.perform_eq]
      refine (State.mem_orphans_iff _ unit).mpr ⟨n, hwritten, ?_⟩
      rw [← Edit.graph_apply, holder?_apply hi, if_neg hn, hholder, hrival]
      simp
    · left
      have hholder' : (e.apply i).graph.holder? n = some rival := by
        rw [holder?_apply hi, if_neg hn, hholder, Ownership.filter_ne_of_ne_some]
        exact fun hsame => hrival (Option.some.inj hsame).symm
      exact ⟨hholder', record_apply hholder' hwritten hne⟩

/-- The name goes on being held, or the unit is reported. -/
theorem held_apply (h : Held n unit rival i) :
    Held n unit rival (e.apply i) ∨ unit ∈ (e.perform i).2 := by
  by_cases hpath : e.path = unit
  · exact Or.inl (Or.inl (holder?_apply_own hi he hpath))
  by_cases hholds : i.graph.holder? n = some unit
  · exact Or.inl ((holder?_apply_of_holds hi he hholds).imp_right And.right)
  · obtain ⟨hholder, hlost⟩ := h.resolve_left hholds
    have hne : rival ≠ unit := fun hsame => hholds (hsame ▸ hholder)
    rcases record_apply_of_lost hi he hholder hlost hne hpath with hkept | ⟨-, hreported⟩
    · exact Or.inl (Or.inr hkept)
    · exact Or.inr hreported

end Edits

/-! ## Restoring -/

/-- At a turn of the loop the unit holds the name, or it has lost the name to the rival and will be
    reported before its turn is over, or it is to come. -/
inductive Awaited (n unit rival : Text) (seen pending : List Text) (i : Index.State) : Prop
  | holds (hholder : i.graph.holder? n = some unit)
  | lost (hholder : i.graph.holder? n = some rival) (hlost : i.shadowed.get? n = some unit)
    (hturn : unit ∈ seen → rival ∈ seen)
  | comes (hpending : unit ∈ pending) (hnew : unit ∉ seen)

theorem Awaited.commit {seen pending : List Text} {i : Index.State} {u x : Text}
    (h : Awaited n unit rival seen (u :: pending) i) (hi : Ordered i) (hnew : u ∉ seen)
    (he : Fair n unit rival (.commit u x x)) :
    Awaited n unit rival (u :: seen) (((Edit.commit u x x).perform i).2.reverse ++ pending)
      ((Edit.commit u x x).apply i) := by
  by_cases hu : u = unit
  · exact .holds (holder?_apply_own hi he hu)
  have hunseen : unit ∉ seen → unit ∉ u :: seen :=
    List.not_mem_cons_of_ne_of_not_mem (Ne.symm hu)
  have hholds (hholder : i.graph.holder? n = some unit) :
      Awaited n unit rival (u :: seen) (((Edit.commit u x x).perform i).2.reverse ++ pending)
        ((Edit.commit u x x).apply i) := by
    rcases holder?_apply_of_holds hi he hholder with hsame | ⟨hrival, htaken, hlost⟩
    · exact .holds hsame
    · exact .lost htaken hlost fun _ => List.mem_cons.mpr (Or.inl hrival.symm)
  cases h with
  | holds hholder => exact hholds hholder
  | lost hholder hlost hturn =>
    by_cases hne : rival = unit
    · exact hholds (hne ▸ hholder)
    rcases record_apply_of_lost hi he hholder hlost hne hu with ⟨hkept, hlost'⟩ | ⟨hrival, hcomes⟩
    · refine .lost hkept hlost' fun hseen => List.mem_cons_of_mem u (hturn ?_)
      exact (List.mem_cons.mp hseen).resolve_left (Ne.symm hu)
    · -- The rival is having its turn, so the unit has not had one.
      have hrival : u = rival := hrival
      refine .comes (List.mem_append_left _ (List.mem_reverse.mpr hcomes)) (hunseen fun hseen => ?_)
      exact hnew (hrival ▸ hturn hseen)
  | comes hpending hfirst =>
    refine .comes (List.mem_append_right _ ?_) (hunseen hfirst)
    exact (List.mem_cons.mp hpending).resolve_left (Ne.symm hu)

theorem Restores.held {admits : Text → Prop} {text? : Text → Option Text}
    {seen pending seen' : List Text} {i i' : Index.State}
    (hloop : Restores text? seen pending i seen' i')
    (hfair : ∀ u x, admits u → text? u = some x → Fair n unit rival (.commit u x x))
    (htext : (text? unit).isSome = true) (hi : Confined admits i) (hp : ∀ u ∈ pending, admits u)
    (h : Awaited n unit rival seen pending i) : Held n unit rival i' := by
  induction hloop with
  | done =>
    cases h with
    | holds hholder => exact Or.inl hholder
    | lost hholder hlost _ => exact Or.inr ⟨hholder, hlost⟩
    | comes hpending _ => cases hpending
  | again hseen _ ih =>
    refine ih hi (fun v hv => hp v (List.mem_cons_of_mem _ hv)) ?_
    cases h with
    | holds hholder => exact .holds hholder
    | lost hholder hlost hturn => exact .lost hholder hlost hturn
    | comes hpending hnew =>
      refine .comes ((List.mem_cons.mp hpending).resolve_left ?_) hnew
      rintro rfl
      exact hnew hseen
  | @unreadable _ _ _ _ _ u _ hnone _ ih =>
    have hu : unit ≠ u := by
      rintro rfl
      rw [hnone] at htext
      cases htext
    refine ih hi (fun v hv => hp v (List.mem_cons_of_mem _ hv)) ?_
    cases h with
    | holds hholder => exact .holds hholder
    | lost hholder hlost hturn =>
      exact .lost hholder hlost fun hseen =>
        List.mem_cons_of_mem u (hturn ((List.mem_cons.mp hseen).resolve_left hu))
    | comes hpending hnew =>
      exact .comes ((List.mem_cons.mp hpending).resolve_left hu)
        (List.not_mem_cons_of_ne_of_not_mem hu hnew)
  | @commit _ pending _ i _ u x hnew hx _ ih =>
    have hu : admits u := hp u List.mem_cons_self
    obtain ⟨hi', ho⟩ := (stable_confined admits).edit i (.commit u x x) hi fun v hv => hv ▸ hu
    refine ih hi' (fun v hv => ?_) (h.commit hi.ordered hnew (hfair u x hu hx))
    rcases List.mem_append.mp hv with hv | hv
    · exact ho v (List.mem_reverse.mp hv)
    · exact hp v (List.mem_cons_of_mem u hv)

/-! ## Moves -/

theorem held_removeUnits {i : Index.State} (hi : Ordered i) (h : Held n unit rival i)
    {units : List Text} (hunits : ∀ u ∈ units, Fair n unit rival (.remove u)) :
    Held n unit rival (State.removeUnits i units).1 ∨ unit ∈ (State.removeUnits i units).2 := by
  induction units generalizing i with
  | nil => exact Or.inl h
  | cons u units ih =>
    rcases held_apply hi (hunits u List.mem_cons_self) h with hheld | hreported
    · have hrest := ih (ordered_apply hi _) hheld fun v hv => hunits v (List.mem_cons_of_mem u hv)
      exact hrest.imp_right (List.mem_append_right _)
    · exact Or.inr (List.mem_append_left _ hreported)

section Moves

variable {admits : Text → Prop} {files : FileTree} {s : State}
  (hfair : ∀ u x, admits u → s.textOf? files u = some x → Fair n unit rival (.commit u x x))
  (htext : (s.textOf? files unit).isSome = true)
include hfair htext

theorem held_restore (hs : Confined admits s.index) {pending : List Text}
    (hp : ∀ u ∈ pending, admits u) (h : Held n unit rival s.index ∨ unit ∈ pending) :
    Held n unit rival (s.restore files pending).index := by
  obtain ⟨seen, i, hloop, heq⟩ := restores_restore files hs.ordered pending
  rw [heq]
  refine hloop.held hfair htext hs (fun u hu => hp u (List.mem_reverse.mp hu)) ?_
  rcases h with (hholder | ⟨hholder, hlost⟩) | hpending
  · exact .holds hholder
  · exact .lost hholder hlost fun hseen => absurd hseen List.not_mem_nil
  · exact .comes (List.mem_reverse.mpr hpending) List.not_mem_nil

theorem held_restore_edit (hs : Confined admits s.index) (h : Held n unit rival s.index) {e : Edit}
    (hadmits : ∀ u, e.Commits u → admits u) (he : Fair n unit rival e) :
    Held n unit rival
      (State.restore { s with index := e.apply s.index } files (e.perform s.index).2).index := by
  obtain ⟨hi, ho⟩ := (stable_confined admits).edit s.index e hs hadmits
  exact held_restore (s := { s with index := e.apply s.index }) hfair htext hi ho
    (held_apply hs.ordered he h)

theorem held_perform (hs : Confined admits s.index) (h : Held n unit rival s.index) {m : Move}
    (hadmits : ∀ e, m.Makes e → ∀ u, e.Commits u → admits u)
    (hmove : ∀ e, m.Makes e → Fair n unit rival e) :
    Held n unit rival (m.perform files s).index := by
  cases m with
  | committed u x =>
    let e := Edit.commit u x x
    exact held_restore_edit (e := e) hfair htext hs h (hadmits e rfl) (hmove e rfl)
  | removed u =>
    let e := Edit.remove u
    exact held_restore_edit (e := e) hfair htext hs h (hadmits e rfl) (hmove e rfl)
  | rootRemoved root =>
    have houtside : isUnder root unit = false := by
      rw [← Bool.not_eq_true]
      intro hunder
      exact absurd ((hmove _ ⟨unit, hunder, rfl⟩).own rfl) List.not_mem_nil
    have hunits : ∀ u ∈ s.unitsUnder root, Fair n unit rival (.remove u) := fun u hu =>
      hmove _ ⟨u, isUnder_of_mem_unitsUnder hu, rfl⟩
    obtain ⟨hi, ho⟩ := (stable_confined admits).removeUnits hs (s.unitsUnder root)
    have hheld := held_removeUnits hs.ordered h hunits
    unfold Move.perform State.removeRoot
    dsimp only
    refine held_restore ?_ ?_ ?_ (fun u hu => ho u (List.mem_filter.mp hu).1) ?_
    · exact hfair
    · exact htext
    · exact hi
    · refine hheld.imp_right fun hreported => List.mem_filter.mpr ⟨hreported, ?_⟩
      rw [houtside]
      rfl

/-- The name goes on being held through moves that leave it to the unit and its rival. -/
theorem Moves.held {asked : List Move} {t : State} (hmoves : Moves files asked s t)
    (hadmits : ∀ m ∈ asked, ∀ e, m.Makes e → ∀ u, e.Commits u → admits u)
    (hasked : ∀ m ∈ asked, ∀ e, m.Makes e → Fair n unit rival e)
    (hs : Confined admits s.index) (h : Held n unit rival s.index) :
    Held n unit rival t.index := by
  suffices hboth : Confined admits t.index ∧ Held n unit rival t.index from hboth.2
  induction hmoves with
  | refl => exact ⟨hs, h⟩
  | quiet _ hquiet ih =>
    obtain ⟨-, c, hc, heq⟩ := hquiet
    obtain ⟨hgraph, hshadowed⟩ := Call.apply_of_edit?_eq_none hc
    rw [heq]
    refine ⟨⟨preserved_ordered.quiet _ c hc ih.1.ordered, ?_, ?_⟩, ?_⟩
    · rw [hgraph]
      exact ih.1.holder
    · rw [hshadowed]
      exact ih.1.loser
    · rw [Held, hgraph, hshadowed]
      exact ih.2
  | @move t m first hm ih =>
    refine ⟨(stable_confined admits).perform files ih.1 (hadmits m hm),
      held_perform ?_ ?_ ih.1 ih.2 (hadmits m hm) (hasked m hm)⟩
    · rw [first.textOf?]
      exact hfair
    · rw [first.textOf?]
      exact htext

end Moves

end OrmLens.Server
