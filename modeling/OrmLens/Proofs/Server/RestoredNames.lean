/-
  What restoring leaves behind.

  The loop that analyzes reported units again commits each of them once, and skips a unit that it
  has seen even if a later commit reports it. Nothing is lost by that: once the loop has committed a
  unit, every name of the unit is held by some unit that the loop has committed
  (`Restores.names_held`), since only a commit of the holder could give the name up, and the holder
  is not committed again.

  `restoring_completes` puts it together for every index that calls lead to, whatever texts the
  units have and whatever is pending: the loop ends, in one way, and that is what the program does.
  Which unit holds a name in the end is left open.
-/
import OrmLens.Proofs.Server.Moves

namespace OrmLens.Server

open Index Model Workspace

/-- The commit of a unit with the text that counts for it, if it has one. -/
def commit? (text? : Text → Option Text) (unit : Text) : Option Edit :=
  (text? unit).map fun text => .commit unit text text

namespace Restores

variable {text? : Text → Option Text} {seen pending seen' : List Text} {i i' : Index.State}

/-! ## One outcome -/

theorem unique (h : Restores text? seen pending i seen' i') {other : List Text} {j : Index.State}
    (h' : Restores text? seen pending i other j) : other = seen' ∧ j = i' := by
  induction h with
  | done => cases h'; exact ⟨rfl, rfl⟩
  | again hseen _ ih =>
    cases h' with
    | again _ rest => exact ih rest
    | unreadable hnew _ _ => exact absurd hseen hnew
    | commit hnew _ _ => exact absurd hseen hnew
  | unreadable hnew htext _ ih =>
    cases h' with
    | again hseen _ => exact absurd hseen hnew
    | unreadable _ _ rest => exact ih rest
    | commit _ htext' _ => rw [htext] at htext'; cases htext'
  | commit hnew htext _ ih =>
    cases h' with
    | again hseen _ => exact absurd hseen hnew
    | unreadable _ htext' _ => rw [htext] at htext'; cases htext'
    | commit _ htext' rest =>
      rw [htext] at htext'
      cases htext'
      exact ih rest

/-- The loop ends: each unit that is new leaves fewer to come, and between two of them the list of
    pending units shortens. -/
theorem exists_outcome (text? : Text → Option Text) {units : List Text}
    (visited todo : List Text) {i : Index.State} (hi : Confined (· ∈ units) i)
    (hp : ∀ u ∈ todo, u ∈ units) : ∃ seen' i', Restores text? visited todo i seen' i' := by
  match todo with
  | [] => exact ⟨visited, i, .done visited i⟩
  | unit :: rest =>
    have hrest : ∀ u ∈ rest, u ∈ units := fun u hu => hp u (List.mem_cons_of_mem unit hu)
    by_cases hseen : unit ∈ visited
    · obtain ⟨seen', i', hloop⟩ := exists_outcome text? visited rest hi hrest
      exact ⟨seen', i', .again hseen hloop⟩
    · have hunit := hp unit List.mem_cons_self
      have hfewer := length_unseen_cons_lt hunit hseen
      cases htext : text? unit with
      | none =>
        obtain ⟨seen', i', hloop⟩ := exists_outcome text? (unit :: visited) rest hi hrest
        exact ⟨seen', i', .unreadable hseen htext hloop⟩
      | some text =>
        let e := Edit.commit unit text text
        obtain ⟨hi', ho⟩ := (stable_confined (· ∈ units)).edit i e hi fun u hu => hu ▸ hunit
        have hpending : ∀ u ∈ (e.perform i).2.reverse ++ rest, u ∈ units := by
          intro u hu
          rcases List.mem_append.mp hu with hu | hu
          · exact ho u (List.mem_reverse.mp hu)
          · exact hrest u hu
        obtain ⟨seen', i', hloop⟩ := exists_outcome text? (unit :: visited) _ hi' hpending
        exact ⟨seen', i', .commit hseen htext hloop⟩
termination_by ((unseen units visited).length, todo.length)
decreasing_by
  · exact Prod.Lex.right _ (Nat.lt_succ_self _)
  · exact Prod.Lex.left _ _ hfewer
  · exact Prod.Lex.left _ _ hfewer

/-! ## Each unit once -/

theorem nodup (h : Restores text? seen pending i seen' i') (hseen : seen.Nodup) : seen'.Nodup := by
  induction h with
  | done => exact hseen
  | again _ _ ih => exact ih hseen
  | unreadable hnew _ _ ih => exact ih (List.nodup_cons.mpr ⟨hnew, hseen⟩)
  | commit hnew _ _ ih => exact ih (List.nodup_cons.mpr ⟨hnew, hseen⟩)

/-- The loop does nothing but to commit the units that it comes to see, one after another. -/
theorem index_eq (h : Restores text? seen pending i seen' i') :
    ∃ visits : List Text, seen' = visits.reverse ++ seen ∧
      i' = (visits.filterMap (commit? text?)).foldl Edit.apply i := by
  induction h with
  | done => exact ⟨[], rfl, rfl⟩
  | again _ _ ih => exact ih
  | @unreadable seen pending seen' i i' unit _ htext _ ih =>
    obtain ⟨visits, hseen, hi⟩ := ih
    refine ⟨unit :: visits, by simp [hseen], ?_⟩
    rw [hi, List.filterMap_cons_none (by rw [commit?, htext]; rfl)]
  | @commit seen pending seen' i i' unit text _ htext _ ih =>
    obtain ⟨visits, hseen, hi⟩ := ih
    refine ⟨unit :: visits, by simp [hseen], ?_⟩
    have hcommit : commit? text? unit = some (.commit unit text text) := by
      rw [commit?, htext]
      rfl
    rw [hi, List.filterMap_cons_some hcommit, List.foldl_cons]

/-! ## Names -/

/-- Every name of a unit that was seen, as its text has them, is held by a unit that was seen. -/
def NamesHeld (text? : Text → Option Text) (seen : List Text) (i : Index.State) : Prop :=
  ∀ u ∈ seen, ∀ text, text? u = some text → ∀ n ∈ (Schema.extract u text).names,
    ∃ v ∈ seen, i.graph.holder? n = some v

/-- **The loop loses no name that it has brought back.** -/
theorem names_held (h : Restores text? seen pending i seen' i') (hi : Ordered i)
    (hnames : NamesHeld text? seen i) : NamesHeld text? seen' i' := by
  induction h with
  | done => exact hnames
  | again _ _ ih => exact ih hi hnames
  | @unreadable seen _ _ i _ unit _ htext _ ih =>
    refine ih hi fun u hu text hx n hn => ?_
    rcases List.mem_cons.mp hu with rfl | hu
    · rw [htext] at hx
      cases hx
    · obtain ⟨v, hv, hholder⟩ := hnames u hu text hx n hn
      exact ⟨v, List.mem_cons_of_mem unit hv, hholder⟩
  | @commit seen _ _ i _ unit text hnew htext _ ih =>
    let e := Edit.commit unit text text
    refine ih (ordered_apply hi e) fun u hu x hx n hn => ?_
    rw [holder?_apply hi]
    by_cases hname : n ∈ e.names
    · exact ⟨unit, List.mem_cons_self, if_pos hname⟩
    · rcases List.mem_cons.mp hu with rfl | hu
      · rw [htext] at hx
        cases hx
        exact absurd hn hname
      · -- The holder was seen, so it is not the unit that is committed now.
        obtain ⟨v, hv, hholder⟩ := hnames u hu x hx n hn
        refine ⟨v, List.mem_cons_of_mem unit hv, ?_⟩
        have hne : v ≠ unit := fun hv' => hnew (hv' ▸ hv)
        rw [if_neg hname, hholder, Option.filter_some]
        exact if_pos (decide_eq_true hne)

end Restores

/-! ## Reachable indexes -/

theorem ordered_run {i : Index.State} (h : Ordered i) (calls : List Call) :
    Ordered (i.run calls) := by
  induction calls generalizing i with
  | nil => exact h
  | cons c calls ih =>
    refine ih ?_
    cases he : c.edit? i with
    | some e =>
      rw [Call.apply_of_edit? he]
      exact ordered_apply h e
    | none => exact preserved_ordered.quiet i c he h

/-- **Restoring ends, and leaves nothing missing that it restored.** For every index that calls on
    an empty one lead to, whatever texts count for the units and whatever units are pending, the
    loop ends in one way. A server with this index and these texts comes to the same. The units that
    the loop turns to are distinct, the index is the one from before after one commit of each of
    them that has a text, in this order, and every name of the text of such a unit has an entity. -/
theorem restoring_completes (settings : Settings) (calls : List Call)
    (text? : Text → Option Text) (pending : List Text) :
    let i := (Index.State.new settings).run calls
    ∃ (visits : List Text) (i' : Index.State),
      (∀ seen j, Restores text? [] pending.reverse i seen j ↔ seen = visits.reverse ∧ j = i') ∧
      (∀ (s : State) (files : FileTree), s.index = i → s.textOf? files = text? →
        s.restore files pending = { s with index := i' }) ∧
      visits.Nodup ∧ i' = (visits.filterMap (commit? text?)).foldl Edit.apply i ∧
      ∀ u ∈ visits, ∀ text, text? u = some text → ∀ n ∈ (Schema.extract u text).names,
        n ∈ i'.graph.entities.keys := by
  intro i
  have hi : Ordered i := ordered_run (ordered_new settings) calls
  obtain ⟨seen', i', hloop⟩ :=
    Restores.exists_outcome text? [] pending.reverse (confined_listed hi pending) fun u hu =>
      List.mem_append_left _ (List.mem_append_left _ (List.mem_reverse.mp hu))
  obtain ⟨visits, hvisits, hcommits⟩ := hloop.index_eq
  rw [List.append_nil] at hvisits
  refine ⟨visits, i', fun seen j => ⟨fun h => ?_, ?_⟩, ?_, ?_, hcommits, ?_⟩
  · rw [← hvisits]
    exact hloop.unique h
  · rintro ⟨rfl, rfl⟩
    rw [← hvisits]
    exact hloop
  · rintro s files hindex rfl
    obtain ⟨seen, j, hprogram, heq⟩ := restores_restore files (s := s) (hindex ▸ hi) pending
    rw [hindex] at hprogram
    rw [heq, (hloop.unique hprogram).2]
  · have hseen := hloop.nodup List.nodup_nil
    rw [hvisits] at hseen
    exact (List.reverse_perm visits).nodup_iff.mp hseen
  · intro u hu text htext n hn
    have hnames : Restores.NamesHeld text? seen' i' :=
      hloop.names_held hi fun v hv => absurd hv List.not_mem_nil
    obtain ⟨v, -, hholder⟩ :=
      hnames u (hvisits ▸ List.mem_reverse.mpr hu) text htext n hn
    obtain ⟨e, he, -⟩ := Option.map_eq_some_iff.mp hholder
    exact (Table.mem_keys_iff _ n).mpr (Option.isSome_of_eq_some he)

/-- A unit gives a name up while it is restored, and so the unit that had lost the name comes next:
    in the end each of the two holds what its text defines. -/
theorem restoring_completes_given_up :
    let files := (FileTree.write {} "a.py" (some "class N(Model):\n")).write
      "d.py" (some "class P(Model):\n")
    let calls : List Call := [.edit (.commit "d.py" "class P(Model):\n" "d"),
      .edit (.commit "a.py" "class P(Model):\nclass N(Model):\n" "a")]
    let s : State := { State.new {} with index := (Index.State.new {}).run calls }
    let s' := s.restore files ["a.py"]
    s.index.graph.holder? "P" = some "a.py" ∧ s'.index.graph.holder? "P" = some "d.py" ∧
      ∃ visits : List Text, visits.Nodup ∧
        s'.index = (visits.filterMap (commit? (s.textOf? files))).foldl Edit.apply s.index ∧
        ∀ u ∈ visits, ∀ text, s.textOf? files u = some text →
          ∀ n ∈ (Schema.extract u text).names, n ∈ s'.index.graph.entities.keys := by
  intro files calls s s'
  obtain ⟨visits, i', -, hprogram, hnodup, hcommits, hnames⟩ :=
    restoring_completes {} calls (s.textOf? files) ["a.py"]
  have hs' : s' = { s with index := i' } := hprogram s files rfl rfl
  refine ⟨by decide +kernel, by decide +kernel, visits, hnodup, ?_, ?_⟩
  · rw [hs']
    exact hcommits
  · rw [hs']
    exact hnames

end OrmLens.Server
