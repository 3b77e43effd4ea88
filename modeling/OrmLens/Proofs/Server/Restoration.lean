/-
  Restoring, without the bound.

  A unit that is reported is analyzed again with the text that counts for it, each unit once, and
  what that reports comes next. `Restores` says so with no bound on the number of units. The
  program has a bound, and it is never what ends the loop (`restores_restore`): whatever can come
  up is pending at the start, holds a name or has lost one, and so it stays.

  So a property of the restored index follows by induction on `Restores`, from what one commit
  does to it.
-/
import OrmLens.Proofs.Server.RemovedFolder

namespace OrmLens.Server

open Index Model Workspace

/-- From the first index, with these units seen and these pending, the loop ends in the second
    index, with these units seen. The texts that count are given. -/
inductive Restores (text? : Text → Option Text) :
    List Text → List Text → Index.State → List Text → Index.State → Prop
  | done (seen : List Text) (i : Index.State) : Restores text? seen [] i seen i
  | again {seen pending seen' : List Text} {i i' : Index.State} {unit : Text}
    (hseen : unit ∈ seen) (rest : Restores text? seen pending i seen' i') :
    Restores text? seen (unit :: pending) i seen' i'
  | unreadable {seen pending seen' : List Text} {i i' : Index.State} {unit : Text}
    (hnew : unit ∉ seen) (htext : text? unit = none)
    (rest : Restores text? (unit :: seen) pending i seen' i') :
    Restores text? seen (unit :: pending) i seen' i'
  | commit {seen pending seen' : List Text} {i i' : Index.State} {unit text : Text}
    (hnew : unit ∉ seen) (htext : text? unit = some text)
    (rest : Restores text? (unit :: seen)
      (((Edit.commit unit text text).perform i).2.reverse ++ pending)
      ((Edit.commit unit text text).apply i) seen' i') :
    Restores text? seen (unit :: pending) i seen' i'

namespace Restores

variable {text? : Text → Option Text} {seen pending seen' : List Text} {i i' : Index.State}

theorem of_seen (h : ∀ u ∈ pending, u ∈ seen) : Restores text? seen pending i seen i := by
  induction pending with
  | nil => exact .done seen i
  | cons u pending ih =>
    exact .again (h u List.mem_cons_self) (ih fun v hv => h v (List.mem_cons_of_mem u hv))

/-- Units that have been seen do not count. -/
theorem of_nextUnseen? {unit : Text} {rest : List Text}
    (h : State.nextUnseen? seen pending = some (unit, rest))
    (hrest : Restores text? seen (unit :: rest) i seen' i') :
    Restores text? seen pending i seen' i' := by
  induction pending with
  | nil => cases h
  | cons u pending ih =>
    unfold State.nextUnseen? at h
    split at h
    · rename_i hu
      exact .again (List.contains_iff_mem.mp hu) (ih h)
    · cases h
      exact hrest

end Restores

theorem not_mem_of_nextUnseen? {seen pending rest : List Text} {unit : Text}
    (h : State.nextUnseen? seen pending = some (unit, rest)) : unit ∉ seen := by
  induction pending with
  | nil => cases h
  | cons u pending ih =>
    unfold State.nextUnseen? at h
    split at h
    · exact ih h
    · rename_i hu
      cases h
      exact fun hmem => hu (List.contains_iff_mem.mpr hmem)

theorem mem_of_nextUnseen?_eq_none {seen pending : List Text}
    (h : State.nextUnseen? seen pending = none) : ∀ u ∈ pending, u ∈ seen := by
  induction pending with
  | nil => exact fun u hu => absurd hu List.not_mem_nil
  | cons v pending ih =>
    unfold State.nextUnseen? at h
    split at h
    · rename_i hv
      intro u hu
      rcases List.mem_cons.mp hu with rfl | hu
      · exact List.contains_iff_mem.mp hv
      · exact ih h u hu
    · cases h

/-! ## The bound -/

/-- The units of a list that have not been seen. -/
def unseen (units seen : List Text) : List Text := units.filter fun u => !seen.contains u

theorem mem_unseen_iff {units seen : List Text} {u : Text} :
    u ∈ unseen units seen ↔ u ∈ units ∧ u ∉ seen := by
  simp [unseen]

/-- Seeing a unit leaves fewer to be seen. -/
theorem length_unseen_cons_lt {units seen : List Text} {unit : Text} (hunit : unit ∈ units)
    (hnew : unit ∉ seen) : (unseen units (unit :: seen)).length < (unseen units seen).length := by
  have hfilter : unseen units (unit :: seen) = (unseen units seen).filter (· ≠ unit) := by
    unfold unseen
    rw [List.filter_filter]
    congr 1
    funext u
    rw [List.contains_cons, Bool.not_or]
    by_cases hu : u = unit <;> simp [hu]
  rw [hfilter, List.length_filter_lt_length_iff_exists]
  exact ⟨unit, mem_unseen_iff.mpr ⟨hunit, hnew⟩, by simp⟩

/-- A bound that covers all units which can come up is never reached. -/
theorem restores_restoreFrom (files : FileTree) {units : List Text} {count : Nat}
    {seen pending : List Text} {s : State} (hs : Confined (· ∈ units) s.index)
    (hp : ∀ u ∈ pending, u ∈ units) (hcount : (unseen units seen).length ≤ count) :
    ∃ seen' i, Restores (s.textOf? files) seen pending s.index seen' i ∧
      State.restoreFrom files count seen pending s = { s with index := i } := by
  induction count generalizing seen pending s with
  | zero =>
    have hnone : unseen units seen = [] := List.length_eq_zero_iff.mp (Nat.le_zero.mp hcount)
    refine ⟨seen, s.index, .of_seen fun u hu => Decidable.not_not.mp fun hnew => ?_, rfl⟩
    have hmem := mem_unseen_iff.mpr ⟨hp u hu, hnew⟩
    rw [hnone] at hmem
    exact absurd hmem List.not_mem_nil
  | succ count ih =>
    unfold State.restoreFrom
    split
    · rename_i hnone
      exact ⟨seen, s.index, .of_seen (mem_of_nextUnseen?_eq_none hnone), rfl⟩
    · rename_i unit rest hnext
      have hsub := subset_of_nextUnseen? hnext
      have hunit : unit ∈ units := hp unit (hsub List.mem_cons_self)
      have hrest : ∀ u ∈ rest, u ∈ units := fun u hu => hp u (hsub (List.mem_cons_of_mem unit hu))
      have hnew := not_mem_of_nextUnseen? hnext
      have hfewer : (unseen units (unit :: seen)).length ≤ count :=
        Nat.le_of_lt_succ (Nat.lt_of_lt_of_le (length_unseen_cons_lt hunit hnew) hcount)
      split
      · rename_i htext
        obtain ⟨seen', i, hloop, heq⟩ := ih hs hrest hfewer
        exact ⟨seen', i, .of_nextUnseen? hnext (.unreadable hnew htext hloop), heq⟩
      · rename_i text htext
        let e := Edit.commit unit text text
        obtain ⟨hi, ho⟩ := (stable_confined (· ∈ units)).edit s.index e hs fun u hu => hu ▸ hunit
        have hpending : ∀ u ∈ (e.perform s.index).2.reverse ++ rest, u ∈ units := by
          intro u hu
          rcases List.mem_append.mp hu with hu | hu
          · exact ho u (List.mem_reverse.mp hu)
          · exact hrest u hu
        obtain ⟨seen', i, hloop, heq⟩ :=
          ih (s := { s with index := e.apply s.index }) hi hpending hfewer
        exact ⟨seen', i, .of_nextUnseen? hnext (.commit hnew htext hloop), heq⟩

/-- Whatever can come up is pending, holds a name or has lost one. -/
theorem confined_listed {i : Index.State} (h : Ordered i) (pending : List Text) :
    Confined (· ∈ pending ++ i.graph.entities.values.map (·.unit) ++ i.shadowed.values) i := by
  refine ⟨h, fun n u hu => ?_, fun n u hu => ?_⟩
  · obtain ⟨e, he, rfl⟩ := Option.map_eq_some_iff.mp hu
    refine List.mem_append_left _ (List.mem_append_right _ ?_)
    exact List.mem_map.mpr ⟨e, (Table.mem_values_iff _ e).mpr ⟨n, he⟩, rfl⟩
  · exact List.mem_append_right _ ((Table.mem_values_iff _ u).mpr ⟨n, hu⟩)

/-- Restoring ends because nothing is left to be restored. -/
theorem restores_restore (files : FileTree) {s : State} (h : Ordered s.index)
    (pending : List Text) :
    ∃ seen i, Restores (s.textOf? files) [] pending.reverse s.index seen i ∧
      s.restore files pending = { s with index := i } := by
  let units := pending ++ s.index.graph.entities.values.map (·.unit) ++ s.index.shadowed.values
  have hs : Confined (· ∈ units) s.index := confined_listed h pending
  have hp : ∀ u ∈ pending.reverse, u ∈ units := fun u hu =>
    List.mem_append_left _ (List.mem_append_left _ (List.mem_reverse.mp hu))
  have hcount : (unseen units []).length ≤ s.restorable pending := by
    calc (unseen units []).length ≤ units.length := List.length_filter_le _ _
      _ = s.restorable pending := by
        simp [units, State.restorable, Table.values, Table.size, Nat.add_assoc]
  exact restores_restoreFrom files hs hp hcount

end OrmLens.Server
