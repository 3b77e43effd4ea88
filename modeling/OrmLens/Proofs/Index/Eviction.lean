/-
  Which unit leaves a full cache.

  The cache has two collections, entries by unit and a queue of units. Along every run of `put`,
  `evict` and `configure` they are in step (`InStep`): the queue holds the units that have an entry,
  each once, in the order in which they were last put, and no more than the capacity allows.

  So the front of the queue is the unit that was put the longest ago, and dropping it takes one unit
  from both collections. `evicted_in_order`: the loops that make room drop such a unit at each turn
  (`MakesRoom`), and stop as soon as there is room.

  When an entry expires plays no part here.
-/
import Mathlib.Data.List.Induction
import OrmLens.Proofs.Index.Cache

namespace OrmLens.Index.Cache

/-! ## Operations -/

/-- A change of the cache. -/
inductive Op where
  | put (now : Nat) (path content : Text) (entities : List Text)
  | evict (path : Text)
  | configure (capacity ttl : Nat)
deriving DecidableEq, Repr

namespace Op

/-- The cache after a change. -/
def apply (c : Cache) : Op → Cache
  | .put now path content entities => c.put now path content entities
  | .evict path => c.evict path
  | .configure capacity ttl => c.configure capacity ttl

/-- Whether a change puts the unit. -/
def puts (u : Text) : Op → Bool
  | .put _ path _ _ => path = u
  | _ => false

/-- The capacity asked for after a change. -/
def asked (capacity : Nat) : Op → Nat
  | .configure capacity _ => capacity
  | _ => capacity

end Op

/-- The cache after a run of changes. -/
def run (c : Cache) (ops : List Op) : Cache := ops.foldl Op.apply c

theorem run_concat (c : Cache) (ops : List Op) (op : Op) :
    c.run (ops ++ [op]) = op.apply (c.run ops) := by
  rw [run, List.foldl_append]
  rfl

/-- The capacity last asked for. -/
def lastAsked (capacity : Nat) (ops : List Op) : Nat := ops.foldl Op.asked capacity

theorem lastAsked_concat (capacity : Nat) (ops : List Op) (op : Op) :
    lastAsked capacity (ops ++ [op]) = op.asked (lastAsked capacity ops) := by
  rw [lastAsked, List.foldl_append]
  rfl

/-- The number of changes since the unit was last put. -/
def age (ops : List Op) (u : Text) : Nat := ops.reverse.findIdx (Op.puts u)

theorem age_concat (ops : List Op) (op : Op) (u : Text) :
    age (ops ++ [op]) u = if op.puts u then 0 else age ops u + 1 := by
  rw [age, List.reverse_append, List.reverse_singleton, List.singleton_append, List.findIdx_cons,
    age]
  cases op.puts u <;> rfl

/-! ## Making room -/

/-- Of the units held, this one was put the longest ago. -/
def Oldest (ops : List Op) (c : Cache) (u : Text) : Prop :=
  u ∈ c.entries.keys ∧ ∀ v ∈ c.entries.keys, v ≠ u → age ops v < age ops u

/-- Units are dropped one after another, each the oldest of those held at that time, as long as more
    than `limit` are held. -/
inductive MakesRoom (ops : List Op) (limit : Nat) : Cache → List Text → Cache → Prop
  | fits {c : Cache} (h : c.size ≤ limit) : MakesRoom ops limit c [] c
  | drop {c c' : Cache} {u : Text} {dropped : List Text} (hfull : limit < c.size)
      (hu : Oldest ops c u) (hrest : MakesRoom ops limit (c.evict u) dropped c') :
      MakesRoom ops limit c (u :: dropped) c'

/-! ## The two collections -/

/-- The queue holds the units that have an entry, in the order in which they were last put. -/
structure InStep (ops : List Op) (c : Cache) : Prop where
  keys : ∀ u, u ∈ c.order ↔ u ∈ c.entries.keys
  sorted : c.order.Pairwise fun u v => age ops v < age ops u
  known : ∀ u ∈ c.order, ∃ op ∈ ops, op.puts u = true

theorem mem_keys_evict (c : Cache) (path u : Text) :
    u ∈ (c.evict path).entries.keys ↔ u ∈ c.entries.keys ∧ u ≠ path := by
  rw [Table.mem_keys_iff, entries_evict, Table.mem_keys_iff]
  by_cases hu : u = path <;> simp [hu]

namespace InStep

variable {ops : List Op} {c : Cache}

theorem nodup (h : InStep ops c) : c.order.Nodup :=
  h.sorted.imp fun hlt => by
    rintro rfl
    exact Nat.lt_irrefl _ hlt

theorem length_order (h : InStep ops c) : c.order.length = c.size := by
  have hperm := (List.perm_ext_iff_of_nodup h.nodup c.entries.keys_nodup).mpr h.keys
  rw [hperm.length_eq, Table.keys, List.length_map]
  rfl

theorem evict (h : InStep ops c) (path : Text) : InStep ops (c.evict path) where
  keys u := by
    rw [mem_keys_evict, ← h.keys]
    simp [Cache.evict]
  sorted := h.sorted.sublist List.filter_sublist
  known u hu := h.known u (List.mem_filter.mp hu).1

/-- What is put is new, and everything else grows older by one. -/
theorem other (h : InStep ops c) {op : Op} (hop : ∀ u ∈ c.order, op.puts u = false) :
    InStep (ops ++ [op]) c where
  keys := h.keys
  sorted := by
    refine h.sorted.imp_of_mem fun {u v} hu hv hlt => ?_
    rw [age_concat, age_concat, hop u hu, hop v hv]
    exact Nat.succ_lt_succ hlt
  known u hu := by
    obtain ⟨op', hmem, hputs⟩ := h.known u hu
    exact ⟨op', List.mem_append_left _ hmem, hputs⟩

/-- A unit that is put goes to the end of the queue, from wherever it was. -/
theorem filed (h : InStep ops c) {c' : Cache} {op : Op} {path : Text}
    (hop : ∀ u, op.puts u = true ↔ u = path)
    (horder : c'.order = c.order.filter (· ≠ path) ++ [path])
    (hkeys : ∀ u, u ∈ c'.entries.keys ↔ u = path ∨ u ∈ c.entries.keys) :
    InStep (ops ++ [op]) c' := by
  have hnew : age (ops ++ [op]) path = 0 := by
    rw [age_concat, if_pos ((hop path).mpr rfl)]
  have hold {u : Text} (hu : u ∈ c.order.filter (· ≠ path)) :
      age (ops ++ [op]) u = age ops u + 1 := by
    have hne : u ≠ path := of_decide_eq_true (List.mem_filter.mp hu).2
    rw [age_concat, if_neg fun hputs => hne ((hop u).mp hputs)]
  refine ⟨fun u => ?_, ?_, fun u hu => ?_⟩
  · rw [horder, hkeys, ← h.keys, List.mem_append, List.mem_singleton, List.mem_filter,
      decide_eq_true_eq]
    by_cases hu : u = path <;> simp [hu]
  · rw [horder, List.pairwise_append]
    refine ⟨(h.sorted.sublist List.filter_sublist).imp_of_mem fun hu hv hlt => ?_,
      List.pairwise_singleton _ _, fun u hu v hv => ?_⟩
    · rw [hold hu, hold hv]
      exact Nat.succ_lt_succ hlt
    · rw [List.mem_singleton.mp hv, hnew, hold hu]
      exact Nat.succ_pos _
  · rw [horder, List.mem_append, List.mem_singleton] at hu
    rcases hu with hu | rfl
    · obtain ⟨op', hmem, hputs⟩ := h.known u (List.mem_filter.mp hu).1
      exact ⟨op', List.mem_append_left _ hmem, hputs⟩
    · exact ⟨op, List.mem_append_right _ List.mem_cons_self, (hop u).mpr rfl⟩

/-- The front of the queue is the oldest unit. -/
theorem oldest (h : InStep ops c) {u : Text} {rest : List Text} (hc : c.order = u :: rest) :
    Oldest ops c u := by
  refine ⟨(h.keys u).mp (hc ▸ List.mem_cons_self), fun v hv hne => ?_⟩
  rw [← h.keys, hc] at hv
  have hsorted := h.sorted
  rw [hc, List.pairwise_cons] at hsorted
  exact hsorted.1 v ((List.mem_cons.mp hv).resolve_left hne)

/-- Dropping the front of the queue is evicting it. -/
theorem evictOldest_eq (h : InStep ops c) {u : Text} {rest : List Text} (hc : c.order = u :: rest) :
    c.evictOldest = c.evict u := by
  have hnodup := h.nodup
  rw [hc, List.nodup_cons] at hnodup
  have hrest : (u :: rest).filter (· ≠ u) = rest := by
    rw [List.filter_cons_of_neg (by simp), List.filter_eq_self]
    intro v hv
    rw [decide_eq_true_eq]
    rintro rfl
    exact hnodup.1 hv
  unfold evictOldest Cache.evict
  rw [hc, hrest]

theorem size_evict (h : InStep ops c) {u : Text} {rest : List Text} (hc : c.order = u :: rest) :
    (c.evict u).size + 1 = c.size := by
  rw [← h.length_order, ← (h.evict u).length_order, ← h.evictOldest_eq hc, evictOldest, hc]
  rfl

/-- **Shrinking drops the oldest units**, and stops as soon as the rest fits. -/
theorem shrink (h : InStep ops c) (limit : Nat) :
    ∃ dropped, MakesRoom ops limit c dropped (shrink (c.size - limit) c) := by
  induction hcount : c.size - limit generalizing c with
  | zero => exact ⟨[], .fits (Nat.sub_eq_zero_iff_le.mp hcount)⟩
  | succ count ih =>
    have hfull : limit < c.size := by omega
    obtain ⟨u, rest, hc⟩ : ∃ u rest, c.order = u :: rest := by
      rw [← List.ne_nil_iff_exists_cons, ← List.length_pos_iff, h.length_order]
      omega
    have hsize := h.size_evict hc
    obtain ⟨dropped, hdropped⟩ := ih (h.evict u) (by omega)
    refine ⟨u :: dropped, .drop hfull (h.oldest hc) ?_⟩
    rw [Cache.shrink, h.evictOldest_eq hc]
    exact hdropped

end InStep

namespace MakesRoom

variable {ops : List Op} {limit : Nat} {c c' : Cache} {dropped : List Text}

theorem size_le (h : MakesRoom ops limit c dropped c') : c'.size ≤ limit := by
  induction h with
  | fits h => exact h
  | drop _ _ _ ih => exact ih

theorem inStep (h : MakesRoom ops limit c dropped c') (hc : InStep ops c) : InStep ops c' := by
  induction h with
  | fits => exact hc
  | drop _ _ _ ih => exact ih (hc.evict _)

theorem capacity_eq (h : MakesRoom ops limit c dropped c') : c'.capacity = c.capacity := by
  induction h with
  | fits => rfl
  | drop _ _ _ ih => exact ih

end MakesRoom

/-! ## Putting -/

/-- How many units may stay when a unit is put: one fewer if it needs a place of its own. -/
def room (c : Cache) (path : Text) : Nat :=
  if c.entries.has path then c.capacity else c.capacity - 1

/-- A cache that is in step, holds no more than its capacity and has one place at least. -/
structure Sound (ops : List Op) (c : Cache) : Prop extends InStep ops c where
  size_le : c.size ≤ c.capacity
  capacity_pos : 1 ≤ c.capacity

namespace Sound

variable {ops : List Op} {c : Cache}

/-- For a unit that is held no other has to go; for a new one at most one has to, the oldest. -/
theorem makeRoom (h : Sound ops c) (path : Text) :
    ∃ dropped c', MakesRoom ops (c.room path) c dropped c' ∧
      (c.makeRoom path).entries = c'.entries ∧
      (c.makeRoom path).order = c'.order.filter (· ≠ path) := by
  have hheld : c.entries.has path = true ↔ path ∈ c.entries.keys :=
    (c.entries.mem_keys_iff path).symm
  have hother {c' : Cache} {dropped : List Text} (hroom : MakesRoom ops (c.room path) c dropped c')
      (hpath : path ∉ c'.entries.keys) : c'.order = c'.order.filter (· ≠ path) := by
    rw [eq_comm, List.filter_eq_self]
    intro u hu
    rw [decide_eq_true_eq]
    rintro rfl
    exact hpath (((hroom.inStep h.toInStep).keys _).mp hu)
  unfold Cache.makeRoom
  split
  · rename_i hpath
    have hroom : c.room path = c.capacity := if_pos hpath
    exact ⟨[], c, .fits (hroom ▸ h.size_le), rfl, rfl⟩
  · rename_i hpath
    have hroom : c.room path = c.capacity - 1 := if_neg hpath
    rw [hheld] at hpath
    have hsize := h.size_le
    have hpos := h.capacity_pos
    split
    · rename_i hfull
      obtain ⟨dropped, hdropped⟩ := h.shrink (c.room path)
      have hone : c.size - c.room path = 1 := by omega
      rw [hone] at hdropped
      refine ⟨dropped, c.evictOldest, hdropped, rfl, hother hdropped fun hmem => hpath ?_⟩
      rw [Table.mem_keys_iff, Option.isSome_iff_exists] at hmem ⊢
      exact hmem.imp fun _ he => entries_evictOldest he
    · have hfits : MakesRoom ops (c.room path) c [] c := .fits (by omega)
      exact ⟨[], c, hfits, rfl, hother hfits hpath⟩

/-- Putting a unit makes room, and then files the unit as the newest. -/
theorem put (h : Sound ops c) (now : Nat) (path content : Text) (entities : List Text) :
    ∃ dropped c', MakesRoom ops (c.room path) c dropped c' ∧
      (c.put now path content entities).order = c'.order.filter (· ≠ path) ++ [path] ∧
      ∀ u, (c.put now path content entities).entries.get? u =
        if u = path then some ⟨content, now, entities⟩ else c'.entries.get? u := by
  obtain ⟨dropped, c', hroom, hentries, horder⟩ := h.makeRoom path
  refine ⟨dropped, c', hroom, congrArg (· ++ [path]) horder, fun u => ?_⟩
  rw [← hentries]
  exact Table.get?_insert _ path u _

/-- Another capacity takes effect at once: what no longer fits goes. -/
theorem configure (h : Sound ops c) (capacity ttl : Nat) :
    ∃ dropped, MakesRoom ops (max capacity 1) { c with capacity := max capacity 1, ttl } dropped
      (c.configure capacity ttl) :=
  InStep.shrink (c := { c with capacity := max capacity 1, ttl }) ⟨h.keys, h.sorted, h.known⟩ _

end Sound

theorem capacity_makeRoom (c : Cache) (path : Text) : (c.makeRoom path).capacity = c.capacity := by
  unfold makeRoom
  split
  · rfl
  · split
    · unfold evictOldest
      split <;> rfl
    · rfl

theorem sound_new (capacity ttl : Nat) : Sound [] (new capacity ttl) where
  keys _ := Iff.rfl
  sorted := .nil
  known _ hu := absurd hu List.not_mem_nil
  size_le := Nat.zero_le _
  capacity_pos := Nat.le_max_right capacity 1

/-- With the unit that is put, no more are held than the capacity allows. -/
theorem Sound.length_succ_le {ops : List Op} {c c' : Cache} (h : Sound ops c) {path : Text}
    {dropped : List Text} (hroom : MakesRoom ops (c.room path) c dropped c') :
    (c'.order.filter (· ≠ path)).length + 1 ≤ c.capacity := by
  have hlength := (hroom.inStep h.toInStep).length_order
  have hsize := hroom.size_le
  by_cases hpath : c.entries.has path = true
  · have hkeep : c.room path = c.capacity := if_pos hpath
    rw [hkeep] at hroom hsize
    -- The unit is held, so all fit, and its old place in the queue is free.
    cases hroom with
    | drop hfull => exact absurd h.size_le (Nat.not_le.mpr hfull)
    | fits =>
      have hshorter : (c.order.filter (· ≠ path)).length < c.order.length := by
        rw [List.length_filter_lt_length_iff_exists]
        exact ⟨path, (h.keys path).mpr ((c.entries.mem_keys_iff path).mpr hpath), by simp⟩
      omega
  · have hfree : c.room path = c.capacity - 1 := if_neg hpath
    have hpos := h.capacity_pos
    have hfilter := List.length_filter_le (· ≠ path) c'.order
    omega

/-- Every change keeps the two collections in step. -/
theorem Sound.apply {ops : List Op} {c : Cache} (h : Sound ops c) (op : Op) :
    Sound (ops ++ [op]) (op.apply c) := by
  cases op with
  | put now path content entities =>
    obtain ⟨dropped, c', hroom, horder, hentries⟩ := h.put now path content entities
    have hkeys (u : Text) : u ∈ (c.put now path content entities).entries.keys ↔
        u = path ∨ u ∈ c'.entries.keys := by
      rw [Table.mem_keys_iff, hentries, Table.mem_keys_iff]
      by_cases hu : u = path <;> simp [hu]
    have hputs (u : Text) : Op.puts u (.put now path content entities) = true ↔ u = path := by
      rw [Op.puts, decide_eq_true_eq, eq_comm]
    have hstep : InStep (ops ++ [.put now path content entities])
        (c.put now path content entities) :=
      (hroom.inStep h.toInStep).filed hputs horder hkeys
    have hcapacity : (c.put now path content entities).capacity = c.capacity :=
      capacity_makeRoom c path
    refine ⟨hstep, ?_, hcapacity ▸ h.capacity_pos⟩
    show (c.put now path content entities).size ≤ (c.put now path content entities).capacity
    rw [← hstep.length_order, horder, hcapacity, List.length_append]
    exact h.length_succ_le hroom
  | evict path =>
    have hevict : InStep (ops ++ [.evict path]) (c.evict path) :=
      (h.toInStep.evict path).other fun _ _ => rfl
    refine ⟨hevict, ?_, h.capacity_pos⟩
    calc (c.evict path).size = (c.evict path).order.length := hevict.length_order.symm
      _ ≤ c.order.length := List.length_filter_le _ _
      _ = c.size := h.length_order
      _ ≤ c.capacity := h.size_le
  | configure capacity ttl =>
    obtain ⟨dropped, hroom⟩ := h.configure capacity ttl
    have hcapacity := hroom.capacity_eq
    have hstep := hroom.inStep ⟨h.keys, h.sorted, h.known⟩
    refine ⟨hstep.other fun _ _ => rfl, ?_, ?_⟩
    · show (c.configure capacity ttl).size ≤ (c.configure capacity ttl).capacity
      rw [hcapacity]
      exact hroom.size_le
    · show 1 ≤ (c.configure capacity ttl).capacity
      rw [hcapacity]
      exact Nat.le_max_right _ _

theorem sound_run (capacity ttl : Nat) (ops : List Op) :
    Sound ops ((new capacity ttl).run ops) := by
  induction ops using List.reverseRecOn with
  | nil => exact sound_new capacity ttl
  | append_singleton ops op ih =>
    rw [run_concat]
    exact ih.apply op

/-- The capacity in force is the one last asked for, but one at least. -/
theorem capacity_run (capacity ttl : Nat) (ops : List Op) :
    ((new capacity ttl).run ops).capacity = max (lastAsked capacity ops) 1 := by
  induction ops using List.reverseRecOn with
  | nil => rfl
  | append_singleton ops op ih =>
    rw [run_concat, lastAsked_concat]
    cases op with
    | put now path content entities => exact (capacity_makeRoom _ path).trans ih
    | evict path => exact ih
    | configure capacity' ttl' =>
      obtain ⟨dropped, hroom⟩ := (sound_run capacity ttl ops).configure capacity' ttl'
      exact hroom.capacity_eq

/-- **Units leave in the order in which they were last put.** After every run of changes of a new
    cache, whatever its capacity: the queue holds each unit that has an entry once, and nothing
    else, and no more than the capacity last asked for, or one; each of them was put. An eviction
    takes one entry and leaves the others; another capacity leaves the entries that stay as they
    are. Where another capacity or a put needs room, the units that go are, each at its time, those
    put the longest ago of all that are held, and no more go than have to. -/
theorem evicted_in_order (capacity ttl : Nat) (ops : List Op) :
    let c := (new capacity ttl).run ops
    let limit := max (lastAsked capacity ops) 1
    (c.order.Nodup ∧ (∀ u, u ∈ c.order ↔ u ∈ c.entries.keys) ∧ c.order.length ≤ limit ∧
      ∀ u ∈ c.order, ∃ op ∈ ops, op.puts u = true) ∧
    (∀ path u, (c.evict path).entries.get? u = if u = path then none else c.entries.get? u) ∧
    (∀ capacity' ttl' u e, (c.configure capacity' ttl').entries.get? u = some e →
      c.entries.get? u = some e) ∧
    (∀ capacity' ttl', ∃ dropped, MakesRoom ops (max capacity' 1)
      { c with capacity := max capacity' 1, ttl := ttl' } dropped (c.configure capacity' ttl')) ∧
    ∀ now path content entities, ∃ dropped c',
      MakesRoom ops (if c.entries.has path then limit else limit - 1) c dropped c' ∧
        ∀ u, (c.put now path content entities).entries.get? u =
          if u = path then some ⟨content, now, entities⟩ else c'.entries.get? u := by
  intro c limit
  have h : Sound ops c := sound_run capacity ttl ops
  have hlimit : c.capacity = limit := capacity_run capacity ttl ops
  refine ⟨⟨h.nodup, h.keys, ?_, h.known⟩, c.entries_evict, fun _ _ _ _ => entries_configure,
    h.configure, fun now path content entities => ?_⟩
  · rw [h.length_order, ← hlimit]
    exact h.size_le
  · obtain ⟨dropped, c', hroom, -, hentries⟩ := h.put now path content entities
    rw [room, hlimit] at hroom
    exact ⟨dropped, c', hroom, hentries⟩

/-- Two units fit, and the first is put again: the second goes when a third comes. -/
theorem evicted_in_order_refreshed :
    let a : Text := "a"
    let b : Text := "b"
    let ops : List Op := [.put 0 a "1" [], .put 1 b "2" [], .put 2 a "3" []]
    let c := (new 2 0).run ops
    Oldest ops c b ∧ (c.put 3 "c" "4" []).order = [a, "c"] := by
  intro a b ops c
  obtain ⟨dropped, c', hroom, -⟩ := (evicted_in_order 2 0 ops).2.2.2.2 3 "c" "4" []
  refine ⟨?_, by decide⟩
  cases hroom with
  | fits hsize => exact absurd hsize (by decide)
  | @drop _ _ u _ _ hu _ =>
    have hkeys : ∀ v ∈ c.entries.keys, v = a ∨ v = b := by decide
    rcases hkeys u hu.1 with rfl | rfl
    · exact absurd (hu.2 b (by decide) (by decide)) (by decide)
    · exact hu

end OrmLens.Index.Cache
