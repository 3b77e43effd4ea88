/-
  Tables as finite maps: what a lookup finds after every table operation, and how entries, keys
  and values follow from lookups.

  Keys are distinct, so a lookup finds exactly the entries of the table (`mem_entries_iff`). Two
  operations that change nothing return the same table, order included (`insert_eq_self`,
  `filter_eq_self`).
-/
import OrmLens.Table

namespace OrmLens.Table

variable {κ ν : Type} [DecidableEq κ]

/-! ## Lookups and entries -/

theorem mem_of_valueIn? {k : κ} {v : ν} {l : List (κ × ν)} (h : valueIn? k l = some v) :
    (k, v) ∈ l := by
  induction l with
  | nil => simp [valueIn?] at h
  | cons e l ih =>
    obtain ⟨a, w⟩ := e
    by_cases ha : a = k
    · rw [valueIn?, if_pos ha, Option.some.injEq] at h
      rw [ha, h]
      exact List.mem_cons_self
    · rw [valueIn?, if_neg ha] at h
      exact List.mem_cons_of_mem _ (ih h)

theorem valueIn?_of_mem {k : κ} {v : ν} {l : List (κ × ν)} (hl : (l.map Prod.fst).Nodup)
    (h : (k, v) ∈ l) : valueIn? k l = some v := by
  induction l with
  | nil => simp at h
  | cons e l ih =>
    obtain ⟨a, w⟩ := e
    rw [List.map_cons, List.nodup_cons] at hl
    rcases List.mem_cons.mp h with h | h
    · cases h
      rw [valueIn?, if_pos rfl]
    · have ha : a ≠ k := by
        rintro rfl
        exact hl.1 (List.mem_map.mpr ⟨(a, v), h, rfl⟩)
      rw [valueIn?, if_neg ha]
      exact ih hl.2 h

theorem valueIn?_eq_none {k : κ} {l : List (κ × ν)} (h : k ∉ l.map Prod.fst) :
    valueIn? k l = none := by
  rw [Option.eq_none_iff_forall_ne_some]
  intro v hv
  exact h (List.mem_map.mpr ⟨(k, v), mem_of_valueIn? hv, rfl⟩)

/-- A lookup finds exactly the entries. -/
theorem mem_entries_iff (t : Table κ ν) (k : κ) (v : ν) :
    (k, v) ∈ t.entries ↔ t.get? k = some v :=
  ⟨valueIn?_of_mem t.nodup, mem_of_valueIn?⟩

theorem mem_keys_iff (t : Table κ ν) (k : κ) : k ∈ t.keys ↔ (t.get? k).isSome := by
  rw [keys, List.mem_map, Option.isSome_iff_exists]
  constructor
  · intro h'
    obtain ⟨⟨a, v⟩, hm, rfl⟩ := h'
    exact ⟨v, (t.mem_entries_iff a v).mp hm⟩
  · intro h'
    obtain ⟨v, hv⟩ := h'
    exact ⟨(k, v), (t.mem_entries_iff k v).mpr hv, rfl⟩

theorem mem_values_iff (t : Table κ ν) (v : ν) : v ∈ t.values ↔ ∃ k, t.get? k = some v := by
  rw [values, List.mem_map]
  constructor
  · intro h'
    obtain ⟨⟨a, w⟩, hm, rfl⟩ := h'
    exact ⟨a, (t.mem_entries_iff a w).mp hm⟩
  · intro h'
    obtain ⟨k, hk⟩ := h'
    exact ⟨(k, v), (t.mem_entries_iff k v).mpr hk, rfl⟩

/-! ## Lookups after filters and maps -/

omit [DecidableEq κ] in
/-- Tables are equal if their entries are. -/
theorem eq_of_entries {t u : Table κ ν} (h : t.entries = u.entries) : t = u := by
  cases t
  cases u
  cases h
  rfl

@[simp] theorem get?_filter (t : Table κ ν) (p : κ → ν → Bool) (k : κ) :
    (t.filter p).get? k = (t.get? k).filter (p k) := by
  rw [Option.ext_iff]
  intro v
  rw [← mem_entries_iff, filter, List.mem_filter, mem_entries_iff, Option.filter_eq_some_iff]

theorem valueIn?_map {μ : Type} (f : ν → μ) (k : κ) (l : List (κ × ν)) :
    valueIn? k (l.map fun e => (e.1, f e.2)) = (valueIn? k l).map f := by
  induction l with
  | nil => rfl
  | cons e l ih =>
    by_cases h : e.1 = k
    · simp [valueIn?, h]
    · simpa [valueIn?, h] using ih

@[simp] theorem get?_mapValues {μ : Type} (t : Table κ ν) (f : ν → μ) (k : κ) :
    (t.mapValues f).get? k = (t.get? k).map f :=
  valueIn?_map f k t.entries

@[simp] theorem get?_modify (t : Table κ ν) (k a : κ) (f : ν → ν) :
    (t.modify k f).get? a = if a = k then (t.get? a).map f else t.get? a := by
  unfold modify
  cases h : t.get? k with
  | none =>
    by_cases ha : a = k
    · rw [if_pos ha, ha, h]; rfl
    · rw [if_neg ha]
  | some v =>
    rw [get?_insert]
    by_cases ha : a = k
    · rw [if_pos ha, if_pos ha, ha, h]; rfl
    · rw [if_neg ha, if_neg ha]

/-- Entries with distinct keys are written one after another: a lookup finds the new ones first. -/
theorem get?_foldl_insert {l : List (κ × ν)} (hl : (l.map Prod.fst).Nodup) (t : Table κ ν) (k : κ) :
    (l.foldl (fun t e => t.insert e.1 e.2) t).get? k = (valueIn? k l).or (t.get? k) := by
  induction l generalizing t with
  | nil => rfl
  | cons e l ih =>
    obtain ⟨a, v⟩ := e
    rw [List.map_cons, List.nodup_cons] at hl
    rw [List.foldl_cons, ih hl.2, get?_insert, valueIn?]
    by_cases h : a = k
    · have hnone : valueIn? k l = none := valueIn?_eq_none (h ▸ hl.1)
      rw [hnone, if_pos h, if_pos h.symm]
      rfl
    · rw [if_neg h, if_neg (Ne.symm h)]

omit [DecidableEq κ] in
theorem keys_filterMap_sublist {μ : Type} (f : ν → Option μ) (l : List (κ × ν)) :
    ((l.filterMap fun e => (f e.2).map (e.1, ·)).map Prod.fst).Sublist (l.map Prod.fst) := by
  induction l with
  | nil => exact List.Sublist.refl _
  | cons e l ih =>
    cases hf : f e.2 with
    | none => simpa [hf] using ih.cons e.1
    | some w => simpa [hf] using ih

/-- Where keys are distinct, dropping entries loses only what stands under their keys. -/
theorem valueIn?_filterMap {μ : Type} (f : ν → Option μ) {l : List (κ × ν)}
    (hl : (l.map Prod.fst).Nodup) (k : κ) :
    valueIn? k (l.filterMap fun e => (f e.2).map (e.1, ·)) = (valueIn? k l).bind f := by
  induction l with
  | nil => rfl
  | cons e l ih =>
    obtain ⟨a, v⟩ := e
    rw [List.map_cons, List.nodup_cons] at hl
    by_cases h : a = k
    · have hnone : valueIn? k l = none := valueIn?_eq_none (h ▸ hl.1)
      cases hf : f v with
      | none => simp [hf, valueIn?, h, ih hl.2, hnone]
      | some w => simp [hf, valueIn?, h]
    · cases hf : f v with
      | none => simp [hf, valueIn?, h, ih hl.2]
      | some w => simp [hf, valueIn?, h, ih hl.2]

/-! ## Operations that change nothing -/

theorem putEntry_eq_self {k : κ} {v : ν} {l : List (κ × ν)} (h : valueIn? k l = some v) :
    putEntry k v l = l := by
  induction l with
  | nil => simp [valueIn?] at h
  | cons e l ih =>
    obtain ⟨a, w⟩ := e
    by_cases ha : a = k
    · rw [valueIn?, if_pos ha, Option.some.injEq] at h
      rw [putEntry, if_pos ha, ha, h]
    · rw [valueIn?, if_neg ha] at h
      rw [putEntry, if_neg ha, ih h]

/-- Writing the value that is there already changes nothing. -/
theorem insert_eq_self {t : Table κ ν} {k : κ} {v : ν} (h : t.get? k = some v) :
    t.insert k v = t :=
  eq_of_entries (putEntry_eq_self h)

/-- A filter that every entry passes changes nothing. -/
theorem filter_eq_self {t : Table κ ν} {p : κ → ν → Bool}
    (h : ∀ k v, t.get? k = some v → p k v = true) : t.filter p = t := by
  apply eq_of_entries
  rw [filter, List.filter_eq_self]
  rintro ⟨k, v⟩ hm
  exact h k v ((t.mem_entries_iff k v).mp hm)

end OrmLens.Table
