/-
  Tables: finite maps that remember the order in which their keys arrived.

  Writing to a key that is present replaces its value in place; a new key goes to the end; erasing
  keeps the order of the rest. Main statements: what a lookup finds after a write or an erasure.
-/

namespace OrmLens

/-- A map with distinct keys in order of arrival. -/
structure Table (κ ν : Type) where
  entries : List (κ × ν)
  nodup : (entries.map Prod.fst).Nodup := by simp
deriving Repr, DecidableEq

namespace Table

variable {κ ν : Type}

/-- The table without keys. -/
def empty : Table κ ν := { entries := [] }

instance : Inhabited (Table κ ν) := ⟨empty⟩

/-- The keys in order. -/
def keys (t : Table κ ν) : List κ := t.entries.map Prod.fst

/-- The values in the order of their keys. -/
def values (t : Table κ ν) : List ν := t.entries.map Prod.snd

/-- Number of keys. -/
def size (t : Table κ ν) : Nat := t.entries.length

theorem keys_nodup (t : Table κ ν) : t.keys.Nodup := t.nodup

variable [DecidableEq κ]

/-- The value of the first entry with key `k`. -/
def valueIn? (k : κ) : List (κ × ν) → Option ν
  | [] => none
  | (a, v) :: rest => if a = k then some v else valueIn? k rest

/-- The value at a key. -/
def get? (t : Table κ ν) (k : κ) : Option ν := valueIn? k t.entries

/-- Whether a key is present. -/
def has (t : Table κ ν) (k : κ) : Bool := (t.get? k).isSome

/-- Replaces the value at `k` in place, or puts `k` last. -/
def putEntry (k : κ) (v : ν) : List (κ × ν) → List (κ × ν)
  | [] => [(k, v)]
  | (a, b) :: rest => if a = k then (k, v) :: rest else (a, b) :: putEntry k v rest

theorem mem_keys_putEntry (k a : κ) (v : ν) (l : List (κ × ν)) :
    a ∈ (putEntry k v l).map Prod.fst ↔ a = k ∨ a ∈ l.map Prod.fst := by
  induction l with
  | nil => simp [putEntry]
  | cons e l ih =>
    obtain ⟨b, w⟩ := e
    by_cases h : b = k
    · subst h; simp [putEntry]
    · simp only [putEntry, h, if_false, List.map_cons, List.mem_cons, ih]
      constructor
      · rintro (rfl | rfl | h') <;> simp_all
      · rintro (rfl | rfl | h') <;> simp_all

theorem nodup_putEntry (k : κ) (v : ν) {l : List (κ × ν)} (h : (l.map Prod.fst).Nodup) :
    ((putEntry k v l).map Prod.fst).Nodup := by
  induction l with
  | nil => simp [putEntry]
  | cons e l ih =>
    obtain ⟨b, w⟩ := e
    simp only [List.map_cons, List.nodup_cons] at h
    by_cases hb : b = k
    · subst hb; simpa [putEntry] using h
    · simp only [putEntry, hb, if_false, List.map_cons, List.nodup_cons]
      refine ⟨?_, ih h.2⟩
      rw [mem_keys_putEntry]
      rintro (h' | h')
      · exact hb h'
      · exact h.1 h'

/-- Writes a value: in place if the key is present, else at the end. -/
def insert (t : Table κ ν) (k : κ) (v : ν) : Table κ ν where
  entries := putEntry k v t.entries
  nodup := nodup_putEntry k v t.nodup

/-- Keeps the entries that satisfy `p`. -/
def filter (t : Table κ ν) (p : κ → ν → Bool) : Table κ ν where
  entries := t.entries.filter fun e => p e.1 e.2
  nodup := List.Nodup.sublist (List.filter_sublist.map Prod.fst) t.nodup

/-- Drops a key; the rest keeps its order. -/
def erase (t : Table κ ν) (k : κ) : Table κ ν := t.filter fun a _ => a ≠ k

/-- Applies a function to every value. -/
def mapValues (t : Table κ ν) {μ : Type} (f : ν → μ) : Table κ μ where
  entries := t.entries.map fun e => (e.1, f e.2)
  nodup := by
    have h : (t.entries.map fun e => (e.1, f e.2)).map Prod.fst = t.entries.map Prod.fst := by
      simp
    rw [h]; exact t.nodup

/-- Applies a function to the value at a key, if the key is present. -/
def modify (t : Table κ ν) (k : κ) (f : ν → ν) : Table κ ν :=
  match t.get? k with
  | some v => t.insert k (f v)
  | none => t

/-- Writes a list of entries one after another. -/
def ofList (l : List (κ × ν)) : Table κ ν := l.foldl (fun t e => t.insert e.1 e.2) empty

/-! ## Lookups after writes -/

theorem valueIn?_putEntry (k a : κ) (v : ν) (l : List (κ × ν)) :
    valueIn? a (putEntry k v l) = if a = k then some v else valueIn? a l := by
  induction l with
  | nil => by_cases h : k = a <;> simp [putEntry, valueIn?, h, eq_comm]
  | cons e l ih =>
    obtain ⟨b, w⟩ := e
    by_cases hb : b = k
    · subst hb
      by_cases h : b = a
      · simp [putEntry, valueIn?, h]
      · simp [putEntry, valueIn?, h, Ne.symm h]
    · by_cases hab : b = a
      · subst hab; simp [putEntry, valueIn?, hb]
      · simp [putEntry, valueIn?, hb, hab, ih]

@[simp] theorem get?_insert (t : Table κ ν) (k a : κ) (v : ν) :
    (t.insert k v).get? a = if a = k then some v else t.get? a :=
  valueIn?_putEntry k a v t.entries

@[simp] theorem get?_empty (a : κ) : (empty : Table κ ν).get? a = none := rfl

theorem valueIn?_filter_ne (k a : κ) (l : List (κ × ν)) :
    valueIn? a (l.filter fun e => decide (e.1 ≠ k)) = if a = k then none else valueIn? a l := by
  induction l with
  | nil => simp [valueIn?]
  | cons e l ih =>
    obtain ⟨b, w⟩ := e
    by_cases hb : b = k
    · subst hb
      by_cases h : a = b
      · simpa [h] using ih
      · simpa [h, valueIn?, Ne.symm h] using ih
    · by_cases hab : b = a
      · subst hab; simp [valueIn?, hb]
      · simpa [hb, valueIn?, hab] using ih

@[simp] theorem get?_erase (t : Table κ ν) (k a : κ) :
    (t.erase k).get? a = if a = k then none else t.get? a := by
  simpa [erase, filter, get?] using valueIn?_filter_ne k a t.entries

end Table

end OrmLens
