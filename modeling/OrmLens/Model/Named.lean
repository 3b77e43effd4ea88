/-
  Lists of named things in which a name is meant to occur once. Two ways to add: `upsert` lets the
  newcomer win and keeps the place, `merge` lets the present one win.
-/
import OrmLens.Text.Basic

namespace OrmLens.Model

/-- Things that go by a name. -/
class Named (α : Type) where
  nameOf : α → Text

instance : Named Text := ⟨id⟩

namespace Named

variable {α : Type} [Named α]

/-- The first thing with the name. -/
def find? (items : List α) (name : Text) : Option α := items.find? (nameOf · = name)

/-- Whether the name is taken. -/
def taken (items : List α) (name : Text) : Bool := items.any (nameOf · = name)

/-- Replaces the thing of the same name in place, or adds the new one at the end. -/
def upsert : List α → α → List α
  | [], x => [x]
  | y :: items, x => if nameOf y = nameOf x then x :: items else y :: upsert items x

/-- Adds at the end unless the name is taken. -/
def merge (items : List α) (x : α) : List α :=
  if taken items (nameOf x) then items else items ++ [x]

/-- Merges one thing after another. -/
def mergeAll (items news : List α) : List α := news.foldl merge items

/-- Everything but the things with the name. -/
def without (items : List α) (name : Text) : List α := items.filter (nameOf · ≠ name)

/-! ## Names -/

/-- The names in order. -/
def names (items : List α) : List Text := items.map nameOf

theorem names_upsert (items : List α) (x : α) :
    names (upsert items x) = if nameOf x ∈ names items then names items
      else names items ++ [nameOf x] := by
  induction items with
  | nil => simp [upsert, names]
  | cons y items ih =>
    by_cases h : nameOf y = nameOf x
    · simp [upsert, names, h]
    · simp only [names] at ih
      simp only [upsert, h, if_false, names, List.map_cons, ih, List.mem_cons]
      by_cases hx : nameOf x ∈ items.map nameOf
      · simp [hx]
      · simp [hx, Ne.symm h]

theorem taken_iff (items : List α) (name : Text) :
    taken items name = true ↔ name ∈ names items := by
  simp [taken, names]

theorem nodup_merge {items : List α} (h : (names items).Nodup) (x : α) :
    (names (merge items x)).Nodup := by
  by_cases hx : taken items (nameOf x) = true
  · simpa [merge, hx] using h
  · have hn : nameOf x ∉ names items := fun hm => hx ((taken_iff items _).2 hm)
    have he : names (merge items x) = names items ++ [nameOf x] := by simp [merge, hx, names]
    rw [he]
    refine List.nodup_append.2 ⟨h, by simp, ?_⟩
    intro a ha b hb hab
    exact hn (List.mem_singleton.1 hb ▸ hab ▸ ha)

theorem nodup_mergeAll {items : List α} (h : (names items).Nodup) (news : List α) :
    (names (mergeAll items news)).Nodup := by
  induction news generalizing items with
  | nil => exact h
  | cons x news ih => exact ih (nodup_merge h x)

end Named

end OrmLens.Model
