/-
  Lists that stop growing at a limit. What does not fit is left out, and what was taken stays in
  its order.
-/

namespace OrmLens

/-- At most `limit` items. -/
structure Bounded (α : Type) where
  limit : Nat
  items : List α := []
  fits : items.length ≤ limit := by simp
deriving Repr

namespace Bounded

variable {α : Type}

/-- Whether one more item fits. -/
def hasSpace (b : Bounded α) : Bool := b.items.length < b.limit

/-- Adds as many items as fit. -/
def extend (b : Bounded α) (xs : List α) : Bounded α where
  limit := b.limit
  items := b.items ++ xs.take (b.limit - b.items.length)
  fits := by
    have h := b.fits
    simp only [List.length_append, List.length_take]
    omega

/-- Adds an item if it fits. -/
def push (b : Bounded α) (x : α) : Bounded α := b.extend [x]

theorem items_extend (b : Bounded α) (xs : List α) :
    (b.extend xs).items = b.items ++ xs.take (b.limit - b.items.length) := rfl

theorem items_push (b : Bounded α) (x : α) : (b.push x).items = (b.items ++ [x]).take b.limit := by
  rw [push, items_extend, List.take_append, List.take_of_length_le b.fits]

end Bounded

end OrmLens
