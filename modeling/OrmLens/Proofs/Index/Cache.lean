/-
  Entries of the cache.

  No operation but `put` makes an entry or changes one: making room, evicting and configuring only
  drop some (`entries_configure`, `entries_evict`). After `put`, the entry of the unit is the one
  just written (`entries_put_self`), and every other entry was there before (`entries_put_ne`).
-/
import OrmLens.Index.Cache
import OrmLens.Proofs.Table

namespace OrmLens.Index.Cache

theorem entries_evictOldest {c : Cache} {u : Text} {e : CacheEntry}
    (h : c.evictOldest.entries.get? u = some e) : c.entries.get? u = some e := by
  unfold evictOldest at h
  split at h
  · exact h
  · rw [Table.get?_erase] at h
    split at h
    · cases h
    · exact h

theorem entries_shrink {count : Nat} {c : Cache} {u : Text} {e : CacheEntry}
    (h : (shrink count c).entries.get? u = some e) : c.entries.get? u = some e := by
  induction count generalizing c with
  | zero => exact h
  | succ count ih => exact entries_evictOldest (ih h)

theorem entries_configure {c : Cache} {capacity ttl : Nat} {u : Text} {e : CacheEntry}
    (h : (c.configure capacity ttl).entries.get? u = some e) : c.entries.get? u = some e :=
  entries_shrink (c := { c with capacity := max capacity 1, ttl }) h

theorem entries_makeRoom {c : Cache} {path u : Text} {e : CacheEntry}
    (h : (c.makeRoom path).entries.get? u = some e) : c.entries.get? u = some e := by
  unfold makeRoom at h
  split at h
  · exact h
  · split at h
    · exact entries_evictOldest h
    · exact h

@[simp] theorem entries_put_self (c : Cache) (now : Nat) (path content : Text)
    (entities : List Text) :
    (c.put now path content entities).entries.get? path = some ⟨content, now, entities⟩ := by
  simp [put]

theorem entries_put_ne {c : Cache} {now : Nat} {path content u : Text} {entities : List Text}
    {e : CacheEntry} (hu : u ≠ path)
    (h : (c.put now path content entities).entries.get? u = some e) :
    c.entries.get? u = some e := by
  unfold put at h
  rw [Table.get?_insert, if_neg hu] at h
  exact entries_makeRoom h

@[simp] theorem entries_evict (c : Cache) (path u : Text) :
    (c.evict path).entries.get? u = if u = path then none else c.entries.get? u :=
  Table.get?_erase c.entries path u

end OrmLens.Index.Cache
