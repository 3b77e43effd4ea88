/-
  The cache of analyzed units: which content each unit was last analyzed with.

  An entry answers one question: is this exactly what the graph holds already? When the cache is
  full, the unit whose last write is the oldest makes room.
-/
import OrmLens.Table
import OrmLens.Text.Basic

namespace OrmLens.Index

/-- What is remembered of a unit. -/
structure CacheEntry where
  content : Text
  /-- The time of writing, in milliseconds. -/
  writtenAt : Nat
  /-- The models that the unit contributed. -/
  entities : List Text
deriving DecidableEq, Repr

/-- Entries by unit, and the units from the oldest write to the newest. -/
structure Cache where
  entries : Table Text CacheEntry := Table.empty
  order : List Text := []
  capacity : Nat
  ttl : Nat
deriving DecidableEq, Repr

namespace Cache

/-- An empty cache. It holds at least one unit, whatever the capacity asked for. -/
def new (capacity ttl : Nat) : Cache := { capacity := max capacity 1, ttl }

/-- Number of units held. -/
def size (c : Cache) : Nat := c.entries.size

/-- Whether the unit was analyzed with this content, not too long before `now`. -/
def isFresh (c : Cache) (now : Nat) (path content : Text) : Bool :=
  (c.entries.get? path).any fun e => e.content = content && now - e.writtenAt < c.ttl

/-- The models that a cached unit contributed. -/
def entities? (c : Cache) (path : Text) : Option (List Text) :=
  (c.entries.get? path).map (·.entities)

/-- Drops the unit whose last write is the oldest. -/
def evictOldest (c : Cache) : Cache :=
  match c.order with
  | [] => c
  | oldest :: rest => { c with entries := c.entries.erase oldest, order := rest }

/-- Drops the oldest units, `count` of them. -/
def shrink : Nat → Cache → Cache
  | 0, c => c
  | count + 1, c => shrink count c.evictOldest

/-- Changes capacity and lifetime; what no longer fits goes, the oldest first. -/
def configure (c : Cache) (capacity ttl : Nat) : Cache :=
  let c := { c with capacity := max capacity 1, ttl }
  shrink (c.size - c.capacity) c

/-- Makes room for a unit that is written now. -/
def makeRoom (c : Cache) (path : Text) : Cache :=
  if c.entries.has path then { c with order := c.order.filter (· ≠ path) }
  else if c.capacity ≤ c.size then c.evictOldest
  else c

/-- Remembers a unit. -/
def put (c : Cache) (now : Nat) (path content : Text) (entities : List Text) : Cache :=
  let c := c.makeRoom path
  { c with
    entries := c.entries.insert path ⟨content, now, entities⟩
    order := c.order ++ [path] }

/-- Forgets a unit. -/
def evict (c : Cache) (path : Text) : Cache :=
  { c with entries := c.entries.erase path, order := c.order.filter (· ≠ path) }

end Cache

end OrmLens.Index
