/-
  The index of a workspace: graph, cache and settings.

  A commit replaces all that a unit contributed. An entity that another unit defines too is taken
  over; the index remembers which unit lost it, and reports that unit for another analysis once
  the definition that won is gone.
-/
import OrmLens.Index.Cache
import OrmLens.Index.Graph
import OrmLens.Settings

namespace OrmLens.Index

open Model

/-- The state of the analysis. -/
structure State where
  graph : Graph := {}
  cache : Cache
  settings : Settings
  /-- For an entity taken over: the unit that lost it. -/
  shadowed : Table Text Text := Table.empty
  /-- The present time in milliseconds. -/
  now : Nat := 0
deriving DecidableEq, Repr

namespace State

/-- The empty index. -/
def new (settings : Settings) : State :=
  { cache := Cache.new settings.cacheCapacity settings.cacheTtl, settings }

/-- Puts other settings in force. -/
def configure (s : State) (settings : Settings) : State :=
  { s with cache := s.cache.configure settings.cacheCapacity settings.cacheTtl, settings }

/-- Lets time pass. -/
def wait (s : State) (milliseconds : Nat) : State := { s with now := s.now + milliseconds }

/-- Whether the graph holds exactly this content for the unit. -/
def isFresh (s : State) (path content : Text) : Bool := s.cache.isFresh s.now path content

/-- Takes an entity of the unit `path` into the graph. If another unit had it, that unit leaves the
    cache, the loss is recorded, and the relations of its definition go. -/
def adopt (path : Text) (s : State) (e : Entity) : State :=
  let graph := s.graph.insert e
  match s.graph.entity? e.name with
  | none => { s with graph }
  | some old =>
    if old.unit = path then { s with graph }
    else
      { s with
        graph := { graph with
          relations := graph.relations.modify old.unit (·.filter (·.source ≠ old.name)) }
        cache := s.cache.evict old.unit
        shadowed := s.shadowed.insert old.name old.unit }

/-- The units that lost an entity which now has no definition, each once. -/
def orphans (s : State) : List Text :=
  let lost := s.shadowed.entries.filter fun e => (s.graph.entity? e.1).isNone
  Named.mergeAll [] (lost.map Prod.snd)

/-- Drops the records of losses that no longer hold. -/
def settleShadows (s : State) : State :=
  { s with shadowed := s.shadowed.filter fun name unit =>
      (s.graph.entity? name).any (·.unit ≠ unit) }

/-- Replaces all that a unit contributed. Returns the units to be analyzed again. -/
def commit (s : State) (schema : Schema) (content : Text) : State × List Text :=
  let s := { s with graph := s.graph.removeEntitiesOf schema.path }
  let s := schema.entities.foldl (adopt schema.path) s
  let graph := { s.graph with relations := s.graph.relations.insert schema.path schema.relations }
  let s := { s with
    graph := graph.rebuild
    cache := s.cache.put s.now schema.path content schema.names }
  (s.settleShadows, s.orphans)

/-- Forgets a unit. Returns the units to be analyzed again. -/
def remove (s : State) (path : Text) : State × List Text :=
  let graph := s.graph.removeEntitiesOf path
  let graph := { graph with relations := graph.relations.erase path }
  let s := { s with graph := graph.rebuild, cache := s.cache.evict path }
  (s.settleShadows, s.orphans)

/-- Analyzes a text and commits the result, unless the cache has it. -/
def analyze (s : State) (path text : Text) : State :=
  if s.isFresh path text then s else (s.commit (Schema.extract path text) text).1

end State

end OrmLens.Index
