/-
  Settings, and the partial configurations that change them.
-/
import OrmLens.Text.Basic

namespace OrmLens

/-- The settings in force. -/
structure Settings where
  /-- Most candidates in one completion. -/
  completionLimit : Nat := 500
  /-- Lines before the cursor in which names are bound. -/
  lookBack : Nat := 100
  /-- Milliseconds for which a cached unit counts as fresh. -/
  cacheTtl : Nat := 5000
  /-- Most units in the cache. -/
  cacheCapacity : Nat := 1000
  /-- Patterns of the units that hold models. -/
  modelGlobs : List Text := ["**/models.py", "**/models/*.py"]
deriving DecidableEq, Repr

/-- A configuration: each part may be left out. -/
structure Config where
  completionLimit : Option Nat := none
  lookBack : Option Nat := none
  cacheTtl : Option Nat := none
  cacheCapacity : Option Nat := none
  modelGlobs : Option (List Text) := none
deriving DecidableEq, Repr

/-- The settings with the given parts of a configuration. -/
def Settings.merge (s : Settings) (c : Config) : Settings where
  completionLimit := c.completionLimit.getD s.completionLimit
  lookBack := c.lookBack.getD s.lookBack
  cacheTtl := c.cacheTtl.getD s.cacheTtl
  cacheCapacity := c.cacheCapacity.getD s.cacheCapacity
  modelGlobs := c.modelGlobs.getD s.modelGlobs

end OrmLens
