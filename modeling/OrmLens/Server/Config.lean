/-
  Configurations as clients send them.

  A section is an object, of which unknown keys are ignored and null counts as absent, or a list
  of all its parts in order. A part of the wrong kind or out of range makes the whole
  configuration invalid.
-/
import OrmLens.Server.Shape
import OrmLens.Settings

namespace OrmLens.Config

open Number
open Server.Shape (maybe parts nat32 nat64)

/-- The key under which clients keep the settings of this server. -/
def sectionName : Text := "django-lsp"

/-- What a configuration looks like. -/
def shape : Server.Shape :=
  parts [
    maybe "completions" (parts [maybe "limit" nat32]),
    maybe "resolver" (parts [maybe "lookBack" nat32]),
    maybe "cache" (parts [maybe "ttlMs" nat64, maybe "capacity" nat64]),
    maybe "models" (parts [maybe "globs" (.list .text)])]

/-- The texts of a list. -/
def texts? (j : Json) : Option (List Text) := j.items?.bind (List.mapM Json.text?)

/-- A configuration without the key of this server around it. -/
def ofSections? (j : Json) : Option Config :=
  (shape.read? j).map fun sections => {
    completionLimit := (sections.under? ["completions", "limit"]).bind (Json.nat? word32)
    lookBack := (sections.under? ["resolver", "lookBack"]).bind (Json.nat? word32)
    cacheTtl := (sections.under? ["cache", "ttlMs"]).bind (Json.nat? word64)
    cacheCapacity := (sections.under? ["cache", "capacity"]).bind (Json.nat? word64)
    modelGlobs := (sections.under? ["models", "globs"]).bind texts? }

/-- A configuration, which may stand under the key of this server. -/
def ofJson? (j : Json) : Option Config := ofSections? ((j.get? sectionName).getD j)

end OrmLens.Config
