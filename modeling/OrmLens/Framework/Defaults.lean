/-
  What every model has without declaring it.
-/
import OrmLens.Text.Basic

namespace OrmLens.Framework

/-- Bases that only mark a class as a model and bring no members. -/
def frameworkBases : List Text := ["models.Model", "Model", "django.db.models.Model", "object"]

/-- Methods that a model overrides rather than adds; they are never recorded from source. -/
def lifecycleMethods : List Text := ["save", "delete", "clean", "full_clean", "get_absolute_url"]

/-- A method that every model has. -/
structure DefaultMethod where
  name : Text
  params : List Text
  doc : Text
deriving DecidableEq, Repr

/-- The methods of every instance. -/
def defaultMethods : List DefaultMethod := [
  ⟨"save",
    ["force_insert=False", "force_update=False", "using=DEFAULT_DB_ALIAS", "update_fields=None"],
    "Saves the current instance"⟩,
  ⟨"delete", ["using=DEFAULT_DB_ALIAS", "keep_parents=False"], "Deletes the current instance"⟩,
  ⟨"get_absolute_url", [], "Returns the canonical URL for the object"⟩,
  ⟨"clean", [], "Hook for custom model validation"⟩,
  ⟨"full_clean", ["exclude=None", "validate_unique=True"],
    "Calls clean_fields(), clean(), and validate_unique() on the model"⟩]

/-- The properties of every instance. -/
def defaultProperties : List Text := ["pk", "id"]

/-- Bases at which the search for manager methods stops. -/
def managerBases : List Text := ["Manager", "QuerySet", "BaseManager"]

end OrmLens.Framework
