/-
  What a manager or a query set offers, and the naming conventions that tell a collection from one
  record.
-/
import OrmLens.Text.Basic

namespace OrmLens.Framework

/-- What an operation hands back. -/
inductive Returns where
  /-- Another query set; chaining goes on. -/
  | querySet
  /-- One record. -/
  | record
  /-- Anything else: counts, tuples, dictionaries, iterators. -/
  | scalar
deriving DecidableEq, Repr

/-- An operation of a query set. -/
structure Operation where
  name : Text
  signature : Text
  doc : Text
  returns : Returns
deriving DecidableEq, Repr

/-- An operation in the order in which its parts are listed below. -/
def Operation.row (name signature : Text) (returns : Returns) (doc : Text) : Operation :=
  ⟨name, signature, doc, returns⟩

/-- The operations of every manager and query set, in the order in which they are offered. -/
def querySetOperations : List Operation := [
  .row "all" "() -> QuerySet" .querySet
    "Returns a copy of the current QuerySet",
  .row "filter" "(**kwargs) -> QuerySet" .querySet
    "Returns a new QuerySet containing objects that match the given lookup parameters",
  .row "exclude" "(**kwargs) -> QuerySet" .querySet
    "Returns a new QuerySet containing objects that do not match the given lookup parameters",
  .row "annotate" "(**kwargs) -> QuerySet" .querySet
    "Returns a QuerySet where each object has been annotated with the specified values",
  .row "order_by" "(*fields) -> QuerySet" .querySet
    "Returns a QuerySet ordered by the given fields",
  .row "reverse" "() -> QuerySet" .querySet
    "Reverses the ordering of the QuerySet",
  .row "distinct" "(*fields) -> QuerySet" .querySet
    "Returns a new QuerySet that uses SELECT DISTINCT",
  .row "values" "(*fields) -> QuerySet" .querySet
    "Returns a QuerySet that returns dictionaries when used as an iterable",
  .row "values_list" "(*fields, flat=False, named=False) -> QuerySet" .querySet
    "Returns a QuerySet that returns tuples when used as an iterable",
  .row "dates" "(field, kind, order=\"ASC\") -> QuerySet" .querySet
    "Returns a QuerySet that evaluates to a list of datetime.date objects",
  .row "datetimes" "(field, kind, order=\"ASC\", tzinfo=None) -> QuerySet" .querySet
    "Returns a QuerySet that evaluates to a list of datetime.datetime objects",
  .row "none" "() -> QuerySet" .querySet
    "Returns an empty QuerySet",
  .row "union" "(*other_qs, all=False) -> QuerySet" .querySet
    "Uses SQL's UNION operator to combine the results of two or more QuerySets",
  .row "intersection" "(*other_qs) -> QuerySet" .querySet
    "Uses SQL's INTERSECT operator to return the shared elements of two or more QuerySets",
  .row "difference" "(*other_qs) -> QuerySet" .querySet
    ("Uses SQL's EXCEPT operator to keep only elements present in the QuerySet but not in "
      ++ "some other QuerySets"),
  .row "select_related" "(*fields) -> QuerySet" .querySet
    "Returns a QuerySet that will follow foreign-key relationships",
  .row "prefetch_related" "(*lookups) -> QuerySet" .querySet
    "Returns a QuerySet that will automatically retrieve related objects",
  .row "extra"
    ("(select=None, where=None, params=None, tables=None, order_by=None, select_params=None)"
      ++ " -> QuerySet")
    .querySet
    "Adds raw SQL fragments to the generated query",
  .row "defer" "(*fields) -> QuerySet" .querySet
    "Tells Django not to retrieve specific fields from the database",
  .row "only" "(*fields) -> QuerySet" .querySet
    "The opposite of defer(): only the specified fields are loaded immediately",
  .row "using" "(alias) -> QuerySet" .querySet
    "Specifies which database the QuerySet should be evaluated against",
  .row "select_for_update" "(nowait=False, skip_locked=False, of=()) -> QuerySet" .querySet
    "Returns a queryset that will lock rows until the end of the transaction",
  .row "raw" "(raw_query, params=None, translations=None, using=None) -> RawQuerySet" .scalar
    "Performs a raw SQL query and returns a RawQuerySet instance",
  .row "get" "(**kwargs) -> Model" .record
    "Returns the object matching the given lookup parameters",
  .row "first" "() -> Model | None" .record
    "Returns the first object matched by the queryset",
  .row "last" "() -> Model | None" .record
    "Returns the last object matched by the queryset",
  .row "latest" "(*fields) -> Model" .record
    "Returns the latest object in the table based on the given field(s)",
  .row "earliest" "(*fields) -> Model" .record
    "Returns the earliest object in the table based on the given field(s)",
  .row "exists" "() -> bool" .scalar
    "Returns True if the QuerySet contains any results",
  .row "count" "() -> int" .scalar
    "Returns an integer representing the number of objects in the QuerySet",
  .row "aggregate" "(**kwargs) -> dict" .scalar
    "Returns a dictionary of aggregate values calculated over the QuerySet",
  .row "get_or_create" "(defaults=None, **kwargs) -> (Model, bool)" .scalar
    "Returns a tuple of (object, created)",
  .row "update_or_create" "(defaults=None, **kwargs) -> (Model, bool)" .scalar
    "Updates an object with the given kwargs, creating a new one if necessary",
  .row "bulk_create" "(objs, batch_size=None, ignore_conflicts=False) -> list" .scalar
    "Inserts the provided list of objects into the database",
  .row "bulk_update" "(objs, fields, batch_size=None) -> None" .scalar
    "Updates the given fields on the provided model instances",
  .row "in_bulk" "(id_list=None, *, field_name=\"pk\") -> dict" .scalar
    "Returns a dictionary mapping the values of field_name to model instances",
  .row "iterator" "(chunk_size=2000) -> Iterator" .scalar
    "Evaluates the QuerySet and returns an iterator over the results",
  .row "explain" "(*, format=None, **options) -> str" .scalar
    "Returns the execution plan of the QuerySet's query",
  .row "delete" "() -> (int, dict)" .scalar
    "Deletes the objects in the current QuerySet",
  .row "update" "(**kwargs) -> int" .scalar
    "Updates all objects in the QuerySet",
  .row "create" "(**kwargs) -> Model" .record
    "Creates an object and saves it all in one step"]

/-- What the manager of a reverse relation offers besides. -/
def relatedManagerOperations : List Operation := [
  .row "create" "(**kwargs) -> Model" .record
    "Creates a related object, saves it and links it to the owner",
  .row "add" "(*objs, bulk=True)" .scalar
    "Links the given objects to the owner",
  .row "remove" "(*objs, bulk=True)" .scalar
    "Unlinks the given objects from the owner",
  .row "clear" "(bulk=True)" .scalar
    "Unlinks every related object from the owner",
  .row "set" "(objs, bulk=True, clear=False)" .scalar
    "Replaces the set of related objects"]

/-- The query set operation with the name. -/
def querySetOperation? (name : Text) : Option Operation :=
  querySetOperations.find? (·.name = name)

/-- The operation with the name that a reverse relation's manager adds. -/
def relatedManagerOperation? (name : Text) : Option Operation :=
  relatedManagerOperations.find? (·.name = name)

/-- Operations whose arguments are field lookups. -/
def filterCalls : List Text :=
  ["filter", "exclude", "get", "annotate", "aggregate", "get_or_create", "update_or_create"]

/-- Name of the manager that every model has. -/
def defaultManager : Text := "objects"

/-- Endings of names that almost always hold a manager or a query set. -/
def managerEndings : List Text := ["_set", "_qs", "_queryset", "_manager", "objects"]

/-- Beginnings of method names that by convention return a collection. -/
def collectionBeginnings : List Text := ["filter", "all", "list_", "search", "get_all"]

/-- Endings of method names that by convention return a collection. -/
def collectionEndings : List Text := ["_list", "_set", "_qs", "_queryset"]

/-- Whether a method hands back many records, going by its name. -/
def isCollectionMethod (name : Text) : Bool :=
  collectionBeginnings.any (Text.startsWith name)
    || collectionEndings.any (Text.endsWith name)
    || (querySetOperation? name).any (·.returns == .querySet)

end OrmLens.Framework
