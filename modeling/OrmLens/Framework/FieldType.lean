/-
  Field types and the lookup operators they support.

  An unknown type is still a field; it supports the common lookups.
-/
import OrmLens.Text.Basic

namespace OrmLens.Framework

/-- Declared type of the field that a relation puts on its target. -/
def reverseCollection : Text := "reverse-collection"

/-- What kind of relation a field declares. -/
inductive RelationKind where
  /-- `ForeignKey` -/
  | toOne
  /-- `OneToOneField` -/
  | toOneUnique
  /-- `ManyToManyField` -/
  | toMany
deriving DecidableEq, Repr

/-- The relation that a declared type stands for. -/
def RelationKind.of? (declaredType : Text) : Option RelationKind :=
  if declaredType = "ForeignKey" then some .toOne
  else if declaredType = "OneToOneField" then some .toOneUnique
  else if declaredType = "ManyToManyField" then some .toMany
  else none

/-- Whether a declared type is a relation. -/
def isRelational (declaredType : Text) : Bool := (RelationKind.of? declaredType).isSome

/-- Types that support the same lookups. -/
inductive LookupFamily where
  | plain
  | text
  | numeric
  | date
  | dateTime
  | time
  | duration
  | json
  | toOne
  | toMany
  | reverse
deriving DecidableEq, Repr

/-- Lookups of every plain value. -/
def commonLookups : List Text :=
  ["exact", "iexact", "contains", "icontains", "in", "gt", "gte", "lt", "lte", "isnull"]

/-- Lookups that a family adds to the common ones. -/
def LookupFamily.ownLookups : LookupFamily → List Text
  | .plain => []
  | .text =>
    ["startswith", "istartswith", "endswith", "iendswith", "regex", "iregex"]
  | .numeric | .duration => ["range"]
  | .date =>
    ["year", "month", "day", "week", "week_day", "quarter", "range"]
  | .dateTime =>
    ["year", "month", "day", "week", "week_day", "quarter", "hour", "minute", "second", "range",
     "date", "time"]
  | .time => ["hour", "minute", "second", "range"]
  | .json =>
    ["has_key", "has_keys", "has_any_keys", "contained_by", "contains"]
  | .toOne | .reverse => ["exact", "in", "isnull"]
  | .toMany => ["exact", "in"]

/-- Whether a family's values are related records, which have no common lookups. -/
def LookupFamily.isRelated : LookupFamily → Bool
  | .toOne | .toMany | .reverse => true
  | _ => false

/-- Keeps the first occurrence of every item. -/
def distinctFrom (seen : List Text) : List Text → List Text
  | [] => []
  | item :: rest =>
    if seen.contains item then distinctFrom seen rest else item :: distinctFrom (item :: seen) rest

/-- The lookups of a family, the common ones first, none twice. -/
def LookupFamily.lookups (family : LookupFamily) : List Text :=
  if family.isRelated then family.ownLookups
  else distinctFrom [] (commonLookups ++ family.ownLookups)

/-- A known field type. -/
structure FieldType where
  name : Text
  family : LookupFamily
  description : Text
deriving DecidableEq, Repr

/-- The known field types in alphabetical order; the type of reverse fields, which no source names,
    comes last. -/
def fieldTypes : List FieldType := [
  ⟨"AutoField", .numeric,
    "An IntegerField that automatically increments"⟩,
  ⟨"BigAutoField", .numeric,
    "A 64-bit AutoField"⟩,
  ⟨"BigIntegerField", .numeric,
    "A 64-bit integer field"⟩,
  ⟨"BinaryField", .plain,
    "A field to store raw binary data"⟩,
  ⟨"BooleanField", .plain,
    "A true/false field"⟩,
  ⟨"CharField", .text,
    "A string field, for small- to large-sized strings"⟩,
  ⟨"DateField", .date,
    "A date, represented in Python by a datetime.date instance"⟩,
  ⟨"DateTimeField", .dateTime,
    "A date and time, represented in Python by a datetime.datetime instance"⟩,
  ⟨"DecimalField", .numeric,
    "A fixed-precision decimal number"⟩,
  ⟨"DurationField", .duration,
    "A field for storing periods of time"⟩,
  ⟨"EmailField", .text,
    "A CharField that checks that the value is a valid email address"⟩,
  ⟨"FileField", .plain,
    "A file-upload field"⟩,
  ⟨"FilePathField", .text,
    "A CharField whose choices are limited to the filenames in a certain directory"⟩,
  ⟨"FloatField", .numeric,
    "A floating-point number represented in Python by a float instance"⟩,
  ⟨"ForeignKey", .toOne,
    "A many-to-one relationship"⟩,
  ⟨"GenericIPAddressField", .text,
    "An IPv4 or IPv6 address"⟩,
  ⟨"ImageField", .plain,
    "An image file field"⟩,
  ⟨"IntegerField", .numeric,
    "An integer field"⟩,
  ⟨"JSONField", .json,
    "A field for storing JSON encoded data"⟩,
  ⟨"ManyToManyField", .toMany,
    "A many-to-many relationship"⟩,
  ⟨"NullBooleanField", .plain,
    "A field that allows NULL, True, and False values"⟩,
  ⟨"OneToOneField", .toOne,
    "A one-to-one relationship"⟩,
  ⟨"PositiveBigIntegerField", .numeric,
    "A 64-bit integer field that must be positive"⟩,
  ⟨"PositiveIntegerField", .numeric,
    "An integer field that must be positive"⟩,
  ⟨"PositiveSmallIntegerField", .numeric,
    "A small integer field that must be positive"⟩,
  ⟨"SlugField", .text,
    "A CharField that validates against letters, numbers, underscores, and hyphens"⟩,
  ⟨"SmallIntegerField", .numeric,
    "A small integer field"⟩,
  ⟨"TextField", .text,
    "A large text field"⟩,
  ⟨"TimeField", .time,
    "A time, represented in Python by a datetime.time instance"⟩,
  ⟨"URLField", .text,
    "A CharField for a URL"⟩,
  ⟨"UUIDField", .plain,
    "A field for storing universally unique identifiers"⟩,
  ⟨"reverse-collection", .reverse,
    "Objects of another model pointing at this one"⟩]

/-- The types that a source can name. -/
def declarableTypes : List FieldType := fieldTypes.filter (·.name ≠ reverseCollection)

/-- The known type with the name. -/
def fieldType? (name : Text) : Option FieldType := fieldTypes.find? (·.name = name)

/-- The lookup family of a declared type. -/
def lookupFamily (declaredType : Text) : LookupFamily :=
  match fieldType? declaredType with
  | some type => type.family
  | none => .plain

/-- The lookup operators of a declared type. -/
def lookupOperators (declaredType : Text) : List Text := (lookupFamily declaredType).lookups

end OrmLens.Framework
