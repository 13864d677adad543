import Laminate.Form.Names

/-! Struct tags: the serialized key, the column of the database in use, then custom tags. -/
namespace Laminate.Form

open Laminate.Text Laminate.Schema Laminate.Annotation

/-- One `key:"value"` part of a struct tag. -/
structure TagPart where
  key : String
  value : String
  deriving Repr, DecidableEq, Inhabited

def TagPart.text (part : TagPart) : String := part.key ++ ":\"" ++ part.value ++ "\""

def omitEmpty (allowEmpty : Bool) : String := if allowEmpty then "" else ",omitempty"

def jsonTag (key : String) (allowEmpty : Bool) : TagPart := ⟨"json", key ++ omitEmpty allowEmpty⟩

/-- What a column tag is made from. -/
structure Column where
  /-- Key in the domain layer. -/
  key : String
  /-- Identifier in the domain struct. -/
  domainName : String
  options : Option ColumnOptions
  allowEmpty : Bool
  deriving Repr, DecidableEq, Inhabited

namespace Column

variable (column : Column)

def isIgnored : Bool := column.options.any (·.ignore)

def givenName : Option String := column.options.bind fun o => said o.columnName

/-- In a document store the field `id` is stored as `_id`. -/
def documentTag : TagPart :=
  if column.isIgnored then ⟨"bson", "-"⟩
  else
    let name := column.givenName.getD column.key
    ⟨"bson", (if name = "id" then "_id" else name) ++ omitEmpty column.allowEmpty⟩

/-- The switches of a column in a relational store. -/
def switches (options : ColumnOptions) : List String :=
  (if options.primaryKey then ["primaryKey"] else []) ++
  (if options.autoIncrement then ["autoIncrement"] else []) ++
  (if options.unique then ["unique"] else []) ++
  (if options.index then ["index"] else [])

def relationalTag : TagPart :=
  if column.isIgnored then ⟨"gorm", "-"⟩
  else
    let name := column.givenName.getD (snakeCase column.domainName)
    ⟨"gorm", ";".intercalate (("column:" ++ name) :: (column.options.map switches).getD [])⟩

/-- The tag of a column in a database. -/
def tag (database : Database) : Option TagPart :=
  match database with
  | .none => none
  | .document => some column.documentTag
  | .relational => some column.relationalTag

end Column

/-- The tag of a field in each layer, part by part. -/
structure FieldTags where
  domain : List TagPart
  inbound : List TagPart
  outbound : List TagPart
  deriving Repr, DecidableEq, Inhabited

/-- The parts of a tag with single spaces between them. -/
def tagText (parts : List TagPart) : String := " ".intercalate (parts.map TagPart.text)

def FieldTags.of (database : Database) (field : Field) (names : FieldNames) (keys : FieldKeys) :
    FieldTags :=
  let options := field.options
  let domainEmpty := options.domain.any (·.allowEmpty)
  let custom := options.tags.map fun t => TagPart.mk t.name t.value
  let column : Column := ⟨keys.domain, names.domain, options.column, domainEmpty⟩
  { domain := jsonTag keys.domain domainEmpty :: (column.tag database).toList ++ custom
    inbound := jsonTag keys.inbound (options.inbound.any (·.allowEmpty)) :: custom
    outbound := jsonTag keys.outbound (options.outbound.any (·.allowEmpty)) :: custom }

end Laminate.Form
