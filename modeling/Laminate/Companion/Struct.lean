import Laminate.Companion.Grammar.Type
import Laminate.Companion.Quoted
import Laminate.Companion.Type
import Laminate.Form.Plan
import Laminate.Code.File

/-! Domain structs of the companion file. They have the keys and the emptiness of the domain
structs in the main language. Their types are laid out as they are read, by whatever reads them. -/
namespace Laminate.Companion

open Laminate.Text Laminate.Form

structure StructField where
  name : String
  /-- Name in the serialized form. -/
  key : String
  /-- Left out of the serialized form when there is no value. -/
  skipsNone : Bool
  type : TypeExpr
  /-- The type as it is written. -/
  layout : Doc
  deriving Repr, Inhabited

structure Struct where
  name : String
  /-- The message it is a form of. -/
  wire : String
  fields : List StructField
  deriving Repr, Inhabited

section

variable (read : String → Option Doc)

/-- The field made from a planned field with a domain type, whose text is given to `read`. -/
def StructField.of (field : PlannedField) (domain : Code.TypeRef) :
    Except GenError StructField :=
  match fieldName? field.names.domain with
  | none => .error .unspeakable
  | some name =>
    let type := TypeExpr.ofType domain
    match read type.text with
    | none => .error (.code (.companionType field.field.path type.text))
    | some layout => .ok {
        name := name
        key := field.keys.domain
        skipsNone := domain.isPointer && !field.field.options.domain.any (·.allowEmpty)
        type := type
        layout := layout }

def Struct.of (message : PlannedMessage) : Except GenError Struct :=
  let names := message.message.names
  match typeName? names.domain with
  | none => .error .unspeakable
  | some name =>
    let typed := message.fields.filterMap fun f => f.domain.map (f, ·)
    (typed.mapM fun (field, type) => StructField.of read field type).map (⟨name, names.wire, ·⟩)

end

/-- Attribute that fixes a field's serialized form. -/
def StructField.attribute (field : StructField) : Doc :=
  .bracketed "#[serde("
    (([some ("rename = " ++ stringLiteral field.key), some "default",
      if field.skipsNone then some "skip_serializing_if = \"Option::is_none\"" else none].filterMap
        id).map .text)
    ")]" false

def StructField.text (field : StructField) : String :=
  field.attribute.line 4 "" "" ++ field.layout.line 4 ("pub " ++ field.name ++ ": ") ","

def Struct.text (s : Struct) : String :=
  documentation (" Domain form of `" ++ s.wire ++ "`.") ++
    "#[derive(Debug, Clone, Default, PartialEq, serde::Serialize, serde::Deserialize)]\n" ++
    "pub struct " ++ s.name ++ " \x7b" ++
    (if s.fields.isEmpty then "" else "\n" ++ String.join (s.fields.map StructField.text)) ++
    "\x7d\n"

/-- Whether all the types in it can be laid out. -/
def Struct.isPrintable (s : Struct) : Bool := s.fields.all (·.layout.isPrintable)

/-- The structs of a plan, in the order of its domain messages, with types as `read` reads them. -/
def structsBy (read : String → Option Doc) (plan : Plan) : Except GenError (List Struct) :=
  match plan.domainMessages.mapM (Struct.of read) with
  | .error e => .error e
  | .ok structs =>
    if structs.any fun s => reservedWords.contains s.name then .error (.code .companionFile)
    else .ok structs

/-- The companion file of a plan, with types as `read` reads them. Nothing comes of it where a type
has been read that there is no way to lay out. -/
def fileTextBy (read : String → Option Doc) (plan : Plan) : Except GenError String :=
  match structsBy read plan with
  | .error e => .error e
  | .ok structs =>
    if structs.all Struct.isPrintable then
      .ok ("// " ++ Code.SourceFile.notice ++ "\n// source: " ++ plan.fileName ++ "\n\n" ++
        String.join (structs.map Struct.text))
    else .error .unspeakable

def structsOf (plan : Plan) : Except GenError (List Struct) := structsBy typeLayout? plan

/-- The companion file of a plan. -/
def fileText (plan : Plan) : Except GenError String := fileTextBy typeLayout? plan

end Laminate.Companion
