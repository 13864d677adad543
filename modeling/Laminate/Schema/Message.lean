import Laminate.Schema.Field
import Laminate.Schema.Symbols

/-! Messages, their fields and enums, read from descriptors. -/
namespace Laminate.Schema

open Laminate.Text Laminate.Code Laminate.Descriptor Laminate.Annotation

/-- Something worth telling that does not stop the run. -/
inductive Warning where
  | skippedOneofMember (message field : String)
  | unsuffixedTarget (field target : String)
  | foreignRequest (method request : String)
  deriving Repr, DecidableEq, Inhabited

/-- What the fields of a file are read against. -/
structure Scope where
  module : Module
  registry : Registry
  symbols : SymbolTable
  index : Index
  settings : Settings
  isProto2 : Bool
  deriving Inhabited

namespace Scope

variable (scope : Scope)

/-- What one element of a field is. -/
def kindOf (path : String) (desc : FieldDesc) : Except GenError FieldKind :=
  match scalarOf? desc.type with
  | some scalar => .ok (.scalar scalar)
  | none =>
    let placement := scope.registry.place scope.module desc.typeName
    if desc.type = .enum then .ok (.enum desc.typeName placement)
    else match WellKnown.ofTypeName? desc.typeName with
      | some type => .ok (.wellKnown type)
      | none =>
        match scope.symbols.lookup desc.typeName with
        | none => .error (.fieldType (.unknownMessage path desc.typeName))
        | some symbol =>
          .ok (.message {
            typeName := desc.typeName
            placement := placement
            kind := symbol.kind
            names := .derive scope.settings.suffixes placement.localName symbol.kind
            outboundHidden := symbol.outboundHidden })

/-- The map entry that a repeated message field stands for, if it is a map. -/
def mapEntry? (desc : FieldDesc) : Option MessageDesc :=
  if desc.label = .repeated ∧ desc.type = .message then
    ((scope.symbols.lookup desc.typeName).map (·.desc)).filter (·.isMapEntry)
  else none

/-- Key scalar and value field of a map entry. -/
def mapTypes (path : String) (entry : MessageDesc) : Except GenError (Builtin × FieldDesc) :=
  match entry.fields.find? (·.number == 1), entry.fields.find? (·.number == 2) with
  | some key, some value =>
    match scalarOf? key.type with
    | some scalar => .ok (scalar, value)
    | none => .error (.fieldType (.mapKey path key.type.label))
  | _, _ => .error (.schema path .malformedMapEntry)

/-- How many values a field that is no map holds. -/
def plainCardinality (desc : FieldDesc) : Cardinality :=
  if desc.label = .repeated then .repeated
  else if desc.proto3Optional then .optional
  else if scope.isProto2 ∧ desc.label = .optional ∧ desc.type ≠ .message then .optional
  else .singular

def shapeOf (path : String) (desc : FieldDesc) : Except GenError (FieldKind × Cardinality) :=
  match scope.mapEntry? desc with
  | some entry =>
    match mapTypes path entry with
    | .error e => .error e
    | .ok (key, value) => (scope.kindOf path value).map (·, .map key)
  | none => (scope.kindOf path desc).map (·, scope.plainCardinality desc)

/-- A field of the message with this wire name and this full name. -/
def field (message fullName : String) (desc : FieldDesc) : Except GenError Field :=
  let path := message ++ "." ++ desc.name
  match scope.index.ofField fullName desc with
  | .error e => .error e
  | .ok options =>
    match scope.shapeOf path desc with
    | .error e => .error e
    | .ok (kind, cardinality) =>
      let field : Field := {
        name := desc.name
        number := desc.number
        goName := exportedName desc.name
        kind := kind
        cardinality := cardinality
        message := message
        module := scope.module.package
        options := options.getD {} }
      match field.fault? with
      | some fault => .error (.annotated path fault)
      | none => .ok field

end Scope

/-- A field that is surfaced, or a member of a oneof that has no form in any layer. -/
inductive Member where
  | skipped (name : String)
  | surfaced (field : Field)
  deriving Repr, DecidableEq, Inhabited

/-- Members of true oneofs are left out; the oneof of an optional field is a formality. -/
def isOneofMember (desc : FieldDesc) : Bool := desc.oneofIndex.isSome && !desc.proto3Optional

def Member.field? : Member → Option Field
  | skipped _ => none
  | surfaced field => some field

def Member.warning? (fullName : String) : Member → Option Warning
  | skipped name => some (.skippedOneofMember fullName name)
  | surfaced field =>
    match field.kind with
    | .message target =>
      if target.kind = .unknown then some (.unsuffixedTarget field.path target.typeName) else none
    | _ => none

/-- The members of a message, in order of declaration. -/
def Scope.members (scope : Scope) (message fullName : String) :
    List FieldDesc → Except GenError (List Member)
  | [] => .ok []
  | desc :: rest =>
    if isOneofMember desc then (scope.members message fullName rest).map (.skipped desc.name :: ·)
    else
      match scope.field message fullName desc with
      | .error e => .error e
      | .ok field => (scope.members message fullName rest).map (.surfaced field :: ·)

structure Message where
  /-- Wire name; names of nested messages are joined by underscores. -/
  name : String
  /-- Full schema name without a leading dot. -/
  fullName : String
  kind : MessageKind
  names : LayerNames
  members : List Member
  options : MessageOptions
  deriving Repr, DecidableEq, Inhabited

namespace Message

variable (message : Message)

/-- The surfaced fields, in order of declaration. -/
def fields : List Field := message.members.filterMap Member.field?

def warnings : List Warning := message.members.filterMap (Member.warning? message.fullName)

/-- Casing of the message's keys in a layer. -/
def naming (layer : Layer) : Naming :=
  let options := match layer with
    | .wire => none
    | .domain => message.options.domain
    | .inbound => message.options.inbound
    | .outbound => message.options.outbound
  (options.map fun o => Naming.ofNumber o.naming).getD .snake

def isOutboundHidden : Bool := hidesOutbound message.options

def hasDomain : Bool := message.kind == .wire

def hasOutbound : Bool :=
  (message.kind == .wire || message.kind == .response) && !message.isOutboundHidden

def hasInbound : Bool := message.kind == .request

/-- A surfaced field by its schema name. -/
def field? (name : String) : Option Field := message.fields.find? (·.name == name)

end Message

/-- A message without the messages nested in it; its wire name continues `stem`. -/
def Scope.message (scope : Scope) (outer stem : String) (desc : MessageDesc) :
    Except GenError Message :=
  let fullName := qualify outer desc.name
  let name := stem ++ desc.name
  let kind := MessageKind.ofName scope.settings.suffixes desc.name
  match scope.index.ofMessage fullName desc.options with
  | .error e => .error e
  | .ok options =>
    (scope.members name fullName desc.fields).map fun members => {
      name := name
      fullName := fullName
      kind := kind
      names := .derive scope.settings.suffixes name kind
      members := members
      options := options.getD {} }

structure Enum where
  /-- Name of the generated type; names of nested enums are joined by underscores. -/
  name : String
  fullName : String
  values : List (String × Int)
  deriving Repr, DecidableEq, Inhabited

def Enum.ofDesc (outer stem : String) (desc : EnumDesc) : Enum :=
  ⟨stem ++ desc.name, qualify outer desc.name, desc.values.map fun v => (v.name, v.number)⟩

mutual

/-- A message before the messages in it, and their enums before its own. Map entries are no
messages of their own. -/
def Scope.tree (scope : Scope) (outer stem : String) :
    MessageTree → Except GenError (List Message × List Enum)
  | .node desc nested =>
    if desc.isMapEntry then .ok ([], [])
    else
      match scope.message outer stem desc with
      | .error e => .error e
      | .ok message =>
        match scope.trees message.fullName (message.name ++ "_") nested with
        | .error e => .error e
        | .ok (messages, enums) =>
          .ok (message :: messages,
            enums ++ desc.enums.map (Enum.ofDesc message.fullName (message.name ++ "_")))

def Scope.trees (scope : Scope) (outer stem : String) :
    List MessageTree → Except GenError (List Message × List Enum)
  | [] => .ok ([], [])
  | tree :: rest =>
    match scope.tree outer stem tree with
    | .error e => .error e
    | .ok (messages, enums) =>
      (scope.trees outer stem rest).map fun (more, moreEnums) =>
        (messages ++ more, enums ++ moreEnums)

end

end Laminate.Schema
