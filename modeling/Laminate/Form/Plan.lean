import Laminate.Code.Import
import Laminate.Form.Binding
import Laminate.Form.Conversion
import Laminate.Form.Tags
import Laminate.Form.Validation
import Laminate.Template.Basic

/-! Everything that the files of one schema file are written from. -/
namespace Laminate.Form

open Laminate.Schema Laminate.Code

/-- A field with what each layer makes of it. -/
structure PlannedField where
  field : Field
  names : FieldNames
  keys : FieldKeys
  tags : FieldTags
  wire : TypeRef
  domain : Option TypeRef
  inbound : Option TypeRef
  outbound : Option TypeRef
  /-- The domain type as external tests write it. -/
  fixture : Option TypeRef
  conversions : Conversions
  validation : Option Validation
  location : Option Location
  deriving Repr, Inhabited

structure PlannedMessage where
  message : Message
  fields : List PlannedField
  deriving Repr, Inhabited

namespace PlannedMessage

variable (m : PlannedMessage)

def outboundFields : List PlannedField := m.fields.filter (·.outbound.isSome)

def validations : List Validation := m.fields.filterMap (·.validation)

end PlannedMessage

structure Plan where
  fileName : String
  module : Module
  registry : Registry
  settings : Settings
  /-- The messages that have a kind. -/
  messages : List PlannedMessage
  enums : List Enum
  methods : List BoundMethod
  /-- The import lines of each available template. -/
  imports : List (Template × List Import)
  warnings : List Warning
  deriving Repr, Inhabited

/-- What planning a field needs to know. -/
structure Planning where
  settings : Settings
  module : Module
  registry : Registry
  locations : Locations
  deriving Repr, Inhabited

namespace Planning

variable (p : Planning)

def field (message : Message) (field : Field) : Except GenError PlannedField := do
  let view : Viewpoint := ⟨p.module, false⟩
  let names := FieldNames.of message field
  let keys := FieldKeys.of message field names
  let domain ← onlyIf message.hasDomain (view.typeOf field .domain)
  let fixture ← onlyIf message.hasDomain (Viewpoint.typeOf ⟨p.module, true⟩ field .domain)
  let validation ←
    if message.hasInbound then Validation.of p.settings message field names else pure none
  let wire ← view.typeOf field .wire
  let inbound ← onlyIf message.hasInbound (view.typeOf field .inbound)
  let outbound ← onlyIf (message.hasOutbound && !field.isOutboundHidden)
    (view.typeOf field .outbound)
  let converting : Converting := ⟨p.settings.converters.name, p.module, p.registry⟩
  let conversions ← converting.conversions message field names
  return {
    field := field
    names := names
    keys := keys
    tags := FieldTags.of p.settings.database field names keys
    wire := wire
    domain := domain
    inbound := inbound
    outbound := outbound
    fixture := fixture
    conversions := conversions
    validation := validation
    location := p.locations.lookup (message.fullName, field.name) }

def message (message : Message) : Except GenError PlannedMessage :=
  (message.fields.mapM (p.field message)).map (⟨message, ·⟩)

end Planning

namespace Plan

variable (plan : Plan)

def domainMessages : List PlannedMessage := plan.messages.filter (·.message.hasDomain)
def outboundMessages : List PlannedMessage := plan.messages.filter (·.message.hasOutbound)
def inboundMessages : List PlannedMessage := plan.messages.filter (·.message.hasInbound)

/-- A planned message by its type name. -/
def message? (typeName : String) : Option PlannedMessage :=
  let name := Text.dropLeading '.' typeName
  plan.messages.find? (·.message.fullName == name)

/-- Text that a file will hold and that may name packages. -/
inductive Mention where
  | type (text : String)
  | expr (text : String)
  | package (name : String)
  deriving Repr, DecidableEq, Inhabited

def Mention.ofType (type : TypeRef) : Mention := .type type.text

def Mention.ofExpr (e : Expr) : Mention := .expr e.render

def Mention.ofConversion (c : Conversion) : Mention := .ofExpr c.expr

/-- The imports that a mention needs. -/
def Mention.collect (qualifiers : Qualifiers) (set : ImportSet) :
    Mention → ImportSet × Option GenError
  | type text => qualifiers.scanType text set
  | expr text => qualifiers.scanExpr text set
  | package name => qualifiers.requireAll [name] set

/-- What the files of a scope mention, in order. -/
def mentions : ImportScope → List Mention
  | .none => []
  | .domain =>
    plan.domainMessages.flatMap fun m => m.fields.flatMap fun f =>
      (f.domain.map Mention.ofType).toList
  | .domainConvert =>
    plan.domainMessages.flatMap fun m => m.fields.flatMap fun f =>
      [f.conversions.intoDomain, f.conversions.intoWire].filterMap fun c =>
        c.map Mention.ofConversion
  | .outbound =>
    plan.outboundMessages.flatMap fun m => m.outboundFields.flatMap fun f =>
      (f.outbound.map Mention.ofType).toList ++
        (f.conversions.intoOutbound.map Mention.ofConversion).toList
  | .inbound =>
    plan.inboundMessages.flatMap fun m =>
      (m.fields.flatMap fun f =>
        (f.inbound.map Mention.ofType).toList ++
          (f.conversions.intoWireInput.map Mention.ofConversion).toList) ++
      m.validations.map (fun v => .ofExpr v.expr) ++
      if m.validations.isEmpty then [] else [.package "validation"]
  | .http =>
    plan.methods.flatMap fun m =>
      .ofType (TypeRef.qualified "http" "Request").toPointer ::
        ((m.body.map fun b => Mention.ofExpr b.expr).toList ++
          m.params.map fun p => .ofExpr p.expr)
  | .fixtures =>
    plan.domainMessages.flatMap fun m =>
      .type ("*" ++ plan.module.goName ++ "." ++ m.message.names.domain) ::
        m.fields.flatMap fun f => (f.fixture.map Mention.ofType).toList

/-- The names that every module of a request and the settings give to packages. A module of the
package being generated is not imported; its tests import it. -/
def baseQualifiers (module : Module) (registry : Registry) (settings : Settings) (isTest : Bool) :
    Qualifiers :=
  let start : Qualifiers := ⟨Qualifiers.receivers, Qualifiers.standard⟩
  let withHelpers := start.learn settings.converters.name settings.converters.path
  let withModules := registry.modules.foldl (fun q other =>
    if other.goName.isEmpty || other.goPath == module.goPath then q
    else q.learnNew (registry.qualifier other) other.goPath) withHelpers
  if isTest then withModules.learn module.goName module.goPath
  else { withModules with ignored := module.goName :: withModules.ignored }

/-- The packages that the custom types and converters of a field refer to made known. -/
def learnCustom (qualifiers : Qualifiers) (f : PlannedField) : Qualifiers :=
  (customReferences f.field).foldl Qualifiers.learnText qualifiers

/-- The packages of the rules of a field made known. -/
def learnRules (qualifiers : Qualifiers) (f : PlannedField) : Qualifiers :=
  ((f.validation.map (·.references)).getD []).foldl (fun q text =>
    match Reference.parse? text with
    | some reference => q.learnReference reference
    | none => q) qualifiers

/-- What qualifiers stand for in the files of the package. -/
def sourceQualifiers : Qualifiers :=
  (plan.messages.flatMap (·.fields)).foldl (fun q f => learnRules (learnCustom q f) f)
    (baseQualifiers plan.module plan.registry plan.settings false)

/-- What qualifiers stand for in tests outside the package, which apply no rules. -/
def testQualifiers : Qualifiers :=
  (plan.messages.flatMap (·.fields)).foldl learnCustom
    (baseQualifiers plan.module plan.registry plan.settings true)

/-- The imports that some mentions need, up to the first fault. -/
def collectAll (qualifiers : Qualifiers) :
    List Mention → ImportSet → Except GenError ImportSet
  | [], set => .ok set
  | mention :: rest, set =>
    match mention.collect qualifiers set with
    | (_, some e) => .error e
    | (set, none) => collectAll qualifiers rest set

/-- The import lines of a template. -/
def templateImports (source test : Qualifiers) (t : Template) : Except GenError (List Import) :=
  let qualifiers := if t.scope = .fixtures then test else source
  (collectAll qualifiers (plan.mentions t.scope ++ t.fixedImports.map Mention.package) {}).map
    ImportSet.sorted

/-- The import lines of every available template, needed or not. -/
def resolveImports : Except GenError (List (Template × List Import)) :=
  let source := plan.sourceQualifiers
  let test := plan.testQualifiers
  (Template.all.filter (·.isAvailable plan.settings)).mapM fun t =>
    (plan.templateImports source test t).map (t, ·)

/-- The import lines of a template; none where it is not available. -/
def importsOf (t : Template) : List Import := (plan.imports.lookup t).getD []

/-- The plan of a file. Methods are bound first, since they say where request fields lie. -/
def of (settings : Settings) (schema : FileSchema) : Except GenError Plan := do
  let bindings ← Bindings.of settings schema
  let planning : Planning := ⟨settings, schema.module, schema.registry, bindings.locations⟩
  let messages ← (schema.messages.filter (·.kind != .unknown)).mapM planning.message
  let plan : Plan := {
    fileName := schema.fileName
    module := schema.module
    registry := schema.registry
    settings := settings
    messages := messages
    enums := schema.enums
    methods := bindings.methods
    imports := []
    warnings := schema.warnings ++ bindings.warnings }
  let imports ← plan.resolveImports
  return { plan with imports := imports }

end Plan

end Laminate.Form
