import Laminate.Code.File
import Laminate.Form.Plan

/-! The files of the layers, as declarations read off a plan. -/
namespace Laminate.Template

open Laminate.Text Laminate.Code Laminate.Form Laminate.Schema

/-- A field of a struct with its tag. -/
def structField (name : String) (type : TypeRef) (tag : List TagPart) : StructField :=
  ⟨name, type.text, tagText tag⟩

/-- The value that a conversion gives to a field. -/
def entry (name : String) (conversion : Conversion) : String × String :=
  (name, conversion.expr.render)

/-- A method from one form to another that takes nil to nil. -/
def conversionMethod (doc receiver owner name target : String)
    (entries : List (String × String)) : Decl :=
  .function doc (some ⟨receiver, owner⟩) name [] ("*" ++ target)
    [.nilGuard receiver, .retStruct target entries]

/-! ### Enums -/

def enumDecls (e : Enum) : List Decl :=
  let toText := e.name ++ "ToString"
  let fromText := e.name ++ "FromString"
  [.function (toText ++ " returns the protobuf name of v.") none toText [⟨"v", e.name⟩] "string"
      [.ret "v.String()"],
    .function (fromText ++ " parses a protobuf name; unknown names yield the zero value.") none
      fromText [⟨"s", "string"⟩] e.name [.ret (e.name ++ "(" ++ e.name ++ "_value[s])")]]

/-! ### Domain -/

def domainFields (m : PlannedMessage) : List StructField :=
  m.fields.filterMap fun f => f.domain.map fun t => structField f.names.domain t f.tags.domain

def domainStruct (m : PlannedMessage) : Decl :=
  let names := m.message.names
  .struct (names.domain ++ " is the domain form of " ++ names.wire ++ ".") names.domain
    (domainFields m)

/-- The lines of a block of custom code, without white space at their ends. -/
def customLines (block : String) : List String :=
  let text := trimEnd block
  if text.isEmpty then [] else (pieces (· == '\n') text).map trimEnd

def domainDecls (m : PlannedMessage) : List Decl :=
  domainStruct m :: m.message.options.customCode.map fun block => .verbatim (customLines block)

def intoDomainEntries (m : PlannedMessage) : List (String × String) :=
  m.fields.filterMap fun f => f.conversions.intoDomain.map (entry f.names.domain)

def intoWireEntries (m : PlannedMessage) : List (String × String) :=
  m.fields.filterMap fun f => f.conversions.intoWire.map (entry f.field.goName)

def domainConvertDecls (m : PlannedMessage) : List Decl :=
  let names := m.message.names
  [conversionMethod "IntoDomain converts w into its domain form." "w" names.wire "IntoDomain"
      names.domain (intoDomainEntries m),
    conversionMethod "IntoWire converts d into its wire form." "d" names.domain "IntoWire"
      names.wire (intoWireEntries m)]

/-! ### Outbound -/

def outboundFields (m : PlannedMessage) : List StructField :=
  m.fields.filterMap fun f =>
    f.outbound.map fun t => structField f.names.outbound t f.tags.outbound

def intoOutboundEntries (m : PlannedMessage) : List (String × String) :=
  m.fields.filterMap fun f => f.conversions.intoOutbound.map (entry f.names.outbound)

def outboundDecls (m : PlannedMessage) : List Decl :=
  let names := m.message.names
  [.struct (names.outbound ++ " is the response form of " ++ names.wire ++ ".") names.outbound
      (outboundFields m),
    conversionMethod "IntoOutboundOrNil converts w into its response form, or nil when w is nil."
      "w" names.wire "IntoOutboundOrNil" names.outbound (intoOutboundEntries m)]

/-! ### Inbound -/

def inboundFields (m : PlannedMessage) : List StructField :=
  m.fields.filterMap fun f => f.inbound.map fun t => structField f.names.domain t f.tags.inbound

def intoWireInputEntries (m : PlannedMessage) : List (String × String) :=
  m.fields.filterMap fun f => f.conversions.intoWireInput.map (entry f.field.goName)

def validateBody (m : PlannedMessage) : Stmt :=
  if m.validations.isEmpty then .ret "nil"
  else .retCall "validation.ValidateStruct" "in" (m.validations.map fun v => v.expr.render)

def inboundDecls (m : PlannedMessage) : List Decl :=
  let names := m.message.names
  [.struct (names.inbound ++ " is the decoded form of " ++ names.wire ++ ".") names.inbound
      (inboundFields m),
    .function "Validate checks in against its declared rules." (some ⟨"in", names.inbound⟩)
      "Validate" [] "error" [validateBody m],
    conversionMethod "IntoWireInput converts in into its wire form." "in" names.inbound
      "IntoWireInput" names.wire (intoWireInputEntries m)]

/-! ### Routes -/

def decodeStatements (m : BoundMethod) : List String :=
  ((m.body.map fun b => b.expr.render).toList) ++ m.params.map fun p => p.expr.render

def routeDecls (m : BoundMethod) : List Decl :=
  let name := m.method.name
  let qualified := m.service ++ "." ++ name
  [.constant (name ++ "Pattern is the route pattern of " ++ qualified ++ ".") (name ++ "Pattern")
      (literal m.pattern),
    .constant (name ++ "Auth is the authentication mode of " ++ qualified ++ ".") (name ++ "Auth")
      (literal m.method.auth.label),
    .function ("Decode" ++ name ++ " reads a " ++ m.inbound ++ " from r.") none ("Decode" ++ name)
      [⟨"r", "*http.Request"⟩] ("(*" ++ m.inbound ++ ", error)")
      (.define "in" ("&" ++ m.inbound ++ "\x7b\x7d") ::
        (decodeStatements m).map .errorGuard ++ [.ret "in, nil"])]

/-! ### Fixtures -/

/-- What an import line is called in its file; a path goes by its last segment. -/
def importName (i : Import) : String := i.localName.getD (lastPiece '/' i.path)

/-- A parameter named after a field, unlike any reserved word or import. -/
def paramName (taken : List String) (field : String) : String :=
  let name := lowerCamelCase field
  if keywords.contains name || taken.contains name then name ++ "_" else name

/-- The constructor of a domain struct, for tests outside its package. -/
def fixtureDecl (package : String) (taken : List String) (m : PlannedMessage) : Decl :=
  let domain := m.message.names.domain
  let target := package ++ "." ++ domain
  let fields := m.fields.filterMap fun f => f.fixture.map fun t => (f.names.domain, t)
  .function ("New" ++ domain ++ " builds a " ++ target ++ " for tests.") none ("New" ++ domain)
    (fields.map fun (name, type) => ⟨paramName taken name, type.text⟩) ("*" ++ target)
    [.retStruct target (fields.map fun (name, _) => (name, paramName taken name))]

/-! ### Files -/

/-- What a template declares for a plan; the companion file is not made of declarations. -/
def decls (plan : Plan) : Template → List Decl
  | enums => plan.enums.flatMap enumDecls
  | domain => plan.domainMessages.flatMap domainDecls
  | domainConvert => plan.domainMessages.flatMap domainConvertDecls
  | outbound => plan.outboundMessages.flatMap outboundDecls
  | inbound => plan.inboundMessages.flatMap inboundDecls
  | http => plan.methods.flatMap routeDecls
  | companion => []
  | fixtures =>
    plan.domainMessages.map
      (fixtureDecl plan.module.goName ((plan.importsOf fixtures).map importName))

/-- The package that a template's file belongs to. -/
def packageName (plan : Plan) (t : Template) : String :=
  if t = fixtures then plan.module.goName ++ "_test" else plan.module.goName

def sourceFile (plan : Plan) (t : Template) : SourceFile :=
  ⟨plan.fileName, packageName plan t, plan.importsOf t, decls plan t⟩

end Laminate.Template
