import Laminate.Schema.Message

/-! Services, their methods, and how requests are bound to HTTP. -/
namespace Laminate.Schema

open Laminate.Text Laminate.Descriptor Laminate.Annotation

/-- Where a field of a request is read from. -/
inductive Location where
  | body | query | path | header
  deriving Repr, DecidableEq, Inhabited

inductive Auth where
  | unspecified
  | publicAccess
  | bearer
  | custom (scheme : String)
  deriving Repr, DecidableEq, Inhabited

def Auth.label : Auth → String
  | unspecified => "unspecified"
  | publicAccess => "public"
  | bearer => "bearer"
  | custom scheme => "custom:" ++ scheme

/-- A piece of a path template. -/
inductive PathPiece where
  | plain (text : List Char)
  /-- What stands between braces. -/
  | braced (inner : List Char)
  deriving Repr, DecidableEq, Inhabited

/-- The pieces of a path template: each opening brace is closed by the next closing one. -/
def pathPieces (path : List Char) : List PathPiece :=
  match _h : cutFirst '\x7b' path with
  | none => [.plain path]
  | some (before, after) =>
    match _h' : cutFirst '\x7d' after with
    | none => [.plain path]
    | some (inner, rest) => .plain before :: .braced inner :: pathPieces rest
termination_by path.length
decreasing_by
  have h₁ := (cutFirst_eq_some _h).1
  have h₂ := (cutFirst_eq_some _h').1
  simp [h₁, h₂]; omega

/-- Name and pattern of a wildcard, around its first equals sign. -/
def wildcardParts (inner : List Char) : List Char × Option (List Char) :=
  match cutFirst '=' inner with
  | some (name, pattern) => (trimBoth isBlank name, some pattern)
  | none => (trimBoth isBlank inner, none)

/-- The name that a piece binds, if it binds one. -/
def PathPiece.parameter? : PathPiece → Option String
  | plain _ => none
  | braced inner =>
    let name := (wildcardParts inner).1
    if name.isEmpty then none else some (String.ofList name)

/-- A piece as the router writes it; the pattern of all remaining segments becomes dots. -/
def PathPiece.route : PathPiece → List Char
  | plain text => text
  | braced inner =>
    let (name, pattern) := wildcardParts inner
    let dots := if pattern = some ['*', '*'] then ['.', '.', '.'] else []
    '\x7b' :: name ++ dots ++ ['\x7d']

/-- A path template as the router writes it. -/
def routePath (path : String) : String :=
  String.ofList ((pathPieces path.toList).flatMap PathPiece.route)

/-- The HTTP binding of a method. -/
structure Endpoint where
  /-- In upper case. -/
  verb : String
  /-- Template with `{name}` wildcards. -/
  path : String
  /-- Empty, `*` or the name of a field. -/
  body : String
  /-- Fields read from headers. -/
  headers : List String
  deriving Repr, DecidableEq, Inhabited

def supportedVerbs : List String := ["GET", "POST", "PUT", "PATCH", "DELETE", "HEAD", "OPTIONS"]

namespace Endpoint

def ofOptions (method : String) (options : EndpointOptions) : Except GenError Endpoint :=
  let verb := String.ofList (options.method.toList.map Char.toUpper)
  if !supportedVerbs.contains verb then
    .error (.annotated method (.unsupportedVerb options.method))
  else if options.path.toList.head? ≠ some '/' then
    .error (.annotated method (.relativePath options.path))
  else .ok ⟨verb, options.path, options.body, options.headers⟩

variable (endpoint : Endpoint)

/-- The names of the wildcards, in order. -/
def parameters : List String := (pathPieces endpoint.path.toList).filterMap PathPiece.parameter?

/-- The path comes first, then headers, then the body; the query takes the rest. -/
def locate (field : String) : Location :=
  if field ∈ endpoint.parameters then .path
  else if field ∈ endpoint.headers then .header
  else if endpoint.body = "*" ∨ endpoint.body = field then .body
  else .query

end Endpoint

structure Method where
  name : String
  fullName : String
  /-- Request type with its leading dot. -/
  input : String
  /-- Response type with its leading dot. -/
  output : String
  endpoint : Option Endpoint
  auth : Auth
  deriving Repr, DecidableEq, Inhabited

/-- Authentication of a declared mode; an unknown mode is as good as none. -/
def Auth.ofOptions (method : String) (options : AuthOptions) : Except GenError Auth :=
  if options.mode = 1 then .ok .publicAccess
  else if options.mode = 2 then .ok .bearer
  else if options.mode = 3 then
    if options.custom.isEmpty then .error (.annotated method .namelessScheme)
    else .ok (.custom options.custom)
  else .ok .unspecified

namespace Method

def ofDesc (index : Index) (service : String) (desc : MethodDesc) : Except GenError Method := do
  let fullName := qualify service desc.name
  let options ← index.ofMethod fullName desc.options
  let endpoint ← match options.bind (·.endpoint) with
    | none => pure none
    | some e => (Endpoint.ofOptions fullName e).map some
  let auth ← match options.bind (·.auth) with
    | none => pure .unspecified
    | some a => Auth.ofOptions fullName a
  return ⟨desc.name, fullName, desc.input, desc.output, endpoint, auth⟩

/-- What is wrong with a wildcard name of a method whose request is `request`. -/
def parameterFault? (request : Message) (name : String) : Option SchemaFault :=
  match request.field? name with
  | none => some (.unknownPathParameter name request.name)
  | some field =>
    if field.isMessage || field.isRepeated || field.isMap then some (.compositePathParameter name)
    else none

def headerFault? (request : Message) (name : String) : Option SchemaFault :=
  if (request.field? name).isNone then some (.unknownHeader name request.name) else none

def bodyFault? (request : Message) (selector : String) : Option SchemaFault :=
  if selector ≠ "" ∧ selector ≠ "*" ∧ (request.field? selector).isNone then
    some (.unknownBody selector request.name)
  else none

/-- The first thing wrong with an endpoint: a wildcard, then a header, then the body. -/
def bindFault? (request : Message) (endpoint : Endpoint) : Option SchemaFault :=
  match endpoint.parameters.findSome? (parameterFault? request) with
  | some fault => some fault
  | none =>
    match endpoint.headers.findSome? (headerFault? request) with
    | some fault => some fault
    | none => bodyFault? request endpoint.body

/-- Where each field of the request is read from; nowhere without an endpoint. -/
def bind (method : Method) (request : Message) : Except GenError (List (String × Location)) :=
  match method.endpoint with
  | none => .ok []
  | some endpoint =>
    match bindFault? request endpoint with
    | some fault => .error (.schema method.fullName fault)
    | none => .ok (request.fields.map fun f => (f.name, endpoint.locate f.name))

end Method

structure Service where
  name : String
  methods : List Method
  deriving Repr, DecidableEq, Inhabited

def Service.ofDesc (index : Index) (package : String) (desc : ServiceDesc) :
    Except GenError Service :=
  (desc.methods.mapM (Method.ofDesc index (qualify package desc.name))).map (⟨desc.name, ·⟩)

end Laminate.Schema
