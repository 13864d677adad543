import Laminate.Code.Expr
import Laminate.Form.Names
import Laminate.Schema.Load

/-! How HTTP requests fill inbound structs. -/
namespace Laminate.Form

open Laminate.Text Laminate.Schema Laminate.Code

/-- Where a parameter's text is found; several texts for repeated fields. -/
inductive ParameterSource where
  | path (name : String)
  | query (key : String)
  | queryAll (key : String)
  | header (name : String)
  | headerAll (name : String)
  deriving Repr, DecidableEq, Inhabited

/-- Whether a source yields several texts. -/
def ParameterSource.isMany : ParameterSource → Bool
  | queryAll _ | headerAll _ => true
  | _ => false

/-- The variable that holds the request. -/
def requestVar : Expr := .ident "r"

def ParameterSource.expr : ParameterSource → Expr
  | path name => .call (.select requestVar "PathValue") [.text name]
  | query key =>
    .call (.select (.call (.select (.select requestVar "URL") "Query") []) "Get") [.text key]
  | queryAll key => .index (.call (.select (.select requestVar "URL") "Query") []) (.text key)
  | header name => .call (.select (.select requestVar "Header") "Get") [.text name]
  | headerAll name => .call (.select (.select requestVar "Header") "Values") [.text name]

/-- A field of the inbound struct filled from a parameter. -/
structure ParameterDecode where
  /-- Package of the parsing helpers. -/
  helpers : String
  /-- Identifier in the inbound struct. -/
  target : String
  source : ParameterSource
  deriving Repr, DecidableEq, Inhabited

def ParameterDecode.expr (decode : ParameterDecode) : Expr :=
  .call (.member decode.helpers (if decode.source.isMany then "ParseAll" else "Parse"))
    [.address (.select (.ident "in") decode.target), decode.source.expr]

/-- The inbound struct, or one field of it, filled from the body. -/
inductive BodyDecode where
  | whole
  | into (target : String)
  deriving Repr, DecidableEq, Inhabited

def BodyDecode.expr (decode : BodyDecode) : Expr :=
  let decoder := Expr.call (.member "json" "NewDecoder") [.select requestVar "Body"]
  .call (.select decoder "Decode") [match decode with
    | whole => .ident "in"
    | into target => .address (.select (.ident "in") target)]

/-- Where a field at a location outside the body is found. -/
def parameterSource? (field : Field) (names : FieldNames) : Location → Option ParameterSource
  | .body => none
  | .path => some (.path field.name)
  | .query => some (if field.isRepeated then .queryAll names.inbound else .query names.inbound)
  | .header =>
    let name := trainCase field.name
    some (if field.isRepeated then .headerAll name else .header name)

/-- Only scalars and enums can be read from text. -/
def isReadable (field : Field) : Bool :=
  match field.kind with
  | .scalar _ | .enum .. => !field.isMap
  | _ => false

def parameterDecode? (helpers : String) (field : Field) (names : FieldNames)
    (location : Location) : Option ParameterDecode :=
  if isReadable field then
    (parameterSource? field names location).map (⟨helpers, names.domain, ·⟩)
  else none

/-- What a body selector of a request asks for. -/
def bodyDecode? (request : Message) (selector : String) : Option BodyDecode :=
  if selector = "" then none
  else if selector = "*" then some .whole
  else (request.field? selector).map fun field => .into (FieldNames.of request field).domain

/-- A method with what its decoder does. -/
structure BoundMethod where
  method : Method
  /-- Name of its service. -/
  service : String
  /-- Wire name of the request. -/
  request : String
  /-- Inbound name of the request. -/
  inbound : String
  /-- Verb and path as the router writes them. -/
  pattern : String
  body : Option BodyDecode
  params : List ParameterDecode
  deriving Repr, DecidableEq, Inhabited

/-- Locations of request fields by full message name and field name; the first entry counts. -/
abbrev Locations := List ((String × String) × Location)

structure Bindings where
  methods : List BoundMethod := []
  locations : Locations := []
  warnings : List Warning := []
  deriving Repr, DecidableEq, Inhabited

namespace Bindings

/-- A method bound to a request of the same file. -/
def bound (helpers : String) (service : String) (method : Method) (endpoint : Endpoint)
    (request : Message) (located : List (String × Location)) : BoundMethod where
  method := method
  service := service
  request := request.names.wire
  inbound := request.names.inbound
  pattern := endpoint.verb ++ " " ++ routePath endpoint.path
  body := bodyDecode? request endpoint.body
  params := located.filterMap fun (name, location) =>
    (request.field? name).bind fun field =>
      parameterDecode? helpers field (FieldNames.of request field) location

/-- A method added to the bindings of the methods before it. Methods without an endpoint are
passed over, and so are requests of other files. -/
def add (schema : FileSchema) (helpers service : String) (bindings : Bindings) (method : Method) :
    Except GenError Bindings :=
  match method.endpoint with
  | none => .ok bindings
  | some endpoint =>
    match schema.message? method.input with
    | none =>
      .ok { bindings with
        warnings := bindings.warnings ++ [.foreignRequest method.fullName method.input] }
    | some request =>
      if !request.hasInbound then .error (.schema method.fullName (.noInbound request.name))
      else
        match method.bind request with
        | .error e => .error e
        | .ok located =>
          .ok { bindings with
            methods := bindings.methods ++ [bound helpers service method endpoint request located]
            locations := bindings.locations ++
              located.map fun (name, location) => ((request.fullName, name), location) }

/-- The bindings of every method of a file. -/
def of (settings : Settings) (schema : FileSchema) : Except GenError Bindings :=
  (schema.services.flatMap fun s => s.methods.map (s.name, ·)).foldlM
    (fun bindings (service, method) => add schema settings.converters.name service bindings method)
    {}

end Bindings

end Laminate.Form
