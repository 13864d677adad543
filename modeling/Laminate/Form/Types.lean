import Laminate.Form.Names

/-! The type of a field in each layer. -/
namespace Laminate.Form

open Laminate.Schema Laminate.Code

/-- Whose code a type is written in: the module's own, or that of its external tests. -/
structure Viewpoint where
  module : Module
  isTest : Bool := false
  deriving Repr, DecidableEq, Inhabited

/-- A type of some module, qualified where the viewpoint needs it. -/
def Viewpoint.typeAt (view : Viewpoint) (placement : Placement) (name : String) : TypeRef :=
  if placement.isLocal then
    if view.isTest then .qualified view.module.goName name else .named name
  else .qualified placement.goName name

/-- The form of a standard message. -/
def wellKnownType (layer : Layer) : WellKnown → TypeRef
  | .timestamp =>
    if layer = .wire then (TypeRef.qualified "timestamppb" "Timestamp").toPointer else .time
  | .struct =>
    if layer = .wire then (TypeRef.qualified "structpb" "Struct").toPointer else .genericMap
  | .value =>
    if layer = .wire then (TypeRef.qualified "structpb" "Value").toPointer else .builtin .any
  | .wrapper scalar =>
    if layer = .wire then (TypeRef.qualified "wrapperspb" (wrapperName scalar)).toPointer
    else (TypeRef.builtin scalar).toPointer

/-- The name of a message's type in a layer. Inbound structs hold the domain form of every message
but requests. -/
def targetName (target : MessageTarget) : Layer → String
  | .wire => target.names.wire
  | .domain => target.names.domain
  | .outbound => target.names.outbound
  | .inbound => if target.kind = .request then target.names.inbound else target.names.domain

/-- The type of one element. -/
def Viewpoint.element (view : Viewpoint) (layer : Layer) : FieldKind → TypeRef
  | .scalar scalar => .builtin scalar
  | .enum _ placement =>
    if layer = .wire then view.typeAt placement placement.localName else .builtin .string
  | .wellKnown type => wellKnownType layer type
  | .message target => (view.typeAt target.placement (targetName target layer)).toPointer

/-- An element's type raised to a cardinality. -/
def raise (element : TypeRef) : Cardinality → TypeRef
  | .singular => element
  | .optional => element.toPointer
  | .repeated => .slice element
  | .map key => .map (.builtin key) element

/-- Structural values are their own absence outside the wire layer. -/
def isStructural : FieldKind → Bool
  | .wellKnown .struct => true
  | .wellKnown .value => true
  | _ => false

/-- The type given by annotation for the outbound layer. -/
def customType (field : Field) : Except GenError (Option Reference) :=
  match field.options.outbound.bind fun o => said o.customType with
  | none => .ok none
  | some text =>
    match Reference.parse? text with
    | some reference => .ok (some reference)
    | none => .error (.lookup (.customType field.path text))

/-- The type that element and cardinality make in a layer. -/
def Viewpoint.plainType (view : Viewpoint) (field : Field) (layer : Layer) : TypeRef :=
  let element := view.element layer field.kind
  if field.cardinality = .optional ∧ layer ≠ .wire ∧ isStructural field.kind then element
  else raise element field.cardinality

/-- The type of a field in a layer; a bitflag or a custom type decides the outbound one. -/
def Viewpoint.typeOf (view : Viewpoint) (field : Field) (layer : Layer) :
    Except GenError TypeRef :=
  if layer = .outbound then
    if field.bitflag?.isSome then .ok (.slice (.builtin .string))
    else
      match customType field with
      | .error e => .error e
      | .ok (some custom) => .ok (raise (.qualified custom.package custom.name) field.cardinality)
      | .ok none => .ok (view.plainType field layer)
  else .ok (view.plainType field layer)

end Laminate.Form
