import Laminate.Code.Expr
import Laminate.Form.Types

/-! Conversions of a field between layers.
A converter turns one element; a lift applies it to as many as the field holds. -/
namespace Laminate.Form

open Laminate.Text Laminate.Schema Laminate.Code

inductive Direction where
  | wireToDomain | domainToWire | wireToOutbound | inboundToWire
  deriving Repr, DecidableEq, Inhabited

namespace Direction

/-- The variable that holds the source struct. -/
def receiver : Direction → String
  | wireToDomain | wireToOutbound => "w"
  | domainToWire => "d"
  | inboundToWire => "in"

def source : Direction → Layer
  | wireToDomain | wireToOutbound => .wire
  | domainToWire => .domain
  | inboundToWire => .inbound

def target : Direction → Layer
  | wireToDomain => .domain
  | wireToOutbound => .outbound
  | domainToWire | inboundToWire => .wire

def leavesWire : Direction → Bool
  | wireToDomain | wireToOutbound => true
  | domainToWire | inboundToWire => false

end Direction

/-- How one element is converted. -/
inductive Converter where
  | identity
  | function (callee : Expr)
  /-- A method of the element's own type. -/
  | method (owner : TypeRef) (name : String)
  deriving Repr, Inhabited

/-- Which elements a converter is applied to. -/
inductive Lift where
  | plain
  | eachItem
  | eachValue
  /-- The value behind a pointer, if there is one. -/
  | present
  deriving Repr, DecidableEq, Inhabited

/-- The helper that lifts a converter. -/
def Lift.helper : Lift → Option String
  | plain => none
  | eachItem => some "MapSlice"
  | eachValue => some "MapValues"
  | present => some "MapPtr"

namespace Converter

/-- Applied to a value. -/
def apply (value : Expr) : Converter → Expr
  | identity => value
  | function callee => .call callee [value]
  | method _ name => .call (.select value name) []

/-- As a function to be passed on; the identity needs none. -/
def asFunction : Converter → Option Expr
  | identity => none
  | function callee => some callee
  | method owner name => some (.methodOf owner name)

/-- Applied through a lift, whose helpers are in the package `helpers`. -/
def lifted (helpers : String) (lift : Lift) (source : Expr) (converter : Converter) : Expr :=
  match lift.helper with
  | none => converter.apply source
  | some helper =>
    match converter.asFunction with
    | none => source
    | some f => .call (.member helpers helper) [source, f]

end Converter

/-- What happens to the source value. -/
inductive Step where
  | convert (lift : Lift) (converter : Converter)
  /-- The names of the set bits, without the prefix that they share. -/
  | bitNames (names : Expr) (shared : String)
  deriving Repr, Inhabited

structure Conversion where
  /-- Package of the conversion helpers. -/
  helpers : String
  source : Expr
  step : Step
  deriving Repr, Inhabited

def Conversion.expr (conversion : Conversion) : Expr :=
  match conversion.step with
  | .convert lift converter => converter.lifted conversion.helpers lift conversion.source
  | .bitNames names shared =>
    .call (.member conversion.helpers "BitflagToStrings")
      [conversion.source, names, .text shared]

/-- The layer form that a direction needs of a message it converts. -/
def Direction.formName : Direction → String
  | .wireToDomain | .domainToWire => "domain"
  | .wireToOutbound => "outbound"
  | .inboundToWire => "inbound"

/-- Whether a message has the form that a direction needs. -/
def Direction.reaches (target : MessageTarget) : Direction → Bool
  | .wireToDomain | .domainToWire => target.kind == .wire
  | .wireToOutbound =>
    (target.kind == .wire || target.kind == .response) && !target.outboundHidden
  | .inboundToWire => target.kind == .wire || target.kind == .request

/-- The converter given by annotation for the outbound layer. -/
def customBind (field : Field) : Except GenError (Option Reference) :=
  match field.options.outbound.bind fun o => said o.customBind with
  | none => .ok none
  | some text =>
    match Reference.parse? text with
    | some reference => .ok (some reference)
    | none => .error (.lookup (.customBind field.path text))

/-- The references that a field's annotations bring into the generated code. -/
def customReferences (field : Field) : List String :=
  match field.options.outbound with
  | none => []
  | some options => [options.customType, options.customBind].filter (!·.isEmpty)

/-- What conversions are written against. -/
structure Converting where
  helpers : String
  module : Module
  registry : Registry
  deriving Repr, Inhabited

/-- How a cardinality lifts a converter. An optional enum is a pointer; the helpers for other
optional values take pointers themselves. -/
def liftOf (field : Field) : Lift :=
  match field.cardinality with
  | .map _ => .eachValue
  | .repeated => .eachItem
  | .optional => if field.isEnum then .present else .plain
  | .singular => .plain

namespace Converting

variable (c : Converting)

/-- The converter of one element. -/
def elementConverter (field : Field) (direction : Direction) : Converter :=
  let helper (name : String) : Converter := .function (.member c.helpers name)
  let out := direction.leavesWire
  match field.kind with
  | .scalar _ => .identity
  | .enum _ placement =>
    .function (.inPackage placement.qualifier
      (placement.localName ++ if out then "ToString" else "FromString"))
  | .wellKnown .value => helper (if out then "ValueToAny" else "AnyToValue")
  | .wellKnown .timestamp =>
    helper (match out, field.isOptional with
      | true, true => "TimestampToTimePtr"
      | true, false => "TimestampToTime"
      | false, true => "TimePtrToTimestamp"
      | false, false => "TimeToTimestamp")
  | .wellKnown .struct => helper (if out then "StructToMap" else "MapToStruct")
  | .wellKnown (.wrapper scalar) =>
    helper ((if out then "From" else "To") ++ wrapperName scalar)
  | .message target =>
    .method (Viewpoint.element ⟨c.module, false⟩ direction.source field.kind)
      (match direction with
        | .wireToDomain => "IntoDomain"
        | .domainToWire => "IntoWire"
        | .wireToOutbound => "IntoOutboundOrNil"
        | .inboundToWire => if target.kind = .request then "IntoWireInput" else "IntoWire")

/-- Qualifier and name of the enum that a bitflag annotation refers to. -/
def bitflagEnum (reference : String) : String × String :=
  let name := dropLeading '.' reference
  if name.toList.contains '.' then
    let placement := c.registry.place c.module ("." ++ name)
    (placement.qualifier, placement.localName)
  else ("", name)

def bitflagStep (bitflag : Annotation.Bitflag) : Step :=
  let (qualifier, name) := c.bitflagEnum bitflag.enum
  .bitNames (.inPackage qualifier (name ++ "_name"))
    ((said bitflag.flagPrefix).getD (shoutyCase name ++ "_"))

/-- The step that the field's kind asks for; it fails where a message lacks the form needed. -/
def kindStep (field : Field) (direction : Direction) : Except GenError Step :=
  let step := Step.convert (liftOf field) (c.elementConverter field direction)
  match field.kind with
  | .message target =>
    if direction.reaches target then .ok step
    else .error (.schema field.path (.missingForm target.names.wire direction.formName))
  | _ => .ok step

/-- The step towards the outbound layer; annotations come before the field's kind. -/
def outboundStep (field : Field) : Except GenError Step :=
  match field.bitflag? with
  | some bitflag => .ok (c.bitflagStep bitflag)
  | none =>
    match customBind field with
    | .error e => .error e
    | .ok (some custom) =>
      .ok (.convert (liftOf field) (.function (.member custom.package custom.name)))
    | .ok none =>
      match customType field with
      | .error e => .error e
      | .ok (some _) => .error (.annotated field.path .customTypeAlone)
      | .ok none => c.kindStep field .wireToOutbound

/-- The conversion of a field in a direction. -/
def conversion (field : Field) (names : FieldNames) (direction : Direction) :
    Except GenError Conversion :=
  let name := if direction.source = .wire then field.goName else names.domain
  let source := Expr.select (.ident direction.receiver) name
  let step := if direction = .wireToOutbound then c.outboundStep field
    else c.kindStep field direction
  step.map (⟨c.helpers, source, ·⟩)

end Converting

/-- The conversions that a field takes part in. -/
structure Conversions where
  intoDomain : Option Conversion := none
  intoWire : Option Conversion := none
  intoOutbound : Option Conversion := none
  intoWireInput : Option Conversion := none
  deriving Repr, Inhabited

namespace Conversions

def all (c : Conversions) : List Conversion :=
  [c.intoDomain, c.intoWire, c.intoOutbound, c.intoWireInput].filterMap id

end Conversions

/-- Something that is only made where it is wanted. -/
def onlyIf {α : Type} (wanted : Bool) (make : Except GenError α) : Except GenError (Option α) :=
  if wanted then make.map some else .ok none

/-- The conversions of a field that its message has forms for. -/
def Converting.conversions (c : Converting) (message : Message) (field : Field)
    (names : FieldNames) : Except GenError Conversions := do
  let intoDomain ← onlyIf message.hasDomain (c.conversion field names .wireToDomain)
  let intoWire ← onlyIf message.hasDomain (c.conversion field names .domainToWire)
  let intoOutbound ← onlyIf (message.hasOutbound && !field.isOutboundHidden)
    (c.conversion field names .wireToOutbound)
  let intoWireInput ← onlyIf message.hasInbound (c.conversion field names .inboundToWire)
  return ⟨intoDomain, intoWire, intoOutbound, intoWireInput⟩

end Laminate.Form
