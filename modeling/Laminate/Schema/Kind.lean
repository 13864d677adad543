import Laminate.Code.Type
import Laminate.Descriptor.Basic
import Laminate.Schema.Module
import Laminate.Settings.Basic

/-! Layers, the kinds of messages, and what a field can hold. -/
namespace Laminate.Schema

open Laminate.Text Laminate.Code Laminate.Descriptor

/-- The forms in which data appears. -/
inductive Layer where
  /-- As transported. -/
  | wire
  /-- As the business logic sees it. -/
  | domain
  /-- As decoded from clients. -/
  | inbound
  /-- As sent to clients. -/
  | outbound
  deriving Repr, DecidableEq, Inhabited

/-- The part a message plays, read off the ending of its name. -/
inductive MessageKind where
  | wire | request | response | unknown
  deriving Repr, DecidableEq, Inhabited

namespace MessageKind

/-- Whether a name is something followed by an ending. -/
def endsIn (name ending : String) : Bool :=
  octets ending < octets name && ending.toList.isSuffixOf name.toList

/-- A name that is all ending has no kind. -/
def ofName (suffixes : Suffixes) (name : String) : MessageKind :=
  if endsIn name suffixes.wire then wire
  else if endsIn name suffixes.request then request
  else if endsIn name suffixes.response then response
  else unknown

/-- The name without the ending of its kind. -/
def baseName (suffixes : Suffixes) (name : String) : MessageKind → String
  | wire => (dropTail? suffixes.wire name).getD name
  | request => (dropTail? suffixes.request name).getD name
  | response => (dropTail? suffixes.response name).getD name
  | unknown => name

end MessageKind

/-- Casing of serialized keys. -/
inductive Naming where
  | snake | camel
  deriving Repr, DecidableEq, Inhabited

/-- The casing of a declared number; every number but camel's means snake. -/
def Naming.ofNumber (number : Int) : Naming := if number = 2 then camel else snake

/-- The names of a message's type in each layer. -/
structure LayerNames where
  wire : String
  domain : String
  outbound : String
  inbound : String
  deriving Repr, DecidableEq, Inhabited

def LayerNames.derive (suffixes : Suffixes) (wire : String) (kind : MessageKind) : LayerNames :=
  let base := kind.baseName suffixes wire
  ⟨wire, base ++ suffixes.domain, base ++ suffixes.outbound, base ++ suffixes.inbound⟩

/-- Standard schema messages that have a form of their own in the generated code. -/
inductive WellKnown where
  | timestamp | struct | value
  | wrapper (scalar : Builtin)
  deriving Repr, DecidableEq, Inhabited

/-- The wrapper message of a scalar. -/
def wrapperName : Builtin → String
  | .string => "StringValue"
  | .bool => "BoolValue"
  | .int32 => "Int32Value"
  | .int64 => "Int64Value"
  | .uint32 => "UInt32Value"
  | .uint64 => "UInt64Value"
  | .float32 => "FloatValue"
  | .float64 => "DoubleValue"
  | .bytes | .any => "BytesValue"

/-- The scalars that have a wrapper message. -/
def wrappedScalars : List Builtin :=
  [.string, .bool, .int32, .int64, .uint32, .uint64, .float32, .float64, .bytes]

def WellKnown.ofTypeName? (typeName : String) : Option WellKnown :=
  if typeName = ".google.protobuf.Timestamp" then some timestamp
  else if typeName = ".google.protobuf.Struct" then some struct
  else if typeName = ".google.protobuf.Value" then some value
  else (wrappedScalars.find? fun s => typeName = ".google.protobuf." ++ wrapperName s).map wrapper

/-- The scalar of a declared type; enums, messages and groups have none. -/
def scalarOf? : FieldType → Option Builtin
  | .double => some .float64
  | .float => some .float32
  | .int64 | .sint64 | .sfixed64 => some .int64
  | .uint64 | .fixed64 => some .uint64
  | .int32 | .sint32 | .sfixed32 => some .int32
  | .uint32 | .fixed32 => some .uint32
  | .bool => some .bool
  | .string => some .string
  | .bytes => some .bytes
  | .enum | .message | .group => none

/-- A message that a field refers to. -/
structure MessageTarget where
  /-- Full name with its leading dot. -/
  typeName : String
  placement : Placement
  kind : MessageKind
  names : LayerNames
  outboundHidden : Bool
  deriving Repr, DecidableEq, Inhabited

/-- What one element of a field is; of a map, what one value is. -/
inductive FieldKind where
  | scalar (scalar : Builtin)
  | enum (typeName : String) (placement : Placement)
  | message (target : MessageTarget)
  | wellKnown (type : WellKnown)
  deriving Repr, DecidableEq, Inhabited

/-- How many values a field holds. -/
inductive Cardinality where
  | singular
  /-- None or one, told apart from a zero value. -/
  | optional
  | repeated
  | map (key : Builtin)
  deriving Repr, DecidableEq, Inhabited

example : MessageKind.ofName {} "UserWire" = .wire ∧ MessageKind.ofName {} "Wire" = .unknown := by
  decide +kernel

end Laminate.Schema
