import Laminate.Descriptor.Basic
import Laminate.Wire.Field

/-! What declarations say about the fields of binary messages, and whether a message agrees. -/
namespace Laminate.Descriptor

open Laminate.Wire

/-- What a declaration says about the values of a field. -/
structure FieldShape where
  name : String
  number : Nat
  type : FieldType
  /-- Full name of the message or enum that it holds. -/
  target : String := ""
  isRepeated : Bool := false
  isPacked : Bool := false
  /-- Whether its values are entries of a map. -/
  isMap : Bool := false
  /-- Whether every value is told apart from none. -/
  hasPresence : Bool := true
  /-- The value that stands for none, where values are not told apart from it. -/
  absent : Wire.Value := .varint 0
  /-- The choice that it is an alternative of. -/
  oneof : Option Int := none
  deriving Repr, Inhabited

/-- The shapes of messages by full name. -/
abbrev Shapes := String → Option (List FieldShape)

/-! ### Single values -/

/-- The low 32 bits of a varint, extended by their sign. -/
def extend32 (bits : Nat) : Nat :=
  let low := bits % 0x100000000
  if low < 0x80000000 then low else low + 0xffffffff00000000

/-- A single value in the form that its type gives it; none where its wire type is another. -/
def FieldType.canonical : FieldType → Wire.Value → Option Wire.Value
  | .int32, .varint n | .enum, .varint n => some (.varint (extend32 n))
  | .uint32, .varint n | .sint32, .varint n => some (.varint (n % 0x100000000))
  | .int64, .varint n | .uint64, .varint n | .sint64, .varint n => some (.varint n)
  | .bool, .varint n => some (.varint (if n = 0 then 0 else 1))
  | .double, .fixed64 n | .fixed64, .fixed64 n | .sfixed64, .fixed64 n => some (.fixed64 n)
  | .float, .fixed32 n | .fixed32, .fixed32 n | .sfixed32, .fixed32 n => some (.fixed32 n)
  | .string, .octets o => (Text.decode? o).map fun _ => .octets o
  | .bytes, .octets o => some (.octets o)
  | _, _ => none

def FieldType.holdsMessage : FieldType → Bool
  | .message | .group => true
  | _ => false

/-- Whether values of a type may be packed without keys. -/
def FieldType.isPackable : FieldType → Bool
  | .string | .bytes | .message | .group => false
  | _ => true

/-- A value without its key, and what follows it. -/
def FieldType.readBare (octets : List UInt8) : FieldType → Option (Wire.Value × List UInt8)
  | .double | .fixed64 | .sfixed64 => (readFixed 8 octets).map fun (n, rest) => (.fixed64 n, rest)
  | .float | .fixed32 | .sfixed32 => (readFixed 4 octets).map fun (n, rest) => (.fixed32 n, rest)
  | .string | .bytes | .message | .group => none
  | _ => (readVarint octets).map fun (n, rest) => (.varint n, rest)

/-- At most `limit` values one after the other. -/
def FieldType.unpackUpTo (type : FieldType) : Nat → List UInt8 → Option (List Wire.Value)
  | _, [] => some []
  | 0, _ => none
  | limit + 1, octets =>
    match type.readBare octets with
    | none => none
    | some (value, rest) => (type.unpackUpTo limit rest).map (value :: ·)

/-- The values that an occurrence of a repeated field stands for. Packed values take an octet or
more each. -/
def FieldType.expand (type : FieldType) : Wire.Value → Option (List Wire.Value)
  | .octets o => if type.isPackable then type.unpackUpTo o.length o else some [.octets o]
  | value => some [value]

/-- A value without its key. -/
def bareOctets : Wire.Value → List UInt8
  | .varint n => writeVarint n
  | .fixed64 n => writeFixed 8 n
  | .fixed32 n => writeFixed 4 n
  | .octets o => o
  | .group _ => []

/-- The value of a type that stands for none unless another one is declared. -/
def FieldType.zero : FieldType → Wire.Value
  | .double | .fixed64 | .sfixed64 => .fixed64 0
  | .float | .fixed32 | .sfixed32 => .fixed32 0
  | .string | .bytes | .message | .group => .octets []
  | _ => .varint 0

/-- Whether two values of a type are equal. Floating-point values are compared as numbers: the two
zeros are equal, and what is no number equals nothing. -/
def FieldType.isSame (type : FieldType) : Wire.Value → Wire.Value → Bool
  | .varint m, .varint n => m == n
  | .octets m, .octets n => m == n
  | .fixed64 m, .fixed64 n =>
    if type = .double then Float.ofBits m.toUInt64 == Float.ofBits n.toUInt64 else m == n
  | .fixed32 m, .fixed32 n =>
    if type = .float then Float32.ofBits m.toUInt32 == Float32.ofBits n.toUInt32 else m == n
  | _, _ => false

/-! ### Messages -/

/-- The fields within a value that holds a message. -/
def contents? (type : FieldType) : Wire.Value → Option (List Wire.Field)
  | .octets o => if type = .message then readFields o else none
  | .group fields => if type = .group then some fields else none
  | _ => none

/-- Whether a value agrees with the declaration of a field that holds no message. -/
def FieldShape.accepts (shape : FieldShape) (value : Wire.Value) : Bool :=
  if shape.isRepeated then
    (shape.type.expand value).any (·.all fun item => (shape.type.canonical item).isSome)
  else (shape.type.canonical value).isSome

/-- Whether a message agrees with its declaration and stays within some levels. Messages of the
kinds in `kept` are also kept as they came, so their fields are charged as undeclared ones are. -/
def agrees (shapes : Shapes) (kept : String → Bool) : Nat → String → List Wire.Field → Bool
  | levels, name, fields =>
    match shapes name with
    | none => false
    | some declared =>
      fields.all fun (number, value) =>
        (!kept name || staysWithin true levels value) &&
          match declared.find? (·.number == number) with
          | none => staysWithin true levels value
          | some shape =>
            if shape.type.holdsMessage then
              match levels with
              | 0 => false
              | levels + 1 =>
                (contents? shape.type value).any (agrees shapes kept levels shape.target)
            else shape.accepts value

end Laminate.Descriptor
