import Laminate.Descriptor.Meta

/-! Schema files in their binary form. A file has to agree with what describes it first, so that
reading it part by part cannot fail. Of values that may stand once, the last counts. -/
namespace Laminate.Descriptor

open Laminate.Wire

/-! ### Parts of a message -/

def octetsOf (number : Nat) (fields : List Wire.Field) : List (List UInt8) :=
  (valuesOf number fields).filterMap fun
    | .octets o => some o
    | _ => none

def octetsAt? (number : Nat) (fields : List Wire.Field) : Option (List UInt8) :=
  (octetsOf number fields).getLast?

def textsAt (number : Nat) (fields : List Wire.Field) : List String :=
  (octetsOf number fields).filterMap Text.decode?

def textAt? (number : Nat) (fields : List Wire.Field) : Option String :=
  (textsAt number fields).getLast?

def textAt (number : Nat) (fields : List Wire.Field) : String := (textAt? number fields).getD ""

/-- The bits of the last value of a number. -/
def bitsAt? (number : Nat) (fields : List Wire.Field) : Option Nat :=
  ((valuesOf number fields).filterMap fun
    | .varint n | .fixed64 n | .fixed32 n => some n
    | _ => none).getLast?

def integerAt? (number : Nat) (fields : List Wire.Field) : Option Int :=
  (bitsAt? number fields).map signed32

def integerAt (number : Nat) (fields : List Wire.Field) : Int := (integerAt? number fields).getD 0

/-- Repeated integers, packed or not. -/
def integersAt (number : Nat) (fields : List Wire.Field) : List Int :=
  (valuesOf number fields).flatMap fun value =>
    ((FieldType.int32.expand value).getD []).filterMap fun
      | .varint n => some (signed32 n)
      | _ => none

def flagAt? (number : Nat) (fields : List Wire.Field) : Option Bool :=
  (bitsAt? number fields).map (· != 0)

def flagAt (number : Nat) (fields : List Wire.Field) : Bool := (flagAt? number fields).getD false

def partsAt (number : Nat) (fields : List Wire.Field) : List (List Wire.Field) :=
  (valuesOf number fields).filterMap (contents? .message)

/-- The fields of a part, which may come in pieces; none where the part is not there. -/
def partAt (number : Nat) (fields : List Wire.Field) : List Wire.Field :=
  (partsAt number fields).flatten

/-- The octets of a part that may come in pieces. -/
def partOctets (number : Nat) (fields : List Wire.Field) : List UInt8 :=
  (octetsOf number fields).flatten

/-! ### Descriptors -/

def NamePart.ofFields (fields : List Wire.Field) : NamePart where
  text := textAt 1 fields
  isExtension := flagAt 2 fields

def WrittenOption.ofFields (fields : List Wire.Field) : WrittenOption where
  name := (partsAt 2 fields).map NamePart.ofFields
  identifier := textAt? 3 fields
  positive := bitsAt? 4 fields
  negative := (bitsAt? 5 fields).map signed64
  double := (bitsAt? 6 fields).map Nat.toUInt64
  text := octetsAt? 7 fields
  aggregate := textAt? 8 fields

/-- Options as they were written, within the fields of an options message. -/
def writtenIn (options : List Wire.Field) : List WrittenOption :=
  (partsAt Meta.writtenNumber options).map WrittenOption.ofFields

def Label.ofNumber : Int → Label
  | 2 => .required
  | 3 => .repeated
  | _ => .optional

def FieldDesc.ofFields (fields : List Wire.Field) : FieldDesc where
  name := textAt 1 fields
  extendee := textAt? 2 fields
  number := integerAt 3 fields
  label := .ofNumber (integerAt 4 fields)
  type := ((integerAt? 5 fields).bind FieldType.ofNumber?).getD .double
  typeName := textAt 6 fields
  defaultValue := textAt? 7 fields
  options := writtenIn (partAt 8 fields)
  optionData := partOctets 8 fields
  isPacked := if (valuesOf 8 fields).isEmpty then none else some (flagAt 2 (partAt 8 fields))
  oneofIndex := integerAt? 9 fields
  jsonName := textAt? 10 fields
  proto3Optional := flagAt 17 fields

def EnumValueDesc.ofFields (fields : List Wire.Field) : EnumValueDesc where
  name := textAt 1 fields
  number := integerAt 2 fields
  options := writtenIn (partAt 3 fields)
  optionData := partOctets 3 fields

/-- A range of numbers; an end that is not given is zero. -/
def rangeOf (fields : List Wire.Field) : Int × Int := (integerAt 1 fields, integerAt 2 fields)

def ExtensionRange.ofFields (fields : List Wire.Field) : ExtensionRange where
  first := integerAt 1 fields
  stop := integerAt 2 fields
  options := writtenIn (partAt 3 fields)
  optionData := partOctets 3 fields

def EnumDesc.ofFields (fields : List Wire.Field) : EnumDesc where
  name := textAt 1 fields
  values := (partsAt 2 fields).map EnumValueDesc.ofFields
  reserved := (partsAt 4 fields).map rangeOf
  allowsAlias := flagAt 2 (partAt 3 fields)
  options := writtenIn (partAt 3 fields)
  optionData := partOctets 3 fields

def OneofDesc.ofFields (fields : List Wire.Field) : OneofDesc where
  name := textAt 1 fields
  options := writtenIn (partAt 2 fields)
  optionData := partOctets 2 fields

def MessageDesc.ofFields (fields : List Wire.Field) : MessageDesc where
  name := textAt 1 fields
  fields := (partsAt 2 fields).map FieldDesc.ofFields
  enums := (partsAt 4 fields).map EnumDesc.ofFields
  extensionRanges := (partsAt 5 fields).map ExtensionRange.ofFields
  extensions := (partsAt 6 fields).map FieldDesc.ofFields
  isMapEntry := flagAt 7 (partAt 7 fields)
  options := writtenIn (partAt 7 fields)
  optionData := partOctets 7 fields
  oneofs := (partsAt 8 fields).map OneofDesc.ofFields
  reserved := (partsAt 9 fields).map rangeOf

/-- A message with the messages in it, down to a depth. -/
def MessageTree.ofFields : Nat → List Wire.Field → MessageTree
  | 0, fields => .node (.ofFields fields) []
  | depth + 1, fields => .node (.ofFields fields) ((partsAt 3 fields).map (ofFields depth))

def MethodDesc.ofFields (fields : List Wire.Field) : MethodDesc where
  name := textAt 1 fields
  input := textAt 2 fields
  output := textAt 3 fields
  options := writtenIn (partAt 4 fields)
  optionData := partOctets 4 fields

def ServiceDesc.ofFields (fields : List Wire.Field) : ServiceDesc where
  name := textAt 1 fields
  methods := (partsAt 2 fields).map MethodDesc.ofFields
  options := writtenIn (partAt 3 fields)
  optionData := partOctets 3 fields

def FileDesc.ofFields (fields : List Wire.Field) : FileDesc where
  name := textAt 1 fields
  package := textAt 2 fields
  goPackage := textAt? 11 (partAt 8 fields)
  version := textAt? 12 fields
  dependencies := textsAt 3 fields
  publicDependencies := integersAt 10 fields
  weakDependencies := integersAt 11 fields
  messages := (partsAt 4 fields).map (MessageTree.ofFields maxLevels)
  enums := (partsAt 5 fields).map EnumDesc.ofFields
  services := (partsAt 6 fields).map ServiceDesc.ofFields
  extensions := (partsAt 7 fields).map FieldDesc.ofFields
  options := writtenIn (partAt 8 fields)
  optionData := partOctets 8 fields

/-- A file from its octets. Files stand one level below what lists them. -/
def FileDesc.ofOctets? (octets : List UInt8) : Option FileDesc :=
  match readFields octets with
  | none => none
  | some fields =>
    if agrees Meta.shapes Meta.holdsOptions (maxLevels - 1)
        (Meta.metaPackage ++ "FileDescriptorProto") fields then
      some (FileDesc.ofFields fields)
    else none

end Laminate.Descriptor
