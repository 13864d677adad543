import Laminate.Catalog.Basic
import Laminate.Descriptor.Shape
import Laminate.Text.Number
import Laminate.Text.Octets

/-! The types of declared fields, and the values that texts give to them. -/
namespace Laminate.Catalog

open Text Descriptor

variable (catalog : Catalog)

/-- The type of a field, and the message or enum that it holds. A name of a type decides alone,
save that a message may be declared as a group; a field that gives neither a type nor a name holds a
floating-point number. -/
def typeOf? (visible : List String) (scope : String) (field : FieldDesc) :
    Option (FieldType × Option Symbol) :=
  if field.typeName.isEmpty then
    match field.type with
    | .message | .group | .enum => none
    | scalar => some (scalar, none)
  else
    (catalog.resolve? visible Declared.isType scope field.typeName).map fun s =>
      (if s.declared.isEnum then .enum
        else if field.type = .group then .group else .message, some s)

/-! ### Values -/

/-- The bounds of an integer type. -/
def boundsOf? : FieldType → Option (Int × Int)
  | .int32 | .sint32 | .sfixed32 => some (-0x80000000, 0x7fffffff)
  | .int64 | .sint64 | .sfixed64 => some (-0x8000000000000000, 0x7fffffffffffffff)
  | .uint32 | .fixed32 => some (0, 0xffffffff)
  | .uint64 | .fixed64 => some (0, 0xffffffffffffffff)
  | _ => none

/-- An integer in the form that a type gives it. Types with a sign bit of their own alternate
between the signs. -/
def integerValue (type : FieldType) (n : Int) : Wire.Value :=
  match type with
  | .sint32 | .sint64 => .varint (if 0 ≤ n then 2 * n else -2 * n - 1).toNat
  | .fixed32 | .sfixed32 => .fixed32 (n % 0x100000000).toNat
  | .fixed64 | .sfixed64 => .fixed64 (n % 0x10000000000000000).toNat
  | _ => .varint (n % 0x10000000000000000).toNat

/-- An integer as a value of a type that can hold it. -/
def integerValue? (type : FieldType) (n : Int) : Option Wire.Value :=
  match boundsOf? type with
  | some (low, high) => if low ≤ n && n ≤ high then some (integerValue type n) else none
  | none => none

/-- The bits of a double as a value of a floating-point type. -/
def floatValue (type : FieldType) (bits : UInt64) : Wire.Value :=
  if type = .float then .fixed32 (Float.ofBits bits).toFloat32.toBits.toNat
  else .fixed64 bits.toNat

/-- What an octal escape stands for, with at most `places` digits to come, and what follows it. -/
def octalOctet : Nat → Nat → List Char → Nat × List Char
  | places + 1, value, c :: rest =>
    if '0' ≤ c && c ≤ '7' then octalOctet places (value * 8 + (c.toNat - '0'.toNat)) rest
    else (value, c :: rest)
  | _, value, rest => (value, rest)

/-- The octet of two hexadecimal digits, the first of which may be a plus sign instead. -/
def hexOctet? (high low : Char) : Option Nat :=
  match if high = '+' then some 0 else hexDigit? high, hexDigit? low with
  | some high, some low => some (high * 16 + low)
  | _, _ => none

/-- What a letter after a backslash stands for. -/
def escapeOctets : List (Char × Nat) :=
  [('a', 7), ('b', 8), ('f', 12), ('n', 10), ('r', 13), ('t', 9), ('v', 11), ('\\', 92),
    ('?', 63), ('\'', 39), ('"', 34)]

/-- The octets that a text with escapes stands for, none where an escape is not sound. -/
def unescape? : Nat → List Char → Option (List UInt8)
  | _, [] => some []
  | 0, _ => none
  | fuel + 1, '\\' :: c :: rest =>
    if c = 'x' || c = 'X' then
      match rest with
      | high :: low :: rest =>
        match hexOctet? high low with
        | some octet => (unescape? fuel rest).map (octet.toUInt8 :: ·)
        | none => none
      | _ => none
    else if '0' ≤ c && c ≤ '7' then
      let (octet, rest) := octalOctet 3 0 (c :: rest)
      (unescape? fuel rest).map (octet.toUInt8 :: ·)
    else
      match escapeOctets.lookup c with
      | some octet => (unescape? fuel rest).map (octet.toUInt8 :: ·)
      | none => none
  | fuel + 1, c :: rest =>
    if c = '\\' then none
    else (unescape? fuel rest).map (encode (String.ofList [c]) ++ ·)

/-- The number of an enum's value by name. -/
def numberOf? (target : Option Symbol) (name : String) : Option Int :=
  (target.bind (·.declared.enumDesc?)).bind fun desc =>
    (desc.values.find? (·.name == name)).map (·.number)

/-- The value that a text gives to a field by default. -/
def defaultOf? (text : String) (target : Option Symbol) (type : FieldType) :
    Option Wire.Value :=
  match type with
  | .double | .float => (readFloat? text).map fun value => floatValue type value.toBits
  | .bool =>
    if text = "true" then some (.varint 1) else if text = "false" then some (.varint 0) else none
  | .string => some (.octets (encode text))
  | .bytes => (unescape? text.length text.toList).map .octets
  | .enum => (numberOf? target text).map (integerValue .enum)
  | .message | .group => none
  | .uint32 | .fixed32 | .uint64 | .fixed64 =>
    if text.toList.head? = some '-' then none
    else (readInteger? text).bind (integerValue? type)
  | type => (readInteger? text).bind (integerValue? type)

/-- The value that stands for none in a field. -/
def absentOf (field : FieldDesc) (target : Option Symbol) (type : FieldType) : Wire.Value :=
  match field.defaultValue.bind fun text => defaultOf? text target type with
  | some value => value
  | none =>
    match (target.bind (·.declared.enumDesc?)).bind (·.values.head?) with
    | some first => integerValue .enum first.number
    | none => type.zero

example : unescape? 9 "a\\x+f\\101\\n".toList = some [97, 15, 65, 10] := by decide +kernel

end Laminate.Catalog
