/-! Schema files as the compiler describes them. -/
namespace Laminate.Descriptor

/-- One step of an option's name; the extension steps are the parenthesized ones. -/
structure NamePart where
  text : String := ""
  isExtension : Bool := false
  deriving Repr, DecidableEq, Inhabited

/-- An option as it stands in the source file. Several values may be present at once. -/
structure WrittenOption where
  name : List NamePart := []
  aggregate : Option String := none
  text : Option (List UInt8) := none
  identifier : Option String := none
  positive : Option Nat := none
  negative : Option Int := none
  /-- The 64 bits of a floating-point value. -/
  double : Option UInt64 := none
  deriving Repr, DecidableEq, Inhabited

/-- The declared type of a field. -/
inductive FieldType where
  | double | float | int64 | uint64 | int32 | fixed64 | fixed32 | bool | string | group
  | message | bytes | uint32 | enum | sfixed32 | sfixed64 | sint32 | sint64
  deriving Repr, DecidableEq, Inhabited

/-- The types in the order of their numbers, from one on. -/
def FieldType.all : List FieldType :=
  [double, float, int64, uint64, int32, fixed64, fixed32, bool, string, group,
    message, bytes, uint32, enum, sfixed32, sfixed64, sint32, sint64]

def FieldType.ofNumber? (number : Int) : Option FieldType :=
  if 1 ≤ number then all[number.toNat - 1]? else none

/-- How messages name a type. -/
def FieldType.label : FieldType → String
  | double => "Double" | float => "Float" | int64 => "Int64" | uint64 => "Uint64"
  | int32 => "Int32" | fixed64 => "Fixed64" | fixed32 => "Fixed32" | bool => "Bool"
  | string => "String" | group => "Group" | message => "Message" | bytes => "Bytes"
  | uint32 => "Uint32" | enum => "Enum" | sfixed32 => "Sfixed32" | sfixed64 => "Sfixed64"
  | sint32 => "Sint32" | sint64 => "Sint64"

inductive Label where
  | optional | required | repeated
  deriving Repr, DecidableEq, Inhabited

/-- A field or an extension. Options are kept twice: as written in the source file, and as the
octets in which a compiler stores those it understood. -/
structure FieldDesc where
  name : String := ""
  number : Int := 0
  label : Label := .optional
  /-- The declared type; floating-point where none is declared. -/
  type : FieldType := .double
  typeName : String := ""
  /-- The message that an extension extends. -/
  extendee : Option String := none
  defaultValue : Option String := none
  jsonName : Option String := none
  oneofIndex : Option Int := none
  proto3Optional : Bool := false
  options : List WrittenOption := []
  optionData : List UInt8 := []
  /-- Whether packing is asked for, where there are options. -/
  isPacked : Option Bool := none
  deriving Repr, DecidableEq, Inhabited

structure EnumValueDesc where
  name : String := ""
  number : Int := 0
  options : List WrittenOption := []
  optionData : List UInt8 := []
  deriving Repr, DecidableEq, Inhabited

structure EnumDesc where
  name : String := ""
  values : List EnumValueDesc := []
  /-- Ranges of numbers, both ends included. -/
  reserved : List (Int × Int) := []
  /-- Whether several values may share a number. -/
  allowsAlias : Bool := false
  options : List WrittenOption := []
  optionData : List UInt8 := []
  deriving Repr, DecidableEq, Inhabited

structure OneofDesc where
  name : String := ""
  options : List WrittenOption := []
  optionData : List UInt8 := []
  deriving Repr, DecidableEq, Inhabited

/-- Numbers that a message leaves to extensions, from `first` on and below `stop`. -/
structure ExtensionRange where
  first : Int := 0
  stop : Int := 0
  options : List WrittenOption := []
  optionData : List UInt8 := []
  deriving Repr, DecidableEq, Inhabited

/-- A message without the messages nested in it. Ranges of numbers exclude their end. -/
structure MessageDesc where
  name : String := ""
  fields : List FieldDesc := []
  extensions : List FieldDesc := []
  enums : List EnumDesc := []
  oneofs : List OneofDesc := []
  extensionRanges : List ExtensionRange := []
  reserved : List (Int × Int) := []
  isMapEntry : Bool := false
  options : List WrittenOption := []
  optionData : List UInt8 := []
  deriving Repr, DecidableEq, Inhabited

/-- A message and the messages nested in it. -/
inductive MessageTree where
  | node (desc : MessageDesc) (nested : List MessageTree)
  deriving Repr, Inhabited

structure MethodDesc where
  name : String := ""
  input : String := ""
  output : String := ""
  options : List WrittenOption := []
  optionData : List UInt8 := []
  deriving Repr, DecidableEq, Inhabited

structure ServiceDesc where
  name : String := ""
  methods : List MethodDesc := []
  options : List WrittenOption := []
  optionData : List UInt8 := []
  deriving Repr, DecidableEq, Inhabited

structure FileDesc where
  name : String := ""
  package : String := ""
  goPackage : Option String := none
  /-- Version of the schema language. -/
  version : Option String := none
  dependencies : List String := []
  /-- Places in `dependencies` of the files whose declarations are passed on to importers. -/
  publicDependencies : List Int := []
  weakDependencies : List Int := []
  messages : List MessageTree := []
  enums : List EnumDesc := []
  extensions : List FieldDesc := []
  services : List ServiceDesc := []
  options : List WrittenOption := []
  optionData : List UInt8 := []
  deriving Repr, Inhabited

/-- Whether singular fields of a file are told apart from zero values without being marked. -/
def FileDesc.isProto2 (file : FileDesc) : Bool := file.version == some "proto2"

def MessageTree.desc : MessageTree → MessageDesc
  | node desc _ => desc

def MessageTree.nested : MessageTree → List MessageTree
  | node _ nested => nested

@[simp] theorem MessageTree.desc_node (desc : MessageDesc) (nested : List MessageTree) :
    (node desc nested).desc = desc := rfl

@[simp] theorem MessageTree.nested_node (desc : MessageDesc) (nested : List MessageTree) :
    (node desc nested).nested = nested := rfl

/-- A scope and a name joined by a dot; an empty scope leaves the name alone. -/
def qualify (scope name : String) : String :=
  if scope.isEmpty then name else scope ++ "." ++ name

end Laminate.Descriptor
