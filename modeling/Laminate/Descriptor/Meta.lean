import Laminate.Descriptor.Shape
import Laminate.Text.Split

/-! The messages that describe schema files, in the terms of what they describe. -/
namespace Laminate.Descriptor.Meta

def metaPackage : String := "google.protobuf."

def scalar (type : FieldType) (name : String) (number : Nat) : FieldShape :=
  { name := name, number := number, type := type }

def text := scalar .string
def flag := scalar .bool
def integer := scalar .int32

/-- A field of an enumerated type. -/
def choice (name : String) (number : Nat) (target : String) : FieldShape :=
  { name := name, number := number, type := .enum, target := metaPackage ++ target }

def part (name : String) (number : Nat) (target : String) : FieldShape :=
  { name := name, number := number, type := .message, target := metaPackage ++ target }

def many (shape : FieldShape) : FieldShape := { shape with isRepeated := true }

/-- The number under which options are kept as they were written. -/
def writtenNumber : Nat := 999

def options (fields : List FieldShape) : List FieldShape :=
  fields ++ [many (part "uninterpreted_option" writtenNumber "UninterpretedOption")]

def fieldShapes : List FieldShape := [
  text "name" 1, text "extendee" 2, integer "number" 3,
  choice "label" 4 "FieldDescriptorProto.Label", choice "type" 5 "FieldDescriptorProto.Type",
  text "type_name" 6, text "default_value" 7, part "options" 8 "FieldOptions",
  integer "oneof_index" 9, text "json_name" 10, flag "proto3_optional" 17]

def fileOptionShapes : List FieldShape := options [
  text "java_package" 1, text "java_outer_classname" 8, choice "optimize_for" 9
    "FileOptions.OptimizeMode", flag "java_multiple_files" 10, text "go_package" 11,
  flag "cc_generic_services" 16, flag "java_generic_services" 17, flag "py_generic_services" 18,
  flag "java_generate_equals_and_hash" 20, flag "deprecated" 23, flag "java_string_check_utf8" 27,
  flag "cc_enable_arenas" 31, text "objc_class_prefix" 36, text "csharp_namespace" 37,
  text "swift_prefix" 39, text "php_class_prefix" 40, text "php_namespace" 41,
  flag "php_generic_services" 42, text "php_metadata_namespace" 44, text "ruby_package" 45]

/-- The shape of each message, by its name within the package. -/
def table : List (String × List FieldShape) := [
  ("FileDescriptorProto", [
    text "name" 1, text "package" 2, many (text "dependency" 3),
    many (part "message_type" 4 "DescriptorProto"),
    many (part "enum_type" 5 "EnumDescriptorProto"),
    many (part "service" 6 "ServiceDescriptorProto"),
    many (part "extension" 7 "FieldDescriptorProto"), part "options" 8 "FileOptions",
    part "source_code_info" 9 "SourceCodeInfo", many (integer "public_dependency" 10),
    many (integer "weak_dependency" 11), text "syntax" 12]),
  ("DescriptorProto", [
    text "name" 1, many (part "field" 2 "FieldDescriptorProto"),
    many (part "nested_type" 3 "DescriptorProto"),
    many (part "enum_type" 4 "EnumDescriptorProto"),
    many (part "extension_range" 5 "DescriptorProto.ExtensionRange"),
    many (part "extension" 6 "FieldDescriptorProto"), part "options" 7 "MessageOptions",
    many (part "oneof_decl" 8 "OneofDescriptorProto"),
    many (part "reserved_range" 9 "DescriptorProto.ReservedRange"),
    many (text "reserved_name" 10)]),
  ("DescriptorProto.ExtensionRange", [
    integer "start" 1, integer "end" 2, part "options" 3 "ExtensionRangeOptions"]),
  ("DescriptorProto.ReservedRange", [integer "start" 1, integer "end" 2]),
  ("FieldDescriptorProto", fieldShapes),
  ("OneofDescriptorProto", [text "name" 1, part "options" 2 "OneofOptions"]),
  ("EnumDescriptorProto", [
    text "name" 1, many (part "value" 2 "EnumValueDescriptorProto"),
    part "options" 3 "EnumOptions",
    many (part "reserved_range" 4 "EnumDescriptorProto.EnumReservedRange"),
    many (text "reserved_name" 5)]),
  ("EnumDescriptorProto.EnumReservedRange", [integer "start" 1, integer "end" 2]),
  ("EnumValueDescriptorProto", [
    text "name" 1, integer "number" 2, part "options" 3 "EnumValueOptions"]),
  ("ServiceDescriptorProto", [
    text "name" 1, many (part "method" 2 "MethodDescriptorProto"),
    part "options" 3 "ServiceOptions"]),
  ("MethodDescriptorProto", [
    text "name" 1, text "input_type" 2, text "output_type" 3, part "options" 4 "MethodOptions",
    flag "client_streaming" 5, flag "server_streaming" 6]),
  ("FileOptions", fileOptionShapes),
  ("MessageOptions", options [
    flag "message_set_wire_format" 1, flag "no_standard_descriptor_accessor" 2,
    flag "deprecated" 3, flag "map_entry" 7]),
  ("FieldOptions", options [
    choice "ctype" 1 "FieldOptions.CType", flag "packed" 2, flag "deprecated" 3, flag "lazy" 5,
    choice "jstype" 6 "FieldOptions.JSType", flag "weak" 10, flag "unverified_lazy" 15]),
  ("OneofOptions", options []),
  ("EnumOptions", options [flag "allow_alias" 2, flag "deprecated" 3]),
  ("EnumValueOptions", options [flag "deprecated" 1]),
  ("ServiceOptions", options [flag "deprecated" 33]),
  ("MethodOptions", options [
    flag "deprecated" 33, choice "idempotency_level" 34 "MethodOptions.IdempotencyLevel"]),
  ("ExtensionRangeOptions", options []),
  ("UninterpretedOption", [
    many (part "name" 2 "UninterpretedOption.NamePart"), text "identifier_value" 3,
    scalar .uint64 "positive_int_value" 4, scalar .int64 "negative_int_value" 5,
    scalar .double "double_value" 6, scalar .bytes "string_value" 7, text "aggregate_value" 8]),
  ("UninterpretedOption.NamePart", [text "name_part" 1, flag "is_extension" 2]),
  ("SourceCodeInfo", [many (part "location" 1 "SourceCodeInfo.Location")]),
  ("SourceCodeInfo.Location", [
    many (integer "path" 1), many (integer "span" 2), text "leading_comments" 3,
    text "trailing_comments" 4, many (text "leading_detached_comments" 6)])]

/-- The shape of a message by its full name. -/
def shapes : Shapes := fun name =>
  (Text.dropHead? metaPackage name).bind fun name => table.lookup name

/-- Whether a message holds options, which are kept as they came. -/
def holdsOptions (name : String) : Bool :=
  ((shapes name).getD []).any (·.number == writtenNumber)

/-- The values of the enumerated types among the options, by the type's name in the package. -/
def choices : List (String × List (String × Int)) := [
  ("FileOptions.OptimizeMode", [("SPEED", 1), ("CODE_SIZE", 2), ("LITE_RUNTIME", 3)]),
  ("FieldOptions.CType", [("STRING", 0), ("CORD", 1), ("STRING_PIECE", 2)]),
  ("FieldOptions.JSType", [("JS_NORMAL", 0), ("JS_STRING", 1), ("JS_NUMBER", 2)]),
  ("MethodOptions.IdempotencyLevel",
    [("IDEMPOTENCY_UNKNOWN", 0), ("NO_SIDE_EFFECTS", 1), ("IDEMPOTENT", 2)])]

end Laminate.Descriptor.Meta
