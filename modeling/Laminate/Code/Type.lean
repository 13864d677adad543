/-! Types of the generated code, and their text. -/
namespace Laminate.Code

/-- The scalars that every output language has. -/
inductive Builtin where
  | bool | int32 | int64 | uint32 | uint64 | float32 | float64 | string | bytes | any
  deriving Repr, DecidableEq, Inhabited

def Builtin.isNumeric : Builtin → Bool
  | bool | string | bytes | any => false
  | _ => true

def Builtin.isUnsigned : Builtin → Bool
  | uint32 | uint64 => true
  | _ => false

inductive TypeRef where
  | builtin (scalar : Builtin)
  /-- A type of the package being generated. -/
  | named (name : String)
  | qualified (package name : String)
  | pointer (target : TypeRef)
  | slice (element : TypeRef)
  | map (key value : TypeRef)
  deriving Repr, DecidableEq, Inhabited

namespace TypeRef

def time : TypeRef := qualified "time" "Time"

/-- A map from text to anything. -/
def genericMap : TypeRef := map (builtin .string) (builtin .any)

def isPointer : TypeRef → Bool
  | pointer _ => true
  | _ => false

/-- A pointer to a type; a pointer is left as it is. -/
def toPointer : TypeRef → TypeRef
  | pointer target => pointer target
  | other => pointer other

@[simp] theorem isPointer_toPointer (t : TypeRef) : t.toPointer.isPointer = true := by
  cases t <;> rfl

@[simp] theorem toPointer_toPointer (t : TypeRef) : t.toPointer.toPointer = t.toPointer := by
  cases t <;> rfl

end TypeRef

def Builtin.text : Builtin → String
  | bool => "bool"
  | int32 => "int32"
  | int64 => "int64"
  | uint32 => "uint32"
  | uint64 => "uint64"
  | float32 => "float32"
  | float64 => "float64"
  | string => "string"
  | bytes => "[]byte"
  | any => "any"

/-- The text of a type. A qualified type with an empty package is written without one. -/
def TypeRef.text : TypeRef → String
  | builtin scalar => scalar.text
  | named name => name
  | qualified package name => if package.isEmpty then name else package ++ "." ++ name
  | pointer target => "*" ++ target.text
  | slice element => "[]" ++ element.text
  | map key value => "map[" ++ key.text ++ "]" ++ value.text

example : (TypeRef.map (.builtin .string) (TypeRef.qualified "common" "A").toPointer).text =
    "map[string]*common.A" := by decide +kernel

end Laminate.Code
