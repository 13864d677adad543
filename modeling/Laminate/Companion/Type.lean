import Laminate.Code.Type

/-! Types of the companion language, as they are put together from those of the main one. -/
namespace Laminate.Companion

open Laminate.Code

inductive TypeExpr where
  | scalar (scalar : Builtin)
  | dateTime
  /-- A type by its name, which the schema gives. -/
  | path (text : String)
  | option (inner : TypeExpr)
  | boxed (inner : TypeExpr)
  | list (element : TypeExpr)
  | map (key value : TypeExpr)
  deriving Repr, DecidableEq, Inhabited

namespace TypeExpr

def scalarText : Builtin → String
  | .bool => "bool"
  | .int32 => "i32"
  | .int64 => "i64"
  | .uint32 => "u32"
  | .uint64 => "u64"
  | .float32 => "f32"
  | .float64 => "f64"
  | .string => "String"
  | .bytes => "Vec<u8>"
  | .any => "serde_json::Value"

def text : TypeExpr → String
  | scalar s => scalarText s
  | dateTime => "chrono::DateTime<chrono::Utc>"
  | path text => text
  | option inner => "Option<" ++ inner.text ++ ">"
  | boxed inner => "Box<" ++ inner.text ++ ">"
  | list element => "Vec<" ++ element.text ++ ">"
  | map key value => "std::collections::HashMap<" ++ key.text ++ ", " ++ value.text ++ ">"

/-- A type of some package; instants of time have a type of their own. -/
def ofQualified (package name : String) : TypeExpr :=
  if package = "time" ∧ name = "Time" then dateTime
  else if package.isEmpty then path name
  else path (package ++ "::" ++ name)

/-- Whether a pointer to a type is boxed, so that messages which contain themselves have a size. -/
def wantsBox : TypeRef → Bool
  | .named _ => true
  | .qualified package _ => package != "time"
  | _ => false

/-- The form of a type in the companion language. -/
def ofType : TypeRef → TypeExpr
  | .builtin s => scalar s
  | .named name => path name
  | .qualified package name => ofQualified package name
  | .pointer target => option (if wantsBox target then boxed (ofType target) else ofType target)
  | .slice element => list (ofType element)
  | .map key value => map (ofType key) (ofType value)

end TypeExpr

example : (TypeExpr.ofType (.map (.builtin .string) (.pointer (.qualified "common" "A")))).text =
    "std::collections::HashMap<String, Option<Box<common::A>>>" := by decide +kernel

end Laminate.Companion
