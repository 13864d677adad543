import Laminate.Text.Split

/-! Import paths, and references to exported names in them. -/
namespace Laminate.Code

open Laminate.Text

/-- A major-version segment such as `v4`. -/
def isVersionSegment (segment : String) : Bool :=
  match segment.toList with
  | 'v' :: rest => !rest.isEmpty && rest.all Char.isDigit
  | _ => false

/-- The segments of a path. -/
def segments (path : String) : List String := pieces (· == '/') path

/-- The last segment that is not a version, or the whole path where all are. -/
def pathName (path : String) : String :=
  ((segments path).reverse.find? (!isVersionSegment ·)).getD path

/-- Hyphens cannot stand in identifiers. -/
def withoutHyphens (name : String) : String := replaceAll (· == '-') '_' name

/-- An exported name of a package, such as `github.com/acme/money.Format`. -/
structure Reference where
  path : String
  package : String
  name : String
  deriving Repr, DecidableEq, Inhabited

namespace Reference

/-- Read `import/path.Name`; the path has at least one slash. -/
def parse? (text : String) : Option Reference :=
  match aroundLast? '/' text with
  | none => none
  | some (directory, last) =>
    match around? '.' last with
    | none => none
    | some (segment, name) =>
      if directory.isEmpty || segment.isEmpty || name.isEmpty || name.toList.contains '.' then none
      else
        let package := if isVersionSegment segment then lastPiece '/' directory else segment
        some ⟨directory ++ "/" ++ segment, withoutHyphens package, name⟩

/-- The reference as the callee of a call. -/
def callee (reference : Reference) : String := reference.package ++ "." ++ reference.name

end Reference

example : Reference.parse? "github.com/acme/money/v2.Format" =
    some ⟨"github.com/acme/money/v2", "money", "Format"⟩ := by decide +kernel

end Laminate.Code
