import Laminate.Text.Split

/-! Identifiers of the generated code. -/
namespace Laminate.Code

/-- Where a character of a schema name stands. -/
inductive NamePlace where
  /-- At the front, or after a dot. -/
  | start
  /-- After a letter that lower-case letters may follow unchanged. -/
  | word
  | inner
  deriving DecidableEq, Repr

/-- Capitalizes what follows an underscore or a digit and drops the underscore before a
lower-case letter; an underscore at the front becomes `X`. -/
def exportedFrom (place : NamePlace) : List Char → List Char
  | [] => []
  | c :: rest =>
    let lowerNext := rest.head?.any Char.isLower
    if place = .word ∧ c.isLower then c :: exportedFrom .word rest
    else if c = '.' then
      if lowerNext then exportedFrom .start rest else '_' :: exportedFrom .start rest
    else if c = '_' ∧ place = .start then 'X' :: exportedFrom .inner rest
    else if c = '_' ∧ lowerNext then exportedFrom .inner rest
    else if c.isDigit then c :: exportedFrom .inner rest
    else c.toUpper :: exportedFrom .word rest

/-- The exported identifier of a schema name. -/
def exportedName (name : String) : String := String.ofList (exportedFrom .start name.toList)

/-- Reserved words of the generated code. -/
def keywords : List String := [
  "break", "case", "chan", "const", "continue", "default", "defer", "else", "fallthrough", "for",
  "func", "go", "goto", "if", "import", "interface", "map", "package", "range", "return",
  "select", "struct", "switch", "type", "var"]

/-- The dots of a nested name as underscores. -/
def flattened (name : String) : String := Text.replaceAll (· == '.') '_' name

example : exportedName "created_at" = "CreatedAt" ∧ exportedName "_id2x" = "XId2X" ∧
    exportedName "a_1_B" = "A_1_B" := by decide +kernel

end Laminate.Code
