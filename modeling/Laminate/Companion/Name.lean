import Laminate.Text.Words

/-! Identifiers of the companion language. -/
namespace Laminate.Companion

open Laminate.Text

/-- Reserved words that may be used as identifiers in their raw form. -/
def rawWords : List String := [
  "as", "async", "await", "break", "const", "continue", "dyn", "else", "enum", "extern", "false",
  "fn", "for", "if", "impl", "in", "let", "loop", "match", "mod", "move", "mut", "pub", "ref",
  "return", "static", "struct", "trait", "true", "type", "unsafe", "use", "where", "while",
  "abstract", "become", "box", "do", "final", "macro", "override", "priv", "try", "typeof",
  "unsized", "virtual", "yield"]

/-- Reserved words that name a place in a path and have no raw form. -/
def pathWords : List String := ["self", "super", "crate", "Self"]

/-- Words that cannot name anything as they are. -/
def reservedWords : List String := "_" :: pathWords ++ rawWords

/-- Whether a text has the shape of an identifier. -/
def isWord : List Char → Bool
  | [] => false
  | c :: rest => (c == '_' || isNameStart c) && rest.all isNameContinue

/-- Whether a text is an identifier in raw form. -/
def isRawWord (name : String) : Bool :=
  match dropHead? "r#" name with
  | some word => isWord word.toList && !(("_" :: pathWords).contains word)
  | none => false

/-- A name that can stand for a type, reserved or not. -/
def typeName? (name : String) : Option String :=
  if isWord name.toList || isRawWord name then some name else none

/-- The identifier of a field: reserved words become raw, and the words that cannot are told apart
by an underscore. -/
def fieldName? (name : String) : Option String :=
  let word := snakeCase name
  if pathWords.contains word then some (word ++ "_")
  else if rawWords.contains word then some ("r#" ++ word)
  else if isWord word.toList then some word
  else none

/-- Characters that separate words without a meaning of their own. -/
def isSpacing (c : Char) : Bool := isBlank c || c == '\u200e' || c == '\u200f'

example : fieldName? "CreatedAt" = some "created_at" ∧ fieldName? "Type" = some "r#type" ∧
    fieldName? "Self" = some "self_" ∧ fieldName? "1abc" = none := by decide +kernel

end Laminate.Companion
