import Laminate.Text.Echo

/-! String literals and documentation comments of the companion language. -/
namespace Laminate.Companion

open Laminate.Text

/-- The inside of a string literal. A NUL before an octal digit is spelled out, so that the two are
not taken for one escape. -/
def literalBody : List Char → List Char
  | [] => []
  | '\x00' :: rest =>
    (match rest with
      | c :: _ => if '0' ≤ c && c ≤ '7' then ['\\', 'x', '0', '0'] else ['\\', '0']
      | [] => ['\\', '0']) ++ literalBody rest
  | c :: rest => echoOne '"' c ++ literalBody rest

/-- A string literal. -/
def stringLiteral (text : String) : String :=
  String.ofList ('"' :: literalBody text.toList ++ ['"'])

/-- Whether a text may stand between the marks of a block comment: the marks within it are paired,
and none closes what it did not open. `depth` counts the open ones. -/
def blockMarksPair : Nat → List Char → Bool
  | depth, '/' :: '*' :: rest => blockMarksPair (depth + 1) rest
  | 0, '*' :: '/' :: _ => false
  | depth + 1, '*' :: '/' :: rest => blockMarksPair depth rest
  | depth, _ :: rest => blockMarksPair depth rest
  | depth, [] => depth == 0

/-- A text without the spaces before its line breaks. -/
def trimLines (text : String) : String :=
  String.ofList (go text.toList)
where
  go : List Char → List Char
    | [] => []
    | c :: rest =>
      match go rest with
      | '\n' :: tail => if c = ' ' then '\n' :: tail else c :: '\n' :: tail
      | tail => c :: tail

/-- The lines that document an item: a line comment if the text has no line break, else a block
comment if it can stand in one, else an attribute. -/
def documentation (text : String) : String :=
  if !text.toList.contains '\n' then "///" ++ text ++ "\n"
  else if blockMarksPair 0 text.toList then "/**" ++ trimLines text ++ "*/\n"
  else "#[doc = " ++ stringLiteral text ++ "]\n"

example : stringLiteral "a\"b'\x001" = "\"a\\\"b'\\x001\"" := by decide +kernel

example : trimLines "a  \n b \n" = "a\n b\n" := by decide +kernel

end Laminate.Companion
