import Laminate.Text.Echo

/-! String literals of the generated code. -/
namespace Laminate.Code

open Laminate.Text

/-- Hexadecimal digits padded with zeros to a width. -/
def hexPadded (width n : Nat) : List Char :=
  List.replicate (width - (hexDigits n).length) '0' ++ hexDigits n

/-- One character of an interpreted literal. -/
def literalChar (c : Char) : List Char :=
  if c = '\\' then ['\\', '\\']
  else if c = '"' then ['\\', '"']
  else if c = '\n' then ['\\', 'n']
  else if c = '\r' then ['\\', 'r']
  else if c = '\t' then ['\\', 't']
  else if isControl c then
    if c.toNat < 128 then '\\' :: 'x' :: hexPadded 2 c.toNat else '\\' :: 'u' :: hexPadded 4 c.toNat
  else [c]

/-- An interpreted literal. -/
def literal (s : String) : String :=
  String.ofList ('"' :: s.toList.flatMap literalChar ++ ['"'])

/-- A raw literal, or an interpreted one where the text holds the raw quote. -/
def rawLiteral (s : String) : String :=
  if s.toList.contains (Char.ofNat 96) then literal s
  else String.ofList (Char.ofNat 96 :: s.toList ++ [Char.ofNat 96])

example : literal "a\"b\\c\n" = "\"a\\\"b\\\\c\\n\"" ∧ literal "\x01" = "\"\\x01\"" ∧
    literal "a\u0085" = "\"a\\u0085\"" := by decide +kernel

end Laminate.Code
