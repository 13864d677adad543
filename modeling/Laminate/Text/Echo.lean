import Laminate.Text.Class

/-! How a message quotes text back: in quotes, with escapes for what cannot be seen. -/
namespace Laminate.Text

/-- The lower-case hexadecimal digits of a number, without leading zeros. -/
def hexDigits (n : Nat) : List Char := Nat.toDigits 16 n

/-- One character between `quote`s. Only the quote in use is escaped. -/
def echoOne (quote c : Char) : List Char :=
  if c = '\x00' then ['\\', '0']
  else if c = '\t' then ['\\', 't']
  else if c = '\n' then ['\\', 'n']
  else if c = '\r' then ['\\', 'r']
  else if c = '\\' ∨ c = quote then ['\\', c]
  else if isExtending c || isInvisible c then ['\\', 'u', '\x7b'] ++ hexDigits c.toNat ++ ['\x7d']
  else [c]

/-- Text in double quotes. -/
def echo (s : String) : String :=
  String.ofList ('"' :: s.toList.flatMap (echoOne '"') ++ ['"'])

/-- A character in single quotes. -/
def echoChar (c : Char) : String := String.ofList ('\'' :: echoOne '\'' c ++ ['\''])

example : echo "a\"b'\n" = "\"a\\\"b'\\n\"" := by decide +kernel

example : echoChar '\u200b' = "'\\u\x7b200b\x7d'" := by decide +kernel

end Laminate.Text
