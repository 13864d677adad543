import Laminate.Text.Class

/-! The written forms of numbers that annotations may hold. -/
namespace Laminate.Text

/-- The text after an optional sign. -/
def unsigned : List Char → List Char
  | '+' :: rest => rest
  | '-' :: rest => rest
  | text => text

/-- A non-empty run of digits and nothing else. -/
def isDigits (text : List Char) : Bool := !text.isEmpty && text.all Char.isDigit

/-- Nothing, or an exponent mark with an optional sign and digits. -/
def isExponent : List Char → Bool
  | [] => true
  | mark :: rest => (mark == 'e' || mark == 'E') && isDigits (unsigned rest)

/-- The spelled-out values, in any case. -/
def isSpelledNumber (text : List Char) : Bool :=
  let word := String.ofList (text.map Char.toLower)
  word == "inf" || word == "infinity" || word == "nan"

/-- Digits with an optional point among or around them, then an optional exponent. -/
def isPointNumber (text : List Char) : Bool :=
  let whole := text.takeWhile Char.isDigit
  match text.dropWhile Char.isDigit with
  | '.' :: rest =>
    !(whole.isEmpty && (rest.takeWhile Char.isDigit).isEmpty) &&
      isExponent (rest.dropWhile Char.isDigit)
  | rest => !whole.isEmpty && isExponent rest

/-- A decimal number: an optional sign, then a point number or a spelled-out value. -/
def isNumber (s : String) : Bool :=
  isPointNumber (unsigned s.toList) || isSpelledNumber (unsigned s.toList)

/-- The value of a hexadecimal digit. -/
def hexDigit? (c : Char) : Option Nat :=
  if c.isDigit then some (c.toNat - '0'.toNat)
  else if 'a' ≤ c && c ≤ 'f' then some (c.toNat - 'a'.toNat + 10)
  else if 'A' ≤ c && c ≤ 'F' then some (c.toNat - 'A'.toNat + 10)
  else none

/-- The value of a run of digits. -/
def digitsValue (text : List Char) : Nat :=
  text.foldl (fun value c => value * 10 + (c.toNat - '0'.toNat)) 0

/-- An integer in decimal with an optional sign. -/
def readInteger? (s : String) : Option Int :=
  let digits := unsigned s.toList
  if isDigits digits then
    some (if s.toList.head? = some '-' then -(digitsValue digits : Int) else digitsValue digits)
  else none

/-- The value of an exponent with its mark, cut to what makes a difference. -/
def exponentValue (text : List Char) : Int :=
  let digits := unsigned (text.drop 1)
  let size : Nat := if (digits.dropWhile (· == '0')).length ≤ 6 then digitsValue digits else 1000000
  if (text.drop 1).head? = some '-' then -(size : Int) else size

/-- A decimal number as the floating-point value nearest to it. -/
def readFloat? (s : String) : Option Float :=
  if !isNumber s then none
  else
    let text := unsigned s.toList
    let size : Float :=
      if isSpelledNumber text then
        if text.head?.any fun c => c == 'n' || c == 'N' then 0.0 / 0.0 else 1.0 / 0.0
      else
        let whole := text.takeWhile Char.isDigit
        let rest := text.dropWhile Char.isDigit
        let places := if rest.head? = some '.' then (rest.drop 1).takeWhile Char.isDigit else []
        let tail := if rest.head? = some '.' then (rest.drop 1).dropWhile Char.isDigit else rest
        let digits := digitsValue (whole ++ places)
        let exponent := exponentValue tail - places.length
        let length : Int := (Nat.toDigits 10 digits).length
        if digits = 0 || length + exponent < -400 then 0.0
        else if 400 < length + exponent then 1.0 / 0.0
        else Float.ofScientific digits (exponent < 0) exponent.natAbs
    some (if s.toList.head? = some '-' then -size else size)

/-- A signed 64-bit integer in decimal. -/
def readInt64? (s : String) : Option Int :=
  (readInteger? s).filter fun value =>
    -0x8000000000000000 ≤ value && value < 0x8000000000000000

example :
    isNumber "5." ∧ isNumber "-.5e+3" ∧ isNumber "NaN" ∧ ¬ isNumber "." ∧ ¬ isNumber "1e" := by
  decide +kernel

example : readInt64? "+007" = some 7 ∧ readInt64? "-9223372036854775809" = none := by
  decide +kernel

end Laminate.Text
