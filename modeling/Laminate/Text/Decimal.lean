import Laminate.Text.Number

/-! Decimal text of binary floating-point values: the fewest digits that read back, of those the
nearest to the value, written out without an exponent. All arithmetic is exact. -/
namespace Laminate.Text

/-- A positive value and the ends of the interval that rounds to it, over one denominator. -/
structure RoundingInterval where
  low : Nat
  value : Nat
  high : Nat
  denominator : Nat
  closed : Bool
  deriving Repr, DecidableEq

namespace RoundingInterval

/-- Whether `n` over the denominator rounds to the value. -/
def holds (i : RoundingInterval) (n : Nat) : Bool :=
  if i.closed then i.low ≤ n && n ≤ i.high else i.low < n && n < i.high

/-- The interval multiplied by a power of ten. -/
def scale (i : RoundingInterval) (power : Nat) : RoundingInterval :=
  let unit := Nat.pow 10 power
  { i with low := i.low * unit, value := i.value * unit, high := i.high * unit }

/-- The multiple of `unit` in the interval that lies nearest to the value, a tie going up. -/
def nearest? (i : RoundingInterval) (unit : Nat) : Option Nat :=
  let below := i.value / unit
  let gap := i.value - below * unit
  match i.holds (below * unit), i.holds ((below + 1) * unit) with
  | true, true => some (if 2 * gap < unit then below else below + 1)
  | true, false => some below
  | false, true => some (below + 1)
  | false, false => none

/-- The coarsest decimal grid with a point in the interval: the point and the grid's exponent. -/
def shortest (i : RoundingInterval) : Nat → Int → Nat × Int
  | 0, exponent => (0, exponent)
  | fuel + 1, exponent =>
    let found :=
      if exponent < 0 then (i.scale (-exponent).toNat).nearest? i.denominator
      else i.nearest? (Nat.pow 10 exponent.toNat * i.denominator)
    match found with
    | some digits => (digits, exponent)
    | none => shortest i fuel (exponent - 1)

end RoundingInterval

/-- A whole number of units of a power of ten, in positional notation. -/
def positional (digits : Nat) (exponent : Int) : List Char :=
  let text := Nat.toDigits 10 digits
  if 0 ≤ exponent then text ++ List.replicate exponent.toNat '0'
  else
    let places := (-exponent).toNat
    if places < text.length then
      text.take (text.length - places) ++ '.' :: text.drop (text.length - places)
    else '0' :: '.' :: List.replicate (places - text.length) '0' ++ text

/-- The interval of the positive finite value with these exponent and fraction fields. -/
def binary64Interval (exponent fraction : Nat) : RoundingInterval :=
  let m := if exponent = 0 then fraction else 0x10000000000000 + fraction
  let q : Int := (if exponent = 0 then 1 else exponent : Nat) - 1077
  let below := if fraction = 0 ∧ 1 < exponent then 1 else 2
  let up := Nat.pow 2 q.toNat
  { low := (4 * m - below) * up
    value := 4 * m * up
    high := (4 * m + 2) * up
    denominator := Nat.pow 2 (-q).toNat
    closed := m % 2 == 0 }

/-- Decimal text of the value with the given 64 bits. -/
def binary64Text (bits : UInt64) : String :=
  let sign := if bits >>> 63 = 0 then [] else ['-']
  let exponent := ((bits >>> 52) &&& 0x7ff).toNat
  let fraction := (bits &&& 0xfffffffffffff).toNat
  if exponent = 0x7ff then
    if fraction = 0 then String.ofList (sign ++ "inf".toList) else "NaN"
  else if exponent = 0 ∧ fraction = 0 then String.ofList (sign ++ ['0'])
  else
    let (digits, power) := (binary64Interval exponent fraction).shortest 700 309
    String.ofList (sign ++ positional digits power)

example : binary64Text 0x3ff0000000000000 = "1" ∧ binary64Text 0x8000000000000000 = "-0" ∧
    binary64Text 0x3fb999999999999a = "0.1" := by decide +kernel

end Laminate.Text
