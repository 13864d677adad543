import Laminate.Text.Class

/-! Text in its eight-bit encoding form, read strictly or with replacement characters. -/
namespace Laminate.Text

/-- A continuation octet. -/
def isTail (b : UInt8) : Bool := 0x80 ≤ b && b ≤ 0xbf

/-- How many continuation octets a lead octet wants, and the bounds of the first of them. -/
def leadShape (b : UInt8) : Option (Nat × UInt8 × UInt8) :=
  if 0xc2 ≤ b && b ≤ 0xdf then some (1, 0x80, 0xbf)
  else if b = 0xe0 then some (2, 0xa0, 0xbf)
  else if b = 0xed then some (2, 0x80, 0x9f)
  else if 0xe1 ≤ b && b ≤ 0xef then some (2, 0x80, 0xbf)
  else if b = 0xf0 then some (3, 0x90, 0xbf)
  else if 0xf1 ≤ b && b ≤ 0xf3 then some (3, 0x80, 0xbf)
  else if b = 0xf4 then some (3, 0x80, 0x8f)
  else none

/-- Payload bits of a lead octet that wants `tails` continuations. -/
def leadBits (tails : Nat) (b : UInt8) : Nat :=
  if tails = 1 then b.toNat % 32 else if tails = 2 then b.toNat % 16 else b.toNat % 8

/-- Up to `tails` more continuation octets: the code point if all are there, and the rest. -/
def takeTails : Nat → Nat → List UInt8 → Option Nat × List UInt8
  | 0, code, rest => (some code, rest)
  | _ + 1, _, [] => (none, [])
  | tails + 1, code, b :: rest =>
    if isTail b then takeTails tails (code * 64 + b.toNat % 64) rest else (none, b :: rest)

/-- The first character of some octets, or none for a broken sequence, with what follows it.
A broken sequence ends before the first octet that rules it out. -/
def nextChar (b : UInt8) (rest : List UInt8) : Option Char × List UInt8 :=
  if b < 0x80 then (some (Char.ofNat b.toNat), rest)
  else match leadShape b with
    | none => (none, rest)
    | some (tails, low, high) =>
      match rest with
      | [] => (none, [])
      | b₁ :: more =>
        if low ≤ b₁ && b₁ ≤ high then
          let (code, left) :=
            takeTails (tails - 1) (leadBits tails b * 64 + b₁.toNat % 64) more
          (code.map Char.ofNat, left)
        else (none, b₁ :: more)

theorem takeTails_length (tails code : Nat) (rest : List UInt8) :
    (takeTails tails code rest).2.length ≤ rest.length := by
  induction tails generalizing code rest with
  | zero => simp [takeTails]
  | succ tails ih =>
    cases rest with
    | nil => simp [takeTails]
    | cons b rest =>
      simp only [takeTails]
      split
      · exact Nat.le_trans (ih _ _) (by simp)
      · simp

theorem nextChar_length (b : UInt8) (rest : List UInt8) :
    (nextChar b rest).2.length ≤ rest.length := by
  unfold nextChar
  split
  · simp
  · split
    · simp
    · split
      · simp
      · split
        · exact Nat.le_trans (takeTails_length _ _ _) (by simp)
        · simp

/-- The characters of some octets, none standing for each broken sequence. -/
def readOctets : List UInt8 → List (Option Char)
  | [] => []
  | b :: rest =>
    have := nextChar_length b rest
    (nextChar b rest).1 :: readOctets (nextChar b rest).2
termination_by octets => octets.length
decreasing_by simp; omega

/-- Broken sequences read as the replacement character. -/
def decodeLossy (octets : List UInt8) : String :=
  String.ofList ((readOctets octets).map fun c => c.getD '\ufffd')

/-- Text without broken sequences. -/
def decode? (octets : List UInt8) : Option String :=
  ((readOctets octets).mapM id).map String.ofList

def encode (s : String) : List UInt8 := s.toUTF8.toList

example : decodeLossy [0x61, 0xe2, 0x82, 0x62, 0xff] = "a\ufffdb\ufffd" := by decide +kernel

example : decode? [0xc3, 0xa9] = some "é" := by decide +kernel

end Laminate.Text
