import Laminate.Text.Octets

/-! The tag-and-value layer of the binary message encoding.
A message is read into its numbered values without knowing its type. -/
namespace Laminate.Wire

/-- A value as its wire type delimits it. Integers of every kind arrive as 64-bit naturals. -/
inductive Value where
  | varint (bits : Nat)
  | fixed64 (bits : Nat)
  | octets (contents : List UInt8)
  | group (fields : List (Nat × Value))
  | fixed32 (bits : Nat)
  deriving Repr, Inhabited

abbrev Field := Nat × Value

/-- At most `k` octets of a varint; the tenth octet of ten may only hold the top bit. -/
def readVarintUpTo : Nat → List UInt8 → Option (Nat × List UInt8)
  | 0, _ => none
  | _, [] => none
  | k + 1, b :: rest =>
    if b < 0x80 then
      if k = 0 ∧ 2 ≤ b then none else some (b.toNat, rest)
    else (readVarintUpTo k rest).map fun (high, left) => (b.toNat - 128 + 128 * high, left)

def readVarint (octets : List UInt8) : Option (Nat × List UInt8) := readVarintUpTo 10 octets

/-- Some octets of fixed number, least significant first. -/
def readFixed : Nat → List UInt8 → Option (Nat × List UInt8)
  | 0, rest => some (0, rest)
  | _ + 1, [] => none
  | k + 1, b :: rest =>
    (readFixed k rest).map fun (high, left) => (b.toNat + 256 * high, left)

/-- Octets after their length. -/
def readDelimited (octets : List UInt8) : Option (List UInt8 × List UInt8) :=
  match readVarint octets with
  | none => none
  | some (length, rest) =>
    let (contents, left) := rest.splitAt length
    if contents.length = length then some (contents, left) else none

theorem readVarintUpTo_length {k : Nat} {octets rest : List UInt8} {n : Nat}
    (h : readVarintUpTo k octets = some (n, rest)) : rest.length < octets.length := by
  fun_induction readVarintUpTo k octets generalizing n rest with
  | case1 => simp at h
  | case2 => simp at h
  | case3 => simp at h
  | case4 => simp at h; simp [h.2]
  | case5 k b tail hb ih =>
    simp only [Option.map_eq_some_iff, Prod.exists, Prod.mk.injEq] at h
    obtain ⟨high, left, heq, -, rfl⟩ := h
    have := ih heq
    simp; omega

theorem readVarint_length {octets rest : List UInt8} {n : Nat}
    (h : readVarint octets = some (n, rest)) : rest.length < octets.length :=
  readVarintUpTo_length h

theorem readFixed_length {k : Nat} {octets rest : List UInt8} {n : Nat}
    (h : readFixed k octets = some (n, rest)) : rest.length ≤ octets.length := by
  fun_induction readFixed k octets generalizing n rest with
  | case1 => simp at h; simp [h.2]
  | case2 => simp at h
  | case3 k b tail ih =>
    simp only [Option.map_eq_some_iff, Prod.exists, Prod.mk.injEq] at h
    obtain ⟨high, left, heq, -, rfl⟩ := h
    have := ih heq
    simp; omega

theorem readDelimited_length {octets contents rest : List UInt8}
    (h : readDelimited octets = some (contents, rest)) : rest.length < octets.length := by
  unfold readDelimited at h
  split at h
  · simp at h
  · next length tail heq =>
    simp only [List.splitAt_eq] at h
    split at h
    · simp only [Option.some.injEq, Prod.mk.injEq] at h
      have := readVarint_length heq
      rw [← h.2, List.length_drop]
      omega
    · simp at h

/-- The fields of a message, or of the group `group`, and what follows the group.
Groups nest at most `depth` levels. -/
def readFieldsIn (depth : Nat) (group : Option Nat) (octets : List UInt8) :
    Option (List Field × { rest : List UInt8 // rest.length ≤ octets.length }) :=
  match octets with
  | [] => if group.isSome then none else some ([], ⟨[], Nat.le_refl _⟩)
  | b :: tail =>
    match hk : readVarint (b :: tail) with
    | none => none
    | some (key, rest) =>
      have hrest : rest.length < tail.length + 1 := readVarint_length hk
      let number := key / 8
      if 0x100000000 ≤ key ∨ number = 0 then none
      else
        let step : Option (Wire.Value × { left : List UInt8 // left.length ≤ rest.length }) :=
          match key % 8 with
          | 0 =>
            match h : readVarint rest with
            | none => none
            | some (n, left) => some (.varint n, ⟨left, Nat.le_of_lt (readVarint_length h)⟩)
          | 1 =>
            match h : readFixed 8 rest with
            | none => none
            | some (n, left) => some (.fixed64 n, ⟨left, readFixed_length h⟩)
          | 2 =>
            match h : readDelimited rest with
            | none => none
            | some (contents, left) =>
              some (.octets contents, ⟨left, Nat.le_of_lt (readDelimited_length h)⟩)
          | 3 =>
            match depth with
            | 0 => none
            | depth + 1 =>
              match readFieldsIn depth (some number) rest with
              | none => none
              | some (fields, left) => some (.group fields, left)
          | 5 =>
            match h : readFixed 4 rest with
            | none => none
            | some (n, left) => some (.fixed32 n, ⟨left, readFixed_length h⟩)
          | _ => none
        if key % 8 = 4 then
          if group = some number then some ([], ⟨rest, Nat.le_of_lt hrest⟩) else none
        else
          match step with
          | none => none
          | some (value, left) =>
            have := left.2
            match readFieldsIn depth group left.1 with
            | none => none
            | some (fields, last) =>
              some ((number, value) :: fields, ⟨last.1, by have := last.2; simp; omega⟩)
termination_by octets.length
decreasing_by all_goals simp_wf; omega

/-- How many levels of messages and groups a message may have below it. -/
def maxLevels : Nat := 100

/-- The fields of a whole message. -/
def readFields (octets : List UInt8) : Option (List Field) :=
  (readFieldsIn maxLevels none octets).map (·.1)

/-- The values of a number, in order. -/
def valuesOf (number : Nat) (fields : List Field) : List Value :=
  fields.filterMap fun (n, value) => if n = number then some value else none

/-- The value of a varint as a signed 64-bit integer. -/
def signed64 (bits : Nat) : Int :=
  if bits < 0x8000000000000000 then bits else (bits : Int) - 0x10000000000000000

/-- The low half of a varint as a signed 32-bit integer. -/
def signed32 (bits : Nat) : Int :=
  let low : Nat := bits % 0x100000000
  if low < 0x80000000 then (low : Int) else (low : Int) - 0x100000000

/-! ### Levels -/

mutual

/-- Whether a value of an undeclared field stays within some levels. Every group takes one; where
`charged` says so, a value of another kind needs one to be left as well. -/
def staysWithin (charged : Bool) (levels : Nat) : Value → Bool
  | .group fields =>
    match levels with
    | 0 => false
    | levels + 1 => allStayWithin charged levels fields
  | _ => !charged || levels != 0

def allStayWithin (charged : Bool) (levels : Nat) : List (Nat × Value) → Bool
  | [] => true
  | (_, value) :: rest => staysWithin charged levels value && allStayWithin charged levels rest

end

/-! ### Writing -/

/-- A natural as a varint of at most `k` octets. -/
def writeVarintUpTo : Nat → Nat → List UInt8
  | 0, _ => []
  | k + 1, n =>
    if n < 128 then [n.toUInt8] else (n % 128 + 128).toUInt8 :: writeVarintUpTo k (n / 128)

def writeVarint (n : Nat) : List UInt8 := writeVarintUpTo 10 n

/-- A natural in a fixed number of octets, least significant first. -/
def writeFixed : Nat → Nat → List UInt8
  | 0, _ => []
  | k + 1, n => (n % 256).toUInt8 :: writeFixed k (n / 256)

mutual

/-- A field with its key. -/
def writeField (number : Nat) : Value → List UInt8
  | .varint n => writeVarint (number * 8) ++ writeVarint n
  | .fixed64 n => writeVarint (number * 8 + 1) ++ writeFixed 8 n
  | .octets contents => writeVarint (number * 8 + 2) ++ writeVarint contents.length ++ contents
  | .group fields =>
    writeVarint (number * 8 + 3) ++ writeFields fields ++ writeVarint (number * 8 + 4)
  | .fixed32 n => writeVarint (number * 8 + 5) ++ writeFixed 4 n

def writeFields : List (Nat × Value) → List UInt8
  | [] => []
  | (number, value) :: rest => writeField number value ++ writeFields rest

end

def textField (number : Nat) (text : String) : Field := (number, .octets (Text.encode text))

end Laminate.Wire
