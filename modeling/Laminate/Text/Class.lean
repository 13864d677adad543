import Laminate.Text.Table.Alphabetic
import Laminate.Text.Table.Numeric
import Laminate.Text.Table.Case
import Laminate.Text.Table.CaseForms
import Laminate.Text.Table.Extending
import Laminate.Text.Table.Invisible
import Laminate.Text.Table.Identifier

/-! Character classes and case forms over all of Unicode.
Below 128 a class is spelled out; above, it is read off its table. -/
namespace Laminate.Text

/-- Membership in sorted inclusive ranges; the search ends at the first range that starts later. -/
def inSpans : List (Nat × Nat) → Nat → Bool
  | [], _ => false
  | (first, last) :: rest, n => first ≤ n && (n ≤ last || inSpans rest n)

/-- Membership in sorted runs, each with its step. -/
def inRuns : List (Nat × Nat × Nat) → Nat → Bool
  | [], _ => false
  | (first, last, step) :: rest, n =>
    first ≤ n && (if n ≤ last then (n - first) % step == 0 else inRuns rest n)

/-- White space: the seven-bit blanks, the next-line control and the space separators. -/
def isBlank (c : Char) : Bool :=
  let n := c.toNat
  (9 ≤ n && n ≤ 13) || n == 32 || n == 0x85 || n == 0xa0 || n == 0x1680 ||
    (0x2000 ≤ n && n ≤ 0x200a) || n == 0x2028 || n == 0x2029 || n == 0x202f || n == 0x205f ||
    n == 0x3000

def isControl (c : Char) : Bool :=
  let n := c.toNat
  n < 32 || (127 ≤ n && n ≤ 159)

def isAlphabetic (c : Char) : Bool := c.isAlpha || inSpans Table.alphabetic c.toNat

def isNumeric (c : Char) : Bool := c.isDigit || inSpans Table.numeric c.toNat

def isAlphanumeric (c : Char) : Bool := isAlphabetic c || isNumeric c

def isUpper (c : Char) : Bool := c.isUpper || inRuns Table.uppercase c.toNat

def isLower (c : Char) : Bool := c.isLower || inRuns Table.lowercase c.toNat

/-- May open an identifier; the underscore is decided by the caller. -/
def isNameStart (c : Char) : Bool := c.isAlpha || inSpans Table.nameStart c.toNat

/-- May stand inside an identifier. -/
def isNameContinue (c : Char) : Bool :=
  c.isAlphanum || c == '_' || inSpans Table.nameContinue c.toNat

/-- Extends the character before it, such as a combining mark. -/
def isExtending (c : Char) : Bool := inSpans Table.extending c.toNat

/-- Has no visible form of its own. -/
def isInvisible (c : Char) : Bool :=
  c.toNat < 32 || c.toNat == 127 || inSpans Table.invisible c.toNat

theorem isBlank_of_isWhitespace {c : Char} (h : c.isWhitespace = true) : isBlank c = true := by
  simp only [Char.isWhitespace, Bool.or_eq_true, decide_eq_true_eq] at h
  rcases h with ((h | h) | h) | h <;> subst h <;> decide

theorem isAlphabetic_of_isAlpha {c : Char} (h : c.isAlpha = true) : isAlphabetic c = true := by
  simp [isAlphabetic, h]

theorem isAlphanumeric_of_isAlphanum {c : Char} (h : c.isAlphanum = true) :
    isAlphanumeric c = true := by
  simp only [Char.isAlphanum, Bool.or_eq_true] at h
  rcases h with h | h <;> simp [isAlphanumeric, isAlphabetic, isNumeric, h]

theorem lt_of_isLower {c : Char} (h : c.isLower = true) : c.toNat < 128 := by
  have : c.toNat ≤ 'z'.toNat := of_decide_eq_true (Bool.and_eq_true_iff.mp h).2
  exact Nat.lt_of_le_of_lt this (by decide)

theorem lt_of_isUpper {c : Char} (h : c.isUpper = true) : c.toNat < 128 := by
  have : c.toNat ≤ 'Z'.toNat := (of_decide_eq_true h).2
  exact Nat.lt_of_le_of_lt this (by decide)

theorem lt_of_isDigit {c : Char} (h : c.isDigit = true) : c.toNat < 128 := by
  have : c.toNat ≤ '9'.toNat := of_decide_eq_true (Bool.and_eq_true_iff.mp h).2
  exact Nat.lt_of_le_of_lt this (by decide)

/-- What is checked code by code below 128 holds of the characters there. -/
theorem forall_ascii {p : Char → Prop} (h : ∀ n < 128, p (Char.ofNat n)) :
    ∀ c, c.toNat < 128 → p c :=
  fun c hc => Char.ofNat_toNat c ▸ h c.toNat hc

/-- The form of `n` in runs of single-character case forms, or `n` itself. -/
def runForm : List (Nat × Nat × Nat × Nat) → Nat → Nat
  | [], n => n
  | (first, last, step, form) :: rest, n =>
    if first ≤ n then
      if n ≤ last then
        if (n - first) % step == 0 then form + (n - first) else n
      else runForm rest n
    else n

/-- The upper-case form, which may be several characters. -/
def upperForm (c : Char) : List Char :=
  if c.toNat < 128 then [c.toUpper]
  else match Table.toUpperSeveral.lookup c.toNat with
    | some form => form.map Char.ofNat
    | none => [Char.ofNat (runForm Table.toUpperRuns c.toNat)]

/-- The lower-case form, which may be several characters. -/
def lowerForm (c : Char) : List Char :=
  if c.toNat < 128 then [c.toLower]
  else match Table.toLowerSeveral.lookup c.toNat with
    | some form => form.map Char.ofNat
    | none => [Char.ofNat (runForm Table.toLowerRuns c.toNat)]

example : isAlphanumeric 'é' ∧ isNumeric '٣' ∧ isUpper 'Ü' ∧ isLower 'ß' := by decide

example : upperForm 'ß' = ['S', 'S'] ∧ lowerForm 'É' = ['é'] := by decide

end Laminate.Text
