import Laminate.Proofs.Conditions
import Laminate.Proofs.Numerals
import Laminate.Proofs.Patterns
import Laminate.Proofs.Tokens

/-! Numbers that come from annotations as constants of the generated code.
A value for a numeric sibling and a numeric argument of a registered rule are written as they are.
The values that are spelled out are names there, and whole numbers behind a zero are octal. -/
namespace Laminate.Code

open Laminate.Text

/-! ### Literals with a sign -/

/-- A numeric literal, perhaps behind a sign, and the number that it stands for. -/
def IsSignedNumeral (text : List Char) (v : ℚ) : Prop :=
  ∃ value, IsNumeral (unsigned text) value ∧ v = signed text value

/-- A numeric literal, perhaps behind a sign, for this number and no other one. -/
def Denotes (text : List Char) (v : ℚ) : Prop := ∀ w, IsSignedNumeral text w ↔ w = v

lemma signed_inj {text : List Char} {v w : ℚ} : signed text v = signed text w ↔ v = w := by
  unfold signed
  split
  · exact ⟨fun h => by simpa using congrArg Neg.neg h, congrArg _⟩
  · exact Iff.rfl

lemma isSignedNumeral_iff {text : List Char} {v : ℚ} (h : isPointNumber (unsigned text) = true) :
    IsSignedNumeral text v ↔ constantValue? text = some v := by
  simp only [IsSignedNumeral, constantValue?, Option.map_eq_some_iff, isNumeral_iff h,
    eq_comm (a := v)]

lemma Denotes.of_constantValue? {text : List Char} {v : ℚ}
    (h : isPointNumber (unsigned text) = true) (hvalue : constantValue? text = some v) :
    Denotes text v := by
  intro w
  rw [isSignedNumeral_iff h, hvalue, Option.some.injEq, eq_comm]

lemma DigitRun.head {text digits : List Char} (run : DigitRun 10 text digits) :
    ∃ c rest, text = c :: rest ∧ c.isDigit = true := by
  cases run with
  | single digit => exact ⟨_, _, rfl, isDigitOf_ten _ ▸ digit⟩
  | next digit run => exact ⟨_, _, rfl, isDigitOf_ten _ ▸ digit⟩
  | apart digit run => exact ⟨_, _, rfl, isDigitOf_ten _ ▸ digit⟩

/-- A numeric literal begins with a digit or with its point. -/
lemma IsNumeral.head {text : List Char} {v : ℚ} (numeral : IsNumeral text v) :
    ∃ c rest, text = c :: rest ∧ (c.isDigit = true ∨ c = '.') := by
  have hrun : ∀ {text digits : List Char} (tail : List Char), DigitRun 10 text digits →
      ∃ c rest, text ++ tail = c :: rest ∧ (c.isDigit = true ∨ c = '.') := by
    intro text digits tail run
    obtain ⟨c, rest, rfl, hc⟩ := run.head
    exact ⟨c, rest ++ tail, rfl, .inl hc⟩
  cases numeral with
  | zero => exact ⟨_, _, rfl, .inl (by decide)⟩
  | decimal run => simpa using hrun [] run
  | based => exact ⟨_, _, rfl, .inl (by decide)⟩
  | hexFloat => exact ⟨_, _, rfl, .inl (by decide)⟩
  | float mantissa =>
    cases mantissa with
    | whole run => exact hrun _ run
    | ended run => simpa using hrun _ run
    | led => exact ⟨_, _, rfl, .inr rfl⟩
    | parted run => simpa using hrun _ run

/-- A value that is spelled out begins with neither. -/
lemma IsNumeral.not_spelled {text : List Char} {v : ℚ} (numeral : IsNumeral text v) :
    isSpelledNumber text = false := by
  obtain ⟨c, rest, rfl, hc⟩ := numeral.head
  refine Bool.eq_false_iff.mpr fun hspelled => ?_
  have halpha := (Expr.isAlpha_of_isSpelledNumber hspelled).2 c List.mem_cons_self
  rcases hc with hdigit | rfl
  · simp [Letters.not_isAlpha_of_isDigit hdigit] at halpha
  · exact absurd halpha (by decide)

/-- A text that is a numeric literal for just the number that it writes. -/
def DenotesOwn (s : String) : Prop := Denotes s.toList (decimalNumber s.toList)

/-- A value that is spelled out, or a whole number that is octal in the generated code. -/
def isMisread (s : String) : Bool :=
  isSpelledNumber (unsigned s.toList) || differsInOctal (unsigned s.toList)

theorem denotesOwn_iff {s : String} (h : isNumber s = true) :
    DenotesOwn s ↔ isMisread s = false := by
  rw [isMisread, Bool.or_eq_false_iff]
  have hown : DenotesOwn s → IsSignedNumeral s.toList (decimalNumber s.toList) :=
    fun denotes => (denotes _).mpr rfl
  have hspelled : ∀ {v}, IsSignedNumeral s.toList v → isSpelledNumber (unsigned s.toList) = false :=
    fun ⟨_, numeral, _⟩ => numeral.not_spelled
  rcases Bool.or_eq_true_iff.mp h with hpoint | hword
  · have hdecimal : constantValue? s.toList = some (decimalNumber s.toList) ↔
        differsInOctal (unsigned s.toList) = false := by
      simp only [constantValue?, decimalNumber, Option.map_eq_some_iff, signed_inj,
        exists_eq_right, numberValue?_eq_decimalValue_iff hpoint]
    constructor
    · intro denotes
      exact ⟨hspelled (hown denotes),
        hdecimal.mp ((isSignedNumeral_iff hpoint).mp (hown denotes))⟩
    · rintro ⟨-, hoctal⟩
      exact .of_constantValue? hpoint (hdecimal.mpr hoctal)
  · rw [hword]
    simp only [reduceCtorEq, false_and, iff_false]
    intro denotes
    rw [hspelled (hown denotes)] at hword
    cases hword

end Laminate.Code

namespace Laminate.Form

open Laminate.Text Laminate.Schema Laminate.Code Laminate.Annotation

/-! ### Constants of validations -/

lemma comparand_numeric {field sibling : Field} {scalar : Builtin} {value : String} {e : Expr}
    (hkind : sibling.kind = .scalar scalar) (hnumeric : scalar.isNumeric = true)
    (h : comparand field sibling value = .ok e) : isNumber value = true ∧ e = .verbatim value := by
  simp only [comparand, hkind] at h
  split at h
  · cases h
  · cases scalar with
    | bool | string | bytes | any => cases hnumeric
    | int32 | int64 | uint32 | uint64 | float32 | float64 =>
      simp only [Builtin.isNumeric, Bool.true_and] at h
      split at h
      · next hvalue =>
        cases h
        exact ⟨hvalue, rfl⟩
      · cases h

/-- A text is written as it is where it is a value for a numeric sibling, and where it is a numeric
argument of a rule. It is a literal for its own number then, just where it is not misread. Any other
argument is written as a literal for the text itself. -/
theorem constants_denote_iff (text : String) :
    (∀ (field sibling : Field) (scalar : Builtin) (e : Expr),
      sibling.kind = .scalar scalar → scalar.isNumeric = true →
      comparand field sibling text = .ok e →
        e.render = text ∧ isNumber text = true ∧ (DenotesOwn text ↔ isMisread text = false)) ∧
    (isNumber text = true ∧ (ruleArgument text).render = text ∧
        (DenotesOwn text ↔ isMisread text = false) ∨
      isNumber text = false ∧
        literalValue? (ruleArgument text).render.toList = some (encode text)) := by
  refine ⟨?_, ?_⟩
  · intro field sibling scalar e hkind hnumeric h
    obtain ⟨hnumber, rfl⟩ := comparand_numeric hkind hnumeric h
    exact ⟨rfl, hnumber, denotesOwn_iff hnumber⟩
  · cases hnumber : isNumber text with
    | true => exact .inl ⟨rfl, by rw [ruleArgument, if_pos hnumber]; rfl, denotesOwn_iff hnumber⟩
    | false =>
      refine .inr ⟨rfl, ?_⟩
      rw [ruleArgument, if_neg (by simp [hnumber])]
      exact literalValue?_literal text

/-- Numbers that are written as they are, and a text in quotes. -/
theorem exponent_and_octal_denote :
    (comparand rankField (levelField .singular .float64) "-1.5e3" = .ok (.verbatim "-1.5e3") ∧
      DenotesOwn "-1.5e3") ∧
    ((ruleArgument "007").render = "007" ∧ DenotesOwn "007") ∧
    literalValue? (ruleArgument "\"x\"").render.toList = some (encode "\"x\"") := by
  have h : comparand rankField (levelField .singular .float64) "-1.5e3" =
      .ok (.verbatim "-1.5e3") := by
    rfl
  refine ⟨⟨h, ?_⟩, ?_, ?_⟩
  · obtain ⟨-, -, hiff⟩ := (constants_denote_iff "-1.5e3").1 _ _ _ _ rfl rfl h
    exact hiff.mpr (by decide)
  · rcases (constants_denote_iff "007").2 with ⟨-, hrender, hiff⟩ | ⟨hother, -⟩
    · exact ⟨hrender, hiff.mpr (by decide)⟩
    · exact absurd hother (by decide)
  · rcases (constants_denote_iff "\"x\"").2 with ⟨hother, -⟩ | ⟨-, hliteral⟩
    · exact absurd hother (by decide)
    · exact hliteral

/-- The spelled-out infinity is written as a name, for a sibling and for a rule alike. A number
behind a zero is another one, or none. -/
theorem spelled_constants_misread :
    (comparand rankField (levelField .singular .float64) "inf" = .ok (.verbatim "inf") ∧
      (ruleArgument "inf").render = "inf" ∧ ∀ v, ¬ IsSignedNumeral "inf".toList v) ∧
    ((ruleArgument "010").render = "010" ∧ decimalNumber "010".toList = 10 ∧
      Denotes "010".toList 8) ∧
    (ruleArgument "08").render = "08" ∧ ∀ v, ¬ IsSignedNumeral "08".toList v := by
  refine ⟨⟨rfl, by decide, ?_⟩, ⟨by decide, by decide, ?_⟩,
    by decide, ?_⟩
  · rintro v ⟨_, numeral, -⟩
    exact absurd numeral.not_spelled (by decide)
  · exact .of_constantValue? (by decide) (by decide)
  · intro v hv
    have hnone : constantValue? "08".toList = none := by decide
    rw [isSignedNumeral_iff (by decide), hnone] at hv
    cases hv

end Laminate.Form
