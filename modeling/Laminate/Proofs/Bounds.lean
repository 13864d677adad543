import Laminate.Proofs.Aggregates
import Laminate.Proofs.NumericConstants

/-! What the bounds of an integer field become.
A bound is a signed 64-bit integer in its annotation, and a constant that is converted to the type
of the field's elements in the generated code. -/
namespace Laminate.Code

open Laminate.Text Laminate.Annotation

/-! ### Integers as constants -/

/-- No other number than zero is written with a zero first. -/
lemma eq_zero_of_toDigits {n : Nat} (h : (Nat.toDigits 10 n).head? = some '0') : n = 0 := by
  induction n using Nat.strongRecOn with
  | ind n ih =>
    rw [Nat.toDigits_eq_if (by decide)] at h
    split at h
    · next hlt =>
      have hall : ∀ n < 10, [Nat.digitChar n].head? = some '0' → n = 0 := by decide
      exact hall n hlt h
    · next hge =>
      rw [List.head?_append_of_ne_nil _ Nat.toDigits_ne_nil] at h
      have := ih (n / 10) (by omega) h
      omega

lemma numberValue?_toDigits (n : Nat) : isPointNumber (Nat.toDigits 10 n) = true ∧
    numberValue? (Nat.toDigits 10 n) = some (n : ℚ) := by
  have hdigits : isDigits (Nat.toDigits 10 n) = true :=
    isDigits_iff.mpr ⟨Nat.toDigits_ne_nil, (digits_toDigits n).1⟩
  have hpoint := isPointNumber_of_isDigits hdigits
  refine ⟨hpoint, ?_⟩
  have hoctal : differsInOctal (Nat.toDigits 10 n) = false := by
    by_cases hhead : (Nat.toDigits 10 n).head? = some '0'
    · rw [eq_zero_of_toDigits hhead]
      rfl
    · simp [differsInOctal, hhead]
  rw [(numberValue?_eq_decimalValue_iff hpoint).mpr hoctal, decimalValue_of_isDigits hdigits,
    (DigitRun.of_isDigits hdigits).2, digitsValue_toDigits]

/-- The decimal text of an integer is a literal for the integer. -/
theorem denotes_toString (n : Int) : Denotes (toString n).toList n := by
  obtain ⟨hpoint, hvalue⟩ := numberValue?_toDigits n.natAbs
  have hparts : unsigned (toString n).toList = Nat.toDigits 10 n.natAbs ∧
      signed (toString n).toList (n.natAbs : ℚ) = n := by
    rw [toList_toString]
    split
    · next hsign =>
      obtain ⟨-, c, rest, hcons, hc⟩ := digits_toDigits n.natAbs
      have hminus := (ne_sign_of_isDigit hc).2
      refine ⟨unsigned_toDigits _, ?_⟩
      rw [signed, if_neg (by simp [hcons, hminus]), ← Rat.intCast_natCast,
        Int.natAbs_of_nonneg hsign]
    · next hsign =>
      refine ⟨rfl, ?_⟩
      have habs : (n.natAbs : Int) = -n := by omega
      rw [signed, List.head?_cons, if_pos rfl, ← Rat.intCast_natCast, habs, Rat.intCast_neg,
        Rat.neg_neg]
  refine .of_constantValue? (hparts.1 ▸ hpoint) ?_
  rw [constantValue?, hparts.1, hvalue, Option.map_some, hparts.2]

end Laminate.Code

namespace Laminate.Form

open Laminate.Text Laminate.Schema Laminate.Code Laminate.Annotation

/-! ### Bounds -/

/-- The bounds that are declared, under the names of their rules. -/
def boundsOf (rules : ValidateRules) : List (String × Int) :=
  rules.min.toList.map ("Min", ·) ++ rules.max.toList.map ("Max", ·)

lemma mem_boundsOf {rules : ValidateRules} {name : String} {bound : Int} :
    (name, bound) ∈ boundsOf rules ↔
      name = "Min" ∧ rules.min = some bound ∨ name = "Max" ∧ rules.max = some bound := by
  have hmap : ∀ {own : String} {value : Option Int},
      (name, bound) ∈ value.toList.map (own, ·) ↔ name = own ∧ value = some bound := by
    intro own value
    cases value <;> simp [eq_comm]
  rw [boundsOf, List.mem_append, hmap, hmap]

lemma boundText_of_mem_boundsOf {settings : Settings} {field : Field} {rules : ValidateRules}
    {scalar : Builtin} {name : String} {bound : Int} (hkind : field.kind = .scalar scalar)
    (hbound : (name, bound) ∈ boundsOf rules) :
    callText name [scalar.text ++ "(" ++ toString bound ++ ")"] ∈
      contentTexts settings field rules := by
  have htext : boundText field name bound =
      some (callText name [scalar.text ++ "(" ++ toString bound ++ ")"]) := by
    rw [boundText, hkind]
  simp only [contentTexts, List.mem_append, List.mem_filterMap, Option.mem_toList]
  rcases mem_boundsOf.mp hbound with ⟨rfl, hmin⟩ | ⟨rfl, hmax⟩
  · exact .inl (.inl (.inl (.inr ⟨bound, hmin, htext⟩)))
  · exact .inl (.inl (.inr ⟨bound, hmax, htext⟩))

/-- Of the signed 64-bit integers, negative ones aside where there are none, only the types of 32
bits leave any out. -/
lemma isIntegerOf_iff {scalar : Builtin} {n : Int} (hinteger : (integerRange? scalar).isSome = true)
    (hwide : -0x8000000000000000 ≤ n ∧ n < 0x8000000000000000)
    (hsign : scalar.isUnsigned = true → 0 ≤ n) :
    isIntegerOf scalar n = true ↔
      (scalar = .int32 → -0x80000000 ≤ n ∧ n < 0x80000000) ∧
        (scalar = .uint32 → n < 0x100000000) := by
  obtain ⟨hfirst, hlast⟩ := hwide
  cases scalar with
  | bool | string | bytes | any | float32 | float64 => cases hinteger
  | int32 => simp [isIntegerOf, integerRange?]
  | int64 => simp [isIntegerOf, integerRange?, hfirst, hlast]
  | uint32 => simp [isIntegerOf, integerRange?, hsign rfl]
  | uint64 =>
    have hlast : n < 0x10000000000000000 := by omega
    simp [isIntegerOf, integerRange?, hsign rfl, hlast]

/-- A bound of a field of integers is converted to the type of its elements. It is one of the type,
but for those that take more than the 32 bits that the type has. -/
theorem bounds_fit_iff {settings : Settings} {message : Message} {field : Field}
    {names : FieldNames} {rules : ValidateRules} {result : Option Validation} {scalar : Builtin}
    {name : String} {bound : Int} (hrules : field.options.validate = some rules)
    (h : Validation.of settings message field names = .ok result)
    (hkind : field.kind = .scalar scalar) (hinteger : (integerRange? scalar).isSome = true)
    (hbounds : field.options.FitsBounds) (hbound : (name, bound) ∈ boundsOf rules) :
    ∃ v, result = some v ∧
      callText name [scalar.text ++ "(" ++ toString bound ++ ")"] ∈
        v.content.map (fun rule => rule.expr.render) ∧
      Denotes (toString bound).toList bound ∧
      (isIntegerOf scalar bound = true ↔
        (scalar = .int32 → -0x80000000 ≤ bound ∧ bound < 0x80000000) ∧
          (scalar = .uint32 → bound < 0x100000000)) := by
  have hdeclared : rules.min = some bound ∨ rules.max = some bound :=
    (mem_boundsOf.mp hbound).imp And.right And.right
  have hwide : -0x8000000000000000 ≤ bound ∧ bound < 0x8000000000000000 := by
    rcases hdeclared with hmin | hmax
    · exact hbounds rules hrules rules.min (by simp) bound hmin
    · exact hbounds rules hrules rules.max (by simp) bound hmax
  have hsign : scalar.isUnsigned = true → 0 ≤ bound := by
    intro hunsigned
    by_contra hnegative
    have hfaulty : RulesFaulty settings message field rules :=
      .bound hdeclared (.negative hkind hunsigned (by omega))
    exact (Validation.of_isOk hrules).mp ⟨_, h⟩ hfaulty
  obtain ⟨v, hv, hcontent⟩ :=
    Validation.exists_of_mem_contentTexts hrules h (boundText_of_mem_boundsOf hkind hbound)
  exact ⟨v, hv, hcontent, denotes_toString bound, isIntegerOf_iff hinteger hwide hsign⟩

/-- An age that is at most a bound. -/
def ageField (scalar : Builtin) (max : Int) : Field where
  name := "age"
  number := 1
  goName := "Age"
  kind := .scalar scalar
  cardinality := .singular
  message := "UserRequest"
  module := "acme"
  options := { validate := some { max := some max } }

def ageMessage (scalar : Builtin) (max : Int) : Message where
  name := "UserRequest"
  fullName := "acme.UserRequest"
  kind := .request
  names := .derive {} "UserRequest" .request
  members := [.surfaced (ageField scalar max)]
  options := {}

theorem last_age_fits :
    ∃ v, Validation.of {} (ageMessage .uint32 4294967295) (ageField .uint32 4294967295)
        (FieldNames.of (ageMessage .uint32 4294967295) (ageField .uint32 4294967295)) =
          .ok (some v) ∧
      callText "Max" ["uint32(4294967295)"] ∈ v.content.map (fun rule => rule.expr.render) ∧
      isIntegerOf .uint32 4294967295 = true := by
  have h : (Validation.of {} (ageMessage .uint32 4294967295) (ageField .uint32 4294967295)
      (FieldNames.of (ageMessage .uint32 4294967295) (ageField .uint32 4294967295))).isOk =
        true := by
    decide
  obtain ⟨result, hresult⟩ := isOk_iff.mp h
  have hbounds : (ageField .uint32 4294967295).options.FitsBounds := by
    simp [ageField, FieldOptions.FitsBounds]
  obtain ⟨v, rfl, hcontent, -, hiff⟩ :=
    bounds_fit_iff rfl hresult rfl rfl hbounds (mem_boundsOf.mpr (.inr ⟨rfl, rfl⟩))
  exact ⟨v, hresult, hcontent, hiff.mpr (by decide)⟩

/-- Three thousand million are more than a type of 32 bits holds. -/
theorem large_age_overflows :
    ∃ v, Validation.of {} (ageMessage .int32 3000000000) (ageField .int32 3000000000)
        (FieldNames.of (ageMessage .int32 3000000000) (ageField .int32 3000000000)) =
          .ok (some v) ∧
      v.expr.render = "validation.Field(&in.Age, " ++
        callText "Max" ["int32(3000000000)"] ++ ")" ∧
      Denotes "3000000000".toList 3000000000 ∧ isIntegerOf .int32 3000000000 = false := by
  have h : (Validation.of {} (ageMessage .int32 3000000000) (ageField .int32 3000000000)
      (FieldNames.of (ageMessage .int32 3000000000) (ageField .int32 3000000000))).toOption.any
        (fun result => result.any fun v => v.expr.render == "validation.Field(&in.Age, " ++
          callText "Max" ["int32(3000000000)"] ++ ")") = true := by
    decide
  obtain ⟨result, hresult, hcheck⟩ := exists_of_check h
  obtain ⟨v, rfl, hrender⟩ := (Option.any_eq_true _ _).mp hcheck
  exact ⟨v, hresult, by simpa using hrender, denotes_toString 3000000000, by decide⟩

end Laminate.Form
