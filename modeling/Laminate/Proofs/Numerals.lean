import Laminate.Proofs.ExprTokens

/-! The numeric literals of the generated code, by their grammar.
Of the numbers that annotations may hold, whole ones behind a zero are octal in the generated code;
all others mean what they say. -/
namespace Laminate.Code

open Laminate.Text

/-! ### The grammar -/

def isDigitOf (base : Nat) (c : Char) : Bool := (hexDigit? c).any (· < base)

/-- The value of a run of digits of a base. -/
def valueOf (base : Nat) (digits : List Char) : Nat :=
  digits.foldl (fun value c => value * base + (hexDigit? c).getD 0) 0

/-- A whole number of units of a power of a base. -/
def unitsOf (base digits : Nat) (exponent : Int) : ℚ :=
  if 0 ≤ exponent then (digits * base ^ exponent.toNat : Nat)
  else mkRat digits (base ^ (-exponent).toNat)

/-- Digits with an underscore between some of them, and the digits alone. -/
inductive DigitRun (base : Nat) : List Char → List Char → Prop
  | single {c : Char} (digit : isDigitOf base c = true) : DigitRun base [c] [c]
  | next {c : Char} {text digits : List Char} (digit : isDigitOf base c = true)
    (run : DigitRun base text digits) : DigitRun base (c :: text) (c :: digits)
  | apart {c : Char} {text digits : List Char} (digit : isDigitOf base c = true)
    (run : DigitRun base text digits) : DigitRun base (c :: '_' :: text) (c :: digits)

/-- Digits with a point before, among or after them, or none: the digits alone, and how many of them
follow the point. -/
inductive Mantissa (base : Nat) : List Char → List Char → Nat → Prop
  | whole {text digits : List Char} (run : DigitRun base text digits) : Mantissa base text digits 0
  | ended {text digits : List Char} (run : DigitRun base text digits) :
    Mantissa base (text ++ ['.']) digits 0
  | led {text digits : List Char} (run : DigitRun base text digits) :
    Mantissa base ('.' :: text) digits digits.length
  | parted {text text' digits digits' : List Char} (run : DigitRun base text digits)
    (places : DigitRun base text' digits') :
    Mantissa base (text ++ '.' :: text') (digits ++ digits') digits'.length

/-- An exponent behind its mark, or none. -/
inductive Exponent (marks : List Char) : List Char → Int → Prop
  | none : Exponent marks [] 0
  | plain {mark : Char} {text digits : List Char} (marked : mark ∈ marks)
    (run : DigitRun 10 text digits) : Exponent marks (mark :: text) (valueOf 10 digits)
  | plus {mark : Char} {text digits : List Char} (marked : mark ∈ marks)
    (run : DigitRun 10 text digits) : Exponent marks (mark :: '+' :: text) (valueOf 10 digits)
  | minus {mark : Char} {text digits : List Char} (marked : mark ∈ marks)
    (run : DigitRun 10 text digits) :
    Exponent marks (mark :: '-' :: text) (-(valueOf 10 digits : Int))

/-- What stands after the zero that a whole number of another base begins with. -/
def baseMarks : List (List Char × Nat) := [
  ([], 8), (['o'], 8), (['O'], 8), (['b'], 2), (['B'], 2), (['x'], 16), (['X'], 16)]

/-- The numeric literals and the numbers that they stand for; imaginary ones stand for none. -/
inductive IsNumeral : List Char → ℚ → Prop
  | zero : IsNumeral ['0'] 0
  | decimal {text digits : List Char} (run : DigitRun 10 text digits)
    (first : text.head? ≠ some '0') : IsNumeral text (valueOf 10 digits)
  | based {mark gap text digits : List Char} {base : Nat} (marked : (mark, base) ∈ baseMarks)
    (underscore : gap = [] ∨ gap = ['_']) (run : DigitRun base text digits) :
    IsNumeral ('0' :: (mark ++ gap ++ text)) (valueOf base digits)
  | float {text digits tail : List Char} {places : Nat} {exponent : Int}
    (mantissa : Mantissa 10 text digits places) (scale : Exponent ['e', 'E'] tail exponent)
    (fractional : '.' ∈ text ∨ tail ≠ []) :
    IsNumeral (text ++ tail) (unitsOf 10 (valueOf 10 digits) (exponent - places))
  | hexFloat {mark : Char} {gap text digits tail : List Char} {places : Nat} {exponent : Int}
    (marked : mark = 'x' ∨ mark = 'X')
    (underscore : gap = [] ∨ gap = ['_'] ∧ text.head? ≠ some '.')
    (mantissa : Mantissa 16 text digits places) (scale : Exponent ['p', 'P'] tail exponent)
    (scaled : tail ≠ []) :
    IsNumeral ('0' :: mark :: (gap ++ text ++ tail))
      (unitsOf 2 (valueOf 16 digits) (exponent - 4 * places))

/-! ### Digits -/

/-- The digits of the bases up to ten. -/
lemma isDigitOf_eq {base : Nat} (hbase : base ≤ 10) (c : Char) :
    isDigitOf base c = (c.isDigit && decide (c.toNat - '0'.toNat < base)) := by
  unfold isDigitOf hexDigit?
  cases hdigit : c.isDigit with
  | true => simp
  | false =>
    have hletter : ∀ n : Nat, ((some (n + 10)).any fun d => decide (d < base)) = false := by
      intro n
      simp only [Option.any_some, decide_eq_false_iff_not]
      omega
    simp only [Bool.false_and, Bool.false_eq_true, if_false]
    split
    · exact hletter _
    · split
      · exact hletter _
      · rfl

lemma toNat_of_isDigit {c : Char} (h : c.isDigit = true) : 48 ≤ c.toNat ∧ c.toNat ≤ 57 := by
  simpa [Char.isDigit, UInt32.le_iff_toNat_le] using h

lemma isDigitOf_ten (c : Char) : isDigitOf 10 c = c.isDigit := by
  rw [isDigitOf_eq (Nat.le_refl 10)]
  cases hdigit : c.isDigit with
  | false => rfl
  | true =>
    have hle := (toNat_of_isDigit hdigit).2
    have hzero : '0'.toNat = 48 := rfl
    simp only [Bool.true_and, decide_eq_true_eq]
    omega

lemma isDigitOf_eight {c : Char} : isDigitOf 8 c = true ↔ c.isDigit = true ∧ c < '8' := by
  rw [isDigitOf_eq (by decide), Bool.and_eq_true, decide_eq_true_eq]
  refine and_congr_right fun hdigit => ?_
  have hlt : c < '8' ↔ c.toNat < 56 := by
    rw [Char.lt_def, UInt32.lt_iff_toNat_lt]
    rfl
  have hzero : '0'.toNat = 48 := rfl
  rw [hlt]
  omega

lemma valueOf_eq {base : Nat} {digits : List Char} (h : ∀ c ∈ digits, c.isDigit = true) :
    valueOf base digits = digits.foldl (fun value c => value * base + (c.toNat - '0'.toNat)) 0 := by
  have hfold : ∀ value : Nat,
      digits.foldl (fun value c => value * base + (hexDigit? c).getD 0) value =
        digits.foldl (fun value c => value * base + (c.toNat - '0'.toNat)) value := by
    induction digits with
    | nil => exact fun _ => rfl
    | cons c digits ih =>
      obtain ⟨hc, hdigits⟩ := List.forall_mem_cons.mp h
      intro value
      rw [List.foldl_cons, List.foldl_cons, ih hdigits, hexDigit?, if_pos hc, Option.getD_some]
  exact hfold 0

namespace DigitRun

variable {base : Nat} {text digits : List Char}

/-- Without underscores a run is the digits themselves. -/
lemma eq_of_notMem (run : DigitRun base text digits) (h : '_' ∉ text) :
    digits = text ∧ text ≠ [] ∧ ∀ c ∈ text, isDigitOf base c = true := by
  induction run with
  | single digit => simpa using digit
  | next digit run ih =>
    obtain ⟨rfl, -, hdigits⟩ := ih fun hmem => h (List.mem_cons_of_mem _ hmem)
    exact ⟨rfl, by simp, List.forall_mem_cons.mpr ⟨digit, hdigits⟩⟩
  | apart digit run ih => simp at h

lemma of_digits (hne : text ≠ []) (h : ∀ c ∈ text, isDigitOf base c = true) :
    DigitRun base text text := by
  induction text with
  | nil => exact absurd rfl hne
  | cons c rest ih =>
    obtain ⟨hc, hrest⟩ := List.forall_mem_cons.mp h
    cases rest with
    | nil => exact .single hc
    | cons d rest => exact .next hc (ih (by simp) hrest)

/-- The decimal digits of a run. -/
lemma decimal (run : DigitRun 10 text digits) (h : '_' ∉ text) :
    digits = text ∧ text ≠ [] ∧ ∀ c ∈ text, c.isDigit = true := by
  simpa only [isDigitOf_ten] using run.eq_of_notMem h

lemma of_decimal (hne : text ≠ []) (h : ∀ c ∈ text, c.isDigit = true) : DigitRun 10 text text :=
  of_digits hne (by simpa only [isDigitOf_ten] using h)

end DigitRun

lemma isDigits_iff {text : List Char} :
    isDigits text = true ↔ text ≠ [] ∧ ∀ c ∈ text, c.isDigit = true := by
  simp [isDigits]

/-! ### The parts of a number -/

/-- Without underscores the digits of a mantissa are its own, and it has at most one point. -/
lemma Mantissa.decimal_iff {text digits : List Char} {places : Nat} (h : '_' ∉ text) :
    Mantissa 10 text digits places ↔
      isDigits digits = true ∧ (text = digits ∧ places = 0 ∨ ∃ whole fraction,
        text = whole ++ '.' :: fraction ∧ digits = whole ++ fraction ∧
          places = fraction.length) := by
  rw [isDigits_iff]
  constructor
  · intro mantissa
    cases mantissa with
    | whole run =>
      obtain ⟨rfl, hdigits⟩ := run.decimal h
      exact ⟨hdigits, .inl ⟨rfl, rfl⟩⟩
    | ended run =>
      obtain ⟨rfl, hdigits⟩ := run.decimal fun hmem => h (List.mem_append_left _ hmem)
      exact ⟨hdigits, .inr ⟨_, [], rfl, (List.append_nil _).symm, rfl⟩⟩
    | led run =>
      obtain ⟨rfl, hdigits⟩ := run.decimal fun hmem => h (List.mem_cons_of_mem _ hmem)
      exact ⟨hdigits, .inr ⟨[], _, rfl, rfl, rfl⟩⟩
    | parted run places =>
      obtain ⟨rfl, hne, hwhole⟩ := run.decimal fun hmem => h (List.mem_append_left _ hmem)
      obtain ⟨rfl, -, hfraction⟩ := places.decimal fun hmem =>
        h (List.mem_append_right _ (List.mem_cons_of_mem _ hmem))
      exact ⟨⟨by simp [hne], List.forall_mem_append.mpr ⟨hwhole, hfraction⟩⟩,
        .inr ⟨_, _, rfl, rfl, rfl⟩⟩
  · rintro ⟨⟨hne, hdigits⟩, ⟨rfl, rfl⟩ | ⟨whole, fraction, rfl, rfl, rfl⟩⟩
    · exact .whole (.of_decimal hne hdigits)
    · obtain ⟨hwhole, hfraction⟩ := List.forall_mem_append.mp hdigits
      by_cases hnone : whole = []
      · subst hnone
        exact .led (.of_decimal hne hfraction)
      · by_cases hends : fraction = []
        · subst hends
          rw [List.append_nil]
          exact .ended (.of_decimal hnone hwhole)
        · exact .parted (.of_decimal hnone hwhole) (.of_decimal hends hfraction)

lemma isDigit_head {c : Char} {rest : List Char} (h : isDigits (c :: rest) = true) :
    c ≠ '-' ∧ c ≠ '+' := by
  have hc := (isDigits_iff.mp h).2 c List.mem_cons_self
  constructor <;> rintro rfl <;> exact absurd hc (by decide)

lemma DigitRun.decimal_value {text digits : List Char} (run : DigitRun 10 text digits)
    (h : '_' ∉ text) :
    digits = text ∧ isDigits text = true ∧ valueOf 10 text = digitsValue text := by
  obtain ⟨rfl, hdigits⟩ := run.decimal h
  exact ⟨rfl, isDigits_iff.mpr hdigits, valueOf_eq hdigits.2⟩

lemma DigitRun.of_isDigits {text : List Char} (h : isDigits text = true) :
    DigitRun 10 text text ∧ valueOf 10 text = digitsValue text := by
  obtain ⟨hne, hdigits⟩ := isDigits_iff.mp h
  exact ⟨.of_decimal hne hdigits, valueOf_eq hdigits⟩

lemma Exponent.decimal {tail : List Char} {n : Int} (exponent : Exponent ['e', 'E'] tail n)
    (h : '_' ∉ tail) : isExponent tail = true ∧ n = exponentOf tail := by
  have hmark : ∀ {mark : Char}, mark ∈ ['e', 'E'] → (mark == 'e' || mark == 'E') = true := by simp
  cases exponent with
  | none => exact ⟨rfl, rfl⟩
  | @plain mark text digits marked run =>
    obtain ⟨rfl, hdigits, hvalue⟩ := run.decimal_value fun hmem => h (List.mem_cons_of_mem _ hmem)
    cases digits with
    | nil => cases hdigits
    | cons c rest =>
      obtain ⟨hminus, hplus⟩ := isDigit_head hdigits
      simp [isExponent, unsigned, exponentOf, hmark marked, hdigits, hvalue, hminus, hplus]
  | plus marked run =>
    obtain ⟨rfl, hdigits, hvalue⟩ := run.decimal_value fun hmem => h (by simp [hmem])
    simp [isExponent, unsigned, exponentOf, hmark marked, hdigits, hvalue]
  | minus marked run =>
    obtain ⟨rfl, hdigits, hvalue⟩ := run.decimal_value fun hmem => h (by simp [hmem])
    simp [isExponent, unsigned, exponentOf, hmark marked, hdigits, hvalue]

lemma Exponent.of_decimal {tail : List Char} (h : isExponent tail = true) :
    Exponent ['e', 'E'] tail (exponentOf tail) := by
  unfold isExponent at h
  split at h
  · exact .none
  · next mark rest =>
    obtain ⟨hmark, hdigits⟩ := Bool.and_eq_true_iff.mp h
    have hmarked : mark ∈ ['e', 'E'] := by simpa using hmark
    unfold unsigned at hdigits
    split at hdigits
    · obtain ⟨run, hvalue⟩ := DigitRun.of_isDigits hdigits
      rw [exponentOf, ← hvalue]
      exact .plus hmarked run
    · obtain ⟨run, hvalue⟩ := DigitRun.of_isDigits hdigits
      rw [exponentOf, ← hvalue]
      exact .minus hmarked run
    · next hplus hminus =>
      obtain ⟨run, hvalue⟩ := DigitRun.of_isDigits hdigits
      rw [exponentOf.eq_3 _ _ (fun _ heq => hminus _ heq) (fun _ heq => hplus _ heq), ← hvalue]
      exact .plain hmarked run

lemma isDigit_takeWhile {text : List Char} : ∀ c ∈ text.takeWhile Char.isDigit, c.isDigit = true :=
  fun c hc => List.all_eq_true.mp List.all_takeWhile c hc

/-- What stands in a number besides digits. -/
def numberMarks : List Char := ['.', 'e', 'E', '+', '-']

lemma mem_of_isExponent {tail : List Char} (h : isExponent tail = true) :
    ∀ c ∈ tail, c.isDigit = true ∨ c ∈ numberMarks := by
  have hdigits : ∀ {text : List Char}, isDigits text = true →
      ∀ c ∈ text, c.isDigit = true ∨ c ∈ numberMarks :=
    fun h c hc => .inl ((isDigits_iff.mp h).2 c hc)
  unfold isExponent at h
  split at h
  · simp
  · next mark rest =>
    obtain ⟨hmark, hrest⟩ := Bool.and_eq_true_iff.mp h
    refine List.forall_mem_cons.mpr ⟨?_, ?_⟩
    · rcases Bool.or_eq_true_iff.mp hmark with hmark | hmark <;>
        exact .inr (by simp [beq_iff_eq.mp hmark, numberMarks])
    · unfold unsigned at hrest
      split at hrest
      · exact List.forall_mem_cons.mpr ⟨.inr (by decide), hdigits hrest⟩
      · exact List.forall_mem_cons.mpr ⟨.inr (by decide), hdigits hrest⟩
      · exact hdigits hrest

/-- A number is a mantissa before an exponent. -/
lemma exists_parts {text : List Char} (h : isPointNumber text = true) :
    ∃ body tail digits places, text = body ++ tail ∧ '_' ∉ body ∧
      Mantissa 10 body digits places ∧ isExponent tail = true := by
  have hunderscore : ∀ {run : List Char}, (∀ c ∈ run, c.isDigit = true) → '_' ∉ run :=
    fun hrun hmem => absurd (hrun _ hmem) (by decide)
  obtain ⟨whole, hwhole⟩ : ∃ whole, whole = text.takeWhile Char.isDigit := ⟨_, rfl⟩
  have hdigits : ∀ c ∈ whole, c.isDigit = true := hwhole ▸ isDigit_takeWhile
  have htext : text = whole ++ text.dropWhile Char.isDigit := by
    rw [hwhole, List.takeWhile_append_dropWhile]
  simp only [isPointNumber, ← hwhole] at h
  split at h
  · next rest hdrop =>
    obtain ⟨hsome, hexponent⟩ := Bool.and_eq_true_iff.mp h
    obtain ⟨fraction, hfraction⟩ : ∃ fraction, fraction = rest.takeWhile Char.isDigit := ⟨_, rfl⟩
    have hplaces : ∀ c ∈ fraction, c.isDigit = true := hfraction ▸ isDigit_takeWhile
    have hrest : rest = fraction ++ rest.dropWhile Char.isDigit := by
      rw [hfraction, List.takeWhile_append_dropWhile]
    have hbody : text = (whole ++ '.' :: fraction) ++ rest.dropWhile Char.isDigit := by
      rw [htext, hdrop, List.append_assoc, List.cons_append, ← hrest]
    have hnone : '_' ∉ whole ++ '.' :: fraction := by
      simpa using ⟨hunderscore hdigits, hunderscore hplaces⟩
    have hne : whole ++ fraction ≠ [] := by
      rw [← hfraction] at hsome
      simpa [List.isEmpty_iff, or_iff_not_imp_left] using hsome
    refine ⟨_, _, whole ++ fraction, fraction.length, hbody, hnone, ?_, hexponent⟩
    exact (Mantissa.decimal_iff hnone).mpr
      ⟨isDigits_iff.mpr ⟨hne, List.forall_mem_append.mpr ⟨hdigits, hplaces⟩⟩,
        .inr ⟨_, _, rfl, rfl, rfl⟩⟩
  · next hpoint =>
    obtain ⟨hsome, hexponent⟩ := Bool.and_eq_true_iff.mp h
    have hne : whole ≠ [] := by simpa [List.isEmpty_iff] using hsome
    exact ⟨whole, _, whole, 0, htext, hunderscore hdigits, .whole (.of_decimal hne hdigits),
      hexponent⟩

lemma mem_of_isPointNumber {text : List Char} (h : isPointNumber text = true) :
    ∀ c ∈ text, c.isDigit = true ∨ c ∈ numberMarks := by
  obtain ⟨body, tail, digits, places, rfl, hbody, mantissa, hexponent⟩ := exists_parts h
  obtain ⟨hdigits, hparts⟩ := (Mantissa.decimal_iff hbody).mp mantissa
  have hall := (isDigits_iff.mp hdigits).2
  refine List.forall_mem_append.mpr ⟨?_, mem_of_isExponent hexponent⟩
  obtain ⟨rfl, -⟩ | ⟨whole, fraction, rfl, rfl, -⟩ := hparts
  · exact fun c hc => .inl (hall c hc)
  · obtain ⟨hwhole, hfraction⟩ := List.forall_mem_append.mp hall
    exact List.forall_mem_append.mpr ⟨fun c hc => .inl (hwhole c hc),
      List.forall_mem_cons.mpr ⟨.inr (by decide), fun c hc => .inl (hfraction c hc)⟩⟩

lemma underscore_notMem {text : List Char} (h : isPointNumber text = true) : '_' ∉ text :=
  fun hmem => (mem_of_isPointNumber h _ hmem).elim (by decide) (by decide)

lemma head_of_isExponent {tail : List Char} (h : isExponent tail = true) :
    ∀ c ∈ tail.head?, c.isDigit = false ∧ c ≠ '.' := by
  unfold isExponent at h
  split at h
  · simp
  · next mark rest =>
    have hmark : mark = 'e' ∨ mark = 'E' := by simpa using (Bool.and_eq_true_iff.mp h).1
    rcases hmark with rfl | rfl <;> simp

/-- What a number of these parts is. -/
lemma decimalValue_append {body tail digits : List Char} {places : Nat}
    (mantissa : Mantissa 10 body digits places) (hbody : '_' ∉ body)
    (h : isExponent tail = true) :
    decimalValue (body ++ tail) = unitsOf 10 (valueOf 10 digits) (exponentOf tail - places) := by
  have htail := head_of_isExponent h
  have hstop : ∀ c ∈ tail.head?, c.isDigit = false := fun c hc => (htail c hc).1
  obtain ⟨hdigits, hparts⟩ := (Mantissa.decimal_iff hbody).mp mantissa
  have hall := (isDigits_iff.mp hdigits).2
  have hvalue : valueOf 10 digits = digitsValue digits := valueOf_eq hall
  rw [hvalue]
  obtain ⟨rfl, rfl⟩ | ⟨whole, fraction, rfl, rfl, rfl⟩ := hparts
  · obtain ⟨htake, hdrop⟩ := span_append hall hstop
    have hpoint : tail.head? ≠ some '.' := fun heq => (htail _ heq).2 rfl
    simp only [decimalValue, htake, hdrop, if_neg hpoint, List.append_nil]
    rfl
  · obtain ⟨hwhole, hfraction⟩ := List.forall_mem_append.mp hall
    have hpoint : ∀ c ∈ ('.' :: (fraction ++ tail)).head?, c.isDigit = false := by simp
    obtain ⟨htake, hdrop⟩ := span_append hwhole hpoint
    obtain ⟨htake', hdrop'⟩ := span_append hfraction hstop
    rw [List.append_assoc, List.cons_append]
    simp only [decimalValue, htake, hdrop, htake', hdrop', List.head?_cons, if_true, List.drop_one,
      List.tail_cons]
    rfl

lemma decimalValue_of_isDigits {text : List Char} (h : isDigits text = true) :
    decimalValue text = valueOf 10 text := by
  obtain ⟨hne, hdigits⟩ := isDigits_iff.mp h
  have hbody : '_' ∉ text := fun hmem => absurd (hdigits _ hmem) (by decide)
  have hvalue := decimalValue_append (.whole (.of_decimal hne hdigits)) hbody
    (rfl : isExponent [] = true)
  rw [List.append_nil] at hvalue
  simp [hvalue, exponentOf, unitsOf]

/-! ### Numbers as literals -/

/-- No other base has a mark that a number of annotations can hold. -/
lemma mark_of_baseMarks {mark : List Char} {base : Nat} (h : (mark, base) ∈ baseMarks)
    (hchars : ∀ c ∈ mark, c.isDigit = true ∨ c ∈ numberMarks) :
    mark = [] ∧ base = 8 := by
  have hall : (baseMarks.all fun pair => pair == ([], 8) ||
      pair.1.any fun c => !c.isDigit && !numberMarks.contains c) = true := by
    decide
  have hpair := List.all_eq_true.mp hall _ h
  rcases Bool.or_eq_true_iff.mp hpair with heq | hany
  · simpa using heq
  · obtain ⟨c, hc, hother⟩ := List.any_eq_true.mp hany
    rcases hchars c hc with hdigit | hmark
    · simp [hdigit] at hother
    · simp [hmark] at hother

lemma numberValue?_of_decimal {text : List Char} (h : isPointNumber text = true)
    (hwhole : ¬ (isDigits text = true ∧ text.head? = some '0' ∧ text ≠ ['0'])) :
    numberValue? text = some (decimalValue text) := by
  rw [numberValue?, if_neg hwhole, if_pos h]

lemma numberValue?_octal {text : List Char} (hne : text ≠ [])
    (h : ∀ c ∈ text, isDigitOf 8 c = true) :
    numberValue? ('0' :: text) = some (valueOf 8 text : ℚ) := by
  have hdigits : ∀ c ∈ text, c.isDigit = true := fun c hc => (isDigitOf_eight.mp (h c hc)).1
  have hall : ('0' :: text).all (· < '8') = true := by
    rw [List.all_eq_true, List.forall_mem_cons]
    exact ⟨by decide, fun c hc => decide_eq_true (isDigitOf_eight.mp (h c hc)).2⟩
  have hzero : isDigits ('0' :: text) = true :=
    isDigits_iff.mpr ⟨by simp, List.forall_mem_cons.mpr ⟨by decide, hdigits⟩⟩
  rw [numberValue?, if_pos ⟨hzero, rfl, by simpa using hne⟩, if_pos hall, valueOf_eq hdigits]
  rfl

/-- A literal that a number of annotations is has the value of the number. -/
lemma IsNumeral.numberValue? {text : List Char} {v : ℚ} (numeral : IsNumeral text v)
    (h : isPointNumber text = true) : numberValue? text = some v := by
  have hchars := mem_of_isPointNumber h
  have hunderscore := underscore_notMem h
  cases numeral with
  | zero =>
    rw [numberValue?_of_decimal rfl (by simp), decimalValue_of_isDigits rfl]
    rfl
  | decimal run first =>
    obtain ⟨rfl, hdigits⟩ := run.decimal hunderscore
    rw [numberValue?_of_decimal h fun hzero => first hzero.2.1,
      decimalValue_of_isDigits (isDigits_iff.mpr hdigits)]
  | based marked underscore run =>
    obtain ⟨rfl, rfl⟩ := mark_of_baseMarks marked fun c hc => hchars c (by simp [hc])
    obtain rfl := underscore.resolve_right fun heq => hunderscore (by simp [heq])
    obtain ⟨rfl, hne, hdigits⟩ := run.eq_of_notMem fun hmem => hunderscore (by simp [hmem])
    exact numberValue?_octal hne hdigits
  | @float body tail digits places exponent mantissa scale fractional =>
    rw [List.mem_append, not_or] at hunderscore
    obtain ⟨hexponent, rfl⟩ := scale.decimal hunderscore.2
    rw [numberValue?_of_decimal h ?_, decimalValue_append mantissa hunderscore.1 hexponent]
    rintro ⟨hdigits, -⟩
    obtain ⟨-, hdigits⟩ := isDigits_iff.mp hdigits
    rcases fractional with hpoint | hne
    · exact absurd (hdigits _ (List.mem_append_left _ hpoint)) (by decide)
    · obtain ⟨c, rest, rfl⟩ := List.exists_cons_of_ne_nil hne
      have hmark := (head_of_isExponent hexponent c rfl).1
      rw [hdigits c (by simp)] at hmark
      cases hmark
  | @hexFloat mark _ _ _ _ _ _ marked =>
    have hmark := hchars mark (by simp)
    rcases marked with rfl | rfl <;> exact absurd hmark (by decide)

/-- A number that the generated code has a value for is a literal. -/
lemma IsNumeral.of_numberValue? {text : List Char} {v : ℚ} (h : isPointNumber text = true)
    (hvalue : Code.numberValue? text = some v) : IsNumeral text v := by
  by_cases hwhole : isDigits text = true ∧ text.head? = some '0' ∧ text ≠ ['0']
  · obtain ⟨hdigits, hhead, hne⟩ := hwhole
    have hoctal : text.all (· < '8') = true := by
      rw [Code.numberValue?, if_pos ⟨hdigits, hhead, hne⟩] at hvalue
      exact (Option.ite_none_right_eq_some.mp hvalue).1
    cases text with
    | nil => cases hhead
    | cons c rest =>
      cases hhead
      have hrest : ∀ c ∈ rest, isDigitOf 8 c = true := fun c hc =>
        isDigitOf_eight.mpr ⟨(isDigits_iff.mp hdigits).2 c (List.mem_cons_of_mem _ hc),
          of_decide_eq_true (List.all_eq_true.mp hoctal c (List.mem_cons_of_mem _ hc))⟩
      have hne : rest ≠ [] := by simpa using hne
      rw [numberValue?_octal hne hrest, Option.some.injEq] at hvalue
      subst hvalue
      exact .based (by decide : (([] : List Char), 8) ∈ baseMarks) (.inl rfl) (.of_digits hne hrest)
  · rw [numberValue?_of_decimal h hwhole, Option.some.injEq] at hvalue
    subst hvalue
    obtain ⟨body, tail, digits, places, htext, hbody, mantissa, hexponent⟩ := exists_parts h
    by_cases hfractional : '.' ∈ body ∨ tail ≠ []
    · rw [htext, decimalValue_append mantissa hbody hexponent]
      exact .float mantissa (.of_decimal hexponent) hfractional
    · rw [not_or, not_not] at hfractional
      obtain ⟨hpoint, rfl⟩ := hfractional
      rw [List.append_nil] at htext
      subst htext
      obtain ⟨hdigits, ⟨rfl, -⟩ | ⟨whole, fraction, rfl, -⟩⟩ :=
        (Mantissa.decimal_iff hbody).mp mantissa
      · rw [decimalValue_of_isDigits hdigits]
        by_cases hzero : text = ['0']
        · subst hzero
          exact .zero
        · obtain ⟨hne, hall⟩ := isDigits_iff.mp hdigits
          exact .decimal (.of_decimal hne hall) fun hhead => hwhole ⟨hdigits, hhead, hzero⟩
      · exact absurd (by simp) hpoint

/-- A number of annotations is a literal just where the generated code has a value for it. -/
theorem isNumeral_iff {text : List Char} {v : ℚ} (h : isPointNumber text = true) :
    IsNumeral text v ↔ numberValue? text = some v :=
  ⟨fun numeral => numeral.numberValue? h, .of_numberValue? h⟩

/-! ### Octal numbers -/

/-- A whole number behind a zero that is no number of the base eight, or another one than in the
base ten. -/
def differsInOctal (text : List Char) : Bool :=
  isDigits text && text.head? == some '0' &&
    (!text.all (· < '8') || 1 < (text.dropWhile (· == '0')).length)

lemma valueOf_dropZeros (base : Nat) (text : List Char) :
    valueOf base (text.dropWhile (· == '0')) = valueOf base text := by
  induction text with
  | nil => rfl
  | cons c text ih =>
    by_cases hzero : c = '0'
    · subst hzero
      rw [List.dropWhile_cons_of_pos rfl, ih]
      simp [valueOf, hexDigit?]
    · rw [List.dropWhile_cons_of_neg (by simpa using hzero)]

/-- A larger base keeps the larger start ahead. -/
lemma foldl_lt {digits : List Char} {m n : Nat} (h : m < n) :
    digits.foldl (fun value c => value * 8 + (hexDigit? c).getD 0) m <
      digits.foldl (fun value c => value * 10 + (hexDigit? c).getD 0) n := by
  induction digits generalizing m n with
  | nil => exact h
  | cons c digits ih =>
    simp only [List.foldl_cons]
    exact ih (by omega)

/-- Two digits after the zeros already make a difference. -/
lemma valueOf_eq_iff {text : List Char} (h : ∀ c ∈ text, c.isDigit = true) :
    valueOf 8 text = valueOf 10 text ↔ (text.dropWhile (· == '0')).length ≤ 1 := by
  rw [← valueOf_dropZeros 8, ← valueOf_dropZeros 10]
  match hdrop : text.dropWhile (· == '0') with
  | [] => simp [valueOf]
  | [c] => simp [valueOf]
  | c :: d :: rest =>
    have hmem : c ∈ text := (List.dropWhile_suffix _).subset (hdrop ▸ List.mem_cons_self)
    have hzero : c ≠ '0' := by
      have hhead := List.head?_dropWhile_not (· == '0') text
      rw [hdrop] at hhead
      simpa using hhead
    have hpos : 0 < (hexDigit? c).getD 0 := by
      have hge := (toNat_of_isDigit (h c hmem)).1
      have hne : c.toNat ≠ '0'.toNat := fun heq => hzero (Char.toNat_inj.mp heq)
      have hzero : '0'.toNat = 48 := rfl
      rw [hexDigit?, if_pos (h c hmem), Option.getD_some]
      omega
    have hlt : valueOf 8 (c :: d :: rest) < valueOf 10 (c :: d :: rest) := by
      simp only [valueOf, List.foldl_cons]
      exact foldl_lt (by omega)
    simp [hlt.ne]

theorem numberValue?_eq_decimalValue_iff {text : List Char} (h : isPointNumber text = true) :
    numberValue? text = some (decimalValue text) ↔ differsInOctal text = false := by
  by_cases hwhole : isDigits text = true ∧ text.head? = some '0' ∧ text ≠ ['0']
  · obtain ⟨hdigits, hhead, -⟩ := id hwhole
    have hall := (isDigits_iff.mp hdigits).2
    rw [numberValue?, if_pos hwhole, decimalValue_of_isDigits hdigits]
    by_cases hoctal : text.all (· < '8') = true
    · have hvalue : octalValue text = valueOf 8 text := (valueOf_eq hall).symm
      rw [if_pos hoctal, hvalue, Option.some.injEq, Rat.natCast_inj, valueOf_eq_iff hall]
      simp [differsInOctal, hdigits, hhead, hoctal]
    · simp [differsInOctal, hdigits, hhead, hoctal]
  · rw [numberValue?_of_decimal h hwhole, eq_self_iff_true, true_iff]
    by_cases hzero : text = ['0']
    · subst hzero
      rfl
    · cases hdiffers : differsInOctal text with
      | false => rfl
      | true =>
        simp only [differsInOctal, Bool.and_eq_true, beq_iff_eq] at hdiffers
        exact absurd ⟨hdiffers.1.1, hdiffers.1.2, hzero⟩ hwhole

end Laminate.Code
