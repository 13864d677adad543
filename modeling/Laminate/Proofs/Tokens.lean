import Laminate.Proofs.Packages
import Laminate.Text.Number

/-! Numbers and words in which a scan finds no names. -/
namespace Laminate.Code

open Laminate.Text

/-- A digit is part of names, but opens none. -/
lemma isIdentChar_of_isDigit {c : Char} (h : c.isDigit = true) :
    isIdentChar c = true ∧ isIdentStart c = false := by
  have hall : ∀ n < 58, 48 ≤ n →
      isIdentChar (Char.ofNat n) = true ∧ isIdentStart (Char.ofNat n) = false := by
    decide
  simp only [Char.isDigit, Bool.and_eq_true, decide_eq_true_eq] at h
  have h₁ : 48 ≤ c.toNat := UInt32.le_iff_toNat_le.mp h.1
  have h₂ : c.toNat ≤ 57 := UInt32.le_iff_toNat_le.mp h.2
  simpa using hall c.toNat (by omega) h₁

lemma isAlpha_of_toLower {c : Char} (h : c.toLower.isAlpha = true) : c.isAlpha = true := by
  unfold Char.toLower at h
  split at h
  · next hupper =>
    have hletter : c.isUpper = true := decide_eq_true hupper
    rw [show c.isAlpha = (c.isUpper || c.isLower) from rfl, hletter, Bool.true_or]
  · exact h

namespace Scans

/-- Digits and points, to which later characters are joined. -/
lemma digits {text : List Char} (h : ∀ c ∈ text, c.isDigit = true ∨ c = '.') {joined : Bool}
    (hjoined : text ≠ [] ∨ joined = true) : Scans (.code joined) text [] (.code true) := by
  induction text generalizing joined with
  | nil =>
    rw [hjoined.resolve_left (by simp)]
    exact nil _
  | cons c rest ih =>
    have hc : isLiteralMark c = false ∧ isIdentStart c = false ∧
        (isIdentChar c || c == '.') = true := by
      rcases h c List.mem_cons_self with hc | rfl
      · obtain ⟨hident, hstart⟩ := isIdentChar_of_isDigit hc
        exact ⟨isLiteralMark_of_isIdentChar hident, hstart, by rw [hident, Bool.true_or]⟩
      · decide
    have hfirst := code joined hc.1 (.inl hc.2.1)
    rw [hc.2.2] at hfirst
    exact hfirst.append_nil (ih (fun c hc => h c (List.mem_cons_of_mem _ hc)) (.inr rfl))

/-- A sign in front of digits. -/
lemma signed {text : List Char} (h : isDigits (unsigned text) = true) {joined : Bool} :
    Scans (.code joined) text [] (.code true) := by
  have hdigits : ∀ {text joined}, isDigits text = true →
      Scans (.code joined) text [] (.code true) := by
    intro text joined h
    simp only [isDigits, Bool.and_eq_true, Bool.not_eq_true', List.isEmpty_eq_false_iff,
      List.all_eq_true] at h
    exact digits (fun c hc => .inl (h.2 c hc)) (.inl h.1)
  unfold unsigned at h
  split at h
  · exact (ofBreak (.code _) (c := '+') (by decide)).append_nil (hdigits h)
  · exact (ofBreak (.code _) (c := '-') (by decide)).append_nil (hdigits h)
  · exact hdigits h

/-- An exponent after digits. -/
lemma exponent {text : List Char} (h : isExponent text = true) :
    Scans (.code true) text [] (.code true) := by
  cases text with
  | nil => exact nil _
  | cons mark rest =>
    simp only [isExponent, Bool.and_eq_true, Bool.or_eq_true, beq_iff_eq] at h
    have hmark : Scans (.code true) [mark] [] (.code true) := by
      refine joined (List.forall_mem_singleton.mpr ?_)
      rcases h.1 with rfl | rfl <;> decide
    exact hmark.append_nil (signed h.2)

lemma pointNumber {text : List Char} (h : isPointNumber text = true) :
    Scans (.code false) text [] (.code true) := by
  have hwhole := List.all_eq_true.mp (List.all_takeWhile (p := Char.isDigit) (l := text))
  rw [← List.takeWhile_append_dropWhile (p := Char.isDigit) (l := text)]
  unfold isPointNumber at h
  simp only at h
  split at h
  · next rest hrest =>
    simp only [Bool.and_eq_true, Bool.not_eq_true'] at h
    have hplaces := List.all_eq_true.mp (List.all_takeWhile (p := Char.isDigit) (l := rest))
    rw [hrest, ← List.takeWhile_append_dropWhile (p := Char.isDigit) (l := rest)]
    have hnumber : Scans (.code false)
        (text.takeWhile Char.isDigit ++ '.' :: rest.takeWhile Char.isDigit) [] (.code true) := by
      refine digits ?_ (.inl (by simp))
      intro c hc
      simp only [List.mem_append, List.mem_cons] at hc
      rcases hc with hc | rfl | hc
      · exact .inl (hwhole c hc)
      · exact .inr rfl
      · exact .inl (hplaces c hc)
    simpa using hnumber.append_nil (exponent h.2)
  · simp only [Bool.and_eq_true, Bool.not_eq_true', List.isEmpty_eq_false_iff] at h
    exact (digits (fun c hc => .inl (hwhole c hc)) (.inl h.1)).append_nil (exponent h.2)

end Scans

namespace Expr

lemma isToken_of_isIdentifier {token : String} (h : isIdentifier token = true) : IsToken token :=
  ⟨_, .name _, .identifier h⟩

lemma isAlpha_of_isSpelledNumber {text : List Char} (h : isSpelledNumber text = true) :
    text ≠ [] ∧ ∀ c ∈ text, c.isAlpha = true := by
  have hword : ∃ word ∈ ["inf", "infinity", "nan"], text.map Char.toLower = word.toList := by
    simp only [isSpelledNumber, Bool.or_eq_true, beq_iff_eq] at h
    rcases h with (h | h) | h
    · exact ⟨"inf", by decide, by simpa using congrArg String.toList h⟩
    · exact ⟨"infinity", by decide, by simpa using congrArg String.toList h⟩
    · exact ⟨"nan", by decide, by simpa using congrArg String.toList h⟩
  obtain ⟨word, hword, heq⟩ := hword
  have hletters : word.toList ≠ [] ∧ ∀ c ∈ word.toList, c.isAlpha = true := by
    rw [← List.all_eq_true]
    clear heq
    revert word
    decide
  refine ⟨?_, ?_⟩
  · rintro rfl
    exact hletters.1 heq.symm
  · intro c hc
    exact isAlpha_of_toLower (hletters.2 _ (heq ▸ List.mem_map_of_mem hc))

/-- The spelled-out numbers are words. -/
lemma scans_spelledNumber {text : List Char} (h : isSpelledNumber text = true) :
    ∃ s, s.IsOpen ∧ Scans (.code false) text [] s := by
  have hall := isAlpha_of_isSpelledNumber h
  cases text with
  | nil => exact absurd rfl hall.1
  | cons c rest =>
    have hc : isIdentStart c = true := by
      simp [isIdentStart, isAlphabetic_of_isAlpha (hall.2 c List.mem_cons_self)]
    refine ⟨_, .name _, .name hc fun x hx => isIdentChar_of_isIdentStart ?_⟩
    simp [isIdentStart, isAlphabetic_of_isAlpha (hall.2 x (List.mem_cons_of_mem _ hx))]

/-- The written form of a number holds no names. -/
lemma isToken_of_isNumber {token : String} (h : isNumber token = true) : IsToken token := by
  have hunsigned : ∃ s, s.IsOpen ∧ Scans (.code false) (unsigned token.toList) [] s := by
    simp only [isNumber, Bool.or_eq_true] at h
    rcases h with h | h
    · exact ⟨_, .code _, .pointNumber h⟩
    · exact scans_spelledNumber h
  obtain ⟨s, hopen, hscan⟩ := hunsigned
  refine ⟨s, hopen, ?_⟩
  unfold unsigned at hscan
  split at hscan
  · next rest htoken =>
    rw [htoken]
    exact (Scans.ofBreak (.code _) (c := '+') (by decide)).append_nil hscan
  · next rest htoken =>
    rw [htoken]
    exact (Scans.ofBreak (.code _) (c := '-') (by decide)).append_nil hscan
  · exact hscan

lemma isToken_toString (n : Int) : IsToken (toString n) := by
  have hdigits : ∀ n : Nat, Scans (.code false) n.repr.toList [] (.code true) := by
    intro n
    rw [Nat.repr_eq_ofList_toDigits, String.toList_ofList]
    exact .digits (fun c hc => .inl (Nat.isDigit_of_mem_toDigits (by decide) (by decide) hc))
      (.inl Nat.toDigits_ne_nil)
  rw [Int.toString_eq_repr, Int.repr_eq_if]
  split
  · exact ⟨_, .code _, hdigits _⟩
  · refine ⟨_, .code true, ?_⟩
    rw [String.toList_append]
    exact (Scans.ofBreak (.code false) (c := '-') (by decide)).append_nil (hdigits _)

end Expr

end Laminate.Code
