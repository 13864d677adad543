import Laminate.Companion.Quoted
import Laminate.Companion.Token
import Mathlib.Data.Nat.Digits.Defs
import Mathlib.Tactic.Lemma

/-! String literals of the companion language are read as the texts that they are written for. -/
namespace Laminate.Companion

open Laminate.Text Token

/-! ### Reading -/

/-- The value of a run of hexadecimal digits. -/
def hexValue (digits : List Char) : Nat :=
  digits.foldl (fun value c => value * 16 + (hexDigit? c).getD 0) 0

/-- The character that one letter after a backslash stands for. -/
def escaped? : Char → Option Char
  | 'n' => some '\n'
  | 'r' => some '\r'
  | 't' => some '\t'
  | '0' => some '\x00'
  | '\\' => some '\\'
  | '\'' => some '\''
  | '"' => some '"'
  | _ => none

/-- The first character inside a string literal, with what follows its spelling. -/
def readCharacter : List Char → Option (Char × List Char)
  | '\\' :: c :: rest =>
    if !isEscape false c rest then none
    else if c = 'x' then some (Char.ofNat (hexValue (rest.take 2)), rest.drop 2)
    else if c = 'u' then
      let digits := (rest.drop 1).takeWhile (· != '\x7d')
      some (Char.ofNat (hexValue (digits.filter (· != '_'))),
        (rest.dropWhile (· != '\x7d')).drop 1)
    else (escaped? c).map (·, rest)
  | c :: rest => if c = '\\' || c = '"' || c = '\r' then none else some (c, rest)
  | [] => none

/-- The characters that the inside of a string literal stands for, if it has no more than `fuel`. -/
def readInside : Nat → List Char → Option (List Char)
  | _, [] => some []
  | 0, _ => none
  | fuel + 1, text =>
    match readCharacter text with
    | some (c, rest) => (readInside fuel rest).map (c :: ·)
    | none => none

/-- The text that a string literal stands for. -/
def readString? (literal : String) : Option String :=
  match literal.toList with
  | '"' :: rest =>
    if rest.getLast? = some '"' then
      (readInside rest.length rest.dropLast).map String.ofList
    else none
  | _ => none

/-! ### Codes -/

lemma hexValue_concat (digits : List Char) (c : Char) :
    hexValue (digits ++ [c]) = hexValue digits * 16 + (hexDigit? c).getD 0 := by
  simp [hexValue]

lemma hexDigit?_digitChar {n : Nat} (h : n < 16) : hexDigit? n.digitChar = some n := by
  have hall : ∀ n ∈ List.range 16, hexDigit? n.digitChar = some n := by decide
  exact hall n (List.mem_range.mpr h)

lemma hexDigits_read (n : Nat) :
    hexValue (hexDigits n) = n ∧ ∀ c ∈ hexDigits n, (hexDigit? c).isSome = true := by
  induction n using Nat.base_induction 16 (by decide) with
  | single m hm =>
    rw [hexDigits, Nat.toDigits_of_lt_base hm]
    simp [hexValue, hexDigit?_digitChar hm]
  | digit m k hk hm ih =>
    rw [hexDigits] at ih
    rw [hexDigits, ← Nat.toDigits_append_toDigits (by decide) hm hk, Nat.toDigits_of_lt_base hk,
      hexValue_concat, hexDigit?_digitChar hk, ih.1]
    refine ⟨by simp [Nat.mul_comm], fun c hc => ?_⟩
    rcases List.mem_append.mp hc with hc | hc
    · exact ih.2 c hc
    · rw [List.mem_singleton.mp hc, hexDigit?_digitChar hk]
      rfl

/-- The code of a character in braces, as it is read. -/
lemma hexDigits_between (c : Char) (rest : List Char) :
    (hexDigits c.toNat ++ '\x7d' :: rest).takeWhile (· != '\x7d') = hexDigits c.toNat ∧
      (hexDigits c.toNat ++ '\x7d' :: rest).dropWhile (· != '\x7d') = '\x7d' :: rest ∧
      (hexDigits c.toNat).filter (· != '_') = hexDigits c.toNat := by
  obtain ⟨-, hall⟩ := hexDigits_read c.toNat
  have hbrace : ∀ d ∈ hexDigits c.toNat, (d != '\x7d') = true := by
    intro d hd
    have hdigit := hall d hd
    rw [bne_iff_ne]
    rintro rfl
    revert hdigit
    decide
  have hscore : ∀ d ∈ hexDigits c.toNat, (d != '_') = true := by
    intro d hd
    have hdigit := hall d hd
    rw [bne_iff_ne]
    rintro rfl
    revert hdigit
    decide
  refine ⟨?_, ?_, List.filter_eq_self.mpr hscore⟩
  · rw [List.takeWhile_append_of_pos hbrace]
    simp
  · rw [List.dropWhile_append_of_pos hbrace]
    simp

lemma isBracedCode_hexDigits (c : Char) (rest : List Char) :
    isBracedCode ('\x7b' :: (hexDigits c.toNat ++ '\x7d' :: rest)) = true := by
  obtain ⟨htake, -, hfilter⟩ := hexDigits_between c rest
  obtain ⟨hvalue, hall⟩ := hexDigits_read c.toNat
  have hvalid : c.toNat.isValidChar := c.valid
  have hpos : 0 < (hexDigits c.toNat).length := Nat.length_toDigits_pos
  have hshort : (hexDigits c.toNat).length ≤ 6 := by
    refine (Nat.length_toDigits_le_iff (by decide) (by decide)).mpr ?_
    rcases hvalid with h | ⟨-, h⟩ <;> omega
  have hhead : (hexDigits c.toNat).head? ≠ some '_' := by
    intro h
    have hdigit := hall '_' (List.mem_of_head? h)
    revert hdigit
    decide
  have hcode : hexValue (hexDigits c.toNat) = (hexDigits c.toNat).foldl
      (fun value c => value * 16 + (hexDigit? c).getD 0) 0 := rfl
  simp only [isBracedCode, htake, hfilter, ← hcode, hvalue]
  simpa [hshort, hhead, hvalid, Nat.succ_le_of_lt hpos] using hall

/-! ### Characters -/

/-- A character other than NUL is read as it is written. -/
lemma readCharacter_echoOne {c : Char} (h : c ≠ '\x00') (rest : List Char) :
    readCharacter (echoOne '"' c ++ rest) = some (c, rest) := by
  unfold echoOne
  split_ifs with hnul htab hline hreturn hmark hcode
  · exact absurd hnul h
  · subst htab; rfl
  · subst hline; rfl
  · subst hreturn; rfl
  · rcases hmark with rfl | rfl <;> rfl
  · obtain ⟨htake, hdrop, hfilter⟩ := hexDigits_between c rest
    obtain ⟨hvalue, -⟩ := hexDigits_read c.toNat
    have hescape : isEscape false 'u' ('\x7b' :: (hexDigits c.toNat ++ '\x7d' :: rest)) = true :=
      isBracedCode_hexDigits c rest
    have hchars : ['\\', 'u', '\x7b'] ++ hexDigits c.toNat ++ ['\x7d'] ++ rest =
        '\\' :: 'u' :: '\x7b' :: (hexDigits c.toNat ++ '\x7d' :: rest) := by simp
    rw [hchars, readCharacter, hescape]
    simp [htake, hdrop, hfilter, hvalue]
  · rw [not_or] at hmark
    rw [List.singleton_append, readCharacter]
    · simp [hmark.1, hmark.2, hreturn]
    · rintro _ _ rfl
      exact absurd rfl hmark.1

lemma readCharacter_literalBody (c : Char) (text : List Char) :
    readCharacter (literalBody (c :: text)) = some (c, literalBody text) := by
  by_cases hnul : c = '\x00'
  · subst hnul
    cases text with
    | nil => rfl
    | cons d rest =>
      show readCharacter ((if '0' ≤ d && d ≤ '7' then ['\\', 'x', '0', '0'] else ['\\', '0']) ++
        literalBody (d :: rest)) = some ('\x00', literalBody (d :: rest))
      split <;> rfl
  · rw [literalBody]
    · exact readCharacter_echoOne hnul _
    · exact hnul

lemma readCharacter_length {text rest : List Char} {c : Char}
    (h : readCharacter text = some (c, rest)) : rest.length < text.length := by
  have hdrop : ∀ inside : List Char,
      (inside.dropWhile (· != '\x7d')).length ≤ inside.length := fun inside =>
    (List.dropWhile_suffix _).length_le
  unfold readCharacter at h
  grind [Option.map_eq_some_iff]

/-- A text is read from the inside of its literal. -/
lemma readInside_literalBody {fuel : Nat} {text : List Char} (h : text.length ≤ fuel) :
    readInside fuel (literalBody text) = some text := by
  have hstep : ∀ {fuel : Nat} {c : Char} {body rest : List Char},
      readCharacter body = some (c, rest) →
        readInside (fuel + 1) body = (readInside fuel rest).map (c :: ·) := by
    intro fuel c body rest hread
    cases body with
    | nil => cases hread
    | cons first others => simp [readInside, hread]
  induction text generalizing fuel with
  | nil => cases fuel <;> rfl
  | cons c text ih =>
    cases fuel with
    | zero => simp at h
    | succ fuel =>
      rw [hstep (readCharacter_literalBody c text), ih (by simpa using h)]
      rfl

lemma length_le_literalBody (text : List Char) : text.length ≤ (literalBody text).length := by
  induction text with
  | nil => exact Nat.zero_le _
  | cons c text ih =>
    exact Nat.succ_le_of_lt
      (Nat.lt_of_le_of_lt ih (readCharacter_length (readCharacter_literalBody c text)))

/-- A string literal stands for the text that it is made from. -/
theorem readString?_stringLiteral (text : String) :
    readString? (stringLiteral text) = some text := by
  have hlength := length_le_literalBody text.toList
  simp [readString?, stringLiteral, readInside_literalBody (Nat.le_succ_of_le hlength)]

end Laminate.Companion
