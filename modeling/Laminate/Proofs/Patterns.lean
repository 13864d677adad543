import Laminate.Proofs.Literals
import Laminate.Proofs.RuleCalls

/-! What the patterns of a field are compiled from.
A pattern is written as a raw literal wherever no grave accent stands in it. There are no escapes in
a raw literal, and the carriage returns in it do not count. -/
namespace Laminate.Code

open Laminate.Text

/-! ### Reading literals -/

/-- The text after an opening grave accent: the octets that the literal stands for, and what follows
the accent that closes it. -/
def readRaw : List Char → Option (List UInt8 × List Char)
  | [] => none
  | c :: rest =>
    if c = Char.ofNat 96 then some ([], rest)
    else (readRaw rest).map fun (more, left) =>
      (if c = '\r' then more else String.utf8EncodeChar c ++ more, left)

/-- The literal at the front of a text, and what follows it. -/
def readLiteral? : List Char → Option (List UInt8 × List Char)
  | [] => none
  | c :: rest =>
    if c = '"' then readInterpreted rest
    else if c = Char.ofNat 96 then readRaw rest
    else none

/-- What a text that is one literal stands for. -/
def literalValue? (text : List Char) : Option (List UInt8) :=
  ((readLiteral? text).filter (·.2.isEmpty)).map (·.1)

/-- What is left of a text between grave accents. -/
def withoutReturns (s : String) : String := String.ofList (s.toList.filter (· != '\r'))

lemma withoutReturns_eq_self {s : String} : withoutReturns s = s ↔ '\r' ∉ s.toList := by
  rw [withoutReturns, ← String.toList_inj, String.toList_ofList, List.filter_eq_self]
  simp only [bne_iff_ne]
  exact ⟨fun h hmem => h _ hmem rfl, fun h c hc heq => h (heq ▸ hc)⟩

/-- Between grave accents every character stands for itself but for carriage returns. -/
lemma readRaw_append {text : List Char} (h : Char.ofNat 96 ∉ text) (rest : List Char) :
    readRaw (text ++ Char.ofNat 96 :: rest) =
      some ((text.filter (· != '\r')).flatMap String.utf8EncodeChar, rest) := by
  induction text with
  | nil => rfl
  | cons c text ih =>
    rw [List.mem_cons, not_or] at h
    rw [List.cons_append, readRaw, if_neg (Ne.symm h.1), ih h.2]
    by_cases hreturn : c = '\r'
    · simp [hreturn]
    · simp [hreturn]

theorem literalValue?_literal (s : String) :
    literalValue? (literal s).toList = some (encode s) := by
  have hread : readLiteral? (literal s).toList = some (encode s, []) := by
    rw [literal, String.toList_ofList, List.cons_append, readLiteral?, if_pos rfl,
      readInterpreted_literal]
  rw [literalValue?, hread]
  rfl

/-- A text with a grave accent is written with escapes, and loses nothing. -/
theorem literalValue?_rawLiteral (s : String) : literalValue? (rawLiteral s).toList =
    some (encode (if Char.ofNat 96 ∈ s.toList then s else withoutReturns s)) := by
  unfold rawLiteral
  by_cases hgrave : Char.ofNat 96 ∈ s.toList
  · rw [if_pos (by simpa using hgrave), if_pos hgrave, literalValue?_literal]
  · rw [if_neg (by simpa using hgrave), if_neg hgrave]
    have hread :
        readLiteral? (String.ofList (Char.ofNat 96 :: s.toList ++ [Char.ofNat 96])).toList =
          some (encode (withoutReturns s), []) := by
      rw [String.toList_ofList, List.cons_append, readLiteral?, if_neg (by decide), if_pos rfl,
        readRaw_append hgrave, encode_eq, withoutReturns, String.toList_ofList]
    rw [literalValue?, hread]
    rfl

lemma encode_inj {s t : String} : encode s = encode t ↔ s = t :=
  ⟨fun h => by rw [← decodeLossy_encode s, h, decodeLossy_encode], congrArg encode⟩

theorem literalValue?_rawLiteral_eq_iff {s : String} :
    literalValue? (rawLiteral s).toList = some (encode s) ↔
      Char.ofNat 96 ∈ s.toList ∨ '\r' ∉ s.toList := by
  rw [literalValue?_rawLiteral, Option.some.injEq, encode_inj]
  by_cases hgrave : Char.ofNat 96 ∈ s.toList
  · simp [hgrave]
  · rw [if_neg hgrave, withoutReturns_eq_self]
    simp [hgrave]

end Laminate.Code

namespace Laminate.Form

open Laminate.Text Laminate.Schema Laminate.Code Laminate.Annotation

/-! ### Patterns -/

/-- The rule that a text matches what a literal is compiled to. -/
def matchText (literal : String) : String :=
  callText "Match" ["regexp.MustCompile(" ++ literal ++ ")"]

section

variable {settings : Settings} {message : Message} {field : Field} {names : FieldNames}
variable {rules : ValidateRules} {result : Option Validation}

/-- Every pattern of a field is in its call as a literal. The literal stands for the pattern just
where a grave accent is in it or no carriage return is; of other patterns it stands for what is left
without the carriage returns. -/
theorem patterns_compiled_iff (hrules : field.options.validate = some rules)
    (h : Validation.of settings message field names = .ok result) {pattern : String}
    (hpattern : pattern ∈ patternsOf rules) :
    ∃ v literal, result = some v ∧
      matchText literal ∈ v.content.map (fun rule => rule.expr.render) ∧
      (literalValue? literal.toList = some (encode pattern) ↔
        Char.ofNat 96 ∈ pattern.toList ∨ '\r' ∉ pattern.toList) ∧
      (Char.ofNat 96 ∉ pattern.toList →
        literalValue? literal.toList = some (encode (withoutReturns pattern))) := by
  have htext : matchText (rawLiteral pattern) ∈ contentTexts settings field rules := by
    have hmem : patternText pattern ∈ (patternsOf rules).map patternText :=
      List.mem_map_of_mem hpattern
    simp only [contentTexts, List.mem_append]
    exact .inl (.inr hmem)
  obtain ⟨v, hv, hcontent⟩ := Validation.exists_of_mem_contentTexts hrules h htext
  refine ⟨v, rawLiteral pattern, hv, hcontent, literalValue?_rawLiteral_eq_iff, fun hgrave => ?_⟩
  rw [literalValue?_rawLiteral, if_neg hgrave]

end

/-- A code that has to match a pattern. -/
def codeField (pattern : String) : Field where
  name := "code"
  number := 1
  goName := "Code"
  kind := .scalar .string
  cardinality := .singular
  message := "UserRequest"
  module := "acme"
  options := { validate := some { matching := some ⟨[pattern]⟩ } }

def codeMessage (pattern : String) : Message where
  name := "UserRequest"
  fullName := "acme.UserRequest"
  kind := .request
  names := .derive {} "UserRequest" .request
  members := [.surfaced (codeField pattern)]
  options := {}

theorem quoted_pattern_compiled :
    ∃ v literal, Validation.of {} (codeMessage "^`a\r$") (codeField "^`a\r$")
        (FieldNames.of (codeMessage "^`a\r$") (codeField "^`a\r$")) = .ok (some v) ∧
      matchText literal ∈ v.content.map (fun rule => rule.expr.render) ∧
      literalValue? literal.toList = some (encode "^`a\r$") := by
  have h : (Validation.of {} (codeMessage "^`a\r$") (codeField "^`a\r$")
      (FieldNames.of (codeMessage "^`a\r$") (codeField "^`a\r$"))).isOk = true := by
    decide +kernel
  obtain ⟨result, hresult⟩ := isOk_iff.mp h
  obtain ⟨v, literal, rfl, hcontent, hiff, -⟩ :=
    patterns_compiled_iff rfl hresult (List.mem_singleton_self "^`a\r$")
  exact ⟨v, literal, hresult, hcontent, hiff.mpr (.inl (by decide))⟩

/-- A carriage return in a pattern is lost where no grave accent stands beside it. -/
theorem carriage_return_lost :
    ∃ v, Validation.of {} (codeMessage "^a\rb$") (codeField "^a\rb$")
        (FieldNames.of (codeMessage "^a\rb$") (codeField "^a\rb$")) = .ok (some v) ∧
      v.expr.render = "validation.Field(&in.Code, " ++ matchText "`^a\rb$`" ++ ")" ∧
      literalValue? "`^a\rb$`".toList = some (encode "^ab$") ∧ encode "^ab$" ≠ encode "^a\rb$" := by
  have h : (Validation.of {} (codeMessage "^a\rb$") (codeField "^a\rb$")
      (FieldNames.of (codeMessage "^a\rb$") (codeField "^a\rb$"))).toOption.any (fun result =>
        result.any fun v => v.expr.render ==
          "validation.Field(&in.Code, " ++ matchText "`^a\rb$`" ++ ")") = true := by
    decide +kernel
  obtain ⟨result, hresult, hcheck⟩ := exists_of_check h
  obtain ⟨v, rfl, hrender⟩ := (Option.any_eq_true _ _).mp hcheck
  exact ⟨v, hresult, by simpa using hrender, by decide +kernel, by decide +kernel⟩

end Laminate.Form
