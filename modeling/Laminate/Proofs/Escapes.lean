import Laminate.Proofs.Numerals
import Laminate.Proofs.ReadBack
import Mathlib.Data.List.Forall2

/-! The escapes of the text format, and which of them literals are read by.
A backslash is only ever taken together with the one character after it, so that escapes by a
number come apart, and letters for control characters other than three of them stand for
themselves. -/
namespace Laminate.Annotation

open Laminate.Text Laminate.Code

/-! ### Spellings -/

/-- The escapes of the text format by a single character. -/
def letterEscapes : List (Char × Char) := [
  ('a', Char.ofNat 7), ('b', Char.ofNat 8), ('f', Char.ofNat 12), ('v', Char.ofNat 11),
  ('n', '\n'), ('r', '\r'), ('t', '\t'), ('\\', '\\'), ('\'', '\''), ('"', '"'), ('?', '?')]

/-- A character as a literal of the text format may spell it. -/
inductive Spelling where
  | plain (c : Char)
  | letter (e : Char)
  | octal (first second third : Char)
  | hex (first second : Char)
  deriving Repr, DecidableEq

namespace Spelling

def text : Spelling → List Char
  | plain c => [c]
  | letter e => ['\\', e]
  | octal first second third => ['\\', first, second, third]
  | hex first second => ['\\', 'x', first, second]

/-- The character that stands at a place in the seven-bit order, given in digits of a base. -/
def numbered? (base : Nat) (digits : List Char) : Option Char :=
  if digits.all (isDigitOf base) && valueOf base digits < 128 then
    some (Char.ofNat (valueOf base digits))
  else none

/-- The seven-bit character that a spelling stands for in the text format. -/
def char? : Spelling → Option Char
  | plain c => if c.toNat < 128 && !isControl c && !isQuote c && c != '\\' then some c else none
  | letter e => letterEscapes.lookup e
  | octal first second third => numbered? 8 [first, second, third]
  | hex first second => numbered? 16 [first, second]

/-- What a literal's reader makes of a spelling. -/
def read : Spelling → List Char
  | plain c => [c]
  | letter e => [unescape e]
  | octal first second third => [first, second, third]
  | hex first second => ['x', first, second]

/-- All but the escapes by a number and by the letters of four control characters. -/
def isKept : Spelling → Bool
  | plain _ => true
  | letter e => !(['a', 'b', 'f', 'v'].contains e)
  | octal .. => false
  | hex .. => false

example : (octal '1' '0' '1').char? = some 'A' ∧ (hex '4' 'a').char? = some 'J' := by decide

end Spelling

/-- Characters in their spellings. -/
def AreSpelled (spellings : List Spelling) (original : List Char) : Prop :=
  List.Forall₂ (fun spelling c => spelling.char? = some c) spellings original

instance (spellings : List Spelling) (original : List Char) :
    Decidable (AreSpelled spellings original) :=
  inferInstanceAs (Decidable (List.Forall₂ _ _ _))

/-! ### Reading -/

lemma ne_of_isDigitOf {base : Nat} {c d : Char} (h : isDigitOf base c = true)
    (hd : hexDigit? d = none) : c ≠ d := by
  rintro rfl
  rw [isDigitOf, hd] at h
  cases h

lemma Spelling.numbered?_eq_some {base : Nat} {digits : List Char} {c : Char}
    (h : Spelling.numbered? base digits = some c) : ∀ d ∈ digits, isDigitOf base d = true := by
  rw [Spelling.numbered?, Option.ite_none_right_eq_some, Bool.and_eq_true] at h
  exact List.all_eq_true.mp h.1.1

lemma charLayout_unescape (quote e : Char) : CharLayout quote (unescape e) ['\\', e] := by
  unfold unescape
  split_ifs with hn ht hr
  · exact hn ▸ .newline
  · exact ht ▸ .tab
  · exact hr ▸ .carriageReturn
  · exact .escaped ⟨hn, ht, hr⟩

section

variable {quote : Char} (hquote : isQuote quote = true)
include hquote

lemma literalLayout_plain {c : Char} (hc : isQuote c = false) (hescape : c ≠ '\\')
    {contents written : List Char} (rest : LiteralLayout quote contents written) :
    LiteralLayout quote (c :: contents) (c :: written) := by
  refine .cons (.plain ?_ hescape) rest
  rintro rfl
  rw [hquote] at hc
  cases hc

lemma literalLayout_digit {base : Nat} {c : Char} (hc : isDigitOf base c = true)
    {contents written : List Char} (rest : LiteralLayout quote contents written) :
    LiteralLayout quote (c :: contents) (c :: written) := by
  refine literalLayout_plain hquote ?_ (ne_of_isDigitOf hc (by decide)) rest
  simp only [isQuote, Bool.or_eq_false_iff, beq_eq_false_iff_ne]
  exact ⟨ne_of_isDigitOf hc (by decide), ne_of_isDigitOf hc (by decide)⟩

/-- A spelling goes into a literal as what the reader makes of it. -/
lemma literalLayout_spelling {spelling : Spelling} {c : Char} (h : spelling.char? = some c)
    {contents written : List Char} (rest : LiteralLayout quote contents written) :
    LiteralLayout quote (spelling.read ++ contents) (spelling.text ++ written) := by
  cases spelling with
  | plain d =>
    simp only [Spelling.char?, Option.ite_none_right_eq_some, Bool.and_eq_true, Bool.not_eq_true',
      bne_iff_ne] at h
    exact literalLayout_plain hquote h.1.1.2 h.1.2 rest
  | letter e => exact .cons (charLayout_unescape quote e) rest
  | octal first second third =>
    have hdigits := Spelling.numbered?_eq_some h
    simp only [List.forall_mem_cons] at hdigits
    obtain ⟨hfirst, hsecond, hthird, -⟩ := hdigits
    have hletter : first ≠ 'n' ∧ first ≠ 't' ∧ first ≠ 'r' :=
      ⟨ne_of_isDigitOf hfirst (by decide), ne_of_isDigitOf hfirst (by decide),
        ne_of_isDigitOf hfirst (by decide)⟩
    have hlayout := LiteralLayout.cons (CharLayout.escaped hletter)
      (literalLayout_digit hquote hsecond (literalLayout_digit hquote hthird rest))
    exact hlayout
  | hex first second =>
    have hdigits := Spelling.numbered?_eq_some h
    simp only [List.forall_mem_cons] at hdigits
    obtain ⟨hfirst, hsecond, -⟩ := hdigits
    have hmark : CharLayout quote 'x' ['\\', 'x'] := .escaped (by decide)
    have hlayout := LiteralLayout.cons hmark
      (literalLayout_digit hquote hfirst (literalLayout_digit hquote hsecond rest))
    exact hlayout

lemma literalLayout_spellings {spellings : List Spelling} {original : List Char}
    (h : List.Forall₂ (fun spelling c => spelling.char? = some c) spellings original) :
    LiteralLayout quote (spellings.flatMap Spelling.read)
      (spellings.flatMap Spelling.text ++ [quote]) := by
  induction h with
  | nil => exact .close
  | cons first _ ih =>
    rw [List.flatMap_cons, List.flatMap_cons, List.append_assoc]
    exact literalLayout_spelling hquote first ih

end

lemma mem_letterEscapes {e c : Char} (h : letterEscapes.lookup e = some c) :
    (e, c) ∈ letterEscapes := by
  obtain ⟨before, after, heq, -⟩ := List.lookup_eq_some_iff.mp h
  rw [heq]
  exact List.mem_append_right _ List.mem_cons_self

/-- Just the kept spellings are read as the character that they stand for. -/
lemma Spelling.read_eq_iff {spelling : Spelling} {c : Char} (h : spelling.char? = some c) :
    spelling.read = [c] ↔ spelling.isKept = true := by
  cases spelling with
  | plain d =>
    simp only [Spelling.char?, Option.ite_none_right_eq_some, Option.some.injEq] at h
    simp [Spelling.read, Spelling.isKept, h.2]
  | letter e =>
    have hletters : ∀ pair ∈ letterEscapes,
        [unescape pair.1] = [pair.2] ↔ (Spelling.letter pair.1).isKept = true := by decide
    exact hletters _ (mem_letterEscapes h)
  | octal first second third => simp [Spelling.read, Spelling.isKept]
  | hex first second => simp [Spelling.read, Spelling.isKept]

lemma Spelling.length_read_pos (spelling : Spelling) : 0 < spelling.read.length := by
  cases spelling <;> simp [Spelling.read]

lemma Spelling.length_le_flatMap_read (spellings : List Spelling) :
    spellings.length ≤ (spellings.flatMap Spelling.read).length := by
  induction spellings with
  | nil => exact Nat.le_refl 0
  | cons spelling rest ih =>
    have hpos := spelling.length_read_pos
    rw [List.flatMap_cons, List.length_append, List.length_cons]
    omega

/-- No spelling is read as nothing, so that one that is read as several characters is not made up
for by the others. -/
lemma Spelling.flatMap_read_eq_iff {spellings : List Spelling} {original : List Char}
    (h : List.Forall₂ (fun spelling c => spelling.char? = some c) spellings original) :
    spellings.flatMap Spelling.read = original ↔
      ∀ spelling ∈ spellings, spelling.isKept = true := by
  induction h with
  | nil => simp
  | @cons spelling c rest original hchar hrest ih =>
    rw [List.flatMap_cons, List.forall_mem_cons, ← ih, ← Spelling.read_eq_iff hchar]
    constructor
    · intro heq
      have hlength := congrArg List.length heq
      have hle := Spelling.length_le_flatMap_read rest
      rw [List.length_append, List.length_cons, ← hrest.length_eq] at hlength
      have hone : spelling.read.length = [c].length := by
        have hpos := spelling.length_read_pos
        rw [List.length_singleton]
        omega
      exact List.append_inj heq hone
    · rintro ⟨hread, hmore⟩
      rw [hread, hmore, List.singleton_append]

lemma readQuoted_flatMap {quote : Char} (hquote : isQuote quote = true)
    {spellings : List Spelling} {original : List Char} (hspelled : AreSpelled spellings original)
    {after : List Char} (hafter : ∀ c ∈ (skipBlanks after).head?, isQuote c = false) :
    readQuoted (quote :: (spellings.flatMap Spelling.text ++ quote :: after)) =
      .ok (spellings.flatMap Spelling.read, skipBlanks after) := by
  have hread := (QuotedLayout.single hquote (literalLayout_spellings hquote hspelled)).read hafter
  simpa using hread

/-- A literal of seven-bit text in the spellings of the text format is read to its closing quote.
What is read is the text just where no character of it is spelled by a number or by the letter of
one of four control characters. -/
theorem readQuoted_spellings {quote : Char} (hquote : isQuote quote = true)
    {spellings : List Spelling} {original : List Char} (hspelled : AreSpelled spellings original)
    {after : List Char} (hafter : ∀ c ∈ (skipBlanks after).head?, isQuote c = false) :
    readQuoted (quote :: (spellings.flatMap Spelling.text ++ quote :: after)) =
      .ok (spellings.flatMap Spelling.read, skipBlanks after) ∧
    (spellings.flatMap Spelling.read = original ↔
      ∀ spelling ∈ spellings, spelling.isKept = true) :=
  ⟨readQuoted_flatMap hquote hspelled hafter, Spelling.flatMap_read_eq_iff hspelled⟩

/-- A line feed and a quote by their letters are read, an alert by its letter is not. -/
theorem letters_read :
    readQuoted ['"', 'a', '\\', 'n', '\\', '"', '"', ' ', '\x7d'] =
      .ok (['a', '\n', '"'], ['\x7d']) ∧
    ∃ contents, readQuoted ['\'', '\\', 'a', '\''] = .ok (contents, []) ∧
      AreSpelled [.letter 'a'] [Char.ofNat 7] ∧ contents ≠ [Char.ofNat 7] := by
  have hspelled : AreSpelled [.plain 'a', .letter 'n', .letter '"'] ['a', '\n', '"'] := by decide
  have halert : AreSpelled [.letter 'a'] [Char.ofNat 7] := by decide
  obtain ⟨hread, -⟩ := readQuoted_spellings (show isQuote '"' = true by decide) hspelled
    (show ∀ c ∈ (skipBlanks [' ', '\x7d']).head?, isQuote c = false from fun | _, rfl => rfl)
  obtain ⟨hread', hkept⟩ := readQuoted_spellings (show isQuote '\'' = true by decide) halert
    (show ∀ c ∈ (skipBlanks []).head?, isQuote c = false from nofun)
  refine ⟨hread, _, hread', halert, ?_⟩
  rw [Ne, hkept]
  decide

/-- A letter by its number is read as the digits. -/
theorem number_misread :
    AreSpelled [.octal '1' '0' '1'] ['A'] ∧
    readQuoted ['"', '\\', '1', '0', '1', '"'] = .ok (['1', '0', '1'], []) := by
  have hspelled : AreSpelled [.octal '1' '0' '1'] ['A'] := by decide
  exact ⟨hspelled, readQuoted_flatMap (show isQuote '"' = true by decide) hspelled
    (show ∀ c ∈ (skipBlanks []).head?, isQuote c = false from nofun)⟩

end Laminate.Annotation
