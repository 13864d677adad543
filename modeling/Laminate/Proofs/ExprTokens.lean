import Laminate.Code.Expr
import Laminate.Code.Name
import Laminate.Proofs.Literals
import Mathlib.Algebra.Group.Nat.Defs
import Mathlib.Data.Rat.Defs

/-! The tokens of expressions.
A text is read as far as conditions are written with it: any other text has no tokens. -/
namespace Laminate.Code

open Laminate.Text

/-- What names are made of. Below 128 these are letters, the underscore and digits. -/
structure Letters where
  isLetter : Char → Bool
  isDigit : Char → Bool
  isLetter_ascii : ∀ c, c.toNat < 128 → isLetter c = (c.isAlpha || c == '_')
  isDigit_ascii : ∀ c, c.toNat < 128 → isDigit c = c.isDigit

namespace Letters

/-- No other letters than those below 128. -/
def seven : Letters where
  isLetter c := c.isAlpha || c == '_'
  isDigit c := c.isDigit
  isLetter_ascii _ _ := rfl
  isDigit_ascii _ _ := rfl

variable (letters : Letters)

def isNameChar (c : Char) : Bool := letters.isLetter c || letters.isDigit c

/-- A name that is no reserved word. -/
def isIdentifier (name : String) : Bool :=
  match name.toList with
  | [] => false
  | c :: rest => letters.isLetter c && rest.all letters.isNameChar && !keywords.contains name

end Letters

/-! ### Numbers -/

/-- The value of an exponent with its mark. -/
def exponentOf : List Char → Int
  | _ :: '-' :: digits => -(digitsValue digits : Int)
  | _ :: '+' :: digits => digitsValue digits
  | _ :: digits => digitsValue digits
  | [] => 0

/-- A whole number of units of a power of ten. -/
def scaled (digits : Nat) (exponent : Int) : ℚ :=
  if 0 ≤ exponent then (digits * 10 ^ exponent.toNat : Nat)
  else mkRat digits (10 ^ (-exponent).toNat)

/-- The value of a decimal number without a sign. -/
def decimalValue (text : List Char) : ℚ :=
  let whole := text.takeWhile Char.isDigit
  let rest := text.dropWhile Char.isDigit
  let places := if rest.head? = some '.' then (rest.drop 1).takeWhile Char.isDigit else []
  let tail := if rest.head? = some '.' then (rest.drop 1).dropWhile Char.isDigit else rest
  scaled (digitsValue (whole ++ places)) (exponentOf tail - places.length)

def octalValue (text : List Char) : Nat :=
  text.foldl (fun value c => value * 8 + (c.toNat - '0'.toNat)) 0

/-- The value of a number in the generated code, where it is one: a whole number that starts with a
zero is an octal one. -/
def numberValue? (text : List Char) : Option ℚ :=
  if isDigits text ∧ text.head? = some '0' ∧ text ≠ ['0'] then
    if text.all (· < '8') then some (octalValue text) else none
  else if isPointNumber text then some (decimalValue text)
  else none

/-- A character that a number may go on with. -/
def isNumberChar (c : Char) : Bool :=
  c.isAlphanum || c == '.' || c == '_' || c == '+' || c == '-'

/-! ### Tokens -/

/-- What may stand before an operand. -/
inductive UnaryOp where
  | not | deref | minus | plus
  deriving Repr, DecidableEq

def UnaryOp.symbol : UnaryOp → String
  | not => "!" | deref => "*" | minus => "-" | plus => "+"

inductive Mark where
  | dot | opening | closing
  | unary (op : UnaryOp)
  | binary (op : BinaryOp)
  deriving Repr, DecidableEq

inductive Token where
  | name (text : String)
  | number (value : ℚ)
  | text (octets : List UInt8)
  | mark (mark : Mark)
  deriving DecidableEq

/-- Symbols that are one mark, the longer ones first. Some are marks that no condition has. -/
def symbols : List (List Char × Option Mark) := [
  (['=', '='], some (.binary .eq)),
  (['!', '='], some (.binary .ne)),
  (['&', '&'], some (.binary .and)),
  (['|', '|'], some (.binary .or)),
  (['*', '='], none),
  (['-', '='], none),
  (['-', '-'], none),
  (['+', '='], none),
  (['+', '+'], none),
  (['.'], some .dot),
  (['('], some .opening),
  ([')'], some .closing),
  (['!'], some (.unary .not)),
  (['*'], some (.unary .deref)),
  (['-'], some (.unary .minus)),
  (['+'], some (.unary .plus))]

/-- The mark at the front, and what follows it. -/
def mark? (text : List Char) : Option (Mark × List Char) :=
  (symbols.find? (·.1.isPrefixOf text)).bind fun (symbol, mark) =>
    mark.map (·, text.drop symbol.length)

variable (letters : Letters)

/-- The token at the front, and what follows it. -/
def token? : List Char → Option (Token × List Char)
  | [] => none
  | c :: rest =>
    if letters.isLetter c then
      let name := String.ofList (c :: rest.takeWhile letters.isNameChar)
      if keywords.contains name then none
      else some (.name name, rest.dropWhile letters.isNameChar)
    else if c.isDigit || (c == '.' && rest.head?.any Char.isDigit) then
      (numberValue? (c :: rest.takeWhile isNumberChar)).map fun value =>
        (.number value, rest.dropWhile isNumberChar)
    else if c = '"' then (readInterpreted rest).map fun (octets, after) => (.text octets, after)
    else (mark? (c :: rest)).map fun (mark, after) => (.mark mark, after)

lemma readInterpreted_length {text after : List Char} {octets : List UInt8}
    (h : readInterpreted text = some (octets, after)) : after.length < text.length := by
  fun_induction readInterpreted text generalizing octets with
  | case1 => cases h
  | case2 rest => cases h; simp
  | case3 rest => cases h
  | case4 => cases h
  | case5 rest octets' left hescape _ _ _ ih =>
    obtain ⟨⟨more, left'⟩, hread, hpair⟩ := Option.map_eq_some_iff.mp h
    cases hpair
    have := readEscape_length hescape
    have := ih hread
    simp only [List.length_cons]
    omega
  | case6 c rest _ _ _ ih =>
    obtain ⟨⟨more, left'⟩, hread, hpair⟩ := Option.map_eq_some_iff.mp h
    cases hpair
    have := ih hread
    simp only [List.length_cons]
    omega

lemma mark?_length {text after : List Char} {mark : Mark} (h : mark? text = some (mark, after)) :
    after.length < text.length := by
  obtain ⟨⟨symbol, mark'⟩, hfind, hmark⟩ := Option.bind_eq_some_iff.mp h
  obtain ⟨_, -, hpair⟩ := Option.map_eq_some_iff.mp hmark
  cases hpair
  have hsymbol : symbol ≠ [] := by
    have hall : symbols.all (·.1 ≠ []) = true := by decide
    simpa using List.all_eq_true.mp hall _ (List.mem_of_find?_eq_some hfind)
  have hprefix : symbol <+: text := by simpa using List.find?_some hfind
  have hle := hprefix.length_le
  have hpos := List.length_pos_iff.mpr hsymbol
  rw [List.length_drop]
  omega

lemma token?_length {text after : List Char} {token : Token}
    (h : token? letters text = some (token, after)) : after.length < text.length := by
  cases text with
  | nil => cases h
  | cons c rest =>
    have hdrop : ∀ p : Char → Bool, (rest.dropWhile p).length < (c :: rest).length := fun p =>
      Nat.lt_succ_of_le (List.dropWhile_suffix p).length_le
    simp only [token?] at h
    split at h
    · split at h <;> cases h
      exact hdrop _
    · split at h
      · obtain ⟨value, -, hpair⟩ := Option.map_eq_some_iff.mp h
        cases hpair
        exact hdrop _
      · split at h
        · obtain ⟨⟨octets, left⟩, hread, hpair⟩ := Option.map_eq_some_iff.mp h
          cases hpair
          exact Nat.lt_succ_of_lt (readInterpreted_length hread)
        · obtain ⟨⟨mark, left⟩, hmark, hpair⟩ := Option.map_eq_some_iff.mp h
          cases hpair
          exact mark?_length hmark

/-- The tokens of a text, if it is made of tokens and spaces. -/
def tokens? : List Char → Option (List Token)
  | [] => some []
  | c :: rest =>
    if c = ' ' then tokens? rest
    else match h : token? letters (c :: rest) with
      | none => none
      | some (token, after) =>
        have := token?_length letters h
        (tokens? after).map (token :: ·)
termination_by text => text.length
decreasing_by
  · exact Nat.lt_succ_self rest.length
  · exact this

/-! ### Reading tokens one by one -/

variable {letters}

lemma tokens?_space (text : List Char) : tokens? letters (' ' :: text) = tokens? letters text := by
  rw [tokens?, if_pos rfl]

lemma token?_space (text : List Char) : token? letters (' ' :: text) = none := by
  have hspace : letters.isLetter ' ' = false := letters.isLetter_ascii ' ' (by decide)
  simp [token?, hspace, mark?, symbols]

lemma tokens?_token {text after : List Char} {token : Token}
    (h : token? letters text = some (token, after)) :
    tokens? letters text = (tokens? letters after).map (token :: ·) := by
  cases text with
  | nil => cases h
  | cons c rest =>
    have hc : c ≠ ' ' := by
      rintro rfl
      rw [token?_space] at h
      cases h
    rw [tokens?, if_neg hc]
    split
    · next hnone => rw [hnone] at h; cases h
    · next hsome => rw [hsome] at h; cases h; rfl

/-- What a name, or a number, cannot go on with. -/
def endsName (c : Char) : Bool := c == ' ' || c == ')' || c == '(' || c == '.'

namespace Letters

lemma not_letter {c : Char} (h : c.toNat < 128) (hc : c.isAlpha = false) (hline : c ≠ '_') :
    letters.isLetter c = false := by
  simp [letters.isLetter_ascii c h, hc, hline]

lemma isNameChar_of_endsName {c : Char} (h : endsName c = true) : letters.isNameChar c = false := by
  have hascii : c.toNat < 128 ∧ c.isAlpha = false ∧ c ≠ '_' ∧ c.isDigit = false := by
    simp only [endsName, Bool.or_eq_true, beq_iff_eq] at h
    rcases h with ((rfl | rfl) | rfl) | rfl <;> decide
  rw [isNameChar, not_letter hascii.1 hascii.2.1 hascii.2.2.1, letters.isDigit_ascii c hascii.1,
    hascii.2.2.2, Bool.or_false]

/-- A name of characters below 128 is one whatever other letters there are. -/
lemma isIdentifier_of_seven {name : String} (h : seven.isIdentifier name = true) :
    letters.isIdentifier name = true := by
  have hletter : ∀ c, seven.isLetter c = true → letters.isLetter c = true := by
    intro c hc
    have hascii : c.toNat < 128 := by
      simp only [seven, Bool.or_eq_true, beq_iff_eq] at hc
      rcases hc with hc | rfl
      · exact (Bool.or_eq_true_iff.mp hc).elim lt_of_isUpper lt_of_isLower
      · decide
    rw [letters.isLetter_ascii c hascii]
    exact hc
  have hname : ∀ c, seven.isNameChar c = true → letters.isNameChar c = true := by
    intro c hc
    simp only [isNameChar, Bool.or_eq_true] at hc ⊢
    exact hc.imp (hletter c) fun hc => by rwa [letters.isDigit_ascii c (lt_of_isDigit hc)]
  unfold isIdentifier at h ⊢
  split
  · next hnil => simp [hnil] at h
  · next c rest hcons =>
    simp only [hcons, Bool.and_eq_true, List.all_eq_true] at h ⊢
    exact ⟨⟨hletter c h.1.1, fun c hc => hname c (h.1.2 c hc)⟩, h.2⟩

lemma isIdentifier_cons {name : String} (h : letters.isIdentifier name = true) :
    ∃ c rest, name.toList = c :: rest ∧ letters.isLetter c = true ∧
      (∀ c ∈ rest, letters.isNameChar c = true) ∧ keywords.contains name = false := by
  unfold isIdentifier at h
  split at h
  · cases h
  · next c rest hname =>
    simp only [Bool.and_eq_true, List.all_eq_true, Bool.not_eq_true'] at h
    exact ⟨c, rest, hname, h.1.1, h.1.2, h.2⟩

lemma not_isAlpha_of_isDigit {c : Char} (h : c.isDigit = true) : c.isAlpha = false := by
  have hall : ∀ c : Char, c.toNat < 128 → c.isDigit = true → c.isAlpha = false :=
    forall_ascii (by decide +kernel)
  exact hall c (lt_of_isDigit h) h

lemma not_letter_of_isDigit {c : Char} (h : c.isDigit = true) : letters.isLetter c = false := by
  refine not_letter (lt_of_isDigit h) (not_isAlpha_of_isDigit h) ?_
  rintro rfl
  exact absurd h (by decide)

end Letters

lemma token?_name {name : String} (hname : letters.isIdentifier name = true) {after : List Char}
    (hafter : ∀ c ∈ after.head?, endsName c = true) :
    token? letters (name.toList ++ after) = some (.name name, after) := by
  obtain ⟨c, rest, htext, hletter, hrest, hword⟩ := letters.isIdentifier_cons hname
  obtain ⟨htake, hdrop⟩ := span_append hrest fun c hc =>
    letters.isNameChar_of_endsName (hafter c hc)
  have hofList : String.ofList (c :: rest) = name := by rw [← htext, String.ofList_toList]
  simp only [token?, htext, List.cons_append, hletter, if_true, htake, hdrop, hofList, hword]
  rfl

/-- The characters that marks begin with. -/
def markChars : List Char := ['.', '(', ')', '!', '*', '-', '+', '=', '&', '|']

lemma token?_mark {c : Char} {rest after : List Char} {mark : Mark} (hc : c ∈ markChars)
    (hpoint : c = '.' → rest.head?.any Char.isDigit = false)
    (h : mark? (c :: rest) = some (mark, after)) :
    token? letters (c :: rest) = some (.mark mark, after) := by
  have hplain : (markChars.all fun c =>
      c.toNat < 128 && !c.isAlpha && c != '_' && !c.isDigit && c != '"') = true := by
    decide
  obtain ⟨⟨⟨⟨hascii, halpha⟩, hline⟩, hdigit⟩, hquote⟩ := by
    simpa using List.all_eq_true.mp hplain c hc
  have hnumber : (c.isDigit || (c == '.' && rest.head?.any Char.isDigit)) = false := by
    simpa [hdigit] using hpoint
  simp [token?, Letters.not_letter hascii halpha hline, hnumber, hquote, h]

/-- A unary operator, before what makes no other mark of it. -/
lemma mark?_unary (op : UnaryOp) : ∃ mark, (mark ∈ markChars ∧ mark ≠ '.' ∧ mark ≠ '=') ∧
    op.symbol.toList = [mark] ∧ ∀ c rest, c ≠ '=' → (op = .minus ∨ op = .plus → c ≠ mark) →
      mark? (mark :: c :: rest) = some (.unary op, c :: rest) := by
  cases op with
  | not => exact ⟨'!', by decide, by decide, fun c rest hc _ => by simp [mark?, symbols, hc.symm]⟩
  | deref => exact ⟨'*', by decide, by decide, fun c rest hc _ => by simp [mark?, symbols, hc.symm]⟩
  | minus =>
    exact ⟨'-', by decide, by decide, fun c rest hc h => by
      simp [mark?, symbols, hc.symm, (h (.inl rfl)).symm]⟩
  | plus =>
    exact ⟨'+', by decide, by decide, fun c rest hc h => by
      simp [mark?, symbols, hc.symm, (h (.inr rfl)).symm]⟩

lemma token?_text (s : String) (after : List Char) :
    token? letters ((literal s).toList ++ after) = some (.text (encode s), after) := by
  have hletter : letters.isLetter '"' = false :=
    Letters.not_letter (by decide) (by decide) (by decide)
  have htext : (literal s).toList ++ after =
      '"' :: (s.toList.flatMap literalChar ++ '"' :: after) := by
    simp [literal]
  simp [token?, htext, hletter, readInterpreted_literal, -List.flatMap_append]

/-! ### Reading numbers -/

lemma isNumberChar_of_isDigit {c : Char} (h : c.isDigit = true) : isNumberChar c = true := by
  simp [isNumberChar, Char.isAlphanum, h]

lemma isNumberChar_of_isDigits {text : List Char} (h : isDigits text = true) :
    ∀ c ∈ text, isNumberChar c = true := by
  simp only [isDigits, Bool.and_eq_true, List.all_eq_true] at h
  exact fun c hc => isNumberChar_of_isDigit (h.2 c hc)

lemma isNumberChar_of_isExponent {text : List Char} (h : isExponent text = true) :
    ∀ c ∈ text, isNumberChar c = true := by
  cases text with
  | nil => simp
  | cons mark rest =>
    simp only [isExponent, Bool.and_eq_true, Bool.or_eq_true, beq_iff_eq] at h
    obtain ⟨hmark, hdigits⟩ := h
    refine List.forall_mem_cons.mpr ⟨by rcases hmark with rfl | rfl <;> decide, ?_⟩
    unfold unsigned at hdigits
    split at hdigits
    · exact List.forall_mem_cons.mpr ⟨by decide, isNumberChar_of_isDigits hdigits⟩
    · exact List.forall_mem_cons.mpr ⟨by decide, isNumberChar_of_isDigits hdigits⟩
    · exact isNumberChar_of_isDigits hdigits

lemma isNumberChar_of_isPointNumber {text : List Char} (h : isPointNumber text = true) :
    ∀ c ∈ text, isNumberChar c = true := by
  have hrun : ∀ (run : List Char), ∀ c ∈ run.takeWhile Char.isDigit, isNumberChar c = true :=
    fun run c hc => isNumberChar_of_isDigit (List.all_eq_true.mp List.all_takeWhile c hc)
  have happend : ∀ {run : List Char}, (∀ c ∈ run.dropWhile Char.isDigit, isNumberChar c = true) →
      ∀ c ∈ run, isNumberChar c = true := by
    intro run hrest c hc
    rw [← List.takeWhile_append_dropWhile (p := Char.isDigit) (l := run), List.mem_append] at hc
    exact hc.elim (hrun run c) (hrest c)
  refine happend ?_
  simp only [isPointNumber] at h
  split at h
  · next rest hdrop =>
    rw [hdrop]
    exact List.forall_mem_cons.mpr ⟨by decide,
      happend (isNumberChar_of_isExponent (Bool.and_eq_true_iff.mp h).2)⟩
  · exact isNumberChar_of_isExponent (Bool.and_eq_true_iff.mp h).2

/-- A number begins with a digit, perhaps after a point. -/
lemma head_of_isPointNumber {text : List Char} (h : isPointNumber text = true) :
    ∃ c rest, text = c :: rest ∧
      (c.isDigit || (c == '.' && rest.head?.any Char.isDigit)) = true := by
  have hhead : ∀ {run : List Char}, run.takeWhile Char.isDigit ≠ [] →
      run.head?.any Char.isDigit = true := by
    intro run hne
    cases run with
    | nil => exact absurd rfl hne
    | cons c rest =>
      cases hc : c.isDigit with
      | true => simp [hc]
      | false => simp [hc] at hne
  cases text with
  | nil => cases h
  | cons c rest =>
    refine ⟨c, rest, rfl, ?_⟩
    cases hc : c.isDigit with
    | true => rfl
    | false =>
      simp only [isPointNumber, List.takeWhile_cons_of_neg (by simp [hc] : ¬ c.isDigit = true),
        List.dropWhile_cons_of_neg (by simp [hc] : ¬ c.isDigit = true)] at h
      split at h
      · next rest' hcons =>
        cases hcons
        simp only [List.isEmpty_nil, Bool.true_and, Bool.and_eq_true, Bool.not_eq_true',
          List.isEmpty_eq_false_iff] at h
        simpa using hhead h.1
      · simp at h

lemma isPointNumber_of_isDigits {text : List Char} (h : isDigits text = true) :
    isPointNumber text = true := by
  simp only [isDigits, Bool.and_eq_true, List.all_eq_true] at h
  have hend : ∀ c ∈ ([] : List Char).head?, Char.isDigit c = false := by simp
  obtain ⟨htake, hdrop⟩ := span_append h.2 hend
  rw [List.append_nil] at htake hdrop
  simp [isPointNumber, htake, hdrop, isExponent, h.1]

lemma isPointNumber_of_numberValue? {text : List Char} {value : ℚ}
    (h : numberValue? text = some value) : isPointNumber text = true := by
  unfold numberValue? at h
  split at h
  · next hoctal => exact isPointNumber_of_isDigits hoctal.1
  · split at h
    · next hnumber => exact hnumber
    · cases h

lemma token?_number {text after : List Char} {value : ℚ} (h : numberValue? text = some value)
    (hafter : ∀ c ∈ after.head?, c = ' ' ∨ c = ')') :
    token? letters (text ++ after) = some (.number value, after) := by
  have hnumber := isPointNumber_of_numberValue? h
  obtain ⟨c, rest, rfl, hhead⟩ := head_of_isPointNumber hnumber
  have hletter : letters.isLetter c = false := by
    simp only [Bool.or_eq_true, Bool.and_eq_true, beq_iff_eq] at hhead
    rcases hhead with hdigit | ⟨rfl, -⟩
    · exact letters.not_letter_of_isDigit hdigit
    · exact Letters.not_letter (by decide) (by decide) (by decide)
  have hstop : ∀ c ∈ after.head?, isNumberChar c = false := by
    intro c hc
    rcases hafter c hc with rfl | rfl <;> decide
  obtain ⟨htake, hdrop⟩ := span_append
    (List.forall_mem_cons.mp (isNumberChar_of_isPointNumber hnumber)).2 hstop
  have hhead' : (c.isDigit || (c == '.' && (rest ++ after).head?.any Char.isDigit)) = true := by
    cases rest with
    | nil =>
      rw [List.head?_nil, Option.any_none, Bool.and_false, Bool.or_false] at hhead
      rw [hhead, Bool.true_or]
    | cons _ _ => exact hhead
  simp only [token?, List.cons_append, hletter, hhead', htake, hdrop, h]
  rfl

end Laminate.Code
