import Laminate.Code.Literal
import Laminate.Text.Number
import Laminate.Proofs.Encoding
import Mathlib.Tactic.SplitIfs

/-! What interpreted literals stand for.
An escape is an octet or a code point; everything else between the quotes stands for itself. -/
namespace Laminate.Code

open Laminate.Text

/-! ### Reading -/

/-- The value of exactly `count` digits of a base after those read so far, and what follows. -/
def takeDigits (base : Nat) : Nat → Nat → List Char → Option (Nat × List Char)
  | 0, value, rest => some (value, rest)
  | _ + 1, _, [] => none
  | count + 1, value, c :: rest =>
    match (hexDigit? c).filter (· < base) with
    | some digit => takeDigits base count (value * base + digit) rest
    | none => none

/-- A number that is one octet. -/
def octet? (n : Nat) : Option (List UInt8) := if n < 256 then some [UInt8.ofNat n] else none

/-- The octets of a code point. -/
def codePoint? (n : Nat) : Option (List UInt8) :=
  if n.isValidChar then some (String.utf8EncodeChar (Char.ofNat n)) else none

/-- A number of exactly `count` digits as the octets that it stands for. -/
def readNumber (base count : Nat) (octets? : Nat → Option (List UInt8)) (text : List Char) :
    Option (List UInt8 × List Char) :=
  (takeDigits base count 0 text).bind fun (n, rest) => (octets? n).map (·, rest)

/-- Escapes of one letter. -/
def letterEscapes : List (Char × UInt8) := [
  ('a', 7), ('b', 8), ('t', 9), ('n', 10), ('v', 11), ('f', 12), ('r', 13), ('"', 34), ('\\', 92)]

/-- What the text after a backslash begins with: the octets it stands for, and the rest. -/
def readEscape : List Char → Option (List UInt8 × List Char)
  | [] => none
  | c :: rest =>
    match letterEscapes.lookup c with
    | some octet => some ([octet], rest)
    | none =>
      if c = 'x' then readNumber 16 2 octet? rest
      else if c = 'u' then readNumber 16 4 codePoint? rest
      else if c = 'U' then readNumber 16 8 codePoint? rest
      else readNumber 8 3 octet? (c :: rest)

lemma takeDigits_length {base count value n : Nat} {text rest : List Char}
    (h : takeDigits base count value text = some (n, rest)) :
    text.length = rest.length + count := by
  induction count generalizing value text with
  | zero =>
    cases h
    rfl
  | succ count ih =>
    cases text with
    | nil => cases h
    | cons c text =>
      simp only [takeDigits] at h
      split at h
      · rw [List.length_cons, ih h, Nat.add_assoc]
      · cases h

lemma readNumber_length {base count : Nat} {octets? : Nat → Option (List UInt8)}
    {text rest : List Char} {octets : List UInt8}
    (h : readNumber base count octets? text = some (octets, rest)) :
    text.length = rest.length + count := by
  obtain ⟨⟨n, after⟩, htake, h⟩ := Option.bind_eq_some_iff.mp h
  obtain ⟨_, -, h⟩ := Option.map_eq_some_iff.mp h
  cases h
  exact takeDigits_length htake

lemma readEscape_length {text rest : List Char} {octets : List UInt8}
    (h : readEscape text = some (octets, rest)) : rest.length < text.length := by
  cases text with
  | nil => cases h
  | cons c text =>
    simp only [readEscape] at h
    rw [List.length_cons]
    split at h
    · cases h
      omega
    · have hlength : text.length + 1 = rest.length + 3 ∨ text.length = rest.length + 2 ∨
          text.length = rest.length + 4 ∨ text.length = rest.length + 8 := by
        split_ifs at h
        · exact .inr (.inl (readNumber_length h))
        · exact .inr (.inr (.inl (readNumber_length h)))
        · exact .inr (.inr (.inr (readNumber_length h)))
        · exact .inl (readNumber_length h)
      omega

/-- The text after an opening quote: the octets that the literal stands for, and what follows its
closing quote. -/
def readInterpreted : List Char → Option (List UInt8 × List Char)
  | [] => none
  | c :: rest =>
    if c = '"' then some ([], rest)
    else if c = '\n' then none
    else if c = '\\' then
      match h : readEscape rest with
      | none => none
      | some (octets, after) =>
        have := readEscape_length h
        (readInterpreted after).map fun (more, left) => (octets ++ more, left)
    else (readInterpreted rest).map fun (more, left) => (String.utf8EncodeChar c ++ more, left)
termination_by text => text.length
decreasing_by all_goals simp; try omega

/-! ### Text between quotes -/

/-- A character that stands for itself between quotes. -/
def isVerbatim (c : Char) : Bool := c != '"' && c != '\\' && c != '\n'

lemma readInterpreted_close (rest : List Char) :
    readInterpreted ('"' :: rest) = some ([], rest) := by
  rw [readInterpreted, if_pos rfl]

lemma readInterpreted_verbatim {c : Char} (h : isVerbatim c = true) (text : List Char) :
    readInterpreted (c :: text) =
      (readInterpreted text).map fun (more, left) => (String.utf8EncodeChar c ++ more, left) := by
  simp only [isVerbatim, Bool.and_eq_true, bne_iff_ne] at h
  rw [readInterpreted, if_neg h.1.1, if_neg h.2, if_neg h.1.2]

lemma readInterpreted_escape {text after : List Char} {octets : List UInt8}
    (h : readEscape text = some (octets, after)) : readInterpreted ('\\' :: text) =
      (readInterpreted after).map fun (more, left) => (octets ++ more, left) := by
  rw [readInterpreted, if_neg (by decide), if_neg (by decide), if_pos rfl]
  split
  · next hnone => rw [hnone] at h; cases h
  · next hsome => rw [hsome] at h; cases h; rfl

/-- Text that stands for itself. -/
lemma readInterpreted_verbatims {text : List Char} (h : ∀ c ∈ text, isVerbatim c = true)
    (rest : List Char) : readInterpreted (text ++ '"' :: rest) =
      some (text.flatMap String.utf8EncodeChar, rest) := by
  induction text with
  | nil => exact readInterpreted_close rest
  | cons c text ih =>
    rw [List.cons_append, readInterpreted_verbatim (h c List.mem_cons_self),
      ih fun c hc => h c (List.mem_cons_of_mem _ hc)]
    rfl

/-! ### The literals that are written -/

/-- Digits are read alike whatever follows them. -/
lemma takeDigits_append {base count value n : Nat} {digits : List Char}
    (h : takeDigits base count value digits = some (n, [])) (rest : List Char) :
    takeDigits base count value (digits ++ rest) = some (n, rest) := by
  induction count generalizing value digits with
  | zero =>
    cases h
    rfl
  | succ count ih =>
    cases digits with
    | nil => cases h
    | cons c digits =>
      simp only [takeDigits, List.cons_append] at h ⊢
      split at h
      · exact ih h
      · cases h

lemma takeDigits_hexPadded {n : Nat} (h : n < 160) :
    takeDigits 16 2 0 (hexPadded 2 n) = some (n, []) ∧
      takeDigits 16 4 0 (hexPadded 4 n) = some (n, []) := by
  revert n
  decide +kernel

lemma utf8EncodeChar_of_lt {c : Char} (h : c.toNat < 128) :
    String.utf8EncodeChar c = [UInt8.ofNat c.toNat] := by
  have hle : c.val.toNat ≤ 127 := Nat.le_of_lt_succ h
  simp only [String.utf8EncodeChar, if_pos hle]
  rfl

lemma readNumber_append {base count n : Nat} {digits : List Char}
    (octets? : Nat → Option (List UInt8)) (h : takeDigits base count 0 digits = some (n, []))
    (rest : List Char) :
    readNumber base count octets? (digits ++ rest) = (octets? n).map (·, rest) := by
  rw [readNumber, takeDigits_append h]
  rfl

/-- What stands behind the backslash of an escape, and the character that the escape stands for. -/
inductive Escape : Char → List Char → Prop
  | letter {c name : Char}
    (named : (name, c) ∈ [('\\', '\\'), ('"', '"'), ('n', '\n'), ('r', '\r'), ('t', '\t')]) :
    Escape c [name]
  /-- One octet makes up a character where its high bit is not set. -/
  | octet {c : Char} {digits : List Char}
    (number : takeDigits 16 2 0 digits = some (c.toNat, [])) (low : c.toNat < 128) :
    Escape c ('x' :: digits)
  | codePoint {c : Char} {digits : List Char}
    (number : takeDigits 16 4 0 digits = some (c.toNat, [])) : Escape c ('u' :: digits)

/-- A text, and a way to write it between double quotes. -/
inductive LiteralBody : List Char → List Char → Prop
  | nil : LiteralBody [] []
  | verbatim {c : Char} {text body : List Char} (printable : isControl c = false)
    (noQuote : c ≠ '"') (noEscape : c ≠ '\\') (more : LiteralBody text body) :
    LiteralBody (c :: text) (c :: body)
  | escape {c : Char} {written text body : List Char} (first : Escape c written)
    (more : LiteralBody text body) : LiteralBody (c :: text) ('\\' :: (written ++ body))

/-- An escape is read as the octets of its character. -/
lemma Escape.read {c : Char} {written : List Char} (h : Escape c written) (rest : List Char) :
    readEscape (written ++ rest) = some (String.utf8EncodeChar c, rest) := by
  cases h with
  | letter named =>
    simp only [List.mem_cons, Prod.mk.injEq, List.not_mem_nil, or_false] at named
    rcases named with ⟨rfl, rfl⟩ | ⟨rfl, rfl⟩ | ⟨rfl, rfl⟩ | ⟨rfl, rfl⟩ | ⟨rfl, rfl⟩ <;> rfl
  | octet number low =>
    have hoctet : octet? c.toNat = some (String.utf8EncodeChar c) := by
      rw [octet?, if_pos (Nat.lt_trans low (by decide)), utf8EncodeChar_of_lt low]
    have hread := readNumber_append octet? number rest
    rw [hoctet] at hread
    exact hread
  | codePoint number =>
    have hpoint : codePoint? c.toNat = some (String.utf8EncodeChar c) := by
      have hvalid : c.toNat.isValidChar := c.valid
      rw [codePoint?, if_pos hvalid, Char.ofNat_toNat]
    have hread := readNumber_append codePoint? number rest
    rw [hpoint] at hread
    exact hread

/-- However a text is written, the octets of its characters are read. -/
lemma LiteralBody.read {text body : List Char} (h : LiteralBody text body) (rest : List Char) :
    readInterpreted (body ++ '"' :: rest) = some (text.flatMap String.utf8EncodeChar, rest) := by
  induction h with
  | nil => exact readInterpreted_close rest
  | @verbatim c _ _ printable noQuote noEscape _ ih =>
    have hline : c ≠ '\n' := by
      rintro rfl
      revert printable
      decide
    rw [List.cons_append, readInterpreted_verbatim (by simp [isVerbatim, noQuote, noEscape, hline]),
      ih]
    rfl
  | escape first _ ih =>
    rw [List.cons_append, List.append_assoc, readInterpreted_escape (first.read _), ih]
    rfl

/-- Every character is written as itself or as an escape. -/
lemma literalChar_cases (c : Char) :
    (∃ written, literalChar c = '\\' :: written ∧ Escape c written) ∨
      literalChar c = [c] ∧ isControl c = false ∧ c ≠ '"' ∧ c ≠ '\\' := by
  unfold literalChar
  by_cases hslash : c = '\\'
  · exact .inl ⟨_, if_pos hslash, .letter (by simp [hslash])⟩
  rw [if_neg hslash]
  by_cases hquote : c = '"'
  · exact .inl ⟨_, if_pos hquote, .letter (by simp [hquote])⟩
  rw [if_neg hquote]
  by_cases hline : c = '\n'
  · exact .inl ⟨_, if_pos hline, .letter (by simp [hline])⟩
  rw [if_neg hline]
  by_cases hreturn : c = '\r'
  · exact .inl ⟨_, if_pos hreturn, .letter (by simp [hreturn])⟩
  rw [if_neg hreturn]
  by_cases htab : c = '\t'
  · exact .inl ⟨_, if_pos htab, .letter (by simp [htab])⟩
  rw [if_neg htab]
  by_cases hcontrol : isControl c = true
  · rw [if_pos hcontrol]
    by_cases hlow : c.toNat < 128
    · rw [if_pos hlow]
      exact .inl ⟨_, rfl, .octet (takeDigits_hexPadded (Nat.lt_trans hlow (by decide))).1 hlow⟩
    · rw [if_neg hlow]
      have hbound : c.toNat < 160 := by
        simp only [isControl, Bool.or_eq_true, Bool.and_eq_true, decide_eq_true_eq] at hcontrol
        omega
      exact .inl ⟨_, rfl, .codePoint (takeDigits_hexPadded hbound).2⟩
  · exact .inr ⟨if_neg hcontrol, Bool.eq_false_iff.mpr hcontrol, hquote, hslash⟩

lemma literalBody_flatMap (text : List Char) : LiteralBody text (text.flatMap literalChar) := by
  induction text with
  | nil => exact .nil
  | cons c text ih =>
    rw [List.flatMap_cons]
    obtain ⟨written, hchar, hescape⟩ | ⟨hchar, hprintable, hquote, hslash⟩ := literalChar_cases c
    · rw [hchar]
      exact .escape hescape ih
    · rw [hchar]
      exact .verbatim hprintable hquote hslash ih

/-- A literal is read as the octets of its text. -/
theorem readInterpreted_literal (s : String) (rest : List Char) :
    readInterpreted (s.toList.flatMap literalChar ++ '"' :: rest) = some (encode s, rest) := by
  rw [encode_eq]
  exact (literalBody_flatMap s.toList).read rest

/-! ### Faithful literals -/

lemma isControl_of_hexDigit {c : Char} (h : (hexDigit? c).isSome) : isControl c = false := by
  have hle : ∀ {x y : Char}, x ≤ y ↔ x.toNat ≤ y.toNat := Char.le_def.trans UInt32.le_iff_toNat_le
  have hbounds : 48 ≤ c.toNat ∧ c.toNat ≤ 102 := by
    unfold hexDigit? at h
    split_ifs at h with hdigit hlow hhigh
    · have hrange : 48 ≤ c.toNat ∧ c.toNat ≤ 57 := by
        simpa [Char.isDigit, UInt32.le_iff_toNat_le] using hdigit
      omega
    · have hrange : 97 ≤ c.toNat ∧ c.toNat ≤ 102 := by simpa [hle] using hlow
      omega
    · have hrange : 65 ≤ c.toNat ∧ c.toNat ≤ 70 := by simpa [hle] using hhigh
      omega
    · cases h
  simp only [isControl, Bool.or_eq_false_iff, Bool.and_eq_false_iff, decide_eq_false_iff_not]
  omega

lemma isControl_of_takeDigits {base count value n : Nat} {digits : List Char}
    (h : takeDigits base count value digits = some (n, [])) :
    ∀ c ∈ digits, isControl c = false := by
  induction count generalizing value digits with
  | zero =>
    cases h
    nofun
  | succ count ih =>
    cases digits with
    | nil => nofun
    | cons c digits =>
      simp only [takeDigits] at h
      split at h
      · next digit hdigit =>
        obtain ⟨hc, -⟩ := Option.filter_eq_some_iff.mp hdigit
        exact List.forall_mem_cons.mpr ⟨isControl_of_hexDigit (by simp [hc]), ih h⟩
      · cases h

lemma LiteralBody.isControl {text body : List Char} (h : LiteralBody text body) :
    ∀ c ∈ body, isControl c = false := by
  induction h with
  | nil => nofun
  | verbatim printable _ _ _ ih => exact List.forall_mem_cons.mpr ⟨printable, ih⟩
  | @escape c written text body first _ ih =>
    have hwritten : ∀ c ∈ written, Text.isControl c = false := by
      cases first with
      | letter named =>
        simp only [List.mem_cons, Prod.mk.injEq, List.not_mem_nil, or_false] at named
        rcases named with ⟨rfl, -⟩ | ⟨rfl, -⟩ | ⟨rfl, -⟩ | ⟨rfl, -⟩ | ⟨rfl, -⟩ <;>
          exact List.forall_mem_singleton.mpr rfl
      | octet number _ =>
        exact List.forall_mem_cons.mpr ⟨by decide, isControl_of_takeDigits number⟩
      | codePoint number =>
        exact List.forall_mem_cons.mpr ⟨by decide, isControl_of_takeDigits number⟩
    exact List.forall_mem_cons.mpr ⟨by decide, List.forall_mem_append.mpr ⟨hwritten, ih⟩⟩

/-- What is written stands for one text. -/
lemma LiteralBody.unique {text text' body : List Char} (h : LiteralBody text body)
    (h' : LiteralBody text' body) : text = text' := by
  have hread := (h.read []).symm.trans (h'.read [])
  have hoctets : text.flatMap String.utf8EncodeChar = text'.flatMap String.utf8EncodeChar :=
    congrArg Prod.fst (Option.some.inj hread)
  have hchars := congrArg readOctets hoctets
  rw [readOctets_encodeChars, readOctets_encodeChars] at hchars
  exact (List.map_inj_right fun _ _ => Option.some.inj).mp hchars

/-- A literal is its text between double quotes: no control character stands there, and no quote or
backslash but in an escape. It is read as just this text, so that literals of different texts
differ. -/
theorem literal_faithful :
    (∀ s, ∃ body, (literal s).toList = '"' :: (body ++ ['"']) ∧
      (∀ c ∈ body, isControl c = false) ∧ LiteralBody s.toList body ∧
      readInterpreted (body ++ ['"']) = some (encode s, []) ∧ decode? (encode s) = some s) ∧
    Function.Injective literal := by
  have hliteral : ∀ s, (literal s).toList = '"' :: (s.toList.flatMap literalChar ++ ['"']) :=
    fun s => by simp [literal]
  constructor
  · intro s
    have hbody := literalBody_flatMap s.toList
    exact ⟨_, hliteral s, hbody.isControl, hbody, readInterpreted_literal s [], decode?_encode s⟩
  · intro s t h
    have hbodies : s.toList.flatMap literalChar = t.toList.flatMap literalChar := by
      have hlists := congrArg String.toList h
      rw [hliteral, hliteral] at hlists
      exact List.append_cancel_right (List.cons.inj hlists).2
    exact String.toList_inj.mp
      ((literalBody_flatMap s.toList).unique (hbodies ▸ literalBody_flatMap t.toList))

end Laminate.Code
