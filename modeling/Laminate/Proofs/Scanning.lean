import Laminate.Code.Expr
import Laminate.Code.Import
import Mathlib.Tactic.Lemma

/-! What scans of generated text find.
A text in the midst of others is scanned on its own: it has its names, and leaves the scan in a
state that says all there is to say to what follows. -/
namespace Laminate.Code

open Laminate.Text

/-! ### Characters -/

/-- A character that opens a literal. -/
def isLiteralMark (c : Char) : Bool := c == '"' || c == Char.ofNat 96

/-- May open a name. -/
def isIdentStart (c : Char) : Bool := isAlphabetic c || c == '_'

lemma isIdentChar_of_isIdentStart {c : Char} (h : isIdentStart c = true) :
    isIdentChar c = true := by
  simp only [isIdentStart, Bool.or_eq_true, isIdentChar, isAlphanumeric] at *
  rcases h with h | h
  · exact .inl (.inl h)
  · exact .inr h

lemma isLiteralMark_of_isIdentChar {c : Char} (h : isIdentChar c = true) :
    isLiteralMark c = false := by
  simp only [isLiteralMark, Bool.or_eq_false_iff, beq_eq_false_iff_ne]
  constructor <;> rintro rfl <;> revert h <;> decide

lemma ne_dot_of_isIdentChar {c : Char} (h : isIdentChar c = true) : c ≠ '.' := by
  rintro rfl
  revert h
  decide

/-! ### Segments of expressions -/

@[simp] lemma scanQualifiers_nil (s : ScanState) : scanQualifiers s [] = [] := by cases s <;> rfl

/-- Whatever follows, a text that is scanned from one state has some names of its own and leaves
the scan in another state. -/
def Scans (s : ScanState) (text : List Char) (found : List String) (s' : ScanState) : Prop :=
  ∀ rest, scanQualifiers s (text ++ rest) = found ++ scanQualifiers s' rest

namespace Scans

variable {s s' s'' : ScanState} {a b : List Char} {found found' : List String}

lemma nil (s : ScanState) : Scans s [] [] s := fun _ => rfl

lemma append (h : Scans s a found s') (h' : Scans s' b found' s'') :
    Scans s (a ++ b) (found ++ found') s'' := by
  intro rest
  rw [List.append_assoc, h, h', List.append_assoc]

/-- Texts without names, one after the other. -/
lemma append_nil (h : Scans s a found s') (h' : Scans s' b [] s'') :
    Scans s (a ++ b) found s'' := by
  simpa using h.append h'

/-- A character that a name does not start at. -/
lemma code {c : Char} (joined : Bool) (hmark : isLiteralMark c = false)
    (h : isIdentStart c = false ∨ joined = true) :
    Scans (.code joined) [c] [] (.code (isIdentChar c || c == '.')) := by
  intro rest
  simp only [isLiteralMark, Bool.or_eq_false_iff, beq_eq_false_iff_ne] at hmark
  have hstart : ((isAlphabetic c || c == '_') && !joined) = false := by
    rcases h with h | h
    · rw [show (isAlphabetic c || c == '_') = false from h, Bool.false_and]
    · rw [h, Bool.not_true, Bool.and_false]
  simp [scanQualifiers, hmark.1, hmark.2, hstart]

/-- Characters of a name after a character that a name cannot follow. -/
lemma joined {name : List Char} (h : ∀ c ∈ name, isIdentChar c = true) :
    Scans (.code true) name [] (.code true) := by
  induction name with
  | nil => exact nil _
  | cons c rest ih =>
    have hc := h c List.mem_cons_self
    have hfirst := code true (isLiteralMark_of_isIdentChar hc) (.inr rfl)
    rw [hc, Bool.true_or] at hfirst
    exact hfirst.append_nil (ih fun c hc => h c (List.mem_cons_of_mem _ hc))

/-- More characters of a name. -/
lemma more {name reversed : List Char} (h : ∀ c ∈ name, isIdentChar c = true) :
    Scans (.name reversed) name [] (.name (name.reverse ++ reversed)) := by
  induction name generalizing reversed with
  | nil => exact nil _
  | cons c rest ih =>
    intro text
    have hc := h c List.mem_cons_self
    rw [List.cons_append, scanQualifiers, if_pos hc,
      ih (fun c hc => h c (List.mem_cons_of_mem _ hc))]
    simp

/-- A name, which is kept to see what follows it. -/
lemma name {c : Char} {name : List Char} (hc : isIdentStart c = true)
    (h : ∀ c ∈ name, isIdentChar c = true) :
    Scans (.code false) (c :: name) [] (.name (c :: name).reverse) := by
  intro rest
  have hmark := isLiteralMark_of_isIdentChar (isIdentChar_of_isIdentStart hc)
  simp only [isLiteralMark, Bool.or_eq_false_iff, beq_eq_false_iff_ne] at hmark
  have hstart : ((isAlphabetic c || c == '_') && !false) = true := by
    rw [show (isAlphabetic c || c == '_') = true from hc]
    rfl
  rw [List.cons_append, scanQualifiers, if_neg (by simp [hmark.1, hmark.2]), if_pos hstart,
    more h]
  simp

/-- A dot and a name after a name: the first one is found where the second one is exported. -/
lemma dot {c : Char} {name : List Char} (reversed : List Char)
    (h : ∀ x ∈ c :: name, isIdentChar x = true) :
    Scans (.name reversed) ('.' :: c :: name)
      (if isUpper c then [String.ofList reversed.reverse] else []) (.code true) := by
  intro rest
  have hdot : isIdentChar '.' = false := by decide
  rw [List.cons_append, scanQualifiers, if_neg (by simp [hdot])]
  have hrest := joined h rest
  simp only [List.cons_append] at hrest
  simp [hrest]

end Scans

/-- A state between names or within one. -/
inductive ScanState.IsOpen : ScanState → Prop
  | code (joined : Bool) : IsOpen (.code joined)
  | name (reversed : List Char) : IsOpen (.name reversed)

/-- A character that ends every name, but does not look into a package. -/
def isBreak (c : Char) : Bool := !isIdentChar c && !isLiteralMark c && c != '.'

namespace Scans

variable {s : ScanState}

lemma ofBreak {c : Char} (hopen : s.IsOpen) (h : isBreak c = true) :
    Scans s [c] [] (.code false) := by
  simp only [isBreak, Bool.and_eq_true, Bool.not_eq_true'] at h
  obtain ⟨⟨hident, hmark⟩, hdot⟩ := h
  replace hdot : (c == '.') = false := by simpa using hdot
  cases hopen with
  | code joined =>
    have hstart : isIdentStart c = false := by
      rw [Bool.eq_false_iff]
      intro hstart
      rw [isIdentChar_of_isIdentStart hstart] at hident
      cases hident
    simpa [hident, hdot] using code joined hmark (.inl hstart)
  | name reversed =>
    intro rest
    simp only [isLiteralMark, Bool.or_eq_false_iff, beq_eq_false_iff_ne] at hmark
    have hnone : ¬ (c = '.' ∧ rest.head?.any isUpper = true) := by
      rintro ⟨rfl, -⟩
      cases hdot
    simp [scanQualifiers, hident, hdot, hmark.1, hmark.2, hnone]

/-- Several characters between names. -/
lemma breaks {text : List Char} (hopen : s.IsOpen) (h : text.all isBreak = true)
    (hne : text ≠ []) : Scans s text [] (.code false) := by
  induction text generalizing s with
  | nil => exact absurd rfl hne
  | cons c rest ih =>
    rw [List.all_cons, Bool.and_eq_true] at h
    have hfirst := ofBreak hopen h.1
    cases rest with
    | nil => exact hfirst
    | cons c' rest => exact hfirst.append_nil (ih (.code false) h.2 (by simp))

end Scans

/-! ### Literals -/

namespace Scans

/-- A character within a literal. -/
lemma inside {quote c : Char} (hquote : c ≠ quote) (h : c = '\\' → quote ≠ '"') :
    Scans (.literal quote) [c] [] (.literal quote) := by
  intro rest
  have hescape : ¬ (c = '\\' ∧ quote = '"') := fun h' => h h'.1 h'.2
  rw [List.singleton_append, List.nil_append, scanQualifiers.eq_def]
  simp [hquote, hescape]

/-- Characters within a literal, none of which closes or escapes. -/
lemma insides {quote : Char} {text : List Char}
    (h : ∀ c ∈ text, c ≠ quote ∧ (c = '\\' → quote ≠ '"')) :
    Scans (.literal quote) text [] (.literal quote) := by
  induction text with
  | nil => exact nil _
  | cons c rest ih =>
    obtain ⟨hquote, hescape⟩ := h c List.mem_cons_self
    exact (inside hquote hescape).append_nil (ih fun c hc => h c (List.mem_cons_of_mem _ hc))

/-- An escape within an interpreted literal. -/
lemma escape (c : Char) : Scans (.literal '"') ['\\', c] [] (.literal '"') := by
  intro rest
  simp [scanQualifiers]

end Scans

/-- No escape of a control character ends the literal. -/
lemma hexDigits_ne {n : Nat} (h : n < 160) : ∀ c ∈ hexDigits n, c ≠ '"' ∧ c ≠ '\\' := by
  have hall : (List.range 160).all (fun n => (hexDigits n).all fun c => c != '"' && c != '\\') =
      true := by
    decide
  intro c hc
  simpa using List.all_eq_true.mp (List.all_eq_true.mp hall n (List.mem_range.mpr h)) c hc

lemma hexPadded_plain {width n : Nat} (h : n < 160) :
    ∀ c ∈ hexPadded width n, c ≠ '"' ∧ (c = '\\' → '"' ≠ '"') := by
  intro c hc
  have hne : c ≠ '"' ∧ c ≠ '\\' := by
    rcases List.mem_append.mp hc with hc | hc
    · rw [(List.mem_replicate.mp hc).2]
      decide
    · exact hexDigits_ne h c hc
  exact ⟨hne.1, fun hescape => absurd hescape hne.2⟩

lemma lt_of_isControl {c : Char} (h : isControl c = true) : c.toNat < 160 := by
  simp only [isControl, Bool.or_eq_true, Bool.and_eq_true, decide_eq_true_eq] at h
  omega

namespace Scans

/-- Whatever a character is written as in a literal, the literal goes on after it. -/
lemma literalChar (c : Char) : Scans (.literal '"') (literalChar c) [] (.literal '"') := by
  unfold Code.literalChar
  split
  · exact escape _
  split
  · exact escape _
  split
  · exact escape _
  split
  · exact escape _
  split
  · exact escape _
  next hescape hquote _ _ _ =>
  split
  · next hcontrol =>
    have hlt := lt_of_isControl hcontrol
    split
    · exact (escape 'x').append_nil (insides (hexPadded_plain hlt))
    · exact (escape 'u').append_nil (insides (hexPadded_plain hlt))
  · exact inside hquote fun h => absurd h hescape

lemma opening {s : ScanState} (hopen : s.IsOpen) {quote : Char}
    (hquote : isLiteralMark quote = true) : Scans s [quote] [] (.literal quote) := by
  intro rest
  have hident : isIdentChar quote = false := by
    rw [Bool.eq_false_iff]
    intro hident
    rw [isLiteralMark_of_isIdentChar hident] at hquote
    cases hquote
  simp only [isLiteralMark, Bool.or_eq_true, beq_iff_eq] at hquote
  have hdot : ¬ (quote = '.' ∧ rest.head?.any isUpper = true) := by
    rintro ⟨rfl, -⟩
    revert hquote
    decide
  cases hopen with
  | code joined => simp [scanQualifiers, hquote]
  | name reversed => simp [scanQualifiers, hquote, hident, hdot]

lemma closing {quote : Char} (hquote : quote ≠ '\\') :
    Scans (.literal quote) [quote] [] (.code false) := by
  intro rest
  rw [List.singleton_append, List.nil_append, scanQualifiers.eq_def]
  simp [hquote]

/-- An interpreted literal has no names. -/
lemma literal {s : ScanState} (hopen : s.IsOpen) (value : String) :
    Scans s (literal value).toList [] (.code false) := by
  have hcontents : Scans (.literal '"') (value.toList.flatMap Code.literalChar) []
      (.literal '"') := by
    induction value.toList with
    | nil => exact nil _
    | cons c rest ih => exact (literalChar c).append_nil ih
  rw [Code.literal, String.toList_ofList]
  exact ((opening hopen (by decide)).append_nil hcontents).append_nil (closing (by decide))

/-- A raw literal has no names. -/
lemma rawLiteral {s : ScanState} (hopen : s.IsOpen) (value : String) :
    Scans s (rawLiteral value).toList [] (.code false) := by
  unfold Code.rawLiteral
  split
  · exact literal hopen value
  · next hnone =>
    have hcontents :
        Scans (.literal (Char.ofNat 96)) value.toList [] (.literal (Char.ofNat 96)) := by
      refine insides fun c hc => ⟨?_, fun _ => by decide⟩
      rintro rfl
      exact hnone (List.contains_iff_mem.mpr hc)
    rw [String.toList_ofList]
    exact ((opening hopen (by decide)).append_nil hcontents).append_nil (closing (by decide))

end Scans

/-! ### Names -/

/-- A letter or an underscore, then letters, digits and underscores. -/
def isIdentifier (name : String) : Bool :=
  match name.toList with
  | [] => false
  | c :: rest => isIdentStart c && rest.all isIdentChar

def startsUpper (name : String) : Bool := name.toList.head?.any isUpper

lemma isIdentifier_iff {name : String} :
    isIdentifier name = true ↔
      ∃ c rest, name.toList = c :: rest ∧ isIdentStart c = true ∧
        ∀ x ∈ c :: rest, isIdentChar x = true := by
  unfold isIdentifier
  cases hname : name.toList with
  | nil => simp
  | cons c rest =>
    simp only [Bool.and_eq_true, List.all_eq_true, List.cons.injEq,
      List.forall_mem_cons]
    constructor
    · rintro ⟨hc, hrest⟩
      exact ⟨c, rest, ⟨rfl, rfl⟩, hc, isIdentChar_of_isIdentStart hc, hrest⟩
    · rintro ⟨c, rest, ⟨rfl, rfl⟩, hc, -, hrest⟩
      exact ⟨hc, hrest⟩

/-- Letters, digits and underscores, in whatever order. -/
def isNamePart (name : String) : Bool := name.toList.all isIdentChar

lemma isNamePart_of_isIdentifier {name : String} (h : isIdentifier name = true) :
    isNamePart name = true := by
  obtain ⟨c, rest, hname, -, hall⟩ := isIdentifier_iff.mp h
  rw [isNamePart, hname, List.all_eq_true]
  exact hall

namespace Scans

variable {name : String}

lemma identifier (h : isIdentifier name = true) :
    Scans (.code false) name.toList [] (.name name.toList.reverse) := by
  obtain ⟨c, rest, hname, hc, hall⟩ := isIdentifier_iff.mp h
  rw [hname]
  exact Scans.name hc fun x hx => hall x (List.mem_cons_of_mem _ hx)

variable (h : isNamePart name = true)

include h

/-- What opens like a name is kept as one. -/
lemma namePart :
    ∃ s, (s = .name name.toList.reverse ∨ ∃ joined, s = .code joined) ∧
      Scans (.code false) name.toList [] s := by
  rw [isNamePart, List.all_eq_true] at h
  cases hname : name.toList with
  | nil => exact ⟨_, .inr ⟨false, rfl⟩, nil _⟩
  | cons c rest =>
    rw [hname] at h
    have hc := h c List.mem_cons_self
    have hrest := fun x hx => h x (List.mem_cons_of_mem c hx)
    cases hstart : isIdentStart c with
    | true => exact ⟨_, .inl rfl, Scans.name hstart hrest⟩
    | false =>
      have hfirst := code false (isLiteralMark_of_isIdentChar hc) (.inl hstart)
      rw [hc, Bool.true_or] at hfirst
      exact ⟨_, .inr ⟨true, rfl⟩, hfirst.append_nil (joined hrest)⟩

lemma afterName (hupper : startsUpper name = true) (owner : String) :
    Scans (.name owner.toList.reverse) ("." ++ name).toList [owner] (.code true) := by
  rw [isNamePart, List.all_eq_true] at h
  rw [String.toList_append]
  unfold startsUpper at hupper
  cases hname : name.toList with
  | nil => simp [hname] at hupper
  | cons c rest =>
    have hc : isUpper c = true := by simpa [hname] using hupper
    have hdot := dot owner.toList.reverse (hname ▸ h)
    rwa [if_pos hc, List.reverse_reverse, String.ofList_toList] at hdot

lemma afterCode (joined : Bool) :
    Scans (.code joined) ("." ++ name).toList [] (.code true) := by
  rw [isNamePart, List.all_eq_true] at h
  have hdot : Scans (.code joined) ['.'] [] (.code true) :=
    code (c := '.') joined (by decide) (.inl (by decide))
  rw [String.toList_append]
  exact hdot.append_nil (Scans.joined h)

end Scans

end Laminate.Code
