import Laminate.Proofs.Scanning

/-! Literals in the midst of code.
A scan takes each stretch of code between two literals on its own, so that what it finds does not
hang on the texts that the literals hold, whatever these look like. -/
namespace Laminate.Code

open Laminate.Text

/-! ### Code with literals -/

/-- The ways to write a text as a literal. -/
inductive Quoting where
  | interpreted
  | raw
  deriving Repr, DecidableEq

def Quoting.write : Quoting → String → String
  | interpreted => literal
  | raw => rawLiteral

/-- A fragment of an expression. -/
inductive Fragment where
  /-- Any text in which no literal opens. -/
  | code (text : List Char) (unquoted : ∀ c ∈ text, isLiteralMark c = false)
  | literal (quoting : Quoting) (value : String)

namespace Fragment

def text : Fragment → List Char
  | code text _ => text
  | literal quoting value => (quoting.write value).toList

/-- The fragment with the empty literal in place of a literal. How the empty one is written may
hang on how the other one is. -/
def emptied (quoting : Quoting → Quoting) : Fragment → Fragment
  | code text unquoted => code text unquoted
  | literal old _ => literal (quoting old) ""

end Fragment

/-- The text of an expression that is made of some fragments. -/
def textOf (fragments : List Fragment) : String := String.ofList (fragments.flatMap Fragment.text)

/-- The code in front of the first literal, and the code behind each of the literals. -/
def stretches : List Fragment → List Char × List (List Char)
  | [] => ([], [])
  | .code text _ :: rest => (text ++ (stretches rest).1, (stretches rest).2)
  | .literal _ _ :: rest => ([], (stretches rest).1 :: (stretches rest).2)

lemma stretches_emptied (quoting : Quoting → Quoting) (fragments : List Fragment) :
    stretches (fragments.map (Fragment.emptied quoting)) = stretches fragments := by
  induction fragments with
  | nil => rfl
  | cons fragment rest ih =>
    cases fragment with
    | code text _ => simp only [List.map_cons, Fragment.emptied, stretches, ih]
    | literal old value => simp only [List.map_cons, Fragment.emptied, stretches, ih]

/-! ### The scan of a stretch -/

lemma Quoting.write_eq_cons (quoting : Quoting) (value : String) :
    ∃ mark rest, isLiteralMark mark = true ∧ (quoting.write value).toList = mark :: rest := by
  have hliteral : (literal value).toList = '"' :: (value.toList.flatMap literalChar ++ ['"']) := by
    simp [literal]
  cases quoting with
  | interpreted => exact ⟨'"', _, by decide, hliteral⟩
  | raw =>
    change ∃ mark rest, _ ∧ (rawLiteral value).toList = mark :: rest
    unfold rawLiteral
    split
    · exact ⟨'"', _, by decide, hliteral⟩
    · exact ⟨Char.ofNat 96, _, by decide, String.toList_ofList⟩

lemma Quoting.scans_write (quoting : Quoting) (value : String) :
    Scans (.code false) (quoting.write value).toList [] (.code false) := by
  cases quoting with
  | interpreted => exact Scans.literal (.code false) value
  | raw => exact Scans.rawLiteral (.code false) value

/-- No literal opens with a capital. -/
lemma not_isUpper_of_isLiteralMark {mark : Char} (h : isLiteralMark mark = true) :
    isUpper mark = false := by
  simp only [isLiteralMark, Bool.or_eq_true, beq_iff_eq] at h
  rcases h with rfl | rfl <;> decide

/-- A literal is scanned alike wherever it opens. -/
lemma scanQualifiers_mark {s : ScanState} (hopen : s.IsOpen) {mark : Char}
    (hmark : isLiteralMark mark = true) (rest : List Char) :
    scanQualifiers s (mark :: rest) = scanQualifiers (.literal mark) rest :=
  Scans.opening hopen hmark rest

/-- What a scan finds in code hangs on the code only: a name in front of a literal is not looked
into, just as one at the end of the text. -/
lemma scanQualifiers_code {s : ScanState} (hopen : s.IsOpen) {code : List Char}
    (hcode : ∀ c ∈ code, isLiteralMark c = false) {mark : Char} (hmark : isLiteralMark mark = true)
    (rest : List Char) :
    scanQualifiers s (code ++ mark :: rest) =
      scanQualifiers s code ++ scanQualifiers (.code false) (mark :: rest) := by
  induction code generalizing s with
  | nil =>
    rw [List.nil_append, scanQualifiers_nil, List.nil_append, scanQualifiers_mark hopen hmark,
      scanQualifiers_mark (.code false) hmark]
  | cons c code ih =>
    obtain ⟨hc, hcode⟩ := List.forall_mem_cons.mp hcode
    have hc' : ¬ (c = '"' ∨ c = Char.ofNat 96) := by simpa [isLiteralMark] using hc
    have hnext : (code ++ mark :: rest).head?.any isUpper = code.head?.any isUpper := by
      cases code with
      | nil => simp [not_isUpper_of_isLiteralMark hmark]
      | cons next code => rfl
    cases hopen with
    | code joined =>
      rw [List.cons_append, scanQualifiers, scanQualifiers, if_neg hc', if_neg hc']
      split
      · exact ih (.name _) hcode
      · exact ih (.code _) hcode
    | name reversed =>
      rw [List.cons_append, scanQualifiers, scanQualifiers]
      split
      · exact ih (.name _) hcode
      · simp only [hnext, ih (.code _) hcode, List.append_assoc]

/-- The code in front of what is left goes on with its first stretch. -/
lemma scanQualifiers_fragments (fragments : List Fragment) (front : List Char)
    (hfront : ∀ c ∈ front, isLiteralMark c = false) :
    scanQualifiers (.code false) (front ++ fragments.flatMap Fragment.text) =
      scanQualifiers (.code false) (front ++ (stretches fragments).1) ++
        (stretches fragments).2.flatMap (scanQualifiers (.code false)) := by
  induction fragments generalizing front with
  | nil => simp [stretches]
  | cons fragment rest ih =>
    cases fragment with
    | code text unquoted =>
      have hboth : ∀ c ∈ front ++ text, isLiteralMark c = false :=
        List.forall_mem_append.mpr ⟨hfront, unquoted⟩
      simp only [List.flatMap_cons, Fragment.text, stretches, ← List.append_assoc]
      exact ih _ hboth
    | literal quoting value =>
      obtain ⟨mark, tail, hmark, hwrite⟩ := quoting.write_eq_cons value
      have hbehind : scanQualifiers (.code false)
          ((quoting.write value).toList ++ rest.flatMap Fragment.text) =
            scanQualifiers (.code false) (rest.flatMap Fragment.text) :=
        quoting.scans_write value _
      have hrest := ih [] (List.forall_mem_nil _)
      rw [List.nil_append, List.nil_append] at hrest
      rw [List.flatMap_cons, Fragment.text, hwrite, List.cons_append,
        scanQualifiers_code (.code false) hfront hmark, ← List.cons_append, ← hwrite, hbehind,
        hrest, stretches, List.append_nil, List.flatMap_cons]

/-- The qualifiers of an expression are those of its stretches of code. -/
theorem exprQualifiers_textOf (fragments : List Fragment) :
    exprQualifiers (textOf fragments) =
      ((stretches fragments).1 :: (stretches fragments).2).flatMap
        (scanQualifiers (.code false)) := by
  have hscan := scanQualifiers_fragments fragments [] (List.forall_mem_nil _)
  rw [List.nil_append, List.nil_append] at hscan
  rw [exprQualifiers, textOf, String.toList_ofList, hscan, List.flatMap_cons]

/-- Literals hide what they hold: a scan has the same outcome and collects the same imports where
all literals of an expression are empty. -/
theorem scanExpr_emptied (qualifiers : Qualifiers) (quoting : Quoting → Quoting)
    (fragments : List Fragment) (set : ImportSet) :
    qualifiers.scanExpr (textOf fragments) set =
      qualifiers.scanExpr (textOf (fragments.map (Fragment.emptied quoting))) set := by
  rw [Qualifiers.scanExpr, Qualifiers.scanExpr, exprQualifiers_textOf, exprQualifiers_textOf,
    stretches_emptied]

example : Quoting.interpreted.write "" = "\"\"" ∧
    Quoting.raw.write "" = String.ofList [Char.ofNat 96, Char.ofNat 96] := by decide

end Laminate.Code
