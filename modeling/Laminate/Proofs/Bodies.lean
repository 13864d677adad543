import Laminate.Proofs.Contents
import Laminate.Proofs.Lexing

/-! Declarations as text.
Where the parts of a declaration close what they open, its types and its expressions stand in code,
each after a blank. -/
namespace Laminate.Code

open Laminate.Text

/-! ### Closed texts -/

/-- A text that is read from code to code. -/
def Closes (text : List Char) : Prop := lex .code text = .code

lemma isClosed_iff {text : String} : isClosed text = true ↔ Closes text.toList := beq_iff_eq

lemma closes_nil : Closes [] := rfl

lemma Closes.append {a b : List Char} (ha : Closes a) (hb : Closes b) : Closes (a ++ b) := by
  rw [Closes, lex_append, ha, hb]

lemma Closes.flatMap {α : Type} {f : α → List Char} {xs : List α} (h : ∀ x ∈ xs, Closes (f x)) :
    Closes (xs.flatMap f) := by
  induction xs with
  | nil => exact closes_nil
  | cons x xs ih =>
    rw [List.forall_mem_cons] at h
    exact h.1.append (ih h.2)

lemma closes_replicate {c : Char} (h : isLexMark c = false) (n : ℕ) :
    Closes (List.replicate n c) :=
  lex_code fun _ hd => (List.eq_of_mem_replicate hd).symm ▸ h

lemma isClosed_append {a b : String} (ha : isClosed a = true) (hb : isClosed b = true) :
    isClosed (a ++ b) = true := by
  rw [isClosed_iff, String.toList_append]
  exact (isClosed_iff.mp ha).append (isClosed_iff.mp hb)

lemma isClosed_of_isPlain {text : String} (h : isPlain text = true) : isClosed text = true :=
  isClosed_iff.mpr (lex_code (isPlain_iff.mp h))

lemma isClosed_of_isTidy {text : String} (h : isTidy text = true) :
    isClosed text = true :=
  isClosed_iff.mpr (lex_of_isTidyFrom h)

lemma isClosed_intercalate {separator : String} (hseparator : isClosed separator = true)
    {texts : List String} (h : ∀ text ∈ texts, isClosed text = true) :
    isClosed (separator.intercalate texts) = true := by
  induction texts with
  | nil => rfl
  | cons first rest ih =>
    rw [List.forall_mem_cons] at h
    cases rest with
    | nil => simpa using h.1
    | cons second rest =>
      rw [String.intercalate_cons_cons]
      exact isClosed_append (isClosed_append h.1 hseparator) (ih h.2)

/-! ### Embedded texts -/

/-- A text stands in another one, after a blank that is code. -/
def Embeds (body text : List Char) : Prop :=
  ∃ before c after, body = before ++ c :: (text ++ after) ∧ Closes before ∧ (c = ' ' ∨ c = '\t')

namespace Embeds

variable {a b text : List Char}

lemma append_right (h : Embeds a text) (b : List Char) : Embeds (a ++ b) text := by
  obtain ⟨before, c, after, rfl, hbefore, hc⟩ := h
  exact ⟨before, c, after ++ b, by simp, hbefore, hc⟩

lemma append_left (ha : Closes a) (h : Embeds b text) : Embeds (a ++ b) text := by
  obtain ⟨before, c, after, rfl, hbefore, hc⟩ := h
  exact ⟨a ++ before, c, after, by simp, ha.append hbefore, hc⟩

/-- What starts an embedded text is embedded. -/
lemma start {more : List Char} (h : Embeds a (text ++ more)) : Embeds a text := by
  obtain ⟨before, c, after, rfl, hbefore, hc⟩ := h
  exact ⟨before, c, more ++ after, by simp, hbefore, hc⟩

lemma flatMap {α : Type} {f : α → List Char} {xs : List α} (hclosed : ∀ x ∈ xs, Closes (f x))
    (h : ∃ x ∈ xs, Embeds (f x) text) : Embeds (xs.flatMap f) text := by
  obtain ⟨x, hx, h⟩ := h
  obtain ⟨before, after, rfl⟩ := List.append_of_mem hx
  rw [List.flatMap_append, List.flatMap_cons]
  exact (h.append_right _).append_left
    (Closes.flatMap fun y hy => hclosed y (List.mem_append_left _ hy))

/-- A qualifier in an embedded text is one of the whole text. -/
lemma qualifies (h : Embeds b text) (ha : Closes a) {before : List Char} {name : String}
    (hname : QualifiesAt text name before) (hbefore : Closes before) : Qualifies a b name := by
  obtain ⟨front, c, back, rfl, hfront, hc⟩ := h
  have hgap : isIdentChar c = false ∧ c ≠ '.' ∧ isLexMark c = false := by
    rcases hc with rfl | rfl <;> decide
  have hone : Closes [c] := lex_code (List.forall_mem_singleton.mpr hgap.2.2)
  have hhead : IsApart (front ++ [c]) :=
    isApart_append_cons (isApart_cons isApart_nil fun _ => ⟨hgap.1, hgap.2.1⟩)
  exact ⟨front ++ [c] ++ before, hname.within hhead back (by simp),
    ha.append ((hfront.append hone).append hbefore)⟩

end Embeds

/-! ### Lines -/

lemma Line.closes_chars {line : Line} (h : isClosed line.text = true) : Closes line.chars := by
  unfold Line.chars
  refine Closes.append ?_ (by rfl)
  split
  · exact closes_nil
  · exact (closes_replicate (by decide) _).append (isClosed_iff.mp h)

lemma Line.embeds_chars {line : Line} {text : List Char} (h : Embeds line.text.toList text) :
    Embeds line.chars text := by
  have hne : line.text.isEmpty = false := by
    obtain ⟨before, c, after, heq, -⟩ := h
    rw [String.isEmpty_eq_false_iff]
    intro hempty
    simp [hempty] at heq
  unfold Line.chars
  rw [hne, if_neg Bool.false_ne_true]
  exact ((h.append_left (closes_replicate (by decide) _))).append_right _

/-- The start of an indented line stands after a tab. -/
lemma Line.embeds_start {depth : ℕ} {a b : String} (hb : b ≠ "") :
    Embeds (Line.chars ⟨depth + 1, a ++ b⟩) a.toList := by
  have hne : (a ++ b).isEmpty = false := by
    rw [String.isEmpty_eq_false_iff]
    intro hempty
    exact hb (String.append_eq_empty_iff.mp hempty).2
  refine ⟨List.replicate depth '\t', '\t', b.toList ++ ['\n'], ?_,
    closes_replicate (by decide) _, .inr rfl⟩
  rw [Line.chars, hne, if_neg Bool.false_ne_true, List.replicate_succ']
  simp

/-- A text in a line, after one that ends in a blank. -/
lemma embeds_of_eq {line text : String} (front before after : String)
    (h : line = before ++ text ++ after) (hblank : before = front ++ " ")
    (hfront : isClosed front = true) : Embeds line.toList text.toList :=
  ⟨front.toList, ' ', after.toList, by simp [h, hblank], isClosed_iff.mp hfront, .inl rfl⟩

/-! ### Rows -/

lemma closes_alignRow {widths : List ℕ} {row : List String}
    (h : ∀ cell ∈ row, isClosed cell = true) : Closes (alignRow widths row) := by
  induction row generalizing widths with
  | nil => exact closes_nil
  | cons cell rest ih =>
    rw [List.forall_mem_cons] at h
    have hcell := isClosed_iff.mp h.1
    cases rest with
    | nil => exact hcell
    | cons next rest =>
      rw [alignRow]
      exact (hcell.append (closes_replicate (by decide) _)).append (ih h.2)
      exact List.cons_ne_nil _ _

/-- The second cell of a row stands after a blank. -/
lemma embeds_alignRow {widths : List ℕ} {first cell : String} {rest : List String}
    (h : isClosed first = true) :
    Embeds (alignRow widths (first :: cell :: rest)) cell.toList := by
  have hcell : ∀ {widths : List ℕ}, ∃ after,
      alignRow widths (cell :: rest) = cell.toList ++ after := by
    intro widths
    cases rest with
    | nil => exact ⟨[], by simp [alignRow]⟩
    | cons next rest => exact ⟨_, by simp only [alignRow, List.append_assoc]; rfl⟩
  obtain ⟨after, hafter⟩ : ∃ after, alignRow widths.tail (cell :: rest) = cell.toList ++ after :=
    hcell
  refine ⟨first.toList ++ List.replicate (widths.headD 0 - first.length) ' ', ' ', after, ?_,
    (isClosed_iff.mp h).append (closes_replicate (by decide) _), .inl rfl⟩
  simp [alignRow, hafter, List.replicate_succ']

lemma rowsAt_eq (depth : ℕ) (rows : List (List String)) :
    ∃ widths, rowsAt depth rows =
      rows.map fun row => ⟨depth, String.ofList (alignRow widths row)⟩ :=
  ⟨_, by simp only [rowsAt, aligned, List.map_map]; rfl⟩

lemma closes_rowsAt {depth : ℕ} {rows : List (List String)}
    (h : ∀ row ∈ rows, ∀ cell ∈ row, isClosed cell = true) :
    ∀ line ∈ rowsAt depth rows, Closes line.chars := by
  obtain ⟨widths, heq⟩ := rowsAt_eq depth rows
  intro line hline
  rw [heq] at hline
  obtain ⟨row, hrow, rfl⟩ := List.mem_map.mp hline
  refine Line.closes_chars (isClosed_iff.mpr ?_)
  rw [String.toList_ofList]
  exact closes_alignRow (h row hrow)

lemma embeds_rowsAt (depth : ℕ) {rows : List (List String)} {first cell : String}
    {rest : List String} (hrow : first :: cell :: rest ∈ rows) (h : isClosed first = true) :
    ∃ line ∈ rowsAt depth rows, Embeds line.chars cell.toList := by
  obtain ⟨widths, heq⟩ := rowsAt_eq depth rows
  rw [heq]
  refine ⟨_, List.mem_map_of_mem hrow, Line.embeds_chars ?_⟩
  rw [String.toList_ofList]
  exact embeds_alignRow h

/-- One of several texts with a separator between them. -/
lemma exists_of_mem_intercalate {separator text : String} (hseparator : isClosed separator = true)
    {texts : List String} (h : ∀ text ∈ texts, isClosed text = true) (htext : text ∈ texts) :
    ∃ before after, separator.intercalate texts = before ++ text ++ after ∧
      isClosed before = true := by
  induction texts with
  | nil => cases htext
  | cons first rest ih =>
    rw [List.forall_mem_cons] at h
    cases rest with
    | nil =>
      obtain rfl := List.mem_singleton.mp htext
      exact ⟨"", "", by simp, rfl⟩
    | cons second rest =>
      rw [String.intercalate_cons_cons]
      rcases List.mem_cons.mp htext with rfl | htext
      · exact ⟨"", separator ++ separator.intercalate (second :: rest),
          by simp [String.append_assoc], rfl⟩
      · obtain ⟨before, after, heq, hbefore⟩ := ih h.2 htext
        exact ⟨first ++ separator ++ before, after, by simp [heq, String.append_assoc],
          isClosed_append (isClosed_append h.1 hseparator) hbefore⟩

/-! ### Statements -/

namespace Stmt

/-- What a statement calls by name. -/
def callees : Stmt → List String
  | retCall callee _ _ => [callee]
  | _ => []

/-- Each part of a statement closes what it opens. -/
def isClosed : Stmt → Bool
  | ret value => Code.isClosed value
  | retStruct type entries =>
    Code.isClosed type && entries.all fun entry => Code.isClosed entry.1 && isTidy entry.2
  | retCall callee first args => isTidy callee && Code.isClosed first && args.all isTidy
  | nilGuard name => Code.isClosed name
  | define name value => Code.isClosed name && Code.isClosed value
  | errorGuard call => isTidy call

variable {s : Stmt}

lemma isTidy_of_isClosed (h : s.isClosed = true) {text : String}
    (htext : text ∈ s.exprTexts ++ s.callees) : isTidy text = true := by
  cases s with
  | retStruct type entries =>
    simp only [isClosed, Bool.and_eq_true, List.all_eq_true] at h
    simp only [exprTexts, callees, List.append_nil] at htext
    obtain ⟨entry, hentry, rfl⟩ := List.mem_map.mp htext
    exact (h.2 entry hentry).2
  | retCall callee first args =>
    simp only [isClosed, Bool.and_eq_true, List.all_eq_true] at h
    rcases List.mem_append.mp htext with htext | htext
    · exact h.2 text htext
    · obtain rfl := List.mem_singleton.mp htext
      exact h.1.1
  | errorGuard call =>
    obtain rfl := List.mem_singleton.mp htext
    exact h
  | _ => cases htext

lemma closes_lines (h : s.isClosed = true) : ∀ line ∈ s.lines, Closes line.chars := by
  have hline : ∀ {depth : ℕ} {a b c : String}, Code.isClosed a = true → Code.isClosed b = true →
      Code.isClosed c = true → Closes (Line.chars ⟨depth, a ++ b ++ c⟩) :=
    fun ha hb hc => Line.closes_chars (isClosed_append (isClosed_append ha hb) hc)
  cases s with
  | ret value =>
    simp only [lines, List.forall_mem_singleton]
    exact Line.closes_chars (isClosed_append (by decide) h)
  | retStruct type entries =>
    simp only [isClosed, Bool.and_eq_true, List.all_eq_true] at h
    simp only [lines]
    split
    · rw [List.forall_mem_singleton]
      exact hline (by decide) h.1 (by decide)
    · rw [List.cons_append, List.forall_mem_cons, List.forall_mem_append, List.forall_mem_singleton]
      refine ⟨hline (by decide) h.1 (by decide), closes_rowsAt ?_, Line.closes_chars (by decide)⟩
      rw [List.forall_mem_map]
      intro entry hentry
      obtain ⟨hkey, hvalue⟩ := h.2 entry hentry
      simp only [List.forall_mem_cons]
      exact ⟨isClosed_append hkey (by decide),
        isClosed_append (isClosed_of_isTidy hvalue) (by decide), by simp⟩
  | retCall callee first args =>
    simp only [isClosed, Bool.and_eq_true, List.all_eq_true] at h
    obtain ⟨⟨hcallee, hfirst⟩, hargs⟩ := h
    simp only [lines, List.cons_append, List.forall_mem_cons, List.forall_mem_append,
      List.forall_mem_map]
    refine ⟨?_, fun arg harg => ?_, Line.closes_chars (by decide), by simp⟩
    · have hcall := isClosed_append (a := "return ") (by decide) (isClosed_of_isTidy hcallee)
      exact Line.closes_chars (isClosed_append
        (isClosed_append (isClosed_append hcall (by decide)) hfirst) (by decide))
    · exact Line.closes_chars (isClosed_append (isClosed_of_isTidy (hargs arg harg)) (by decide))
  | nilGuard name =>
    simp only [lines, List.forall_mem_cons]
    exact ⟨hline (by decide) h (by decide), Line.closes_chars (by decide),
      Line.closes_chars (by decide), by simp⟩
  | define name value =>
    simp only [isClosed, Bool.and_eq_true] at h
    simp only [lines, List.forall_mem_singleton]
    exact hline h.1 (by decide) h.2
  | errorGuard call =>
    simp only [lines, List.forall_mem_cons]
    exact ⟨hline (by decide) (isClosed_of_isTidy h) (by decide), Line.closes_chars (by decide),
      Line.closes_chars (by decide), by simp⟩

/-- The expressions of a statement stand in its lines. -/
lemma embeds_lines (h : s.isClosed = true) {text : String}
    (htext : text ∈ s.exprTexts ++ s.callees) :
    ∃ line ∈ s.lines, Embeds line.chars text.toList := by
  cases s with
  | retStruct type entries =>
    simp only [isClosed, Bool.and_eq_true, List.all_eq_true] at h
    simp only [exprTexts, callees, List.append_nil] at htext
    obtain ⟨entry, hentry, rfl⟩ := List.mem_map.mp htext
    have hrow : [entry.1 ++ ":", entry.2 ++ ","] ∈
        entries.map fun entry => [entry.1 ++ ":", entry.2 ++ ","] :=
      List.mem_map.mpr ⟨entry, hentry, rfl⟩
    obtain ⟨line, hline, hembeds⟩ :=
      embeds_rowsAt 2 hrow (isClosed_append (h.2 entry hentry).1 (by decide))
    rw [String.toList_append] at hembeds
    refine ⟨line, ?_, hembeds.start⟩
    rw [lines, if_neg]
    · exact List.mem_append_left _ (List.mem_cons_of_mem _ hline)
    · intro hempty
      rw [List.isEmpty_iff.mp hempty] at hentry
      cases hentry
  | retCall callee first args =>
    rcases List.mem_append.mp htext with htext | htext
    · refine ⟨⟨2, text ++ ","⟩, ?_, Line.embeds_start (by decide)⟩
      exact List.mem_append_left _ (List.mem_cons_of_mem _ (List.mem_map_of_mem htext))
    · obtain rfl := List.mem_singleton.mp htext
      refine ⟨_, List.mem_append_left _ List.mem_cons_self, Line.embeds_chars ?_⟩
      exact embeds_of_eq "return" "return " ("(" ++ first ++ ",")
        (by simp only [String.append_assoc]) (by decide) (by decide)
  | errorGuard call =>
    obtain rfl := List.mem_singleton.mp htext
    refine ⟨_, List.mem_cons_self, Line.embeds_chars ?_⟩
    exact embeds_of_eq "if err :=" "if err := " _ rfl (by decide) (by decide)
  | _ => cases htext

end Stmt

/-! ### Declarations -/

/-- A comment, to the end of its line. -/
def comment (text : String) : String := "// " ++ text ++ "\n"

namespace Decl

/-- What a declaration says that a function returns. -/
def results : Decl → List String
  | function _ _ _ _ result _ => [result]
  | _ => []

def callees : Decl → List String
  | function _ _ _ _ _ body => body.flatMap Stmt.callees
  | _ => []

/-- Each part of a declaration closes what it opens. -/
def isClosed : Decl → Bool
  | struct doc name fields =>
    Code.isClosed (comment doc) && Code.isClosed name && fields.all fun f =>
      Code.isClosed f.name && isPlain f.type && Code.isClosed ("`" ++ f.tag ++ "`")
  | constant doc name value =>
    Code.isClosed (comment doc) && Code.isClosed name && Code.isClosed value
  | function doc receiver name params result body =>
    Code.isClosed (comment doc) &&
      (receiver.all fun p => Code.isClosed p.name && Code.isClosed p.type) &&
      Code.isClosed name && (params.all fun p => Code.isClosed p.name && isPlain p.type) &&
      isPlain result && body.all Stmt.isClosed
  | verbatim lines => lex .code (lines.flatMap fun text => Line.chars ⟨0, text⟩) == .code

variable {d : Decl} {text : String}

lemma isPlain_of_isClosed (h : d.isClosed = true) (htext : text ∈ d.typeTexts ++ d.results) :
    isPlain text = true := by
  cases d with
  | struct doc name fields =>
    simp only [isClosed, Bool.and_eq_true, List.all_eq_true] at h
    simp only [typeTexts, results, List.append_nil] at htext
    obtain ⟨f, hf, rfl⟩ := List.mem_map.mp htext
    exact (h.2 f hf).1.2
  | function doc receiver name params result body =>
    simp only [isClosed, Bool.and_eq_true, List.all_eq_true] at h
    rcases List.mem_append.mp htext with htext | htext
    · obtain ⟨p, hp, rfl⟩ := List.mem_map.mp htext
      exact (h.1.1.2 p hp).2
    · obtain rfl := List.mem_singleton.mp htext
      exact h.1.2
  | _ => cases htext

/-- The expressions of a function are those of its statements. -/
lemma exists_stmt {doc name result : String} {receiver : Option Param} {params : List Param}
    {body : List Stmt}
    (htext : text ∈ (function doc receiver name params result body).exprTexts ++
      (function doc receiver name params result body).callees) :
    ∃ s ∈ body, text ∈ s.exprTexts ++ s.callees := by
  rcases List.mem_append.mp htext with htext | htext
  · obtain ⟨s, hs, htext⟩ := List.mem_flatMap.mp htext
    exact ⟨s, hs, List.mem_append_left _ htext⟩
  · obtain ⟨s, hs, htext⟩ := List.mem_flatMap.mp htext
    exact ⟨s, hs, List.mem_append_right _ htext⟩

lemma isTidy_of_isClosed (h : d.isClosed = true) (htext : text ∈ d.exprTexts ++ d.callees) :
    isTidy text = true := by
  cases d with
  | function doc receiver name params result body =>
    obtain ⟨s, hs, htext⟩ := exists_stmt htext
    simp only [isClosed, Bool.and_eq_true, List.all_eq_true] at h
    exact Stmt.isTidy_of_isClosed (h.2 s hs) htext
  | _ => cases htext

lemma closes_comment {doc : String} (h : Code.isClosed (comment doc) = true) :
    Closes (Line.chars ⟨0, "// " ++ doc⟩) := by
  have hchars : Line.chars ⟨0, "// " ++ doc⟩ = (comment doc).toList := by
    simp [Line.chars, comment]
  rw [hchars]
  exact isClosed_iff.mp h

lemma isClosed_paramText {p : Param} (hname : Code.isClosed p.name = true)
    (htype : isPlain p.type = true) : Code.isClosed (paramText p) = true :=
  isClosed_append (isClosed_append hname (by decide)) (isClosed_of_isPlain htype)

section

variable {doc name result : String} {receiver : Option Param} {params : List Param}
  {body : List Stmt} (h : (function doc receiver name params result body).isClosed = true)

include h

/-- What stands before the parameters of a function. -/
lemma exists_signature :
    ∃ before, Code.isClosed before = true ∧ signature receiver name params result =
      before ++ ", ".intercalate (params.map paramText) ++ ") " ++ result ++ " \x7b" := by
  simp only [isClosed, Bool.and_eq_true, Option.all_eq_true] at h
  obtain ⟨⟨⟨⟨⟨-, hreceiver⟩, hname⟩, -⟩, -⟩, -⟩ := h
  cases receiver with
  | none =>
    exact ⟨"func " ++ "" ++ name ++ "(",
      isClosed_append (isClosed_append (by decide) hname) (by decide), rfl⟩
  | some p =>
    obtain ⟨hp, htype⟩ := hreceiver p rfl
    have howner : Code.isClosed ("(" ++ p.name ++ " *" ++ p.type ++ ") ") = true :=
      isClosed_append (isClosed_append (isClosed_append
        (isClosed_append (by decide) hp) (by decide)) htype) (by decide)
    exact ⟨"func " ++ ("(" ++ p.name ++ " *" ++ p.type ++ ") ") ++ name ++ "(",
      isClosed_append (isClosed_append (isClosed_append (by decide) howner) hname) (by decide), rfl⟩

lemma isClosed_params : ∀ text ∈ params.map paramText, Code.isClosed text = true := by
  simp only [isClosed, Bool.and_eq_true, List.all_eq_true] at h
  rw [List.forall_mem_map]
  exact fun p hp => isClosed_paramText (h.1.1.2 p hp).1 (h.1.1.2 p hp).2

lemma isClosed_signature : Code.isClosed (signature receiver name params result) = true := by
  have hresult : isPlain result = true := by
    simp only [isClosed, Bool.and_eq_true] at h
    exact h.1.2
  obtain ⟨before, hbefore, heq⟩ := exists_signature h
  rw [heq]
  have hparams : Code.isClosed (", ".intercalate (params.map paramText)) = true :=
    isClosed_intercalate (by decide) (isClosed_params h)
  exact isClosed_append (isClosed_append (isClosed_append (isClosed_append hbefore hparams)
    (by decide)) (isClosed_of_isPlain hresult)) (by decide)

/-- The types of a function stand in its first line. -/
lemma embeds_signature {text : String} (htext : text ∈ params.map (·.type) ∨ text = result) :
    Embeds (signature receiver name params result).toList text.toList := by
  obtain ⟨before, hbefore, heq⟩ := exists_signature h
  have hparams := isClosed_params h
  have hseparator : Code.isClosed ", " = true := by decide
  rcases htext with htext | rfl
  · obtain ⟨p, hp, rfl⟩ := List.mem_map.mp htext
    have hname : Code.isClosed p.name = true := by
      simp only [isClosed, Bool.and_eq_true, List.all_eq_true] at h
      exact (h.1.1.2 p hp).1
    obtain ⟨front, back, hjoined, hfront⟩ :=
      exists_of_mem_intercalate hseparator hparams (List.mem_map_of_mem hp)
    refine embeds_of_eq (before ++ front ++ p.name) (before ++ front ++ p.name ++ " ")
      (back ++ ") " ++ result ++ " \x7b") ?_ rfl
      (isClosed_append (isClosed_append hbefore hfront) hname)
    rw [heq, hjoined, paramText]
    simp only [String.append_assoc]
  · refine embeds_of_eq (before ++ ", ".intercalate (params.map paramText) ++ ")") _
      " \x7b" heq ?_ ?_
    · have hclosing : ") " = ")" ++ " " := by decide
      rw [hclosing]
      simp only [String.append_assoc]
    · exact isClosed_append (isClosed_append hbefore (isClosed_intercalate hseparator hparams))
        (by decide)

end

/-- Lines of a declaration other than custom code close what they open, one by one. -/
lemma closes_lines (h : d.isClosed = true) (hlines : ∀ lines, d ≠ verbatim lines) :
    ∀ line ∈ d.lines, Closes line.chars := by
  have hblank : Closes (Line.chars blank) := Line.closes_chars (by decide)
  cases d with
  | struct doc name fields =>
    simp only [isClosed, Bool.and_eq_true, List.all_eq_true] at h
    obtain ⟨⟨hdoc, hname⟩, hfields⟩ := h
    simp only [lines, List.forall_mem_append, List.forall_mem_cons]
    refine ⟨⟨hblank, closes_comment hdoc, by simp⟩, ?_⟩
    split
    · rw [List.forall_mem_singleton]
      exact Line.closes_chars (isClosed_append (isClosed_append (by decide) hname) (by decide))
    · simp only [List.cons_append, List.forall_mem_cons, List.forall_mem_append]
      refine ⟨Line.closes_chars (isClosed_append (isClosed_append (by decide) hname) (by decide)),
        closes_rowsAt ?_, Line.closes_chars (by decide), by simp⟩
      rw [List.forall_mem_map]
      intro f hf
      obtain ⟨⟨hfield, htype⟩, htag⟩ := hfields f hf
      simp only [List.forall_mem_cons]
      exact ⟨hfield, isClosed_of_isPlain htype, htag, by simp⟩
  | constant doc name value =>
    simp only [isClosed, Bool.and_eq_true] at h
    obtain ⟨⟨hdoc, hname⟩, hvalue⟩ := h
    simp only [lines, List.forall_mem_cons]
    exact ⟨hblank, closes_comment hdoc, Line.closes_chars (isClosed_append (isClosed_append
      (isClosed_append (by decide) hname) (by decide)) hvalue), by simp⟩
  | function doc receiver name params result body =>
    have hsignature := isClosed_signature h
    simp only [isClosed, Bool.and_eq_true, List.all_eq_true] at h
    simp only [lines, List.forall_mem_append, List.forall_mem_cons]
    refine ⟨⟨⟨hblank, closes_comment h.1.1.1.1.1, Line.closes_chars hsignature, by simp⟩, ?_⟩,
      Line.closes_chars (by decide), by simp⟩
    intro line hline
    obtain ⟨s, hs, hline⟩ := List.mem_flatMap.mp hline
    exact Stmt.closes_lines (h.2 s hs) line hline
  | verbatim lines => exact absurd rfl (hlines lines)

/-- The text of a declaration. -/
def chars (d : Decl) : List Char := d.lines.flatMap Line.chars

lemma closes_chars (h : d.isClosed = true) : Closes d.chars := by
  cases d with
  | verbatim lines =>
    have hlines : Closes (lines.flatMap fun text => Line.chars ⟨0, text⟩) := beq_iff_eq.mp h
    have hchars : (verbatim lines).chars =
        Line.chars blank ++ lines.flatMap fun text => Line.chars ⟨0, text⟩ := by
      simp only [chars, Decl.lines, List.flatMap_cons, List.flatMap_map]
    rw [hchars]
    exact (Line.closes_chars (by decide)).append hlines
  | _ => exact Closes.flatMap (closes_lines h (by simp))

/-- The types and the expressions of a declaration stand in its lines. -/
lemma embeds_lines (h : d.isClosed = true)
    (htext : text ∈ d.typeTexts ++ d.results ∨ text ∈ d.exprTexts ++ d.callees) :
    ∃ line ∈ d.lines, Embeds line.chars text.toList := by
  cases d with
  | struct doc name fields =>
    simp only [typeTexts, results, exprTexts, callees, List.append_nil, List.not_mem_nil,
      or_false] at htext
    obtain ⟨f, hf, rfl⟩ := List.mem_map.mp htext
    simp only [isClosed, Bool.and_eq_true, List.all_eq_true] at h
    have hrow : [f.name, f.type, "`" ++ f.tag ++ "`"] ∈
        fields.map fun f => [f.name, f.type, "`" ++ f.tag ++ "`"] :=
      List.mem_map.mpr ⟨f, hf, rfl⟩
    obtain ⟨line, hline, hembeds⟩ := embeds_rowsAt 1 hrow (h.2 f hf).1.1
    refine ⟨line, List.mem_append_right _ ?_, hembeds⟩
    rw [if_neg]
    · exact List.mem_append_left _ (List.mem_cons_of_mem _ hline)
    · intro hempty
      rw [List.isEmpty_iff.mp hempty] at hf
      cases hf
  | constant doc name value => simp [typeTexts, results, exprTexts, callees] at htext
  | function doc receiver name params result body =>
    have hsignature : text ∈ params.map (·.type) ∨ text = result →
        ∃ line ∈ (function doc receiver name params result body).lines,
          Embeds line.chars text.toList := fun htext =>
      ⟨⟨0, signature receiver name params result⟩, by simp [lines],
        Line.embeds_chars (embeds_signature h htext)⟩
    rcases htext with htext | htext
    · exact hsignature (by simpa [typeTexts, results] using htext)
    · obtain ⟨s, hs, htext⟩ := exists_stmt htext
      simp only [isClosed, Bool.and_eq_true, List.all_eq_true] at h
      obtain ⟨line, hline, hembeds⟩ := Stmt.embeds_lines (h.2 s hs) htext
      refine ⟨line, ?_, hembeds⟩
      exact List.mem_append_left _ (List.mem_append_right _ (List.mem_flatMap.mpr ⟨s, hs, hline⟩))
  | verbatim lines => simp [typeTexts, results, exprTexts, callees] at htext

lemma embeds_chars (h : d.isClosed = true)
    (htext : text ∈ d.typeTexts ++ d.results ∨ text ∈ d.exprTexts ++ d.callees) :
    Embeds d.chars text.toList := by
  have hembeds := embeds_lines h htext
  cases d with
  | verbatim lines => simp [typeTexts, results, exprTexts, callees] at htext
  | _ => exact Embeds.flatMap (closes_lines h (by simp)) hembeds

end Decl

end Laminate.Code
