import Laminate.Proofs.TypeText

/-! Where the text of a file is code.
What a character is part of is told by all that stands before it, so a text in the midst of others
is code where the ones before it close what they open. -/
namespace Laminate.Code

open Laminate.Text

/-! ### Literals and comments -/

/-- What the next character of a source file belongs to. -/
inductive Lexing where
  | code
  /-- Code, after a slash that may open a comment. -/
  | slash
  | lineComment
  | blockComment
  /-- A block comment that a slash closes. -/
  | star
  | interpreted
  /-- An interpreted literal, after a backslash. -/
  | escape
  | raw
  | rune
  | runeEscape
  deriving Repr, DecidableEq, Inhabited

namespace Lexing

/-- What a character of code leads to. -/
def opened (c : Char) : Lexing :=
  if c = '"' then interpreted
  else if c = Char.ofNat 96 then raw
  else if c = Char.ofNat 39 then rune
  else if c = '/' then slash
  else code

def step : Lexing → Char → Lexing
  | code, c => opened c
  | slash, c => if c = '/' then lineComment else if c = '*' then blockComment else opened c
  | lineComment, c => if c = '\n' then code else lineComment
  | blockComment, c => if c = '*' then star else blockComment
  | star, c => if c = '/' then code else if c = '*' then star else blockComment
  | interpreted, c => if c = '\\' then escape else if c = '"' then code else interpreted
  | escape, _ => interpreted
  | raw, c => if c = Char.ofNat 96 then code else raw
  | rune, c => if c = '\\' then runeEscape else if c = Char.ofNat 39 then code else rune
  | runeEscape, _ => rune

/-- Within a string literal. -/
def isString : Lexing → Bool
  | interpreted | escape | raw => true
  | _ => false

end Lexing

/-- What follows a text that is read from some state. -/
def lex (s : Lexing) (text : List Char) : Lexing := text.foldl Lexing.step s

@[simp] lemma lex_nil (s : Lexing) : lex s [] = s := rfl

@[simp] lemma lex_cons (s : Lexing) (c : Char) (text : List Char) :
    lex s (c :: text) = lex (s.step c) text := rfl

lemma lex_of_step {s s' s'' : Lexing} {c : Char} {text : List Char} (hstep : s.step c = s')
    (h : lex s' text = s'') : lex s (c :: text) = s'' := by
  rw [lex_cons, hstep, h]

@[simp] lemma lex_append (s : Lexing) (a b : List Char) : lex s (a ++ b) = lex (lex s a) b :=
  List.foldl_append

/-- A text that closes the literals and comments that it opens. -/
def isClosed (text : String) : Bool := lex .code text.toList == .code

example : isClosed "\"//\" // \"\n" = true ∧ isClosed "const note = `" = false := by decide

/-- A character that opens a literal or may open a comment. -/
def isLexMark (c : Char) : Bool := isLiteralMark c || c == Char.ofNat 39 || c == '/'

/-- A text without literals and comments. -/
def isPlain (text : String) : Bool := text.toList.all (!isLexMark ·)

/-- A text within code and string literals alone, that ends in code. -/
def isTidyFrom : Lexing → List Char → Bool
  | s, [] => s == .code
  | s, c :: rest => (s == .code || s.isString) && isTidyFrom (s.step c) rest

def isTidy (text : String) : Bool := isTidyFrom .code text.toList

lemma step_code {c : Char} (h : isLexMark c = false) : Lexing.step .code c = .code := by
  simp only [isLexMark, isLiteralMark, Bool.or_eq_false_iff, beq_eq_false_iff_ne] at h
  obtain ⟨⟨⟨hquote, hraw⟩, hrune⟩, hslash⟩ := h
  rw [Lexing.step, Lexing.opened, if_neg hquote, if_neg hraw, if_neg hrune, if_neg hslash]

lemma lex_code {text : List Char} (h : ∀ c ∈ text, isLexMark c = false) :
    lex .code text = .code := by
  induction text with
  | nil => rfl
  | cons c rest ih =>
    rw [lex_cons, step_code (h c List.mem_cons_self)]
    exact ih fun c hc => h c (List.mem_cons_of_mem _ hc)

lemma isPlain_iff {text : String} :
    isPlain text = true ↔ ∀ c ∈ text.toList, isLexMark c = false := by
  simp [isPlain]

lemma isLexMark_of_isIdentChar {c : Char} (h : isIdentChar c = true) : isLexMark c = false := by
  rw [isLexMark, isLiteralMark_of_isIdentChar h, Bool.false_or, Bool.or_eq_false_iff,
    beq_eq_false_iff_ne, beq_eq_false_iff_ne]
  constructor <;> rintro rfl <;> revert h <;> decide

lemma lex_of_isTidyFrom {s : Lexing} {text : List Char} (h : isTidyFrom s text = true) :
    lex s text = .code := by
  induction text generalizing s with
  | nil => exact beq_iff_eq.mp h
  | cons c rest ih =>
    rw [isTidyFrom, Bool.and_eq_true] at h
    exact ih h.2

/-- A tidy text goes on in code or in a string literal. -/
lemma code_or_isString {s : Lexing} {text : List Char} (h : isTidyFrom s text = true) :
    s = .code ∨ s.isString = true := by
  cases text with
  | nil => exact .inl (beq_iff_eq.mp h)
  | cons c rest =>
    rw [isTidyFrom, Bool.and_eq_true, Bool.or_eq_true, beq_iff_eq] at h
    exact h.1

lemma isTidyFrom_of_cons {s s' : Lexing} {c : Char} {rest : List Char} (hstep : s.step c = s')
    (h : isTidyFrom s (c :: rest) = true) : isTidyFrom s' rest = true := by
  rw [isTidyFrom, Bool.and_eq_true, hstep] at h
  exact h.2

/-- Code that is tidy opens string literals at most. -/
lemma step_code_of_isTidyFrom {c : Char} {rest : List Char}
    (h : isTidyFrom .code (c :: rest) = true) (hmark : ¬ (c = '"' ∨ c = Char.ofNat 96)) :
    Lexing.step .code c = .code := by
  rw [not_or] at hmark
  have hnext := code_or_isString (isTidyFrom_of_cons rfl h)
  refine hnext.resolve_right ?_
  rw [Lexing.step, Lexing.opened, if_neg hmark.1, if_neg hmark.2]
  split
  · decide
  split <;> decide

/-! ### Qualifiers -/

/-- A text after which a name may start. -/
def IsApart (before : List Char) : Prop :=
  ∀ c ∈ before.getLast?, isIdentChar c = false ∧ c ≠ '.'

lemma isApart_nil : IsApart [] := nofun

lemma isApart_append {a b : List Char} (ha : IsApart a) (hb : IsApart b) : IsApart (a ++ b) := by
  intro c hc
  rw [List.getLast?_append] at hc
  rcases Option.or_eq_some_iff.mp hc with hc | ⟨-, hc⟩
  · exact hb c hc
  · exact ha c hc

/-- Only the end of a text counts. -/
lemma isApart_append_cons {a b : List Char} {c : Char} (h : IsApart (c :: b)) :
    IsApart (a ++ c :: b) := by
  intro x hx
  rw [List.getLast?_append] at hx
  rcases Option.or_eq_some_iff.mp hx with hx | ⟨hnone, -⟩
  · exact h x hx
  · exact absurd (List.getLast?_eq_none_iff.mp hnone) (List.cons_ne_nil c b)

lemma isApart_cons {c : Char} {before : List Char} (h : IsApart before)
    (hc : before = [] → isIdentChar c = false ∧ c ≠ '.') : IsApart (c :: before) := by
  cases before with
  | nil =>
    intro x hx
    obtain rfl : c = x := Option.some.inj hx
    exact hc rfl
  | cons d rest => exact isApart_append_cons (a := [c]) h

lemma isApart_of_forall {before : List Char}
    (h : ∀ c ∈ before, isIdentChar c = false ∧ c ≠ '.') : IsApart before :=
  fun c hc => h c (List.mem_of_getLast? hc)

/-- A name stands before a dot somewhere in a text, and is no part of a longer name or selector;
what stands before it is given. -/
def QualifiesAt (text : List Char) (name : String) (before : List Char) : Prop :=
  IsApart before ∧ ∃ after, text = before ++ (name.toList ++ '.' :: after)

/-- A name stands before a dot outside literals and comments, in a text that follows another. -/
def Qualifies (head text : List Char) (name : String) : Prop :=
  ∃ before, QualifiesAt text name before ∧ lex .code (head ++ before) = .code

/-- Wherever a name stands before a dot, in a text that follows another, it is within a string
literal. -/
def Hides (head text : List Char) (name : String) : Prop :=
  ∀ before after, text = before ++ (name.toList ++ '.' :: after) →
    (lex .code (head ++ before)).isString = true

/-- Wherever a pattern starts in a text, a string literal is open. One pass decides it, with the
state that each character is read in. -/
def hidesFrom (pattern : List Char) : Lexing → List Char → Bool
  | s, [] => !pattern.isPrefixOf [] || s.isString
  | s, c :: rest =>
    (!pattern.isPrefixOf (c :: rest) || s.isString) && hidesFrom pattern (s.step c) rest

lemma hidesFrom_iff {pattern text : List Char} {s : Lexing} :
    hidesFrom pattern s text = true ↔
      ∀ before after, text = before ++ (pattern ++ after) → (lex s before).isString = true := by
  -- What stands before the pattern is nothing, or it starts with the first character of the text.
  have hhere : ∀ {text : List Char} {s : Lexing},
      (!pattern.isPrefixOf text || s.isString) = true ↔
        ∀ after, text = pattern ++ after → s.isString = true := by
    intro text s
    rw [Bool.or_eq_true, Bool.not_eq_true', ← Bool.not_eq_true, List.isPrefixOf_iff_prefix,
      ← Decidable.imp_iff_not_or]
    exact ⟨fun h after hafter => h ⟨after, hafter.symm⟩,
      fun h ⟨after, hafter⟩ => h after hafter.symm⟩
  induction text generalizing s with
  | nil =>
    rw [hidesFrom, hhere]
    refine ⟨fun h before after heq => ?_, fun h after heq => h [] after heq⟩
    obtain ⟨rfl, hafter⟩ := List.append_eq_nil_iff.mp heq.symm
    exact h after hafter.symm
  | cons c rest ih =>
    rw [hidesFrom, Bool.and_eq_true]
    refine (and_congr hhere ih).trans ?_
    constructor
    · rintro ⟨hfirst, hrest⟩ before after heq
      cases before with
      | nil => exact hfirst after heq
      | cons d before =>
        obtain ⟨rfl, hafter⟩ := List.cons.inj heq
        exact hrest before after hafter
    · intro h
      exact ⟨fun after heq => h [] after heq,
        fun before after heq => h (c :: before) after (congrArg (c :: ·) heq)⟩

lemma hides_iff {head text : List Char} {name : String} :
    hidesFrom (name.toList ++ ['.']) (lex .code head) text = true ↔ Hides head text name := by
  rw [hidesFrom_iff, Hides]
  simp only [lex_append, List.append_assoc, List.singleton_append]

instance (head text : List Char) (name : String) : Decidable (Hides head text name) :=
  decidable_of_iff _ hides_iff

/-! ### Types -/

lemma trimBoth_eq (drop : Char → Bool) (text : List Char) :
    ∃ before after, text = before ++ (trimBoth drop text ++ after) ∧
      ∀ c ∈ before, drop c = true := by
  have hfront := List.takeWhile_append_dropWhile (p := drop) (l := text)
  have hback := List.takeWhile_append_dropWhile (p := drop) (l := (text.dropWhile drop).reverse)
  refine ⟨text.takeWhile drop, ((text.dropWhile drop).reverse.takeWhile drop).reverse, ?_,
    List.all_eq_true.mp List.all_takeWhile⟩
  rw [trimBoth, ← List.reverse_append, hback, List.reverse_reverse, hfront]

lemma stripMarks_eq (text : List Char) :
    ∃ marks, text = marks ++ stripMarks text ∧ ∀ c ∈ marks, c = '*' ∨ c = '[' ∨ c = ']' := by
  fun_induction stripMarks text with
  | case1 rest ih =>
    obtain ⟨marks, heq, hmarks⟩ := ih
    refine ⟨'*' :: marks, by rw [List.cons_append, ← heq], ?_⟩
    exact List.forall_mem_cons.mpr ⟨.inl rfl, hmarks⟩
  | case2 rest ih =>
    obtain ⟨marks, heq, hmarks⟩ := ih
    refine ⟨'[' :: ']' :: marks, by rw [List.cons_append, List.cons_append, ← heq], ?_⟩
    exact List.forall_mem_cons.mpr ⟨.inr (.inl rfl),
      List.forall_mem_cons.mpr ⟨.inr (.inr rfl), hmarks⟩⟩
  | case3 text _ => exact ⟨[], rfl, by simp⟩

lemma closeBracket_eq {depth : Nat} {text inner after : List Char}
    (h : closeBracket depth text = some (inner, after)) : text = inner ++ ']' :: after := by
  fun_induction closeBracket depth text generalizing inner after with
  | case1 => cases h
  | case2 =>
    cases h
    rfl
  | case3 rest depth ih =>
    obtain ⟨⟨inner, _⟩, hclose, heq⟩ := Option.map_eq_some_iff.mp h
    cases heq
    rw [ih hclose]
    rfl
  | case4 depth c rest hc ih =>
    obtain ⟨⟨inner, _⟩, hclose, heq⟩ := Option.map_eq_some_iff.mp h
    cases heq
    rw [ih hclose]
    rfl

/-- What a scan of a type passes over before it looks at names. -/
lemma exists_stripped (text : List Char) :
    ∃ front back, text = front ++ (stripMarks (trimBoth isBlank text) ++ back) ∧
      IsApart front := by
  obtain ⟨blanks, back, htrim, hblanks⟩ := trimBoth_eq isBlank text
  obtain ⟨marks, hstrip, hmarks⟩ := stripMarks_eq (trimBoth isBlank text)
  refine ⟨blanks ++ marks, back, ?_, isApart_append (isApart_of_forall fun c hc => ?_)
    (isApart_of_forall fun c hc => ?_)⟩
  · rw [List.append_assoc, ← List.append_assoc marks, ← hstrip, ← htrim]
  · have hblank := hblanks c hc
    constructor
    · rw [Bool.eq_false_iff]
      intro hident
      rw [isBlank_of_isIdentChar hident] at hblank
      cases hblank
    · rintro rfl
      revert hblank
      decide
  · have hnot := not_isNamed_of_mark (hmarks c hc)
    rw [not_or] at hnot
    exact ⟨Bool.eq_false_iff.mpr hnot.1, hnot.2⟩

lemma QualifiesAt.within {text head part before : List Char} {name : String}
    (h : QualifiesAt part name before) (hhead : IsApart head) (tail : List Char)
    (htext : text = head ++ (part ++ tail)) : QualifiesAt text name (head ++ before) := by
  obtain ⟨hapart, after, rfl⟩ := h
  exact ⟨isApart_append hhead hapart, after ++ tail, by simp [htext]⟩

/-- Where the key and the value of a map stand in its text. -/
lemma exists_map_parts {text rest key value : List Char}
    (hstrip : stripMarks (trimBoth isBlank text) = 'm' :: 'a' :: 'p' :: '[' :: rest)
    (hclose : closeBracket 0 rest = some (key, value)) :
    (∃ head tail, IsApart head ∧ text = head ++ (key ++ tail)) ∧
      ∃ head tail, IsApart head ∧ text = head ++ (value ++ tail) := by
  obtain ⟨front, back, htext, -⟩ := exists_stripped text
  rw [hstrip, closeBracket_eq hclose] at htext
  refine ⟨⟨front ++ ['m', 'a', 'p'] ++ ['['], ']' :: (value ++ back), ?_, by simp [htext]⟩,
    front ++ ('m' :: 'a' :: 'p' :: '[' :: key) ++ [']'], back, ?_, by simp [htext]⟩
  · exact isApart_append_cons (isApart_cons isApart_nil fun _ => by decide)
  · exact isApart_append_cons (isApart_cons isApart_nil fun _ => by decide)

/-- A qualifier that a scan of a type finds stands before a dot. -/
lemma exists_qualifiesAt_of_type {text : List Char} {q : String}
    (h : q ∈ (typeQualifiers text).1) : ∃ before, QualifiesAt text q before := by
  fun_induction typeQualifiers text with
  | case1 => cases h
  | case2 text rest hstrip key value hclose found fault hkey ih =>
    rw [hkey] at ih
    obtain ⟨before, hbefore⟩ := ih h
    obtain ⟨⟨head, tail, hhead, htext⟩, -⟩ := exists_map_parts hstrip hclose
    exact ⟨_, hbefore.within hhead tail htext⟩
  | case3 text rest hstrip key value hclose found hkey more fault hvalue ihk ihv =>
    rw [hkey] at ihk
    rw [hvalue] at ihv
    obtain ⟨⟨head, tail, hhead, htext⟩, head', tail', hhead', htext'⟩ :=
      exists_map_parts hstrip hclose
    rcases List.mem_append.mp h with h | h
    · obtain ⟨before, hbefore⟩ := ihk h
      exact ⟨_, hbefore.within hhead tail htext⟩
    · obtain ⟨before, hbefore⟩ := ihv h
      exact ⟨_, hbefore.within hhead' tail' htext'⟩
  | case4 text qualifier after _ hcut =>
    obtain rfl := List.mem_singleton.mp h
    obtain ⟨front, back, htext, hfront⟩ := exists_stripped text
    rw [(cutFirst_eq_some hcut).1] at htext
    exact ⟨front, hfront, after ++ back, by rw [htext, String.toList_ofList]; simp⟩
  | case5 => cases h

/-! ### Expressions -/

namespace ScanState

/-- What a scan holds back. -/
def pending : ScanState → List Char
  | name reversed => reversed.reverse
  | _ => []

/-- Where a scan takes the text to be. -/
def lexing : ScanState → Lexing
  | literal quote => if quote = '"' then .interpreted else .raw
  | _ => .code

/-- States that scans come to. -/
def IsReached : ScanState → Prop
  | code _ => True
  | name reversed => ∀ c ∈ reversed, isIdentChar c = true
  | literal quote => quote = '"' ∨ quote = Char.ofNat 96

end ScanState

namespace ScanState

lemma lexing_literal_ne (quote : Char) : (literal quote).lexing ≠ .code := by
  dsimp only [lexing]
  split <;> decide

/-- A mark of a literal, in code, leads into the literal. -/
lemma step_opening {quote : Char} (hquote : quote = '"' ∨ quote = Char.ofNat 96) :
    Lexing.step .code quote = (literal quote).lexing := by
  rcases hquote with rfl | rfl <;> decide

/-- The mark of a literal, within it, leads out of it. -/
lemma step_closing {quote : Char} (hquote : quote = '"' ∨ quote = Char.ofNat 96) :
    (literal quote).lexing.step quote = .code := by
  rcases hquote with rfl | rfl <;> decide

lemma step_inside {quote c : Char} (hquote : c ≠ quote) (hescape : ¬ (c = '\\' ∧ quote = '"'))
    (reached : (literal quote).IsReached) :
    (literal quote).lexing.step c = (literal quote).lexing := by
  rcases reached with rfl | rfl
  · have hne : c ≠ '\\' := fun h => hescape ⟨h, rfl⟩
    simp [lexing, Lexing.step, hne, hquote]
  · have hraw : (literal (Char.ofNat 96)).lexing = .raw := by decide
    simp [hraw, Lexing.step, hquote]

end ScanState

lemma QualifiesAt.cons {text before : List Char} {name : String} {c : Char}
    (h : QualifiesAt text name before) (hc : before = [] → isIdentChar c = false ∧ c ≠ '.') :
    QualifiesAt (c :: text) name (c :: before) := by
  obtain ⟨hapart, after, rfl⟩ := h
  exact ⟨isApart_cons hapart hc, after, rfl⟩

/-- A qualifier that a scan of a tidy expression finds stands before a dot in code. A scan that may
not start a name at once finds none at once. -/
lemma exists_qualifiesAt_of_scan {s : ScanState} {text : List Char} {q : String}
    (reached : s.IsReached) (tidy : isTidyFrom s.lexing text = true)
    (h : q ∈ scanQualifiers s text) :
    ∃ before, QualifiesAt (s.pending ++ text) q before ∧ lex s.lexing before = .code ∧
      (before = [] → s ≠ .code true) := by
  have hmark : ∀ {c : Char}, c = '"' ∨ c = Char.ofNat 96 → isIdentChar c = false ∧ c ≠ '.' := by
    intro c hc
    rcases hc with rfl | rfl <;> decide
  -- a literal is left before anything is found
  have hliteral : ∀ {quote : Char} {before : List Char},
      lex (ScanState.literal quote).lexing before = .code → before ≠ [] := by
    rintro quote before hlex rfl
    exact ScanState.lexing_literal_ne quote hlex
  fun_induction scanQualifiers s text with
  | case1 => cases h
  | case2 => cases h
  | case3 quote c hc d rest ih =>
    obtain ⟨rfl, rfl⟩ := hc
    obtain ⟨before, hbefore, hlex, -⟩ :=
      ih reached (isTidyFrom_of_cons rfl (isTidyFrom_of_cons rfl tidy)) h
    exact ⟨_, (hbefore.cons fun hnil => absurd hnil (hliteral hlex)).cons nofun, hlex, nofun⟩
  | case4 c rest hc ih =>
    have hstep := ScanState.step_closing reached
    obtain ⟨before, hbefore, hlex, -⟩ := ih trivial (isTidyFrom_of_cons hstep tidy) h
    exact ⟨_, hbefore.cons fun _ => hmark reached, lex_of_step hstep hlex, nofun⟩
  | case5 quote c rest hescape hquote ih =>
    have hstep := ScanState.step_inside hquote hescape reached
    obtain ⟨before, hbefore, hlex, -⟩ := ih reached (isTidyFrom_of_cons hstep tidy) h
    exact ⟨_, hbefore.cons fun hnil => absurd hnil (hliteral hlex), lex_of_step hstep hlex, nofun⟩
  | case6 reversed c rest hc ih =>
    have hstep : Lexing.step .code c = .code := step_code (isLexMark_of_isIdentChar hc)
    obtain ⟨before, hbefore, hlex, -⟩ :=
      ih (List.forall_mem_cons.mpr ⟨hc, reached⟩) (isTidyFrom_of_cons hstep tidy) h
    refine ⟨before, ?_, hlex, fun _ => nofun⟩
    simpa [ScanState.pending] using hbefore
  | case7 reversed c rest hc found ihl ihc =>
    have hpending : lex .code reversed.reverse = .code :=
      lex_code fun d hd => isLexMark_of_isIdentChar (reached d (List.mem_reverse.mp hd))
    -- what is found further on stands after the name and the character that ends it
    have hlater : ∀ {before : List Char}, QualifiesAt (c :: rest) q (c :: before) →
        lex .code (c :: before) = .code →
        ∃ before, QualifiesAt (reversed.reverse ++ c :: rest) q before ∧
          lex .code before = .code ∧ (before = [] → ScanState.name reversed ≠ .code true) := by
      rintro before ⟨hapart, after, htext⟩ hlex
      refine ⟨reversed.reverse ++ c :: before, ⟨isApart_append_cons hapart, after, ?_⟩, ?_,
        fun _ => nofun⟩
      · rw [htext, List.append_assoc]
      · rw [lex_append, hpending, hlex]
    rcases List.mem_append.mp h with h | h
    · dsimp only [found] at h
      split at h
      · next hdot =>
        obtain rfl := List.mem_singleton.mp h
        refine ⟨[], ⟨isApart_nil, rest, ?_⟩, rfl, fun _ => nofun⟩
        rw [String.toList_ofList, hdot.1]
        rfl
      · cases h
    · split at h
      · next hquote =>
        have hstep := ScanState.step_opening hquote
        obtain ⟨before, hbefore, hlex, -⟩ := ihl hquote (isTidyFrom_of_cons hstep tidy) h
        exact hlater (hbefore.cons fun _ => hmark hquote) (lex_of_step hstep hlex)
      · next hquote =>
        have hstep := step_code_of_isTidyFrom tidy hquote
        obtain ⟨before, hbefore, hlex, hjoined⟩ := ihc trivial (isTidyFrom_of_cons hstep tidy) h
        refine hlater (hbefore.cons fun hnil => ⟨Bool.eq_false_iff.mpr hc, ?_⟩)
          (lex_of_step hstep hlex)
        rintro rfl
        exact hjoined hnil rfl
  | case8 joined c rest hc ih =>
    have hstep := ScanState.step_opening hc
    obtain ⟨before, hbefore, hlex, -⟩ := ih hc (isTidyFrom_of_cons hstep tidy) h
    exact ⟨_, hbefore.cons fun _ => hmark hc, lex_of_step hstep hlex, nofun⟩
  | case9 joined c rest hc hstart ih =>
    have hstep := step_code_of_isTidyFrom tidy hc
    rw [Bool.and_eq_true, Bool.not_eq_true'] at hstart
    obtain ⟨before, hbefore, hlex, -⟩ :=
      ih (List.forall_mem_singleton.mpr (isIdentChar_of_isIdentStart hstart.1))
        (isTidyFrom_of_cons hstep tidy) h
    refine ⟨before, hbefore, hlex, fun _ heq => ?_⟩
    rw [hstart.2] at heq
    cases heq
  | case10 joined c rest hc hstart ih =>
    have hstep := step_code_of_isTidyFrom tidy hc
    obtain ⟨before, hbefore, hlex, hjoined⟩ := ih trivial (isTidyFrom_of_cons hstep tidy) h
    refine ⟨_, hbefore.cons fun hnil => ?_, lex_of_step hstep hlex, nofun⟩
    have hapart : (isIdentChar c || c == '.') = false :=
      Bool.eq_false_iff.mpr fun heq => hjoined hnil (congrArg ScanState.code heq)
    rw [Bool.or_eq_false_iff, beq_eq_false_iff_ne] at hapart
    exact hapart

end Laminate.Code
