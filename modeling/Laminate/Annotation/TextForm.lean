import Laminate.Error

/-! Reading the text form of annotation values.
Every step returns what is left of the text with a proof that it is shorter, so reading ends. -/
namespace Laminate.Annotation

open Laminate.Text

def isKeyChar (c : Char) : Bool := isAlphanumeric c || c == '_' || c == '.'

/-- A bare token ends at white space, a separator or a closing bracket. -/
def isTokenChar (c : Char) : Bool :=
  !isBlank c && c != ',' && c != ';' && c != '\x7d' && c != ']' && c != '>'

def isQuote (c : Char) : Bool := c == '"' || c == '\''

/-- The text after white space, commas, semicolons and comments up to the end of their line. -/
def skipSeparators (inComment : Bool) : List Char → List Char
  | [] => []
  | c :: rest =>
    if inComment then skipSeparators (c != '\n') rest
    else if c == '#' then skipSeparators true rest
    else if isBlank c || c == ',' || c == ';' then skipSeparators false rest
    else c :: rest

def skipBlanks (text : List Char) : List Char := text.dropWhile isBlank

/-- The text after the white space and the optional colon between a key and its value. -/
def skipColon (text : List Char) : List Char :=
  match skipBlanks text with
  | ':' :: rest => skipBlanks rest
  | rest => rest

/-- What a character stands for after a backslash. -/
def unescape (c : Char) : Char :=
  if c = 'n' then '\n' else if c = 't' then '\t' else if c = 'r' then '\r' else c

/-- The contents of a literal up to its closing quote, and the text after it. -/
def readLiteral (quote : Char) : List Char → Except OptionFault (List Char × List Char)
  | [] => .error .unclosedText
  | c :: rest =>
    if c = quote then .ok ([], rest)
    else if c = '\\' then
      match rest with
      | [] => .error .unclosedEscape
      | e :: rest =>
        match readLiteral quote rest with
        | .error fault => .error fault
        | .ok (contents, after) => .ok (unescape e :: contents, after)
    else
      match readLiteral quote rest with
      | .error fault => .error fault
      | .ok (contents, after) => .ok (c :: contents, after)

theorem skipSeparators_length (inComment : Bool) (text : List Char) :
    (skipSeparators inComment text).length ≤ text.length := by
  induction text generalizing inComment with
  | nil => simp [skipSeparators]
  | cons c rest ih =>
    have h₁ := ih (c != '\n')
    have h₂ := ih true
    have h₃ := ih false
    simp only [skipSeparators]
    split
    · simp; omega
    · split
      · simp; omega
      · split
        · simp; omega
        · simp

theorem skipBlanks_length (text : List Char) : (skipBlanks text).length ≤ text.length :=
  (List.dropWhile_sublist _).length_le

theorem skipColon_length (text : List Char) : (skipColon text).length ≤ text.length := by
  have h := skipBlanks_length text
  unfold skipColon
  split
  · next rest hrest =>
    have h' := skipBlanks_length rest
    rw [hrest] at h
    simp at h
    omega
  · exact h

theorem readLiteral_length {quote : Char} {text contents after : List Char}
    (h : readLiteral quote text = .ok (contents, after)) : after.length < text.length := by
  fun_induction readLiteral quote text generalizing contents after with
  | case1 => simp at h
  | case2 => simp at h; simp [h.2]
  | case3 => simp at h
  | case4 => simp at h
  | case5 _ _ _ _ heq _ ih =>
    simp at h
    have := ih heq
    simp [← h.2]
    omega
  | case6 => simp at h
  | case7 _ _ _ _ _ _ heq ih =>
    simp at h
    have := ih heq
    simp [← h.2]
    omega

/-- Adjacent literals, read as one text. -/
def readQuoted (text : List Char) : Except OptionFault (List Char × List Char) :=
  match text with
  | [] => .ok ([], [])
  | quote :: rest =>
    if isQuote quote then
      match _h : readLiteral quote rest with
      | .error fault => .error fault
      | .ok (contents, after) =>
        match readQuoted (skipBlanks after) with
        | .error fault => .error fault
        | .ok (more, last) => .ok (contents ++ more, last)
    else .ok ([], quote :: rest)
termination_by text.length
decreasing_by
  have := readLiteral_length _h
  have := skipBlanks_length after
  simp; omega

theorem readQuoted_length {text contents after : List Char}
    (h : readQuoted text = .ok (contents, after)) : after.length ≤ text.length := by
  fun_induction readQuoted text generalizing contents after with
  | case1 => simp at h; simp [h.2]
  | case2 => simp at h
  | case3 => simp at h
  | case4 quote rest _ _ after' hlit more last hmore ih =>
    simp at h
    have h₁ := ih hmore
    have h₂ := readLiteral_length hlit
    have h₃ := skipBlanks_length after'
    simp [← h.2]
    omega
  | case5 => simp at h; simp [← h.2]

theorem readQuoted_shorter {quote : Char} {rest contents after : List Char} (hq : isQuote quote)
    (h : readQuoted (quote :: rest) = .ok (contents, after)) :
    after.length < (quote :: rest).length := by
  rw [readQuoted, if_pos hq] at h
  split at h
  · simp at h
  · next _ after' hlit =>
    split at h
    · simp at h
    · next more last hmore =>
      simp at h
      have h₁ := readQuoted_length hmore
      have h₂ := readLiteral_length hlit
      have h₃ := skipBlanks_length after'
      simp [← h.2]
      omega

theorem takeWhile_length_add {p : Char → Bool} (text : List Char) :
    (text.takeWhile p).length + (text.dropWhile p).length = text.length := by
  rw [← List.length_append, List.takeWhile_append_dropWhile]

/-- What is left after a bracket's contents is less than what starts with the bracket. -/
theorem length_lt_cons (c : Char) {rest : List Char}
    (after : { after : List Char // after.length ≤ rest.length }) :
    after.1.length < (c :: rest).length :=
  Nat.lt_succ_of_le after.2

mutual

/-- One value, and the text after it. `total` is the length of the whole text, which places
faults in it. -/
def readValue (total : Nat) (text : List Char) :
    Except OptionFault (Value × { rest : List Char // rest.length < text.length }) :=
  match text with
  | [] => .error .wantedValue
  | c :: rest =>
    if c = '\x7b' then
      match readEntries total (some '\x7d') rest with
      | .error fault => .error fault
      | .ok (entries, after) => .ok (.message entries, ⟨after.1, length_lt_cons c after⟩)
    else if c = '<' then
      match readEntries total (some '>') rest with
      | .error fault => .error fault
      | .ok (entries, after) => .ok (.message entries, ⟨after.1, length_lt_cons c after⟩)
    else if c = '[' then
      match readItems total rest with
      | .error fault => .error fault
      | .ok (items, after) => .ok (.list items, ⟨after.1, length_lt_cons c after⟩)
    else if hq : isQuote c then
      match h : readQuoted (c :: rest) with
      | .error fault => .error fault
      | .ok (contents, after) =>
        .ok (.quoted (String.ofList contents), ⟨after, readQuoted_shorter hq h⟩)
    else if ht : (c :: rest).takeWhile isTokenChar = [] then
      .error (.wantedValueAt (total - (c :: rest).length))
    else
      .ok (.token (String.ofList ((c :: rest).takeWhile isTokenChar)),
        ⟨(c :: rest).dropWhile isTokenChar, by
          have := takeWhile_length_add (p := isTokenChar) (c :: rest)
          have := List.length_pos_iff.mpr ht
          omega⟩)
termination_by (text.length, 0)
decreasing_by all_goals simp_wf; simp [Prod.lex_def]

/-- Entries up to `close`, or to the end of the text where there is none. -/
def readEntries (total : Nat) (close : Option Char) (text : List Char) :
    Except OptionFault (List Entry × { rest : List Char // rest.length ≤ text.length }) :=
  match htext : skipSeparators false text with
  | [] =>
    if close.isSome then .error .unclosedMessage
    else .ok ([], ⟨[], Nat.zero_le _⟩)
  | c :: rest =>
    if some c = close then
      .ok ([], ⟨rest, by
        have := skipSeparators_length false text
        rw [htext] at this
        exact Nat.le_of_lt this⟩)
    else if hk : (c :: rest).takeWhile isKeyChar = [] then
      .error (.wantedKey (total - (c :: rest).length) c)
    else
      have hshort : (skipColon ((c :: rest).dropWhile isKeyChar)).length < text.length := by
        have h₁ := skipSeparators_length false text
        rw [htext] at h₁
        have h₂ := takeWhile_length_add (p := isKeyChar) (c :: rest)
        have h₃ := List.length_pos_iff.mpr hk
        have h₄ := skipColon_length ((c :: rest).dropWhile isKeyChar)
        omega
      match readValue total (skipColon ((c :: rest).dropWhile isKeyChar)) with
      | .error fault => .error fault
      | .ok (value, after) =>
        have := after.2
        match readEntries total close after.1 with
        | .error fault => .error fault
        | .ok (entries, last) =>
          .ok ((String.ofList ((c :: rest).takeWhile isKeyChar), value) :: entries,
            ⟨last.1, by have := last.2; omega⟩)
termination_by (text.length, 1)
decreasing_by all_goals simp [Prod.lex_def]; omega

/-- Items up to the closing bracket of a list. -/
def readItems (total : Nat) (text : List Char) :
    Except OptionFault (List Value × { rest : List Char // rest.length ≤ text.length }) :=
  match htext : skipSeparators false text with
  | [] => .error .unclosedList
  | c :: rest =>
    have hle : rest.length < text.length := by
      have := skipSeparators_length false text
      rw [htext] at this
      exact this
    if c = ']' then .ok ([], ⟨rest, Nat.le_of_lt hle⟩)
    else
      match readValue total (c :: rest) with
      | .error fault => .error fault
      | .ok (value, after) =>
        have := after.2
        match readItems total after.1 with
        | .error fault => .error fault
        | .ok (items, last) =>
          .ok (value :: items, ⟨last.1, by have := last.2; simp at *; omega⟩)
termination_by (text.length, 1)
decreasing_by all_goals simp_wf; simp [Prod.lex_def] at *; omega

end

/-- The top-level entries of an aggregate. -/
def readText (text : String) : Except OptionFault (List Entry) :=
  match readEntries text.toList.length none text.toList with
  | .error fault => .error fault
  | .ok (entries, _) => .ok entries

end Laminate.Annotation
