import Laminate.Code.Name
import Laminate.Proofs.WordForms

/-! Names in lower case with underscores, and the identifiers that they become.
A name falls into pieces, runs of letters with the digits after them, and its identifier has the
pieces with capitals. Underscores stay only where no letter follows. -/
namespace Laminate.Text

/-! ### Words of a name -/

/-- A run of letters and the digits after it; only at a front are there digits without letters. -/
structure Piece where
  letters : List Char
  digits : List Char
  deriving Repr, DecidableEq

namespace Piece

def text (piece : Piece) : List Char := piece.letters ++ piece.digits

/-- The piece with its first letter in upper case. -/
def capital (piece : Piece) : List Char :=
  match piece.letters with
  | [] => piece.digits
  | c :: rest => c.toUpper :: rest ++ piece.digits

/-- Whether the case of two neighbours tells them apart. Digits at a front belong to what follows
them, and single letters are one run of capitals. -/
def isApart (piece next : Piece) : Bool :=
  !piece.letters.isEmpty && (2 ≤ piece.letters.length || 2 ≤ next.letters.length)

end Piece

/-- Pieces with a digit in front. -/
def withDigit (c : Char) : List Piece → List Piece
  | ⟨[], digits⟩ :: rest => ⟨[], c :: digits⟩ :: rest
  | pieces => ⟨[], [c]⟩ :: pieces

/-- Pieces with a letter in front, which starts a piece of its own where it stands apart. -/
def withLetter (c : Char) (apart : Bool) : List Piece → List Piece
  | [] => [⟨[c], []⟩]
  | piece :: rest =>
    if apart then ⟨[c], []⟩ :: piece :: rest else ⟨c :: piece.letters, piece.digits⟩ :: rest

/-- The pieces of a name up to the first underscore that stays, and those between such underscores.
An underscore before a letter does not stay: it is read off the case of the letter. -/
def chunks : List Char → List Piece × List (List Piece)
  | [] => ([], [])
  | c :: rest =>
    let (chunk, more) := chunks rest
    if c = '_' then
      if rest.head?.any Char.isLower then (chunk, more) else ([], chunk :: more)
    else if c.isDigit then (withDigit c chunk, more)
    else (withLetter c (rest.head? == some '_') chunk, more)

/-- Words with a text in front of the first one. -/
def inFront (text : List Char) : List (List Char) → List (List Char)
  | [] => [text]
  | word :: more => (text ++ word) :: more

/-- The words of the pieces between two underscores. -/
def joinPieces : List Piece → List (List Char)
  | [] => []
  | [piece] => [piece.text]
  | piece :: next :: rest =>
    if piece.isApart next then piece.text :: joinPieces (next :: rest)
    else inFront piece.text (joinPieces (next :: rest))

/-- An underscore at the front is read as an `x` that stands apart from letters. -/
def readable : List Char → List Char
  | '_' :: rest => if rest.head?.any Char.isLower then 'x' :: '_' :: rest else 'x' :: rest
  | name => name

/-- The words of the key of a name. -/
def keyWords (name : String) : List (List Char) :=
  let (chunk, more) := chunks (readable name.toList)
  (chunk :: more).flatMap joinPieces

def keyText (name : String) : String := joined ['_'] (keyWords name)

example : ["user_id", "a_b", "v2id", "line_1_b", "_x__y_", "2_fa"].map keyText =
    ["user_id", "ab", "v2_id", "line_1b", "xx_y", "2fa"] := by decide

/-! ### Characters -/

/-- A character of a name in lower case with underscores. -/
def isSnakeChar (c : Char) : Bool := c.isLower || c.isDigit || c == '_'

/-- A character of a word whose case is read as it is written. -/
structure HasCase (c : Char) (lower upper : Bool) : Prop where
  ascii : c.toNat < 128
  alphanumeric : isAlphanumeric c = true
  isLower : isLower c = lower
  isUpper : isUpper c = upper

instance (c : Char) (lower upper : Bool) : Decidable (HasCase c lower upper) :=
  decidable_of_iff (c.toNat < 128 ∧ isAlphanumeric c = true ∧ isLower c = lower ∧ isUpper c = upper)
    ⟨fun ⟨h₁, h₂, h₃, h₄⟩ => ⟨h₁, h₂, h₃, h₄⟩, fun ⟨h₁, h₂, h₃, h₄⟩ => ⟨h₁, h₂, h₃, h₄⟩⟩

lemma HasCase.ne_underscore {c : Char} {lower upper : Bool} (h : HasCase c lower upper) :
    c ≠ '_' := by
  rintro rfl
  exact absurd h.alphanumeric (by decide +kernel)

/-- The case of the small letters and of the digits. -/
lemma cases_ascii : ∀ c : Char, c.toNat < 128 →
    (c.isLower = true → HasCase c true false ∧ c.toLower = c ∧ HasCase c.toUpper false true ∧
      c.toUpper.toLower = c) ∧
    (c.isDigit = true → HasCase c false false ∧ c.toLower = c) :=
  forall_ascii (by decide +kernel)

lemma hasCase_of_isLower {c : Char} (h : c.isLower = true) : HasCase c true false :=
  ((cases_ascii _ (lt_of_isLower h)).1 h).1

lemma hasCase_toUpper {c : Char} (h : c.isLower = true) :
    HasCase c.toUpper false true ∧ c.toUpper.toLower = c :=
  ((cases_ascii _ (lt_of_isLower h)).1 h).2.2

lemma hasCase_of_isDigit {c : Char} (h : c.isDigit = true) : HasCase c false false :=
  ((cases_ascii _ (lt_of_isDigit h)).2 h).1

lemma toLower_of_isSmall {c : Char} (h : c.isLower = true ∨ c.isDigit = true) : c.toLower = c := by
  rcases h with hlower | hdigit
  · exact ((cases_ascii _ (lt_of_isLower hlower)).1 hlower).2.1
  · exact ((cases_ascii _ (lt_of_isDigit hdigit)).2 hdigit).2

/-- No letter is a digit. -/
lemma not_isLower_and_isDigit {c : Char} : ¬ (c.isLower = true ∧ c.isDigit = true) := by
  rintro ⟨hlower, hdigit⟩
  have := (hasCase_of_isLower hlower).isLower
  rw [(hasCase_of_isDigit hdigit).isLower] at this
  cases this

lemma isDigit_of_isLower {c : Char} (h : c.isLower = true) : c.isDigit = false :=
  Bool.eq_false_iff.mpr fun hdigit => not_isLower_and_isDigit ⟨h, hdigit⟩

lemma isLower_of_isDigit {c : Char} (h : c.isDigit = true) : c.isLower = false :=
  Bool.eq_false_iff.mpr fun hlower => not_isLower_and_isDigit ⟨hlower, h⟩

lemma of_isSnakeChar {c : Char} (h : isSnakeChar c = true) :
    c.isLower = true ∨ c.isDigit = true ∨ c = '_' := by
  simpa [isSnakeChar, or_assoc] using h

lemma chunks_letter {c : Char} (h : c.isLower = true) (rest : List Char) : chunks (c :: rest) =
    (withLetter c (rest.head? == some '_') (chunks rest).1, (chunks rest).2) := by
  simp [chunks, (hasCase_of_isLower h).ne_underscore, isDigit_of_isLower h]

lemma chunks_digit {c : Char} (h : c.isDigit = true) (rest : List Char) : chunks (c :: rest) =
    (withDigit c (chunks rest).1, (chunks rest).2) := by
  simp [chunks, (hasCase_of_isDigit h).ne_underscore, h]

lemma chunks_underscore (rest : List Char) : chunks ('_' :: rest) =
    if rest.head?.any Char.isLower then chunks rest
    else ([], (chunks rest).1 :: (chunks rest).2) := by
  simp [chunks]

/-! ### The identifier of a name -/

/-- Pieces as they stand in an identifier. -/
def spell (chunk : List Piece) (more : List (List Piece)) : List Char :=
  chunk.flatMap Piece.capital ++ more.flatMap fun chunk => '_' :: chunk.flatMap Piece.capital

/-- The same where the first letter is not in upper case. -/
def spellOn (chunk : List Piece) (more : List (List Piece)) : List Char :=
  match chunk with
  | [] => spell [] more
  | piece :: rest => piece.text ++ spell rest more

lemma spell_cons (piece : Piece) (rest : List Piece) (more : List (List Piece)) :
    spell (piece :: rest) more = piece.capital ++ spell rest more := by
  rw [spell, spell, List.flatMap_cons, List.append_assoc]

lemma spell_withDigit (c : Char) (chunk : List Piece) (more : List (List Piece)) :
    spell (withDigit c chunk) more = c :: spell chunk more ∧
      spellOn (withDigit c chunk) more = c :: spell chunk more := by
  unfold withDigit
  split
  · exact ⟨by simp [spell_cons, Piece.capital],
      by simp [spellOn, spell_cons, Piece.capital, Piece.text]⟩
  · exact ⟨by simp [spell_cons, Piece.capital], by simp [spellOn, Piece.text]⟩

lemma spell_withLetter (c : Char) (apart : Bool) (chunk : List Piece) (more : List (List Piece)) :
    let rest := if apart then spell chunk more else spellOn chunk more
    spell (withLetter c apart chunk) more = c.toUpper :: rest ∧
      spellOn (withLetter c apart chunk) more = c :: rest := by
  cases chunk with
  | nil => cases apart <;> simp [withLetter, spellOn, spell_cons, Piece.capital, Piece.text]
  | cons piece pieces =>
    cases apart <;> simp [withLetter, spellOn, spell_cons, Piece.capital, Piece.text]

open Laminate.Code in
/-- Only a letter goes on differently in a word. -/
lemma exportedFrom_word {name : List Char} (h : ∀ c ∈ name, isSnakeChar c = true)
    (hnext : name.head?.any Char.isLower = false) :
    exportedFrom .word name = exportedFrom .inner name := by
  cases name with
  | nil => rfl
  | cons c rest =>
    have hlower : c.isLower = false := by simpa using hnext
    rcases of_isSnakeChar (h c List.mem_cons_self) with hlower' | hdigit | rfl
    · rw [hlower] at hlower'
      cases hlower'
    · simp [exportedFrom, hlower, hdigit]
    · simp [exportedFrom, hlower]

open Laminate.Code in
/-- The identifier of what follows a first character: its pieces in upper case, but for a letter
that continues a word. -/
lemma exportedFrom_eq {name : List Char} (h : ∀ c ∈ name, isSnakeChar c = true) :
    exportedFrom .inner name = spell (chunks name).1 (chunks name).2 ∧
      exportedFrom .word name =
        if name.head? = some '_' then spell (chunks name).1 (chunks name).2
        else spellOn (chunks name).1 (chunks name).2 := by
  induction name with
  | nil => exact ⟨rfl, rfl⟩
  | cons c rest ih =>
    obtain ⟨hinner, hword⟩ := ih fun c hc => h c (List.mem_cons_of_mem _ hc)
    rcases of_isSnakeChar (h c List.mem_cons_self) with hlower | hdigit | rfl
    · have hne := (hasCase_of_isLower hlower).ne_underscore
      have hdot : c ≠ '.' := by
        rintro rfl
        cases hlower
      obtain ⟨hspell, hspellOn⟩ :=
        spell_withLetter c (rest.head? == some '_') (chunks rest).1 (chunks rest).2
      have hrest : exportedFrom .word rest = if rest.head? == some '_' then
          spell (chunks rest).1 (chunks rest).2 else spellOn (chunks rest).1 (chunks rest).2 := by
        simpa using hword
      rw [chunks_letter hlower, hspell, hspellOn, ← hrest]
      constructor
      · simp [exportedFrom, hne, isDigit_of_isLower hlower, hdot]
      · simp [exportedFrom, hlower, hne]
    · have hne := (hasCase_of_isDigit hdigit).ne_underscore
      have hdot : c ≠ '.' := by
        rintro rfl
        cases hdigit
      obtain ⟨hspell, hspellOn⟩ := spell_withDigit c (chunks rest).1 (chunks rest).2
      rw [chunks_digit hdigit, hspell, hspellOn, ← hinner]
      constructor
      · simp [exportedFrom, hne, hdigit, hdot]
      · simp [exportedFrom, isLower_of_isDigit hdigit, hne, hdigit, hdot]
    · have hupper : '_'.toUpper = '_' := by decide
      have hsmall : '_'.isLower = false ∧ '_'.isDigit = false := by decide
      rw [chunks_underscore]
      cases hnext : rest.head?.any Char.isLower with
      | true => simp [exportedFrom, hnext, hinner]
      | false =>
        have hstays := (exportedFrom_word (fun c hc => h c (List.mem_cons_of_mem _ hc)) hnext).trans
          hinner
        simp [exportedFrom, hnext, hupper, hsmall, hstays, spell]

open Laminate.Code in
/-- The identifier of a name is made of its pieces. -/
lemma toList_exportedName {name : String} (h : ∀ c ∈ name.toList, isSnakeChar c = true) :
    (exportedName name).toList =
      spell (chunks (readable name.toList)).1 (chunks (readable name.toList)).2 := by
  rw [exportedName, String.toList_ofList]
  have hx : isSnakeChar 'x' = true := by decide
  cases hname : name.toList with
  | nil => rfl
  | cons c rest =>
    rw [hname] at h
    have hrest : ∀ c ∈ rest, isSnakeChar c = true := fun c hc => h c (List.mem_cons_of_mem _ hc)
    by_cases hunderscore : c = '_'
    · subst hunderscore
      have hfront : exportedFrom .start ('_' :: rest) = 'X' :: exportedFrom .inner rest := by
        simp [exportedFrom]
      have hX : 'x'.toUpper = 'X' := by decide
      cases hnext : rest.head?.any Char.isLower with
      | true =>
        have hread : readable ('_' :: rest) = 'x' :: '_' :: rest := by simp [readable, hnext]
        rw [hfront, hread, ← (exportedFrom_eq (by simpa [hx] using h)).1]
        simp [exportedFrom, hnext, hX]
      | false =>
        have hread : readable ('_' :: rest) = 'x' :: rest := by simp [readable, hnext]
        rw [hfront, hread, ← (exportedFrom_eq (by simpa [hx] using hrest)).1,
          ← exportedFrom_word hrest hnext]
        simp [exportedFrom, hX]
    · have hread : readable (c :: rest) = c :: rest := by
        unfold readable
        split
        · next heq => exact absurd (List.cons.inj heq).1 hunderscore
        · rfl
      rw [hread, ← (exportedFrom_eq h).1]
      simp [exportedFrom, hunderscore]

/-! ### The shape of pieces -/

structure Piece.IsProper (piece : Piece) : Prop where
  letters : ∀ c ∈ piece.letters, c.isLower = true
  digits : ∀ c ∈ piece.digits, c.isDigit = true
  text : piece.text ≠ []

/-- Pieces of which only the first one may be without letters. -/
structure IsChunk (chunk : List Piece) : Prop where
  proper : ∀ piece ∈ chunk, piece.IsProper
  letters : ∀ piece ∈ chunk.tail, piece.letters ≠ []

lemma isChunk_withDigit {c : Char} (hc : c.isDigit = true) {chunk : List Piece}
    (h : IsChunk chunk) : IsChunk (withDigit c chunk) := by
  unfold withDigit
  split
  · next digits rest =>
    have hfirst := h.proper _ List.mem_cons_self
    refine ⟨fun piece hpiece => ?_, h.letters⟩
    rcases List.mem_cons.mp hpiece with rfl | hpiece
    · refine ⟨by simp, fun d hd => ?_, by simp [Piece.text]⟩
      rcases List.mem_cons.mp hd with rfl | hd
      · exact hc
      · exact hfirst.digits d hd
    · exact h.proper piece (List.mem_cons_of_mem _ hpiece)
  · next hletters =>
    refine ⟨fun piece hpiece => ?_, fun piece hpiece => ?_⟩
    · rcases List.mem_cons.mp hpiece with rfl | hpiece
      · exact ⟨by simp, by simpa using hc, by simp [Piece.text]⟩
      · exact h.proper piece hpiece
    · cases chunk with
      | nil => cases hpiece
      | cons first rest =>
        rcases List.mem_cons.mp hpiece with rfl | hpiece
        · intro hnil
          exact hletters piece.digits rest (by rw [← hnil])
        · exact h.letters piece hpiece

lemma isChunk_withLetter {c : Char} (hc : c.isLower = true) {apart : Bool} {chunk : List Piece}
    (h : IsChunk chunk) (hapart : apart = true → ∀ piece ∈ chunk.head?, piece.letters ≠ []) :
    IsChunk (withLetter c apart chunk) := by
  have hsingle : Piece.IsProper ⟨[c], []⟩ := ⟨by simpa using hc, by simp, by simp [Piece.text]⟩
  cases chunk with
  | nil => exact ⟨by simpa [withLetter] using hsingle, by simp [withLetter]⟩
  | cons first rest =>
    have hfirst := h.proper first List.mem_cons_self
    have hrest := fun piece hpiece => h.proper piece (List.mem_cons_of_mem first hpiece)
    cases apart with
    | true =>
      refine ⟨fun piece hpiece => ?_, fun piece hpiece => ?_⟩
      · rcases List.mem_cons.mp hpiece with rfl | hpiece
        · exact hsingle
        · exact h.proper piece hpiece
      · rcases List.mem_cons.mp hpiece with rfl | hpiece
        · exact hapart rfl piece rfl
        · exact h.letters piece hpiece
    | false =>
      refine ⟨fun piece hpiece => ?_, h.letters⟩
      rcases List.mem_cons.mp hpiece with rfl | hpiece
      · refine ⟨fun d hd => ?_, hfirst.digits, by simp [Piece.text]⟩
        rcases List.mem_cons.mp hd with rfl | hd
        · exact hc
        · exact hfirst.letters d hd
      · exact hrest piece hpiece

lemma letters_withLetter (c : Char) (apart : Bool) (chunk : List Piece) :
    ∀ piece ∈ (withLetter c apart chunk).head?, piece.letters ≠ [] := by
  cases chunk with
  | nil => simp [withLetter]
  | cons first rest => cases apart <;> simp [withLetter]

/-- The pieces of a name are proper, and its first one has letters unless it starts with a digit. -/
lemma isChunk_chunks {name : List Char} (h : ∀ c ∈ name, isSnakeChar c = true) :
    (∀ chunk ∈ (chunks name).1 :: (chunks name).2, IsChunk chunk) ∧
      (name.head?.any Char.isDigit = false →
        ∀ piece ∈ (chunks name).1.head?, piece.letters ≠ []) := by
  induction name with
  | nil => exact ⟨by simpa [chunks] using ⟨by simp, by simp⟩, by simp [chunks]⟩
  | cons c rest ih =>
    obtain ⟨hchunks, hfront⟩ := ih fun c hc => h c (List.mem_cons_of_mem _ hc)
    have hchunk := hchunks _ List.mem_cons_self
    have hmore := fun chunk hmem => hchunks chunk (List.mem_cons_of_mem _ hmem)
    rcases of_isSnakeChar (h c List.mem_cons_self) with hlower | hdigit | rfl
    · have hapart : (rest.head? == some '_') = true →
          ∀ piece ∈ (chunks rest).1.head?, piece.letters ≠ [] := by
        intro hhead
        refine hfront ?_
        rw [beq_iff_eq.mp hhead]
        rfl
      rw [chunks_letter hlower]
      refine ⟨fun chunk hmem => ?_, fun _ => letters_withLetter _ _ _⟩
      rcases List.mem_cons.mp hmem with rfl | hmem
      · exact isChunk_withLetter hlower hchunk hapart
      · exact hmore chunk hmem
    · rw [chunks_digit hdigit]
      refine ⟨fun chunk hmem => ?_, by simp [hdigit]⟩
      rcases List.mem_cons.mp hmem with rfl | hmem
      · exact isChunk_withDigit hdigit hchunk
      · exact hmore chunk hmem
    · rw [chunks_underscore]
      split
      · next hnext =>
        refine ⟨hchunks, fun _ => hfront ?_⟩
        cases rest with
        | nil => rfl
        | cons d rest => exact isDigit_of_isLower (by simpa using hnext)
      · refine ⟨fun chunk hmem => ?_, by simp⟩
        rcases List.mem_cons.mp hmem with rfl | hmem
        · exact ⟨by simp, by simp⟩
        · exact hchunks chunk hmem

end Laminate.Text
