import Laminate.Proofs.NamePieces
import Laminate.Proofs.Placement

/-! The words of the identifiers of names in lower case.
An identifier is split where its case changes, which gives the pieces of its name back but for
single letters: these are one run of capitals. -/
namespace Laminate.Text

/-! ### Splitting the identifier -/

lemma hasCase_of_mem_capital {piece : Piece} (h : piece.IsProper) {c : Char}
    (hc : c ∈ piece.capital) : ∃ lower upper, HasCase c lower upper := by
  have hdigit : c ∈ piece.digits → ∃ lower upper, HasCase c lower upper := fun hmem =>
    ⟨_, _, hasCase_of_isDigit (h.digits c hmem)⟩
  unfold Piece.capital at hc
  split at hc
  · exact hdigit hc
  · next first rest hletters =>
    have hsmall := fun d hd => h.letters d (hletters ▸ hd)
    rw [List.cons_append, List.mem_cons, List.mem_append] at hc
    rcases hc with rfl | hc | hc
    · exact ⟨_, _, (hasCase_toUpper (hsmall first List.mem_cons_self)).1⟩
    · exact ⟨_, _, hasCase_of_isLower (hsmall c (List.mem_cons_of_mem _ hc))⟩
    · exact hdigit hc

lemma hasCase_of_mem_chunk {chunk : List Piece} (h : IsChunk chunk) {c : Char}
    (hc : c ∈ chunk.flatMap Piece.capital) : ∃ lower upper, HasCase c lower upper := by
  obtain ⟨piece, hpiece, hc⟩ := List.mem_flatMap.mp hc
  exact hasCase_of_mem_capital (h.proper piece hpiece) hc

open Laminate.Schema in
/-- The underscores that stay are where the identifier is split. -/
lemma splitAt_spell {chunk : List Piece} {more : List (List Piece)}
    (h : ∀ chunk' ∈ chunk :: more, IsChunk chunk') :
    splitAt (fun c => !isAlphanumeric c) (spell chunk more) =
      (chunk :: more).map fun chunk => chunk.flatMap Piece.capital := by
  have hpiece : ∀ chunk' ∈ chunk :: more, splitAt (fun c => !isAlphanumeric c)
      (chunk'.flatMap Piece.capital) = [chunk'.flatMap Piece.capital] := by
    intro chunk' hmem
    refine splitAt_of_not_mem fun c hc => ?_
    obtain ⟨_, _, hcase⟩ := hasCase_of_mem_chunk (h chunk' hmem) hc
    rw [hcase.alphanumeric]
    rfl
  have hmark : (!isAlphanumeric '_') = true := by decide +kernel
  induction more generalizing chunk with
  | nil => simpa [spell] using hpiece chunk List.mem_cons_self
  | cons next more ih =>
    have hnext := ih (fun chunk' hmem => h chunk' (List.mem_cons_of_mem _ hmem))
      (fun chunk' hmem => hpiece chunk' (List.mem_cons_of_mem _ hmem))
    have hspell : spell chunk (next :: more) =
        chunk.flatMap Piece.capital ++ '_' :: spell next more := by
      simp [spell]
    rw [hspell, splitAt_append hmark, hpiece chunk List.mem_cons_self, hnext]
    rfl

/-! ### Words between two underscores -/

section

variable {hump : Hump} {word rest : List Char}

/-- Nothing, or an upper-case letter with what follows it. -/
def StartsUpper (rest : List Char) : Prop := ∀ c ∈ rest.head?, HasCase c false true

/-- Lower-case letters and digits are a word up to the next capital. -/
lemma humps_lower {c : Char} {run : List Char} (hnext : hump.next c = .lower)
    (hc : isUpper c = false) (hrun : ∀ d ∈ run, d.isLower = true ∨ d.isDigit = true)
    (hrest : StartsUpper rest) :
    humps hump word (c :: run ++ rest) = (word ++ c :: run) :: humps .fresh [] rest := by
  induction run generalizing hump word c with
  | nil =>
    cases rest with
    | nil => rfl
    | cons d rest =>
      have hd : isUpper d = true := (hrest d rfl).isUpper
      rw [List.cons_append, List.nil_append, humps, if_pos ⟨hnext, hd⟩]
  | cons d run ih =>
    have hsmall := hrun d List.mem_cons_self
    have hd : isUpper d = false :=
      hsmall.elim (fun h => (hasCase_of_isLower h).isUpper) fun h => (hasCase_of_isDigit h).isUpper
    have hnext' : (hump.next c).next d = .lower := by
      rw [hnext]
      rcases hsmall with h | h
      · simp [Hump.next, (hasCase_of_isLower h).isLower]
      · simp [Hump.next, (hasCase_of_isDigit h).isLower, (hasCase_of_isDigit h).isUpper]
    rw [List.cons_append, List.cons_append, humps, if_neg (by simp [hd]), if_neg (by simp [hc]),
      ← List.cons_append, ih hnext' hd fun d hd => hrun d (List.mem_cons_of_mem _ hd)]
    simp

/-- Digits keep the case that was read before them. -/
lemma humps_digits {digits : List Char} (hhump : hump ≠ .lower)
    (hdigits : ∀ d ∈ digits, d.isDigit = true) (hne : rest ≠ []) :
    humps hump word (digits ++ rest) = humps hump (word ++ digits) rest := by
  induction digits generalizing word with
  | nil => simp
  | cons d digits ih =>
    have hd := hasCase_of_isDigit (hdigits d List.mem_cons_self)
    have hnext : hump.next d = hump := by simp [Hump.next, hd.isLower, hd.isUpper]
    have hdigits' := fun d hmem => hdigits d (List.mem_cons_of_mem _ hmem)
    cases hafter : digits ++ rest with
    | nil => exact absurd (List.append_eq_nil_iff.mp hafter).2 hne
    | cons c after =>
      rw [List.cons_append, hafter, humps, hnext, if_neg (by simp [hhump]),
        if_neg (by simp [hd.isUpper]), ← hafter, ih hdigits']
      simp

lemma humps_digits_nil {digits : List Char} (hhump : hump ≠ .lower)
    (hdigits : ∀ d ∈ digits, d.isDigit = true) (hne : digits ≠ []) :
    humps hump word digits = [word ++ digits] := by
  obtain hnil | ⟨before, d, rfl⟩ := List.eq_nil_or_concat' digits
  · exact absurd hnil hne
  · rw [humps_digits hhump (fun c hc => hdigits c (List.mem_append_left _ hc)) (by simp), humps,
      List.append_assoc]

/-- A capital with digits after it waits for what follows. -/
lemma humps_capital {c : Char} (hc : HasCase c false true) {digits : List Char}
    (hdigits : ∀ d ∈ digits, d.isDigit = true) (hrest : StartsUpper rest) :
    humps hump word (c :: digits ++ rest) =
      if rest = [] then [word ++ c :: digits] else humps .upper (word ++ c :: digits) rest := by
  have hnext : hump.next c = .upper := by simp [Hump.next, hc.isLower, hc.isUpper]
  have hafter : digits ++ rest ≠ [] →
      humps hump word (c :: (digits ++ rest)) = humps .upper (word ++ [c]) (digits ++ rest) := by
    intro hne
    obtain ⟨d, after, hcons⟩ := List.exists_cons_of_ne_nil hne
    have hd : isLower d = false := by
      cases digits with
      | nil => exact (hrest d (by simpa using congrArg List.head? hcons)).isLower
      | cons e digits =>
        obtain rfl : e = d := (List.cons.inj hcons).1
        exact (hasCase_of_isDigit (hdigits e List.mem_cons_self)).isLower
    rw [hcons, humps, hnext, if_neg (by simp), if_neg (by simp [hd])]
  rw [List.cons_append]
  split
  · next hnil =>
    subst hnil
    rw [List.append_nil] at hafter ⊢
    by_cases hempty : digits = []
    · rw [hempty, humps]
    · rw [hafter hempty, humps_digits_nil (by simp) hdigits hempty, List.append_assoc]
      rfl
  · next hne =>
    rw [hafter (by simp [hne]), humps_digits (by simp) hdigits hne, List.append_assoc]
    rfl

end

/-! ### Joined pieces -/

/-- Words in lower case. -/
def lowered (words : List (List Char)) : List (List Char) := words.map (·.map Char.toLower)

lemma inFront_inFront (a b : List Char) {words : List (List Char)} :
    inFront a (inFront b words) = inFront (a ++ b) words := by
  cases words <;> simp [inFront]

lemma joinPieces_ne_nil {piece : Piece} {rest : List Piece} : joinPieces (piece :: rest) ≠ [] := by
  cases rest with
  | nil => simp [joinPieces]
  | cons next rest =>
    rw [joinPieces]
    split
    · simp
    · cases joinPieces (next :: rest) <;> simp [inFront]

lemma inFront_nil {words : List (List Char)} (h : words ≠ []) : inFront [] words = words := by
  cases words with
  | nil => exact absurd rfl h
  | cons word more => rfl

lemma startsUpper_capitals {rest : List Piece} (hproper : ∀ piece ∈ rest, piece.IsProper)
    (hletters : ∀ piece ∈ rest, piece.letters ≠ []) :
    StartsUpper (rest.flatMap Piece.capital) ∧
      (rest.flatMap Piece.capital = [] ↔ rest = []) := by
  cases rest with
  | nil => exact ⟨by simp [StartsUpper], by simp⟩
  | cons piece rest =>
    obtain ⟨c, letters, hcons⟩ := List.exists_cons_of_ne_nil (hletters piece List.mem_cons_self)
    have hc : c.isLower = true :=
      (hproper piece List.mem_cons_self).letters c (by simp [hcons])
    have hcapital : piece.capital = c.toUpper :: letters ++ piece.digits := by
      simp [Piece.capital, hcons]
    refine ⟨?_, by simp [hcapital]⟩
    simpa [StartsUpper, hcapital] using (hasCase_toUpper hc).1

lemma map_toLower {text : List Char} (h : ∀ c ∈ text, c.isLower = true ∨ c.isDigit = true) :
    text.map Char.toLower = text :=
  (List.map_congr_left fun c hc => toLower_of_isSmall (h c hc)).trans (List.map_id _)

lemma Piece.IsProper.map_digits {piece : Piece} (h : piece.IsProper) :
    piece.digits.map Char.toLower = piece.digits := map_toLower fun c hc => .inr (h.digits c hc)

section

variable {piece : Piece} {rest : List Piece}

/-- The words of pieces with letters after a text that no case is read off, and after a single
capital. Only a second single letter continues that one. -/
def PiecesRead (piece : Piece) (rest : List Piece) : Prop :=
  ∀ word : List Char,
    let text := (piece :: rest).flatMap Piece.capital
    let front := word.map Char.toLower
    lowered (humps .fresh word text) = inFront front (joinPieces (piece :: rest)) ∧
      lowered (humps .upper word text) = if 2 ≤ piece.letters.length
        then front :: joinPieces (piece :: rest) else inFront front (joinPieces (piece :: rest))

/-- A single letter is a word with what follows it, unless that has a case of its own. -/
lemma humps_single {c : Char} (hletters : piece.letters = [c]) (hpiece : piece.IsProper)
    (hproper : ∀ p ∈ rest, p.IsProper) (hrest : ∀ p ∈ rest, p.letters ≠ []) (word : List Char)
    (hread : ∀ next rest', rest = next :: rest' → PiecesRead next rest') (hump : Hump) :
    lowered (humps hump word ((piece :: rest).flatMap Piece.capital)) =
      inFront (word.map Char.toLower) (joinPieces (piece :: rest)) := by
  have hc : c.isLower = true := hpiece.letters c (by simp [hletters])
  have htext : (word ++ c.toUpper :: piece.digits).map Char.toLower =
      word.map Char.toLower ++ piece.text := by
    simp [(hasCase_toUpper hc).2, hpiece.map_digits, Piece.text, hletters]
  obtain ⟨hstarts, hempty⟩ := startsUpper_capitals hproper hrest
  have hcapital : piece.capital = c.toUpper :: piece.digits := by simp [Piece.capital, hletters]
  rw [List.flatMap_cons, hcapital, humps_capital (hasCase_toUpper hc).1 hpiece.digits hstarts]
  cases rest with
  | nil => simpa [lowered, joinPieces, inFront] using htext
  | cons next rest =>
    rw [if_neg (mt hempty.mp (by simp)), (hread next rest rfl _).2, htext, joinPieces]
    by_cases hlong : 2 ≤ next.letters.length
    · simp [hlong, Piece.isApart, hletters, inFront]
    · simp [hlong, Piece.isApart, hletters, inFront_inFront]

/-- Several letters are a word with the digits after them. A single capital before them stays
apart. -/
lemma humps_several {c d : Char} {letters : List Char}
    (hletters : piece.letters = c :: d :: letters) (hpiece : piece.IsProper)
    (hproper : ∀ p ∈ rest, p.IsProper)
    (hrest : ∀ p ∈ rest, p.letters ≠ []) (word : List Char) :
    let more := lowered (humps .fresh [] (rest.flatMap Piece.capital))
    lowered (humps .fresh word ((piece :: rest).flatMap Piece.capital)) =
        (word.map Char.toLower ++ piece.text) :: more ∧
      lowered (humps .upper word ((piece :: rest).flatMap Piece.capital)) =
        word.map Char.toLower :: piece.text :: more := by
  have hsmall : ∀ x ∈ piece.letters, x.isLower = true := hpiece.letters
  have hc : c.isLower = true := hsmall c (by simp [hletters])
  have hd : d.isLower = true := hsmall d (by simp [hletters])
  have hcase := (hasCase_toUpper hc).1
  have hrun : ∀ x ∈ letters ++ piece.digits, x.isLower = true ∨ x.isDigit = true := by
    intro x hx
    rcases List.mem_append.mp hx with hx | hx
    · exact .inl (hsmall x (by simp [hletters, hx]))
    · exact .inr (hpiece.digits x hx)
  have hlow : ∀ front : List Char, (front ++ d :: (letters ++ piece.digits)).map Char.toLower =
      front.map Char.toLower ++ d :: (letters ++ piece.digits) := by
    intro front
    have hsame : (d :: (letters ++ piece.digits)).map Char.toLower =
        d :: (letters ++ piece.digits) := by
      refine map_toLower fun x hx => ?_
      rcases List.mem_cons.mp hx with rfl | hx
      · exact .inl hd
      · exact hrun x hx
    rw [List.map_append, hsame]
  have hword : ∀ (hump : Hump) (front : List Char),
      humps hump front (d :: (letters ++ piece.digits) ++ rest.flatMap Piece.capital) =
        (front ++ d :: (letters ++ piece.digits)) ::
          humps .fresh [] (rest.flatMap Piece.capital) := fun hump front =>
    humps_lower (by simp [Hump.next, (hasCase_of_isLower hd).isLower])
      (hasCase_of_isLower hd).isUpper hrun (startsUpper_capitals hproper hrest).1
  have htext : (piece :: rest).flatMap Piece.capital =
      c.toUpper :: d :: (letters ++ piece.digits ++ rest.flatMap Piece.capital) := by
    simp [Piece.capital, hletters]
  have hnext : ∀ hump : Hump, hump.next c.toUpper = .upper := fun hump => by
    simp [Hump.next, hcase.isLower, hcase.isUpper]
  rw [htext]
  constructor
  · rw [humps, hnext, if_neg (by simp), if_neg (by simp), ← List.cons_append, hword, lowered,
      List.map_cons, hlow]
    simp [(hasCase_toUpper hc).2, Piece.text, hletters, lowered]
  · rw [humps, hnext, if_neg (by simp),
      if_pos ⟨rfl, hcase.isUpper, (hasCase_of_isLower hd).isLower⟩, ← List.cons_append, hword,
      lowered, List.map_cons, List.map_cons, hlow]
    simp [(hasCase_toUpper hc).2, Piece.text, hletters, lowered]

/-- One more piece in front. -/
lemma piecesRead_cons (hpiece : piece.IsProper) (hfront : piece.letters ≠ [])
    (hproper : ∀ p ∈ rest, p.IsProper) (hrest : ∀ p ∈ rest, p.letters ≠ [])
    (hread : ∀ next rest', rest = next :: rest' → PiecesRead next rest') :
    PiecesRead piece rest := by
  intro word text front
  obtain ⟨c, letters, hletters⟩ := List.exists_cons_of_ne_nil hfront
  cases letters with
  | nil =>
    have hsingle := humps_single hletters hpiece hproper hrest word hread
    rw [if_neg (by simp [hletters])]
    exact ⟨hsingle .fresh, hsingle .upper⟩
  | cons d letters =>
    have hjoin : joinPieces (piece :: rest) =
        piece.text :: lowered (humps .fresh [] (rest.flatMap Piece.capital)) := by
      cases rest with
      | nil => rfl
      | cons next rest =>
        have hmore := (hread next rest rfl []).1
        rw [List.map_nil, inFront_nil joinPieces_ne_nil] at hmore
        rw [joinPieces, if_pos (by simp [Piece.isApart, hletters]), hmore]
    rw [if_pos (by simp [hletters]), hjoin]
    exact humps_several hletters hpiece hproper hrest word

lemma piecesRead (hproper : ∀ p ∈ piece :: rest, p.IsProper)
    (hletters : ∀ p ∈ piece :: rest, p.letters ≠ []) : PiecesRead piece rest := by
  induction rest generalizing piece with
  | nil =>
    exact piecesRead_cons (hproper _ List.mem_cons_self) (hletters _ List.mem_cons_self) (by simp)
      (by simp) (by simp)
  | cons next rest ih =>
    have hproper' := fun p hp => hproper p (List.mem_cons_of_mem piece hp)
    have hletters' := fun p hp => hletters p (List.mem_cons_of_mem piece hp)
    refine piecesRead_cons (hproper _ List.mem_cons_self) (hletters _ List.mem_cons_self) hproper'
      hletters' ?_
    rintro _ _ heq
    cases heq
    exact ih hproper' hletters'

/-- The words of the pieces between two underscores. -/
lemma humps_chunk {chunk : List Piece} (h : IsChunk chunk) :
    lowered (humps .fresh [] (chunk.flatMap Piece.capital)) = joinPieces chunk := by
  cases chunk with
  | nil => rfl
  | cons piece rest =>
    cases hpiece : piece.letters with
    | cons c letters =>
      have hletters : ∀ p ∈ piece :: rest, p.letters ≠ [] := by
        intro p hp
        rcases List.mem_cons.mp hp with rfl | hp
        · simp [hpiece]
        · exact h.letters p hp
      have hwords := (piecesRead h.proper hletters []).1
      rwa [List.map_nil, inFront_nil joinPieces_ne_nil] at hwords
    | nil =>
      have hproper := h.proper piece List.mem_cons_self
      have htext : piece.text = piece.digits := by simp [Piece.text, hpiece]
      have hcapital : piece.capital = piece.digits := by simp [Piece.capital, hpiece]
      have hne : piece.digits ≠ [] := htext ▸ hproper.text
      have hproper' := fun p hp => h.proper p (List.mem_cons_of_mem piece hp)
      rw [List.flatMap_cons, hcapital]
      cases rest with
      | nil =>
        rw [List.flatMap_nil, List.append_nil, humps_digits_nil (by simp) hproper.digits hne]
        simp [lowered, joinPieces, htext, hproper.map_digits]
      | cons next rest =>
        have hempty := (startsUpper_capitals hproper' h.letters).2
        have hwords := (piecesRead hproper' h.letters piece.digits).1
        rw [humps_digits (by simp) hproper.digits (mt hempty.mp (by simp)), List.nil_append, hwords,
          hproper.map_digits, joinPieces, if_neg (by simp [Piece.isApart, hpiece]), htext]

end

/-! ### Keys -/

lemma lowerWord_of_ascii {word : List Char} (h : ∀ c ∈ word, c.toNat < 128) :
    lowerWord word = word.map Char.toLower := by
  fun_induction lowerWord word with
  | case1 => rfl
  | case2 =>
    have := h 'Σ' List.mem_cons_self
    revert this
    decide
  | case3 c rest _ ih =>
    rw [ih fun d hd => h d (List.mem_cons_of_mem _ hd), lowerForm,
      if_pos (h c List.mem_cons_self)]
    rfl

lemma isChunk_readable {name : List Char} (h : ∀ c ∈ name, isSnakeChar c = true) :
    ∀ chunk ∈ (chunks (readable name)).1 :: (chunks (readable name)).2, IsChunk chunk := by
  have hx : isSnakeChar 'x' = true := by decide
  have hunderscore : isSnakeChar '_' = true := by decide
  refine (isChunk_chunks ?_).1
  unfold readable
  split
  · next rest =>
    have hrest : ∀ c ∈ rest, isSnakeChar c = true := fun c hc => h c (List.mem_cons_of_mem _ hc)
    split <;> simpa [hx, hunderscore] using hrest
  · exact h

open Laminate.Code in
/-- The key of a name has the words that are read off the name. -/
theorem snakeCase_exportedName {name : String} (h : ∀ c ∈ name.toList, isSnakeChar c = true) :
    snakeCase (exportedName name) = keyText name := by
  have hchunks := isChunk_readable h
  have hwords : words (exportedName name).toList =
      ((chunks (readable name.toList)).1 :: (chunks (readable name.toList)).2).flatMap fun chunk =>
        humps .fresh [] (chunk.flatMap Piece.capital) := by
    rw [words, toList_exportedName h, splitAt_spell hchunks, List.flatMap_map]
  have hlower : ∀ word ∈ words (exportedName name).toList,
      lowerWord word = word.map Char.toLower := by
    intro word hword
    rw [hwords] at hword
    obtain ⟨chunk, hchunk, hword⟩ := List.mem_flatMap.mp hword
    refine lowerWord_of_ascii fun c hc => ?_
    obtain ⟨_, _, hcase⟩ := hasCase_of_mem_chunk (hchunks chunk hchunk) (mem_of_mem_humps hword hc)
    exact hcase.ascii
  have hkeys : (words (exportedName name).toList).map lowerWord = keyWords name := by
    rw [List.map_congr_left hlower, hwords, List.map_flatMap]
    exact List.flatMap_congr fun chunk hchunk => humps_chunk (hchunks chunk hchunk)
  rw [snakeCase, hkeys, keyText]

lemma flatten_inFront (text : List Char) (words : List (List Char)) :
    (inFront text words).flatten = text ++ words.flatten := by
  cases words <;> simp [inFront]

lemma flatten_joinPieces (chunk : List Piece) :
    (joinPieces chunk).flatten = chunk.flatMap Piece.text := by
  fun_induction joinPieces chunk with
  | case1 => rfl
  | case2 piece => simp
  | case3 piece next rest _ ih => simp [ih]
  | case4 piece next rest _ ih => simp [flatten_inFront, ih]

/-- The pieces of a name have all of it but its underscores. -/
lemma flatMap_chunks (name : List Char) :
    ((chunks name).1 :: (chunks name).2).flatMap (fun chunk => chunk.flatMap Piece.text) =
      name.filter (· != '_') := by
  induction name with
  | nil => rfl
  | cons c rest ih =>
    have hdigit : (withDigit c (chunks rest).1).flatMap Piece.text =
        c :: (chunks rest).1.flatMap Piece.text := by
      unfold withDigit
      split <;> simp_all [Piece.text]
    have hletter : ∀ apart, (withLetter c apart (chunks rest).1).flatMap Piece.text =
        c :: (chunks rest).1.flatMap Piece.text := by
      intro apart
      cases (chunks rest).1 with
      | nil => rfl
      | cons piece pieces => cases apart <;> simp [withLetter, Piece.text]
    rw [List.filter_cons, ← ih]
    simp only [chunks]
    split
    · next hc => split <;> simp [hc]
    · next hc => split <;> simp [hc, hdigit, hletter]

/-- Of a name its key keeps everything but the underscores. -/
lemma flatten_keyWords (name : String) :
    (keyWords name).flatten = (readable name.toList).filter (· != '_') := by
  have hflatten : ∀ groups : List (List Piece), (groups.flatMap joinPieces).flatten =
      groups.flatMap fun chunk => chunk.flatMap Piece.text := by
    intro groups
    induction groups with
    | nil => rfl
    | cons chunk groups ih => simp [ih, flatten_joinPieces]
  rw [← flatMap_chunks, ← hflatten]
  rfl

lemma ne_nil_of_mem_inFront {text : List Char} (htext : text ≠ []) {words : List (List Char)}
    (h : ∀ word ∈ words, word ≠ []) : ∀ word ∈ inFront text words, word ≠ [] := by
  cases words with
  | nil => simpa [inFront] using htext
  | cons first words =>
    intro word hword
    rcases List.mem_cons.mp hword with rfl | hword
    · simp [htext]
    · exact h word (List.mem_cons_of_mem _ hword)

lemma ne_nil_of_mem_joinPieces {chunk : List Piece} (h : ∀ piece ∈ chunk, piece.text ≠ []) :
    ∀ word ∈ joinPieces chunk, word ≠ [] := by
  fun_induction joinPieces chunk with
  | case1 => simp
  | case2 piece => simpa using h
  | case3 piece next rest _ ih =>
    intro word hword
    rcases List.mem_cons.mp hword with rfl | hword
    · exact h piece List.mem_cons_self
    · exact ih (fun piece hmem => h piece (List.mem_cons_of_mem _ hmem)) word hword
  | case4 piece next rest _ ih =>
    exact ne_nil_of_mem_inFront (h piece List.mem_cons_self)
      (ih fun piece hmem => h piece (List.mem_cons_of_mem _ hmem))

open Laminate.Schema in
lemma splitAt_intercalate {cut : Char → Bool} {mark : Char} (hmark : cut mark = true)
    {parts : List (List Char)} (hne : parts ≠ []) (h : ∀ part ∈ parts, ∀ c ∈ part, cut c = false) :
    splitAt cut ([mark].intercalate parts) = parts := by
  induction parts with
  | nil => exact absurd rfl hne
  | cons part rest ih =>
    have hpart := splitAt_of_not_mem (h part List.mem_cons_self)
    cases rest with
    | nil => simpa [List.intercalate] using hpart
    | cons next rest =>
      have hrest := ih (by simp) fun part hmem => h part (List.mem_cons_of_mem _ hmem)
      have hcons : [mark].intercalate (part :: next :: rest) =
          part ++ mark :: [mark].intercalate (next :: rest) := by
        simp [List.intercalate]
      rw [hcons, splitAt_append hmark, hpart, hrest]
      rfl

/-- The words of a key can be told from the key. -/
lemma keyText_inj {name name' : String} (h : ∀ c ∈ name.toList, isSnakeChar c = true)
    (h' : ∀ c ∈ name'.toList, isSnakeChar c = true) :
    keyText name = keyText name' ↔ keyWords name = keyWords name' := by
  refine ⟨fun heq => ?_, fun heq => by rw [keyText, heq, keyText]⟩
  have hwords : ∀ {name : String}, (∀ c ∈ name.toList, isSnakeChar c = true) →
      (∀ word ∈ keyWords name, word ≠ []) ∧
        ∀ word ∈ keyWords name, ∀ c ∈ word, (c == '_') = false := by
    intro name h
    constructor
    · intro word hword
      obtain ⟨chunk, hchunk, hword⟩ := List.mem_flatMap.mp hword
      exact ne_nil_of_mem_joinPieces
        (fun piece hpiece => ((isChunk_readable h chunk hchunk).proper piece hpiece).text) word
        hword
    · intro word hword c hc
      have hmem : c ∈ (keyWords name).flatten := List.mem_flatten.mpr ⟨word, hword, hc⟩
      rw [flatten_keyWords, List.mem_filter] at hmem
      simpa using hmem.2
  -- joined words are split where they were joined, but no words and an empty one look alike
  have hsplit : ∀ {name : String}, (∀ c ∈ name.toList, isSnakeChar c = true) →
      keyWords name = (splitAt (· == '_') (keyText name).toList).filter (· != []) := by
    intro name h
    obtain ⟨hne, hplain⟩ := hwords h
    have hfilter : (keyWords name).filter (· != []) = keyWords name :=
      List.filter_eq_self.mpr fun word hword => by simpa using hne word hword
    rw [keyText, joined, String.toList_ofList]
    by_cases hnil : keyWords name = []
    · rw [hnil]
      rfl
    · rw [splitAt_intercalate (by rfl) hnil hplain, hfilter]
  rw [hsplit h, hsplit h', heq]

end Laminate.Text
