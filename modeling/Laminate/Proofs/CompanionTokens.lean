import Laminate.Companion.Token
import Laminate.Proofs.Remainders

/-! The tokens of a text. What each reader of a token leaves is an end of the text, so what is known
of all the ends of the text holds among the tokens: here, of what follows closing angle brackets. -/
namespace Laminate.Companion.Token

open Laminate.Text

variable {text rest : List Char}

/-! ### What is left -/

@[grind →] lemma isEndOf_afterBlock {depth : Nat} (h : afterBlock depth text = some rest) :
    IsEndOf text rest := by
  fun_induction afterBlock depth text <;> grind

@[grind →] lemma isEndOf_readWord {name : String} (h : readWord text = some (name, rest)) :
    IsEndOf text rest := by
  unfold readWord at h
  grind

@[grind →] lemma isEndOf_afterSuffix (h : afterSuffix text = some rest) : IsEndOf text rest := by
  unfold afterSuffix at h
  grind

@[grind →] lemma isEndOf_afterExponent (h : afterExponent text = some rest) :
    IsEndOf text rest := by
  unfold afterExponent at h
  grind

@[grind →] lemma isEndOf_afterFraction (h : afterFraction text = some rest) :
    IsEndOf text rest := by
  have hexponent : ∀ mark tail,
      IsEndOf (mark :: tail) ((afterExponent tail).getD (mark :: tail)) := by
    intro mark tail
    cases htail : afterExponent tail <;> grind
  unfold afterFraction at h
  grind

@[grind →] lemma isEndOf_after {isDigit : Char → Bool}
    (h : afterDigits.after text isDigit = some rest) : IsEndOf text rest := by
  unfold afterDigits.after at h
  grind

@[grind →] lemma isEndOf_afterDigits (h : afterDigits text = some rest) : IsEndOf text rest := by
  unfold afterDigits at h
  grind

@[grind →] lemma isEndOf_afterString {isOctet : Bool} (h : afterString isOctet text = some rest) :
    IsEndOf text rest := by
  fun_induction afterString isOctet text <;> grind

@[grind →] lemma isEndOf_afterRawString {isOctet : Bool} {hashes : List Char}
    (h : afterRawString isOctet hashes text = some rest) : IsEndOf text rest := by
  fun_induction afterRawString isOctet hashes text <;> grind

@[grind →] lemma isEndOf_afterHashes {isOctet : Bool} (h : afterHashes isOctet text = some rest) :
    IsEndOf text rest := by
  unfold afterHashes at h
  grind

@[grind →] lemma isEndOf_afterChar {isOctet : Bool} (h : afterChar isOctet text = some rest) :
    IsEndOf text rest := by
  unfold afterChar at h
  split at h
  · next c inner =>
    have hescape : IsEndOf inner (if c = 'x' then inner.drop 2
        else if c = 'u' then (inner.dropWhile (· != '\x7d')).drop 1 else inner) := by
      split_ifs
      · exact isEndOf_drop 2 inner
      · exact (isEndOf_dropWhile _ inner).trans (isEndOf_drop 1 _)
      · exact .refl inner
    split at h
    · cases h
    · dsimp only at h
      generalize (if c = 'x' then _ else _ : List Char) = left at h hescape
      have hleft := hescape.trans (isEndOf_drop 1 left)
      grind
  · grind
  · cases h

@[grind .] lemma isEndOf_dropSuffix (text : List Char) : IsEndOf text (dropSuffix text) := by
  unfold dropSuffix
  grind

@[grind →] lemma isEndOf_afterLiteral? (h : afterLiteral? text = some rest) :
    IsEndOf text rest := by
  unfold afterLiteral? at h
  grind [Option.map_eq_some_iff, Option.bind_eq_some_iff]

lemma isEndOf_readOne {token : Token} (h : readOne text = some (token, rest)) :
    IsEndOf text rest := by
  unfold readOne at h
  grind [Option.map_eq_some_iff]

/-! ### One token -/

variable {fuel : Nat} {opened : List Char} {tokens : List Token} {c d : Char}

lemma isSign_of_opensSign (h : opensSign (c :: rest) = true) : isSign c = true := by
  unfold opensSign at h
  grind

/-- A sign is one character. -/
lemma readOne_sign {left : List Char} {joint : Bool}
    (h : readOne (c :: rest) = some (.sign d joint, left)) :
    isSign c = true ∧ d = c ∧ left = rest := by
  unfold readOne at h
  grind [Option.map_eq_some_iff, isSign_of_opensSign]

/-- The tokens of a text after the reading of its front, which is white space or a comment and
passed over, or a token. -/
def FrontRead (fuel : Nat) (c : Char) (rest : List Char) (tokens : List Token) : Prop :=
  ∃ opened left, IsEndOf (c :: rest) left ∧
    ((isSpacing c = true ∨ c = '/') ∧ readAll fuel opened left = some tokens ∨
      ∃ token more, tokens = token :: more ∧ readAll fuel opened left = some more ∧
        ∀ d joint, token = .sign d joint → isSign c = true ∧ d = c ∧ left = rest)

lemma frontRead_bracket {token : Token} (htoken : ∀ d joint, token ≠ .sign d joint)
    (h : (readAll fuel opened rest).map (token :: ·) = some tokens) :
    FrontRead fuel c rest tokens := by
  obtain ⟨more, hmore, rfl⟩ := Option.map_eq_some_iff.mp h
  exact ⟨opened, rest, isEndOf_cons.mpr (.inr (.refl rest)),
    .inr ⟨token, more, rfl, hmore, fun d joint heq => absurd heq (htoken d joint)⟩⟩

lemma frontRead (h : readAll (fuel + 1) opened (c :: rest) = some tokens) :
    FrontRead fuel c rest tokens := by
  have hrest : IsEndOf (c :: rest) rest := isEndOf_cons.mpr (.inr (.refl rest))
  have hslash : opensLine (c :: rest) = true ∨ opensBlock (c :: rest) = true → c = '/' := by
    intro h
    unfold opensLine opensBlock at h
    grind
  unfold readAll at h
  by_cases hspace : isSpacing c = true
  · rw [if_pos hspace] at h
    exact ⟨opened, rest, hrest, .inl ⟨.inl hspace, h⟩⟩
  rw [if_neg hspace] at h
  by_cases hline : opensLine (c :: rest) = true
  · rw [if_pos hline] at h
    exact ⟨opened, _, hrest.trans (isEndOf_dropWhile _ rest), .inl ⟨.inr (hslash (.inl hline)), h⟩⟩
  rw [if_neg hline] at h
  by_cases hblock : opensBlock (c :: rest) = true
  · rw [if_pos hblock] at h
    split at h
    · next left hleft =>
      exact ⟨opened, left, isEndOf_afterBlock hleft, .inl ⟨.inr (hslash (.inr hblock)), h⟩⟩
    · cases h
  rw [if_neg hblock] at h
  by_cases hparen : c = '('
  · rw [if_pos hparen] at h
    exact frontRead_bracket (by simp) h
  rw [if_neg hparen] at h
  by_cases hsquare : c = '['
  · rw [if_pos hsquare] at h
    exact frontRead_bracket (by simp) h
  rw [if_neg hsquare] at h
  by_cases hbrace : c = '\x7b'
  · rw [if_pos hbrace] at h
    exact frontRead_bracket (by simp) h
  rw [if_neg hbrace] at h
  by_cases hclosing : (c = ')' || c = ']' || c = '\x7d') = true
  · rw [if_pos hclosing] at h
    split at h
    · split at h
      · exact frontRead_bracket (by simp) h
      · cases h
    · cases h
  rw [if_neg hclosing] at h
  split at h
  · next token left hone =>
    obtain ⟨more, hmore, rfl⟩ := Option.map_eq_some_iff.mp h
    refine ⟨opened, left, isEndOf_readOne hone, .inr ⟨token, more, rfl, hmore, ?_⟩⟩
    rintro d joint rfl
    exact readOne_sign hone
  · cases h

/-- A sign that opens neither a comment nor a lifetime is a token. -/
lemma readAll_sign (hc : c ∈ ['<', '>', ',', ':'])
    (h : readAll fuel opened (c :: rest) = some tokens) :
    ∃ fuel' more, tokens = .sign c (opensSign rest) :: more ∧
      readAll fuel' opened rest = some more := by
  cases fuel with
  | zero => cases h
  | succ fuel =>
    have hread : readAll (fuel + 1) opened (c :: rest) =
        (readAll fuel opened rest).map (.sign c (opensSign rest) :: ·) := by
      simp only [List.mem_cons, List.not_mem_nil, or_false] at hc
      have hspace : isSpacing c = false := by
        rcases hc with rfl | rfl | rfl | rfl <;> decide
      have hone : readOne (c :: rest) = some (.sign c (opensSign rest), rest) := by
        rcases hc with rfl | rfl | rfl | rfl <;> rfl
      rcases hc with rfl | rfl | rfl | rfl <;>
        simp [readAll, opensLine, opensBlock, hspace, hone]
    rw [hread] at h
    obtain ⟨more, hmore, rfl⟩ := Option.map_eq_some_iff.mp h
    exact ⟨fuel, more, rfl, hmore⟩

/-- What opens with a letter opens with no sign. -/
lemma readAll_letter (hspace : isSpacing c = false) (hsign : isSign c = false)
    (h : readAll fuel opened (c :: rest) = some tokens) :
    ∃ token more, tokens = token :: more ∧ ∀ d joint, token ≠ .sign d joint := by
  cases fuel with
  | zero => cases h
  | succ fuel =>
    obtain ⟨opened', left, -, ⟨hc, -⟩ | ⟨token, more, rfl, -, htoken⟩⟩ := frontRead h
    · rcases hc with hc | rfl
      · simp [hspace] at hc
      · exact absurd hsign (by decide)
    · refine ⟨token, more, rfl, fun d joint heq => ?_⟩
      simp [(htoken d joint heq).1] at hsign

/-- The letters that the types of other types open with. -/
def headLetters : List Char := ['O', 'V', 'H', 's', 'c']

lemma class_headLetter (hc : c ∈ headLetters) : isSpacing c = false ∧ isWordStart c = true := by
  simp only [headLetters, List.mem_cons, List.not_mem_nil, or_false] at hc
  rcases hc with rfl | rfl | rfl | rfl | rfl <;> decide

lemma afterLiteral?_headLetter (hc : c ∈ headLetters) (text : List Char) :
    afterLiteral? (c :: text) = none := by
  simp only [headLetters, List.mem_cons, List.not_mem_nil, or_false] at hc
  rcases hc with rfl | rfl | rfl | rfl | rfl <;> simp [afterLiteral?, afterFraction, afterDigits]

lemma readOne_headLetter {text : List Char} (hc : c ∈ headLetters)
    (hhead : (literalHeads.any fun head => head.toList.isPrefixOf (c :: text)) = false) :
    readOne (c :: text) = some (.word (String.ofList (c :: text.takeWhile isNameContinue)),
      text.dropWhile isNameContinue) := by
  obtain ⟨-, hstart⟩ := class_headLetter hc
  have hliteral := afterLiteral?_headLetter hc text
  simp only [headLetters, List.mem_cons, List.not_mem_nil, or_false] at hc
  rcases hc with rfl | rfl | rfl | rfl | rfl <;>
    simp [readOne, hliteral, opensSign, isSign, hhead, readWord, hstart]

/-- A word is a token, up to a character that can be no part of it. -/
lemma readAll_word {word : List Char} (hc : c ∈ headLetters)
    (hword : word.all isNameContinue = true) (hstop : isNameContinue d = false)
    (hhead : (literalHeads.any fun head => head.toList.isPrefixOf (c :: (word ++ d :: rest))) =
      false)
    (h : readAll fuel opened (c :: (word ++ d :: rest)) = some tokens) :
    ∃ fuel' more, tokens = .word (String.ofList (c :: word)) :: more ∧
      readAll fuel' opened (d :: rest) = some more := by
  cases fuel with
  | zero => cases h
  | succ fuel =>
    obtain ⟨hspace, -⟩ := class_headLetter hc
    have hone := readOne_headLetter hc hhead
    have hchars := List.all_eq_true.mp hword
    rw [List.takeWhile_append_of_pos hchars, List.dropWhile_append_of_pos hchars,
      List.takeWhile_cons_of_neg (by simp [hstop]), List.dropWhile_cons_of_neg (by simp [hstop]),
      List.append_nil] at hone
    have hread : readAll (fuel + 1) opened (c :: (word ++ d :: rest)) =
        (readAll fuel opened (d :: rest)).map (.word (String.ofList (c :: word)) :: ·) := by
      simp only [headLetters, List.mem_cons, List.not_mem_nil, or_false] at hc
      rcases hc with rfl | rfl | rfl | rfl | rfl <;>
        simp [readAll, opensLine, opensBlock, hspace, hone]
    rw [hread] at h
    obtain ⟨more, hmore, rfl⟩ := Option.map_eq_some_iff.mp h
    exact ⟨fuel, more, rfl, hmore⟩

/-- The words that name the types of other types. -/
def headWords : List String := ["Option", "Vec", "std", "collections", "HashMap"]

/-- A text that opens with a word and a mark that may stand after it. -/
lemma readAll_headWord {name : String} (hname : name ∈ headWords) (hd : d = '<' ∨ d = ':')
    (h : readAll fuel opened (name.toList ++ d :: rest) = some tokens) :
    ∃ fuel' more, tokens = .word name :: more ∧ readAll fuel' opened (d :: rest) = some more := by
  have hstop : isNameContinue d = false := by
    rcases hd with rfl | rfl <;> decide
  simp only [headWords, List.mem_cons, List.not_mem_nil, or_false] at hname
  rcases hname with rfl | rfl | rfl | rfl | rfl <;>
    exact readAll_word (by decide) (by decide) hstop rfl h

/-! ### Closing angle brackets -/

/-- Whether each closing angle bracket of a text is followed by another one, a comma or nothing. -/
def closesAngles : List Char → Bool
  | [] => true
  | '>' :: rest => rest.head?.all (fun c => c == '>' || c == ',') && closesAngles rest
  | _ :: rest => closesAngles rest

/-- What may follow a closing angle bracket. -/
def endsType : List Token → Bool
  | [] => true
  | .sign c _ :: _ => c == '>' || c == ','
  | _ => false

/-- Each closing angle bracket ends a type. -/
def EndsTypes (tokens : List Token) : Prop :=
  ∀ joint rest, IsEndOf tokens (.sign '>' joint :: rest) → endsType rest = true

lemma closesAngles_of_isEndOf (h : IsEndOf text rest) (hclose : closesAngles text = true) :
    closesAngles rest = true := by
  induction text with
  | nil =>
    rw [List.suffix_nil.mp h]
    rfl
  | cons c text ih =>
    rcases isEndOf_cons.mp h with rfl | h
    · exact hclose
    · refine ih h ?_
      unfold closesAngles at hclose
      grind

lemma endsTypes_nil : EndsTypes [] :=
  fun _ _ h => absurd (List.suffix_nil.mp h) (by simp)

lemma eq_nil_of_readAll (h : readAll fuel opened [] = some tokens) : tokens = [] := by
  unfold readAll at h
  grind

/-- What follows a closing angle bracket in a text is what may follow it among the tokens. -/
lemma endsType_of_readAll (hclose : closesAngles ('>' :: text) = true)
    (h : readAll fuel opened text = some tokens) : endsType tokens = true := by
  cases text with
  | nil =>
    rw [eq_nil_of_readAll h]
    rfl
  | cons c text =>
    have hc : c = '>' ∨ c = ',' := by
      simpa using (Bool.and_eq_true_iff.mp hclose).1
    obtain ⟨fuel', more, rfl, -⟩ := readAll_sign (by rcases hc with rfl | rfl <;> decide) h
    rcases hc with rfl | rfl <;> rfl

/-- Where the closing angle brackets of a text are followed as those of types are, so are those
among its tokens. -/
theorem endsTypes_of_readAll (hclose : closesAngles text = true)
    (h : readAll fuel opened text = some tokens) : EndsTypes tokens := by
  induction fuel generalizing opened text tokens with
  | zero =>
    cases text with
    | nil =>
      rw [eq_nil_of_readAll h]
      exact endsTypes_nil
    | cons c text => cases h
  | succ fuel ih =>
    cases text with
    | nil =>
      rw [eq_nil_of_readAll h]
      exact endsTypes_nil
    | cons c text =>
      obtain ⟨opened', left, hleft, hread⟩ := frontRead h
      have hclosed := closesAngles_of_isEndOf hleft hclose
      rcases hread with ⟨-, hread⟩ | ⟨token, more, rfl, hmore, htoken⟩
      · exact ih hclosed hread
      · intro joint rest hend
        rcases isEndOf_cons.mp hend with heq | hend
        · obtain ⟨rfl, rfl⟩ := List.cons.inj heq
          obtain ⟨-, rfl, rfl⟩ := htoken '>' joint rfl
          exact endsType_of_readAll hclose hmore
        · exact ih hclosed hmore joint rest hend

end Laminate.Companion.Token
