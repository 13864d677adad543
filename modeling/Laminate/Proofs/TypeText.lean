import Laminate.Proofs.Packages

/-! Scans of types, which go by their brackets.
The text of a type is words with marks and brackets around them, so keys end where they should. -/
namespace Laminate.Code

open Laminate.Text

lemma isBlank_of_isIdentChar {c : Char} (h : isIdentChar c = true) : isBlank c = false := by
  have hblanks : ∀ n ∈ List.range' 9 5 ++ List.range' 0x2000 11 ++
      [32, 0x85, 0xa0, 0x1680, 0x2028, 0x2029, 0x202f, 0x205f, 0x3000],
      isIdentChar (Char.ofNat n) = false := by
    decide +kernel
  rw [Bool.eq_false_iff]
  intro hblank
  have hident := hblanks c.toNat (by
    simp only [isBlank, Bool.or_eq_true, Bool.and_eq_true, decide_eq_true_eq, beq_iff_eq] at hblank
    simp only [List.mem_append, List.mem_range'_1, List.mem_cons, List.not_mem_nil, or_false]
    rcases hblank with (((((((((h | h) | h) | h) | h) | h) | h) | h) | h) | h) | h <;> omega)
  rw [Char.ofNat_toNat, h] at hident
  cases hident

/-- Marks and brackets are no part of names. -/
lemma not_isNamed_of_mark {c : Char} (h : c = '*' ∨ c = '[' ∨ c = ']') :
    ¬ (isIdentChar c = true ∨ c = '.') := by
  rcases h with rfl | rfl | rfl <;> decide

/-- A bracketed text within which every bracket closes. -/
def IsBalanced (text : List Char) : Prop :=
  ∀ depth rest, closeBracket depth (text ++ rest) =
    (closeBracket depth rest).map fun (inner, after) => (text ++ inner, after)

namespace IsBalanced

lemma nil : IsBalanced [] := fun depth rest => by simp

lemma append {a b : List Char} (ha : IsBalanced a) (hb : IsBalanced b) : IsBalanced (a ++ b) := by
  intro depth rest
  rw [List.append_assoc, ha, hb, Option.map_map]
  congr 1
  funext p
  simp

lemma single {c : Char} (h : c ≠ '[') (h' : c ≠ ']') : IsBalanced [c] := by
  intro depth rest
  simp [closeBracket, h, h']

lemma ofNames {text : List Char} (h : ∀ c ∈ text, isIdentChar c = true ∨ c = '.') :
    IsBalanced text := by
  induction text with
  | nil => exact nil
  | cons c rest ih =>
    have hc := h c List.mem_cons_self
    have hopening : c ≠ '[' := fun heq => not_isNamed_of_mark (.inr (.inl heq)) hc
    have hclosing : c ≠ ']' := fun heq => not_isNamed_of_mark (.inr (.inr heq)) hc
    exact (single hopening hclosing).append (ih fun c hc => h c (List.mem_cons_of_mem _ hc))

lemma closed {text : List Char} (h : IsBalanced text) (depth : Nat) (rest : List Char) :
    closeBracket depth (text ++ ']' :: rest) =
      match depth with
      | 0 => some (text, rest)
      | depth + 1 => (closeBracket depth rest).map fun (inner, after) =>
          (text ++ ']' :: inner, after) := by
  rw [h]
  cases depth with
  | zero => simp [closeBracket]
  | succ depth =>
    rw [closeBracket, if_pos rfl, Option.map_map]
    rfl

lemma bracketed {text : List Char} (h : IsBalanced text) : IsBalanced ('[' :: text ++ [']']) := by
  intro depth rest
  have hopen : closeBracket depth ('[' :: (text ++ ']' :: rest)) =
      (closeBracket (depth + 1) (text ++ ']' :: rest)).map fun (inner, after) =>
        ('[' :: inner, after) := by
    rw [closeBracket.eq_def]
    simp
  simp only [List.cons_append, List.append_assoc, List.nil_append] at *
  rw [hopen, h.closed, Option.map_map]
  rfl

end IsBalanced

/-- A text of names and dots, as opposed to the marks and brackets of a type. -/
def IsWord (text : List Char) : Prop := ∀ c ∈ text, isIdentChar c = true ∨ c = '.'

lemma isWord_of_isIdentifier {name : String} (h : isIdentifier name = true) :
    IsWord name.toList := by
  obtain ⟨c, rest, hname, -, hall⟩ := isIdentifier_iff.mp h
  rw [hname]
  exact fun x hx => .inl (hall x hx)

lemma IsWord.append {a b : List Char} (ha : IsWord a) (hb : IsWord b) : IsWord (a ++ b) := by
  intro c hc
  rcases List.mem_append.mp hc with hc | hc
  · exact ha c hc
  · exact hb c hc

namespace TypeRef

/-- The texts of types are words, with marks and brackets around them. -/
lemma text_induction {motive : List Char → Prop} (word : ∀ {text}, IsWord text → motive text)
    (star : ∀ {text}, motive text → motive ('*' :: text))
    (bracketed : ∀ {a b c}, IsWord a → motive b → motive c → motive (a ++ ('[' :: b ++ ']' :: c)))
    {t : TypeRef} (spelled : t.isSpelled = true) : motive t.text.toList := by
  have hword : ∀ {name : String}, isIdentifier name = true → motive name.toList :=
    fun h => word (isWord_of_isIdentifier h)
  have hnil : IsWord [] := fun c hc => absurd hc (by simp)
  have hbyte : isIdentifier "byte" = true := by decide
  induction t with
  | builtin scalar =>
    cases scalar with
    | bytes =>
      exact bracketed (b := []) hnil (word hnil) (hword hbyte)
    | _ => exact hword (by decide)
  | named name => exact hword spelled
  | qualified package name =>
    simp only [isSpelled, Bool.and_eq_true, Bool.or_eq_true] at spelled
    unfold text
    split
    · exact hword spelled.2
    · next hempty =>
      have hpackage := isWord_of_isIdentifier (spelled.1.resolve_left hempty)
      have hdot : IsWord ".".toList := fun c hc => .inr (List.mem_singleton.mp hc)
      rw [String.toList_append, String.toList_append]
      exact word ((hpackage.append hdot).append (isWord_of_isIdentifier spelled.2))
  | pointer target ih =>
    rw [text, String.toList_append]
    exact star (ih spelled)
  | slice element ih =>
    rw [text, String.toList_append]
    exact bracketed (b := []) hnil (word hnil) (ih spelled)
  | map key value ihk ihv =>
    simp only [isSpelled, Bool.and_eq_true] at spelled
    have hmap : IsWord "map".toList := isWord_of_isIdentifier (by decide)
    simpa [text] using bracketed hmap (ihk spelled.1) (ihv spelled.2)

lemma isBalanced_text {t : TypeRef} (spelled : t.isSpelled = true) :
    IsBalanced t.text.toList := by
  refine text_induction .ofNames ?_ ?_ spelled
  · exact fun h => (IsBalanced.single (by decide) (by decide)).append h
  · intro a b c ha hb hc
    simpa using ((IsBalanced.ofNames ha).append hb.bracketed).append hc

/-- No character of a type's text is white space. -/
lemma not_blank {t : TypeRef} (spelled : t.isSpelled = true) :
    ∀ c ∈ t.text.toList, isBlank c = false := by
  have hword : ∀ {text}, IsWord text → ∀ c ∈ text, isBlank c = false := by
    intro text h c hc
    rcases h c hc with h | rfl
    · exact isBlank_of_isIdentChar h
    · decide
  refine text_induction (motive := fun text => ∀ c ∈ text, isBlank c = false) hword ?_ ?_ spelled
  · simp only [List.forall_mem_cons]
    exact fun h => ⟨by decide, h⟩
  · intro a b c ha hb hc
    simp only [List.forall_mem_append, List.forall_mem_cons, List.cons_append]
    exact ⟨hword ha, by decide, hb, by decide, hc⟩

end TypeRef

lemma trimBoth_of_not_blank {text : List Char} (h : ∀ c ∈ text, isBlank c = false) :
    trimBoth isBlank text = text := by
  have hdrop : ∀ {text : List Char}, (∀ c ∈ text, isBlank c = false) →
      text.dropWhile isBlank = text := by
    intro text h
    cases text with
    | nil => rfl
    | cons c rest => simp [h c List.mem_cons_self]
  unfold trimBoth
  rw [hdrop h, hdrop (fun c hc => h c (List.mem_reverse.mp hc)), List.reverse_reverse]

lemma stripMarks_of_isWord {text : List Char} (h : IsWord text) : stripMarks text = text := by
  cases text with
  | nil => rfl
  | cons c rest =>
    have hc := h c List.mem_cons_self
    unfold stripMarks
    split
    · next heq =>
      cases heq
      exact absurd hc (not_isNamed_of_mark (.inl rfl))
    · next heq =>
      cases heq
      exact absurd hc (not_isNamed_of_mark (.inr (.inl rfl)))
    · rfl

lemma dot_not_mem {name : String} (h : isIdentifier name = true) : '.' ∉ name.toList := by
  obtain ⟨c, rest, hname, -, hall⟩ := isIdentifier_iff.mp h
  rw [hname]
  exact fun hmem => ne_dot_of_isIdentChar (hall '.' hmem) rfl

/-- A word of a type is up to its first dot a package, and is no map. -/
lemma typeQualifiers_of_isWord {text word : List Char} (h : IsWord word)
    (hstrip : stripMarks (trimBoth isBlank text) = word) :
    typeQualifiers text =
      (((cutFirst '.' word).map fun (before, _) => String.ofList before).toList, none) := by
  rw [typeQualifiers.eq_def]
  split
  · next rest hs =>
    rw [hstrip] at hs
    exact absurd (h '[' (by simp [hs])) (not_isNamed_of_mark (.inr (.inl rfl)))
  · rw [hstrip]
    cases cutFirst '.' word <;> rfl

/-- The packages of a map's text are those of its key and those of its value. -/
lemma typeQualifiers_of_map {text key value : List Char} {found found' : List String}
    (hstrip : stripMarks (trimBoth isBlank text) =
      'm' :: 'a' :: 'p' :: '[' :: (key ++ ']' :: value))
    (hkey : IsBalanced key) (hfound : typeQualifiers key = (found, none))
    (hfound' : typeQualifiers value = (found', none)) :
    typeQualifiers text = (found ++ found', none) := by
  rw [typeQualifiers.eq_def]
  split
  · next rest hs =>
    rw [hstrip] at hs
    injection hs with _ hs
    injection hs with _ hs
    injection hs with _ hs
    injection hs with _ hs
    subst hs
    have hclose := hkey.closed 0 value
    split
    · next hnone => rw [hclose] at hnone; cases hnone
    · next key' value' hsome =>
      rw [hclose] at hsome
      cases hsome
      simp only [hfound, hfound']
  · next hne => exact absurd hstrip (hne _)

lemma cutFirst_append {mark : Char} {before after : List Char} (h : mark ∉ before) :
    cutFirst mark (before ++ mark :: after) = some (before, after) := by
  induction before with
  | nil => simp [cutFirst]
  | cons c rest ih =>
    simp only [List.mem_cons, not_or] at h
    simp [cutFirst, Ne.symm h.1, ih h.2]

namespace TypeRef

/-- A scan of a type's text has the packages of the type, in order and without a fault; a text that
differs in its marks alone has the same ones. -/
lemma typeQualifiers_of_strip {t : TypeRef} (spelled : t.isSpelled = true) {text : List Char}
    (hstrip : stripMarks (trimBoth isBlank text) = stripMarks t.text.toList) :
    typeQualifiers text = (t.packages, none) := by
  have hname : ∀ {name : String} {text : List Char}, isIdentifier name = true →
      stripMarks (trimBoth isBlank text) = stripMarks name.toList →
      typeQualifiers text = ([], none) := by
    intro name text h hstrip
    have hword := isWord_of_isIdentifier h
    rw [stripMarks_of_isWord hword] at hstrip
    rw [typeQualifiers_of_isWord hword hstrip, cutFirst_eq_none.mpr (dot_not_mem h)]
    rfl
  have hbyte : isIdentifier "byte" = true := by decide
  induction t generalizing text with
  | builtin scalar =>
    cases scalar with
    | bytes => exact hname hbyte hstrip
    | _ => exact hname (by decide) hstrip
  | named name => exact hname spelled hstrip
  | qualified package name =>
    simp only [isSpelled, Bool.and_eq_true, Bool.or_eq_true] at spelled
    unfold TypeRef.text at hstrip
    unfold packages
    split at hstrip
    · next hempty => rw [if_pos hempty, hname spelled.2 hstrip]
    · next hempty =>
      have hpackage := spelled.1.resolve_left hempty
      have htext : (package ++ "." ++ name).toList = package.toList ++ '.' :: name.toList := by simp
      have hword : IsWord (package.toList ++ '.' :: name.toList) := by
        refine (isWord_of_isIdentifier hpackage).append fun c hc => ?_
        rcases List.mem_cons.mp hc with rfl | hc
        · exact .inr rfl
        · exact isWord_of_isIdentifier spelled.2 c hc
      rw [htext, stripMarks_of_isWord hword] at hstrip
      rw [if_neg hempty, typeQualifiers_of_isWord hword hstrip,
        cutFirst_append (dot_not_mem hpackage)]
      simp
  | pointer target ih =>
    rw [TypeRef.text, String.toList_append] at hstrip
    exact ih spelled hstrip
  | slice element ih =>
    rw [TypeRef.text, String.toList_append] at hstrip
    exact ih spelled hstrip
  | map key value ihk ihv =>
    simp only [isSpelled, Bool.and_eq_true] at spelled
    have htext : (map key value).text.toList =
        'm' :: 'a' :: 'p' :: '[' :: (key.text.toList ++ ']' :: value.text.toList) := by
      simp [TypeRef.text]
    rw [htext] at hstrip
    have hself : ∀ {t : TypeRef}, t.isSpelled = true →
        stripMarks (trimBoth isBlank t.text.toList) = stripMarks t.text.toList :=
      fun h => by rw [trimBoth_of_not_blank (not_blank h)]
    exact typeQualifiers_of_map hstrip (isBalanced_text spelled.1)
      (ihk spelled.1 (hself spelled.1)) (ihv spelled.2 (hself spelled.2))

theorem typeQualifiers_text {t : TypeRef} (spelled : t.isSpelled = true) :
    typeQualifiers t.text.toList = (t.packages, none) := by
  refine typeQualifiers_of_strip spelled ?_
  rw [trimBoth_of_not_blank (not_blank spelled)]

end TypeRef

end Laminate.Code
