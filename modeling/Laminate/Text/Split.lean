import Laminate.Text.Class

/-! Cutting text at single characters.
Nothing is lost: pieces joined again by the character they were cut at give the text back. -/
namespace Laminate.Text

/-- The pieces between the characters of a class, one more than there are such characters. -/
def splitAt (cut : Char → Bool) : List Char → List (List Char)
  | [] => [[]]
  | c :: rest =>
    match splitAt cut rest with
    | [] => [[]]
    | piece :: pieces => if cut c then [] :: piece :: pieces else (c :: piece) :: pieces

/-- What stands before and after the first `mark`. -/
def cutFirst (mark : Char) : List Char → Option (List Char × List Char)
  | [] => none
  | c :: rest =>
    if c = mark then some ([], rest)
    else (cutFirst mark rest).map fun (before, after) => (c :: before, after)

/-- What stands before and after the last `mark`. -/
def cutLast (mark : Char) : List Char → Option (List Char × List Char)
  | [] => none
  | c :: rest =>
    match cutLast mark rest with
    | some (before, after) => some (c :: before, after)
    | none => if c = mark then some ([], rest) else none

/-- A run of a class is told from the rest by the first character of the rest. -/
theorem span_append {p : Char → Bool} {run rest : List Char} (hrun : ∀ c ∈ run, p c = true)
    (hrest : ∀ c ∈ rest.head?, p c = false) :
    (run ++ rest).takeWhile p = run ∧ (run ++ rest).dropWhile p = rest := by
  rw [List.takeWhile_append_of_pos hrun, List.dropWhile_append_of_pos hrun]
  cases rest with
  | nil => simp
  | cons c rest =>
    have hc : p c = false := hrest c rfl
    simp [hc]

theorem splitAt_ne_nil (cut : Char → Bool) (text : List Char) : splitAt cut text ≠ [] := by
  cases text with
  | nil => simp [splitAt]
  | cons c rest =>
    simp only [splitAt]
    split
    · simp
    · split <;> simp

theorem cutFirst_eq_some {mark : Char} {text before after : List Char}
    (h : cutFirst mark text = some (before, after)) :
    text = before ++ mark :: after ∧ mark ∉ before := by
  induction text generalizing before with
  | nil => simp [cutFirst] at h
  | cons c rest ih =>
    simp only [cutFirst] at h
    split at h
    · next hc => simp_all
    · next hc =>
      obtain ⟨⟨b, a⟩, hba, hpair⟩ := Option.map_eq_some_iff.mp h
      simp only [Prod.mk.injEq] at hpair
      obtain ⟨rfl, rfl⟩ := hpair
      obtain ⟨rfl, hnot⟩ := ih hba
      simp [hnot, Ne.symm hc]

theorem cutFirst_eq_none {mark : Char} {text : List Char} :
    cutFirst mark text = none ↔ mark ∉ text := by
  induction text with
  | nil => simp [cutFirst]
  | cons c rest ih =>
    by_cases hc : c = mark
    · simp [cutFirst, hc]
    · simp [cutFirst, hc, ih, Ne.symm hc]

theorem cutLast_eq_none {mark : Char} {text : List Char} :
    cutLast mark text = none ↔ mark ∉ text := by
  induction text with
  | nil => simp [cutLast]
  | cons c rest ih =>
    simp only [cutLast]
    split
    · next h => simp_all
    · next h =>
      rw [ih] at h
      by_cases hc : c = mark
      · simp [hc]
      · simp [hc, h, Ne.symm hc]

theorem cutLast_eq_some {mark : Char} {text before after : List Char}
    (h : cutLast mark text = some (before, after)) :
    text = before ++ mark :: after ∧ mark ∉ after := by
  induction text generalizing before with
  | nil => simp [cutLast] at h
  | cons c rest ih =>
    simp only [cutLast] at h
    split at h
    · next b a hba =>
      simp only [Option.some.injEq, Prod.mk.injEq] at h
      obtain ⟨rfl, rfl⟩ := h
      obtain ⟨rfl, hnot⟩ := ih hba
      simp [hnot]
    · next hnone =>
      split at h
      · next hc =>
        simp only [Option.some.injEq, Prod.mk.injEq] at h
        obtain ⟨rfl, rfl⟩ := h
        simp [hc, cutLast_eq_none.mp hnone]
      · simp at h

/-- Text without the characters of a class at either end. -/
def trimBoth (drop : Char → Bool) (text : List Char) : List Char :=
  ((text.dropWhile drop).reverse.dropWhile drop).reverse

/-- The pieces of a string between the characters of a class. -/
def pieces (cut : Char → Bool) (s : String) : List String :=
  (splitAt cut s.toList).map String.ofList

/-- The two parts of a string around its first `mark`. -/
def around? (mark : Char) (s : String) : Option (String × String) :=
  (cutFirst mark s.toList).map fun (before, after) => (String.ofList before, String.ofList after)

/-- The two parts of a string around its last `mark`. -/
def aroundLast? (mark : Char) (s : String) : Option (String × String) :=
  (cutLast mark s.toList).map fun (before, after) => (String.ofList before, String.ofList after)

/-- A string without white space at either end. -/
def trim (s : String) : String := String.ofList (trimBoth isBlank s.toList)

/-- A string without white space at its end. -/
def trimEnd (s : String) : String :=
  String.ofList (s.toList.reverse.dropWhile isBlank).reverse

/-- A string without `mark`s at its start. -/
def dropLeading (mark : Char) (s : String) : String :=
  String.ofList (s.toList.dropWhile (· == mark))

/-- The part from the last `mark` on, or the whole string where there is none. -/
def lastPiece (mark : Char) (s : String) : String :=
  match aroundLast? mark s with
  | some (_, after) => after
  | none => s

/-- Every character of a class replaced. -/
def replaceAll (old : Char → Bool) (new : Char) (s : String) : String :=
  String.ofList (s.toList.map fun c => if old c then new else c)

/-- The string without `tail` at its end, where it ends so. -/
def dropTail? (tail s : String) : Option String :=
  (tail.toList.isSuffixOf? s.toList).map String.ofList

/-- The string without `head` at its start, where it starts so. -/
def dropHead? (head s : String) : Option String :=
  (head.toList.isPrefixOf? s.toList).map String.ofList

/-- Length in octets of the eight-bit encoding form. -/
def octets (s : String) : Nat := s.utf8ByteSize

end Laminate.Text
