import Laminate.Text.Split
import Mathlib.Data.List.DropRight
import Mathlib.Tactic.Lemma

/-! Trimming keeps what is trimmed already, and loses nothing but white space at the ends. -/
namespace Laminate.Text

/-- Text without white space at either end. -/
def IsTrimmed (text : List Char) : Prop :=
  (∀ c ∈ text.head?, isBlank c = false) ∧ ∀ c ∈ text.getLast?, isBlank c = false

-- Only the two characters in question are looked at, not all that there are.
instance (text : List Char) : Decidable (IsTrimmed text) :=
  decidable_of_iff (text.head?.all (!isBlank ·) ∧ text.getLast?.all (!isBlank ·)) (by
    simp [IsTrimmed, Option.all_eq_true])

lemma head?_dropWhile (p : Char → Bool) (text : List Char) :
    ∀ c ∈ (text.dropWhile p).head?, p c = false := by
  intro c hc
  have h := List.head?_dropWhile_not p text
  rw [Option.mem_def.mp hc] at h
  exact h

lemma isTrimmed_trimBoth (text : List Char) : IsTrimmed (trimBoth isBlank text) := by
  constructor
  · intro c hc
    obtain ⟨rest, hrest⟩ : ∃ rest, trimBoth isBlank text = c :: rest :=
      List.head?_eq_some_iff.mp hc
    obtain ⟨after, hafter⟩ : trimBoth isBlank text <+: text.dropWhile isBlank :=
      List.rdropWhile_prefix _ _
    refine head?_dropWhile isBlank text c ?_
    rw [← hafter, hrest]
    rfl
  · rw [trimBoth, List.getLast?_reverse]
    exact head?_dropWhile isBlank _

lemma trimBoth_of_isTrimmed {text : List Char} (h : IsTrimmed text) :
    trimBoth isBlank text = text := by
  have hfront : text.dropWhile isBlank = text := by
    cases text with
    | nil => rfl
    | cons c rest => exact List.dropWhile_cons_of_neg (by simp [h.1 c rfl])
  rw [trimBoth, hfront]
  refine List.rdropWhile_eq_self_iff.mpr fun hne => ?_
  rw [h.2 _ (List.getLast?_eq_some_getLast hne)]
  exact Bool.false_ne_true

lemma IsTrimmed.append {front back : List Char} (hfront : IsTrimmed front)
    (hback : IsTrimmed back) : IsTrimmed (front ++ back) := by
  by_cases hne : front = []
  · rwa [hne, List.nil_append]
  · by_cases hne' : back = []
    · rwa [hne', List.append_nil]
    · constructor
      · rw [List.head?_append_of_ne_nil _ hne]
        exact hfront.1
      · rw [List.getLast?_append_of_ne_nil _ hne']
        exact hback.2

lemma mem_of_mem_trimBoth {drop : Char → Bool} {text : List Char} {c : Char}
    (h : c ∈ trimBoth drop text) : c ∈ text :=
  (List.dropWhile_suffix drop).subset ((List.rdropWhile_prefix drop _).subset h)

end Laminate.Text
