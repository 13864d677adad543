import Mathlib.Data.List.Basic
import Mathlib.Tactic.Lemma

/-! What a reader leaves of the text or the tokens that it was given: an end of them. -/
namespace Laminate

variable {τ α β : Type}

/-- The last ones of some characters or tokens. -/
def IsEndOf (whole rest : List τ) : Prop := rest <:+ whole

variable {whole middle rest : List τ}

@[grind .] lemma IsEndOf.refl (whole : List τ) : IsEndOf whole whole := List.suffix_refl whole

@[grind →] lemma IsEndOf.trans (h : IsEndOf whole middle) (h' : IsEndOf middle rest) :
    IsEndOf whole rest :=
  List.IsSuffix.trans h' h

@[grind =] lemma isEndOf_cons {first : τ} :
    IsEndOf (first :: whole) rest ↔ rest = first :: whole ∨ IsEndOf whole rest :=
  List.suffix_cons_iff

@[grind →] lemma IsEndOf.of_cons {first : τ} (h : IsEndOf whole (first :: rest)) :
    IsEndOf whole rest :=
  (List.suffix_cons first rest).trans h

@[grind .] lemma isEndOf_drop (n : Nat) (whole : List τ) : IsEndOf whole (whole.drop n) :=
  List.drop_suffix n whole

@[grind →] lemma IsEndOf.of_drop {n : Nat} (h : IsEndOf (whole.drop n) rest) :
    IsEndOf whole rest :=
  (isEndOf_drop n whole).trans h

@[grind .] lemma isEndOf_dropWhile (p : τ → Bool) (whole : List τ) :
    IsEndOf whole (whole.dropWhile p) :=
  List.dropWhile_suffix p

@[grind →] lemma isEndOf_of_dropWhile {p : τ → Bool} {first : τ}
    (h : whole.dropWhile p = first :: rest) : IsEndOf whole (first :: rest) :=
  h ▸ isEndOf_dropWhile p whole

/-- Whatever a phrase leaves is an end of the tokens. -/
def LeavesEnd (whole : List τ) (result : Option (α × List τ)) : Prop :=
  ∀ a rest, result = some (a, rest) → IsEndOf whole rest

variable {result : Option (α × List τ)}

@[grind .] lemma leavesEnd_none : LeavesEnd whole (none : Option (α × List τ)) := by
  intro _ _ h
  cases h

@[grind =] lemma leavesEnd_some (a : α) :
    LeavesEnd whole (some (a, rest)) ↔ IsEndOf whole rest := by
  constructor
  · exact fun h => h a rest rfl
  · rintro h _ _ ⟨⟩
    exact h

@[grind →] lemma LeavesEnd.trans (h : IsEndOf whole middle) (h' : LeavesEnd middle result) :
    LeavesEnd whole result :=
  fun a rest heq => h.trans (h' a rest heq)

@[grind ←] lemma LeavesEnd.cons {first : τ} (h : LeavesEnd whole result) :
    LeavesEnd (first :: whole) result :=
  fun a rest heq => isEndOf_cons.mpr (.inr (h a rest heq))

@[grind →] lemma LeavesEnd.of_drop {n : Nat} (h : LeavesEnd (whole.drop n) result) :
    LeavesEnd whole result :=
  fun a rest heq => (h a rest heq).of_drop

@[grind ←] lemma LeavesEnd.orElse {other : Unit → Option (α × List τ)}
    (h : LeavesEnd whole result) (h' : LeavesEnd whole (other ())) :
    LeavesEnd whole (result.orElse other) := by
  cases result with
  | none => exact h'
  | some _ => exact h

@[grind ←] lemma LeavesEnd.map {f : α × List τ → β × List τ}
    (h : LeavesEnd whole result) (hf : ∀ r, (f r).2 = r.2) : LeavesEnd whole (result.map f) := by
  intro b rest heq
  obtain ⟨⟨a, left⟩, rfl, hpair⟩ := Option.map_eq_some_iff.mp heq
  have hleft : rest = left := by simpa [hpair] using hf (a, left)
  rw [hleft]
  exact h a left rfl

@[grind →] lemma LeavesEnd.of_map {f : α × List τ → β × List τ} {b : β}
    (heq : result.map f = some (b, rest)) (h : LeavesEnd whole result)
    (hf : ∀ r, (f r).2 = r.2) : IsEndOf whole rest :=
  LeavesEnd.map h hf b rest heq

end Laminate
