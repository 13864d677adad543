import Laminate.Annotation.Source
import Laminate.Proofs.Outcome

/-! Lists of written options.
They are read one after the other, so a list is read as its pieces are, and what belongs to no
extension of ours is passed over. -/
namespace Laminate.Annotation

open Descriptor

variable {α : Type} {table : Table α} {extension : String}

lemma readOptions_append (first second : List WrittenOption) (a : α) :
    readOptions table (first ++ second) a =
      readOptions table first a >>= readOptions table second := by
  induction first generalizing a with
  | nil => rfl
  | cons option first ih =>
    rw [List.cons_append, readOptions, readOptions]
    cases optionEntries option with
    | error fault => rfl
    | ok es =>
      cases hread : table.readAll es a with
      | error fault => simp only [hread]; rfl
      | ok next => simp only [hread, ih]

/-- Options whose entries can be told are read as their entries. -/
lemma readOptions_eq {written : List WrittenOption} {es : List Entry}
    (h : (written.mapM optionEntries).map List.flatten = .ok es) (a : α) :
    readOptions table written a = table.readAll es a := by
  obtain ⟨ess, hess, rfl⟩ := map_eq_ok.mp h
  have hall := mapM_eq_ok.mp hess
  clear h hess
  induction hall generalizing a with
  | nil => rfl
  | @cons option es written ess hes _ ih =>
    rw [readOptions, hes, List.flatten_cons, Table.readAll_append]
    cases hread : table.readAll es a with
    | error fault => simp only [hread]; rfl
    | ok next =>
      simp only [hread]
      exact ih next

lemma isFor_iff {option : WrittenOption} :
    isFor extension option = true ↔ option.name.head? = some ⟨extension, true⟩ := by
  unfold isFor
  cases option.name.head? with
  | none => simp
  | some part =>
    obtain ⟨text, isExtension⟩ := part
    simp [and_comm]

variable [Inhabited α]

lemma readWritten_of_ne_nil {written : List WrittenOption}
    (h : written.filter (isFor extension) ≠ []) : readWritten table extension written =
      (readOptions table (written.filter (isFor extension)) default).map some := by
  unfold readWritten
  split
  · next hnil => exact absurd hnil h
  · rfl

/-- Options that belong to the same and have the same entries stand for each other. -/
lemma readWritten_replace {option option' : WrittenOption}
    (mine : isFor extension option = isFor extension option')
    (entries : optionEntries option = optionEntries option') (before after : List WrittenOption) :
    readWritten table extension (before ++ option :: after) =
      readWritten table extension (before ++ option' :: after) := by
  cases hmine : isFor extension option with
  | true =>
    have hfilter : ∀ {o}, isFor extension o = true →
        (before ++ o :: after).filter (isFor extension) =
          before.filter (isFor extension) ++ o :: after.filter (isFor extension) := by
      intro o ho
      rw [List.filter_append, List.filter_cons_of_pos ho]
    have hsame : readOptions table (option :: after.filter (isFor extension)) =
        readOptions table (option' :: after.filter (isFor extension)) := by
      funext a
      rw [readOptions, readOptions, entries]
    have hfirst := hfilter hmine
    have hsecond := hfilter (mine ▸ hmine)
    rw [readWritten_of_ne_nil (by simp [hfirst]), readWritten_of_ne_nil (by simp [hsecond]),
      hfirst, hsecond, readOptions_append, readOptions_append, hsame]
  | false =>
    have hfilter : (before ++ option :: after).filter (isFor extension) =
        (before ++ option' :: after).filter (isFor extension) := by
      rw [List.filter_append, List.filter_append, List.filter_cons_of_neg (by simp [hmine]),
        List.filter_cons_of_neg (by simp [← mine, hmine])]
    unfold readWritten
    rw [hfilter]

end Laminate.Annotation
