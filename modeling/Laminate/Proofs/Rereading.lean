import Laminate.Proofs.ReadingSteps
import Laminate.Proofs.Rendering

/-! What is read of a text can be read again.
A reader makes out no other keys and tokens than those that it makes out once more when they are
written. -/
namespace Laminate.Annotation

open Laminate.Text

/-- Separators end where no comment starts. -/
lemma ne_comment_of_skipSeparators {inComment : Bool} {text rest : List Char} {c : Char}
    (h : skipSeparators inComment text = c :: rest) : c ≠ '#' := by
  induction text generalizing inComment with
  | nil => cases h
  | cons x text ih =>
    unfold skipSeparators at h
    split at h
    · exact ih h
    · split at h
      · exact ih h
      · next hcomment =>
        split at h
        · exact ih h
        · cases h
          simpa using hcomment

/-- A part can be read once more, and a value starts a comment only where its text does. -/
def Part.Rereads : Part → List Char → Prop
  | value v, text => v.isReadable = true ∧ (v.startsComment = true → text.head? = some '#')
  | entries _ es, _ => Value.areReadable es = true
  | items vs, _ => Value.areReadableItems vs = true

lemma Reads.rereads {part : Part} {text after : List Char} (h : Reads part text after) :
    part.Rereads text := by
  induction h with
  | braced _ ih => exact ⟨ih, nofun⟩
  | angled _ ih => exact ⟨ih, nofun⟩
  | bracketed _ ih => exact ⟨ih, nofun⟩
  | quoted _ _ => exact ⟨rfl, nofun⟩
  | @token token after readable _ =>
    refine ⟨readable, fun hcomment => ?_⟩
    have hhead : token.toList.head? = some '#' := by simpa [Value.startsComment] using hcomment
    rw [List.head?_append, hhead]
    rfl
  | close _ => rfl
  | ended _ => rfl
  | entry isKey _ _ _ _ _ ihv ihes =>
    have hes : Value.areReadable _ = true := ihes
    simp [Part.Rereads, Value.areReadable, isKey, ihv.1, hes]
  | listClose _ => rfl
  | @item v vs c text rest middle after starts _ _ _ ihv ihvs =>
    have hnot : v.startsComment = false := by
      rw [Bool.eq_false_iff]
      exact fun hcomment =>
        ne_comment_of_skipSeparators starts (Option.some.inj (ihv.2 hcomment))
    have hvs : Value.areReadableItems _ = true := ihvs
    simp [Part.Rereads, Value.areReadableItems, ihv.1, hnot, hvs]

theorem areReadable_of_readText {text : String} {es : List Entry} (h : readText text = .ok es) :
    Value.areReadable es = true := by
  obtain ⟨after, hreads⟩ := readText_eq_ok_iff.mp h
  exact hreads.rereads

/-- Entries that were read are read again from their text. -/
theorem readText_renderEntries {es : List Entry} (readable : Value.areReadable es = true) :
    readText (renderEntries es) = .ok es :=
  readText_of_isLayout readable (isLayout_renderEntries es)

end Laminate.Annotation
