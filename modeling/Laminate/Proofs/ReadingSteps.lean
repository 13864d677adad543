import Laminate.Proofs.ReadBack
import Laminate.Proofs.Trimming

/-! The steps of the reader of annotation values.
A part is read off the front of a text just where the steps lead from the text to what is left of
it, so that what is read can be followed step by step, without a look at the reader itself. -/
namespace Laminate.Annotation

open Laminate.Text

/-- A part is read off the front of a text, and `after` is left. -/
inductive Reads : Part → List Char → List Char → Prop
  | braced {es : List Entry} {rest after : List Char}
    (inner : Reads (.entries (some '\x7d') es) rest after) :
    Reads (.value (.message es)) ('\x7b' :: rest) after
  | angled {es : List Entry} {rest after : List Char}
    (inner : Reads (.entries (some '>') es) rest after) :
    Reads (.value (.message es)) ('<' :: rest) after
  | bracketed {vs : List Value} {rest after : List Char} (inner : Reads (.items vs) rest after) :
    Reads (.value (.list vs)) ('[' :: rest) after
  | quoted {quote : Char} {rest contents after : List Char} (isQuote : isQuote quote = true)
    (literals : readQuoted (quote :: rest) = .ok (contents, after)) :
    Reads (.value (.quoted (String.ofList contents))) (quote :: rest) after
  | token {token : String} {after : List Char} (readable : isReadableToken token = true)
    (ends : ∀ c ∈ after.head?, isTokenChar c = false) :
    Reads (.value (.token token)) (token.toList ++ after) after
  | close {c : Char} {text after : List Char} (closes : skipSeparators false text = c :: after) :
    Reads (.entries (some c) []) text after
  | ended {text : List Char} (ends : skipSeparators false text = []) :
    Reads (.entries none []) text []
  | entry {close : Option Char} {key : String} {v : Value} {es : List Entry}
    {text rest middle after : List Char} (isKey : isWritableKey key = true)
    (isOpen : key.toList.head? ≠ close)
    (starts : skipSeparators false text = key.toList ++ rest)
    (ends : ∀ c ∈ rest.head?, isKeyChar c = false)
    (value : Reads (.value v) (skipColon rest) middle)
    (more : Reads (.entries close es) middle after) :
    Reads (.entries close ((key, v) :: es)) text after
  | listClose {text after : List Char} (closes : skipSeparators false text = ']' :: after) :
    Reads (.items []) text after
  | item {v : Value} {vs : List Value} {c : Char} {text rest middle after : List Char}
    (starts : skipSeparators false text = c :: rest) (isOpen : c ≠ ']')
    (value : Reads (.value v) (c :: rest) middle) (more : Reads (.items vs) middle after) :
    Reads (.items (v :: vs)) text after

/-- The reader takes a part off the front of a text. -/
def Part.IsRead (total : Nat) : Part → List Char → List Char → Prop
  | value v => ReadsValue total v
  | entries close es => ReadsEntries total close es
  | items vs => ReadsItems total vs

variable {total : Nat} {text after : List Char}

/-! ### The reader takes these steps -/

/-- What the reader does with texts shorter than some length. -/
def StepsBelow (total length : Nat) : Prop :=
  ∀ {part : Part} {text after : List Char}, text.length < length →
    part.IsRead total text after → Reads part text after

lemma all_takeWhile_ofList (p : Char → Bool) (text : List Char) :
    (String.ofList (text.takeWhile p)).toList.all p = true := by
  rw [String.toList_ofList]
  exact List.all_takeWhile

lemma head_of_takeWhile_ne_nil {p : Char → Bool} {c : Char} {rest : List Char}
    (h : (c :: rest).takeWhile p ≠ []) : p c = true := by
  cases hc : p c with
  | true => rfl
  | false => simp [hc] at h

/-- A run of token characters that starts like no other value is a token. -/
lemma reads_takeWhile {c : Char} {rest : List Char} (hopener : isValueOpener c = false)
    (h : (c :: rest).takeWhile isTokenChar ≠ []) :
    Reads (.value (.token (String.ofList ((c :: rest).takeWhile isTokenChar)))) (c :: rest)
      ((c :: rest).dropWhile isTokenChar) := by
  have hc := head_of_takeWhile_ne_nil h
  have hreadable : isReadableToken (String.ofList ((c :: rest).takeWhile isTokenChar)) = true := by
    rw [isReadableToken, all_takeWhile_ofList, String.toList_ofList, List.takeWhile_cons_of_pos hc]
    simp [hopener]
  have htoken := Reads.token hreadable (head?_dropWhile isTokenChar (c :: rest))
  rwa [String.toList_ofList, List.takeWhile_append_dropWhile] at htoken

lemma reads_value {v : Value} (shorter : StepsBelow total text.length)
    (h : ReadsValue total v text after) : Reads (.value v) text after := by
  obtain ⟨rest, h, rfl⟩ := h
  cases text with
  | nil =>
    rw [readValue] at h
    cases h
  | cons c tail =>
    have hshorter : tail.length < (c :: tail).length := Nat.lt_succ_self _
    rw [readValue] at h
    by_cases hbrace : c = '\x7b'
    · subst hbrace
      rw [if_pos rfl] at h
      split at h
      · cases h
      · next hread =>
        cases h
        exact .braced (shorter hshorter ⟨_, hread, rfl⟩)
    rw [if_neg hbrace] at h
    by_cases hangle : c = '<'
    · subst hangle
      rw [if_pos rfl] at h
      split at h
      · cases h
      · next hread =>
        cases h
        exact .angled (shorter hshorter ⟨_, hread, rfl⟩)
    rw [if_neg hangle] at h
    by_cases hbracket : c = '['
    · subst hbracket
      rw [if_pos rfl] at h
      split at h
      · cases h
      · next hread =>
        cases h
        exact .bracketed (shorter hshorter ⟨_, hread, rfl⟩)
    rw [if_neg hbracket] at h
    by_cases hquote : isQuote c = true
    · rw [dif_pos hquote] at h
      split at h
      · cases h
      · next hread =>
        cases h
        exact .quoted hquote hread
    rw [dif_neg hquote] at h
    by_cases htoken : (c :: tail).takeWhile isTokenChar = []
    · rw [dif_pos htoken] at h
      cases h
    · rw [dif_neg htoken] at h
      cases h
      exact reads_takeWhile (by simp [isValueOpener, hbrace, hangle, hbracket, hquote]) htoken

/-- What is left of a text past its separators and a key. -/
lemma skipColon_shorter {rest : List Char} {c : Char}
    (htext : skipSeparators false text = c :: rest) (hkey : (c :: rest).takeWhile isKeyChar ≠ []) :
    (skipColon ((c :: rest).dropWhile isKeyChar)).length < text.length := by
  have hskip := skipSeparators_length false text
  rw [htext] at hskip
  have hsplit := takeWhile_length_add (p := isKeyChar) (c :: rest)
  have hpos := List.length_pos_iff.mpr hkey
  have hcolon := skipColon_length ((c :: rest).dropWhile isKeyChar)
  omega

lemma reads_entries {close : Option Char} {es : List Entry}
    (shorter : StepsBelow total text.length) (h : ReadsEntries total close es text after) :
    Reads (.entries close es) text after := by
  obtain ⟨rest, h, rfl⟩ := h
  rw [readEntries] at h
  split at h
  · next hnil =>
    cases close with
    | some c => cases h
    | none =>
      cases h
      exact .ended hnil
  · next c tail hcons =>
    split at h
    · next hclose =>
      subst hclose
      cases h
      exact .close hcons
    · next hopen =>
      split at h
      · cases h
      · next hkey =>
        have hshorter := skipColon_shorter hcons hkey
        split at h
        · cases h
        · next v middle hvalue =>
          split at h
          · cases h
          · next es last hmore =>
            cases h
            have hc := head_of_takeWhile_ne_nil hkey
            refine .entry ?_ ?_ ?_ (head?_dropWhile isKeyChar (c :: tail))
              (shorter hshorter ⟨_, hvalue, rfl⟩)
              (shorter (Nat.lt_trans middle.2 hshorter) ⟨_, hmore, rfl⟩)
            · rw [isWritableKey, all_takeWhile_ofList]
              simpa using hkey
            · rwa [String.toList_ofList, List.takeWhile_cons_of_pos hc]
            · rw [hcons, String.toList_ofList, List.takeWhile_append_dropWhile]

/-- A list reads its first item from the very text that is left past its separators. -/
lemma reads_items {vs : List Value} (shorter : StepsBelow total text.length)
    (h : ReadsItems total vs text after) : Reads (.items vs) text after := by
  obtain ⟨rest, h, rfl⟩ := h
  rw [readItems] at h
  split at h
  · cases h
  · next c tail hcons =>
    have hle : (c :: tail).length ≤ text.length := hcons ▸ skipSeparators_length false text
    dsimp only at h
    split at h
    · next hclose =>
      subst hclose
      cases h
      exact .listClose hcons
    · next hopen =>
      split at h
      · cases h
      · next v middle hvalue =>
        split at h
        · cases h
        · next vs last hmore =>
          cases h
          refine .item hcons hopen (reads_value ?_ ⟨_, hvalue, rfl⟩)
            (shorter (Nat.lt_of_lt_of_le middle.2 hle) ⟨_, hmore, rfl⟩)
          exact fun hlt => shorter (Nat.lt_of_lt_of_le hlt hle)

lemma stepsBelow (total length : Nat) : StepsBelow total length := by
  induction length with
  | zero => exact fun hlt => absurd hlt (Nat.not_lt_zero _)
  | succ length ih =>
    intro part text after hlt h
    have shorter : StepsBelow total text.length := fun hlt' => ih (by omega)
    cases part with
    | value v => exact reads_value shorter h
    | entries close es => exact reads_entries shorter h
    | items vs => exact reads_items shorter h

/-! ### Nothing else is read -/

lemma Reads.isRead {part : Part} (h : Reads part text after) : part.IsRead total text after := by
  induction h with
  | braced _ ih => exact ReadsValue.braced ih
  | angled _ ih => exact ReadsValue.angled ih
  | bracketed _ ih => exact ReadsValue.bracketed ih
  | quoted isQuote literals => exact ReadsValue.quoted isQuote literals
  | token readable ends => exact ReadsValue.token readable ends
  | close closes => exact ReadsEntries.close closes
  | ended ends => exact ReadsEntries.ended ends
  | entry isKey isOpen starts ends _ _ ihv ihes =>
    exact ReadsEntries.cons isKey isOpen starts ends ihv ihes
  | listClose closes => exact ReadsItems.close closes
  | item starts isOpen _ _ ihv ihvs => exact ReadsItems.cons starts isOpen ihv ihvs

/-- A reader takes a part off a text just where the steps lead to what is left. -/
theorem isRead_iff {part : Part} : part.IsRead total text after ↔ Reads part text after :=
  ⟨stepsBelow total _ (Nat.lt_succ_self _), Reads.isRead⟩

/-- The steps of a whole text. -/
theorem readText_eq_ok_iff {text : String} {es : List Entry} :
    readText text = .ok es ↔ ∃ after, Reads (.entries none es) text.toList after := by
  constructor
  · intro h
    unfold readText at h
    split at h
    · cases h
    · next es' rest hread =>
      cases h
      exact ⟨rest.1, isRead_iff.mp ⟨_, hread, rfl⟩⟩
  · rintro ⟨after, h⟩
    obtain ⟨rest, hread, -⟩ : ReadsEntries text.toList.length none es text.toList after := h.isRead
    rw [readText, hread]

/-- What is read of a value, and what is left, are settled by the text. -/
lemma Reads.value_unique {v v' : Value} {after' : List Char} (h : Reads (.value v) text after)
    (h' : Reads (.value v') text after') : v = v' ∧ after = after' := by
  obtain ⟨rest, hread, rfl⟩ : ReadsValue 0 v text after := h.isRead
  obtain ⟨rest', hread', rfl⟩ : ReadsValue 0 v' text after' := h'.isRead
  rw [hread] at hread'
  cases hread'
  exact ⟨rfl, rfl⟩

end Laminate.Annotation
