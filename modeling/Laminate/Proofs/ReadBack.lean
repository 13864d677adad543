import Laminate.Proofs.Layouts

/-! Every layout of annotation values is read back.
A reader looks at a text only past its separators, so what it reads is settled by what separators
leave of the text. -/
namespace Laminate.Annotation

open Laminate.Text

/-! ### Separators -/

lemma isSeparator_of_isBlank {c : Char} (h : isBlank c = true) : isSeparator c = true := by
  simp [isSeparator, h]

lemma skipBlanks_append {blanks rest : List Char} (h : AllBlank blanks) :
    skipBlanks (blanks ++ rest) = skipBlanks rest :=
  List.dropWhile_append_of_pos h

lemma skipBlanks_cons {c : Char} {rest : List Char} (h : isBlank c = false) :
    skipBlanks (c :: rest) = c :: rest := by
  simp [skipBlanks, h]

lemma skipSeparators_cons {c : Char} {rest : List Char} (h : isSeparator c = false)
    (h' : c ≠ '#') : skipSeparators false (c :: rest) = c :: rest := by
  have hmark : (isBlank c || c == ',' || c == ';') = false := h
  simp [skipSeparators, h', hmark]

lemma skipSeparators_mark {c : Char} {rest : List Char} (h : isSeparator c = true) :
    skipSeparators false (c :: rest) = skipSeparators false rest := by
  have hne : c ≠ '#' := by
    rintro rfl
    revert h
    decide
  have hmark : (isBlank c || c == ',' || c == ';') = true := h
  simp [skipSeparators, hne, hmark]

lemma skipSeparators_blanks {blanks rest : List Char} (h : AllBlank blanks) :
    skipSeparators false (blanks ++ rest) = skipSeparators false rest := by
  induction blanks with
  | nil => rfl
  | cons c blanks ih =>
    rw [List.cons_append, skipSeparators_mark (isSeparator_of_isBlank (h c List.mem_cons_self)),
      ih fun c hc => h c (List.mem_cons_of_mem _ hc)]

lemma skipSeparators_skipBlanks (text : List Char) :
    skipSeparators false (skipBlanks text) = skipSeparators false text := by
  have hblanks : AllBlank (text.takeWhile isBlank) := List.all_eq_true.mp List.all_takeWhile
  calc skipSeparators false (skipBlanks text)
      = skipSeparators false (text.takeWhile isBlank ++ skipBlanks text) :=
        (skipSeparators_blanks hblanks).symm
    _ = skipSeparators false text := by rw [skipBlanks, List.takeWhile_append_dropWhile]

lemma skipSeparators_line {text : List Char} (h : '\n' ∉ text) :
    skipSeparators true text = [] := by
  induction text with
  | nil => rfl
  | cons c rest ih =>
    simp only [List.mem_cons, not_or] at h
    rw [skipSeparators, if_pos rfl, bne_iff_ne.mpr (Ne.symm h.1), ih h.2]

lemma skipSeparators_comment {text rest : List Char} (h : '\n' ∉ text) :
    skipSeparators true (text ++ '\n' :: rest) = skipSeparators false rest := by
  induction text with
  | nil => simp [skipSeparators]
  | cons c text ih =>
    simp only [List.mem_cons, not_or] at h
    rw [List.cons_append, skipSeparators, if_pos rfl, bne_iff_ne.mpr (Ne.symm h.1), ih h.2]

lemma Separators.skip {run : List Char} (h : Separators run) (rest : List Char) :
    skipSeparators false (run ++ rest) = skipSeparators false rest := by
  induction h with
  | nil => rfl
  | cons mark _ ih => rw [List.cons_append, skipSeparators_mark mark, ih]
  | @comment text run line _ ih =>
    have hopen : ∀ text, skipSeparators false ('#' :: text) = skipSeparators true text :=
      fun text => by simp [skipSeparators]
    rw [List.cons_append, hopen, List.append_assoc, List.cons_append,
      skipSeparators_comment line, ih]

lemma Separators.skip_within {run : List Char} (h : Separators run) (text rest : List Char) :
    skipSeparators false (run ++ text ++ rest) = skipSeparators false (text ++ rest) := by
  rw [List.append_assoc, h.skip]

/-! ### Literals -/

lemma CharLayout.read {quote c : Char} {written : List Char} (h : CharLayout quote c written)
    (hquote : quote ≠ '\\') (rest : List Char) :
    readLiteral quote (written ++ rest) =
      (readLiteral quote rest).map fun (contents, after) => (c :: contents, after) := by
  have hescape : ∀ e, readLiteral quote ('\\' :: e :: rest) =
      (readLiteral quote rest).map fun (contents, after) => (unescape e :: contents, after) := by
    intro e
    rw [readLiteral, if_neg (Ne.symm hquote), if_pos rfl]
    cases readLiteral quote rest <;> rfl
  cases h with
  | plain noQuote noEscape =>
    rw [List.singleton_append, readLiteral.eq_def]
    simp only [if_neg noQuote, if_neg noEscape]
    cases readLiteral quote rest <;> rfl
  | escaped literal =>
    have hself : unescape c = c := by
      simp [unescape, literal.1, literal.2.1, literal.2.2]
    simpa [hself] using hescape c
  | newline => exact hescape 'n'
  | tab => exact hescape 't'
  | carriageReturn => exact hescape 'r'

lemma ne_backslash_of_isQuote {quote : Char} (h : isQuote quote = true) : quote ≠ '\\' := by
  rintro rfl
  revert h
  decide

lemma LiteralLayout.read {quote : Char} {contents text : List Char}
    (h : LiteralLayout quote contents text) (hquote : quote ≠ '\\') (rest : List Char) :
    readLiteral quote (text ++ rest) = .ok (contents, rest) := by
  induction h with
  | close =>
    rw [List.singleton_append, readLiteral.eq_def]
    simp
  | cons first _ ih =>
    rw [List.append_assoc, first.read hquote, ih]
    rfl

lemma isBlank_of_isQuote {c : Char} (h : isQuote c = true) : isBlank c = false := by
  simp only [isQuote, Bool.or_eq_true, beq_iff_eq] at h
  rcases h with rfl | rfl <;> decide

/-- A literal, and those that are read on from it. -/
lemma readQuoted_cons {quote : Char} {rest contents after more last : List Char}
    (hquote : isQuote quote = true) (hliteral : readLiteral quote rest = .ok (contents, after))
    (hmore : readQuoted (skipBlanks after) = .ok (more, last)) :
    readQuoted (quote :: rest) = .ok (contents ++ more, last) := by
  rw [readQuoted, if_pos hquote]
  split
  · next hfault => rw [hliteral] at hfault; cases hfault
  · next hok =>
    rw [hliteral] at hok
    cases hok
    rw [hmore]

/-- Reading literals ends at the first character past white space that opens no other one. -/
lemma QuotedLayout.read {contents text : List Char} (h : QuotedLayout contents text)
    {after : List Char} (hafter : ∀ c ∈ (skipBlanks after).head?, isQuote c = false) :
    readQuoted (text ++ after) = .ok (contents, skipBlanks after) := by
  have hend : readQuoted (skipBlanks after) = .ok ([], skipBlanks after) := by
    cases hskip : skipBlanks after with
    | nil => rw [readQuoted]
    | cons c rest =>
      have hc := hafter c (by rw [hskip]; rfl)
      rw [readQuoted, if_neg (by simp [hc])]
  have hfirst : ∀ {quote : Char} {contents text rest more last : List Char},
      isQuote quote = true → LiteralLayout quote contents text →
      readQuoted (skipBlanks rest) = .ok (more, last) →
      readQuoted (quote :: (text ++ rest)) = .ok (contents ++ more, last) :=
    fun hquote hliteral hmore =>
      readQuoted_cons hquote (hliteral.read (ne_backslash_of_isQuote hquote) _) hmore
  induction h with
  | single isQuote literal => simpa using hfirst isQuote literal hend
  | @adjacent quote contents text blanks contents' text' isQuote literal allBlank more ih =>
    obtain ⟨quote', rest, rfl, hquote'⟩ := more.head
    have hskip : skipBlanks (blanks ++ (quote' :: rest ++ after)) = quote' :: rest ++ after := by
      rw [skipBlanks_append allBlank]
      exact skipBlanks_cons (isBlank_of_isQuote hquote')
    have hread := hfirst isQuote literal (hskip ▸ ih)
    simpa [List.append_assoc] using hread

/-! ### Steps of the reader -/

def ReadsValue (total : Nat) (v : Value) (text after : List Char) : Prop :=
  ∃ rest, readValue total text = .ok (v, rest) ∧ rest.1 = after

def ReadsEntries (total : Nat) (close : Option Char) (es : List Entry)
    (text after : List Char) : Prop :=
  ∃ rest, readEntries total close text = .ok (es, rest) ∧ rest.1 = after

def ReadsItems (total : Nat) (vs : List Value) (text after : List Char) : Prop :=
  ∃ rest, readItems total text = .ok (vs, rest) ∧ rest.1 = after

variable {total : Nat}

namespace ReadsEntries

lemma close {c : Char} {text rest : List Char} (h : skipSeparators false text = c :: rest) :
    ReadsEntries total (some c) [] text rest := by
  unfold ReadsEntries
  rw [readEntries]
  split
  · next hnil => rw [h] at hnil; cases hnil
  · next c' rest' hcons =>
    rw [h] at hcons
    cases hcons
    rw [if_pos rfl]
    exact ⟨_, rfl, rfl⟩

lemma ended {text : List Char} (h : skipSeparators false text = []) :
    ReadsEntries total none [] text [] := by
  unfold ReadsEntries
  rw [readEntries]
  split
  · exact ⟨_, rfl, rfl⟩
  · next hcons => rw [h] at hcons; cases hcons

lemma cons {close : Option Char} {key : String} {v : Value} {es : List Entry}
    {text rest middle after : List Char} (hkey : isWritableKey key = true)
    (hopen : key.toList.head? ≠ close)
    (htext : skipSeparators false text = key.toList ++ rest)
    (hrest : ∀ c ∈ rest.head?, isKeyChar c = false)
    (hvalue : ReadsValue total v (skipColon rest) middle)
    (hmore : ReadsEntries total close es middle after) :
    ReadsEntries total close ((key, v) :: es) text after := by
  obtain ⟨x, chars, hchars, hall⟩ := exists_of_isWritableKey hkey
  have hne : key.toList ≠ [] := hchars ▸ List.cons_ne_nil x chars
  obtain ⟨htake, hdrop⟩ := span_append hall hrest
  unfold ReadsEntries
  rw [readEntries]
  split
  · next hnil => simp_all
  · next c tail hcons =>
    rw [← hcons.symm.trans htext] at htake hdrop
    have hnonempty : (c :: tail).takeWhile isKeyChar ≠ [] := htake ▸ hne
    have hhead : key.toList.head? = some c := by
      have heq := htext.symm.trans hcons
      rw [hchars] at heq
      simp [hchars, (List.cons.inj heq).1]
    rw [hhead] at hopen
    rw [← hdrop] at hvalue
    obtain ⟨middle, hvalue, rfl⟩ := hvalue
    obtain ⟨after, hmore, rfl⟩ := hmore
    rw [if_neg hopen, dif_neg hnonempty]
    split
    · next hfault => rw [hvalue] at hfault; cases hfault
    · next hok =>
      rw [hvalue] at hok
      cases hok
      split
      · next hfault => rw [hmore] at hfault; cases hfault
      · next hok =>
        rw [hmore] at hok
        cases hok
        rw [htake, String.ofList_toList]
        exact ⟨_, rfl, rfl⟩

end ReadsEntries

namespace ReadsItems

lemma close {text rest : List Char} (h : skipSeparators false text = ']' :: rest) :
    ReadsItems total [] text rest := by
  unfold ReadsItems
  rw [readItems]
  split
  · next hnil => rw [h] at hnil; cases hnil
  · next c' rest' hcons =>
    rw [h] at hcons
    cases hcons
    rw [if_pos rfl]
    exact ⟨_, rfl, rfl⟩

lemma cons {v : Value} {vs : List Value} {c : Char} {text rest middle after : List Char}
    (htext : skipSeparators false text = c :: rest) (hopen : c ≠ ']')
    (hvalue : ReadsValue total v (c :: rest) middle) (hmore : ReadsItems total vs middle after) :
    ReadsItems total (v :: vs) text after := by
  unfold ReadsItems
  rw [readItems]
  split
  · next hnil => rw [htext] at hnil; cases hnil
  · next c' rest' hcons =>
    rw [htext] at hcons
    cases hcons
    obtain ⟨middle, hvalue, rfl⟩ := hvalue
    obtain ⟨after, hmore, rfl⟩ := hmore
    rw [if_neg hopen]
    split
    · next hfault => rw [hvalue] at hfault; cases hfault
    · next hok =>
      rw [hvalue] at hok
      cases hok
      split
      · next hfault => rw [hmore] at hfault; cases hfault
      · next hok =>
        rw [hmore] at hok
        cases hok
        exact ⟨_, rfl, rfl⟩

end ReadsItems

namespace ReadsValue

lemma braced {es : List Entry} {rest after : List Char}
    (h : ReadsEntries total (some '\x7d') es rest after) :
    ReadsValue total (.message es) ('\x7b' :: rest) after := by
  obtain ⟨after, hread, rfl⟩ := h
  unfold ReadsValue
  rw [readValue, if_pos rfl, hread]
  exact ⟨_, rfl, rfl⟩

lemma angled {es : List Entry} {rest after : List Char}
    (h : ReadsEntries total (some '>') es rest after) :
    ReadsValue total (.message es) ('<' :: rest) after := by
  obtain ⟨after, hread, rfl⟩ := h
  unfold ReadsValue
  rw [readValue, if_neg (by decide), if_pos rfl, hread]
  exact ⟨_, rfl, rfl⟩

lemma bracketed {vs : List Value} {rest after : List Char} (h : ReadsItems total vs rest after) :
    ReadsValue total (.list vs) ('[' :: rest) after := by
  obtain ⟨after, hread, rfl⟩ := h
  unfold ReadsValue
  rw [readValue, if_neg (by decide), if_neg (by decide), if_pos rfl, hread]
  exact ⟨_, rfl, rfl⟩

lemma quoted {quote : Char} {rest contents after : List Char} (hquote : isQuote quote = true)
    (h : readQuoted (quote :: rest) = .ok (contents, after)) :
    ReadsValue total (.quoted (String.ofList contents)) (quote :: rest) after := by
  have hne : quote ≠ '\x7b' ∧ quote ≠ '<' ∧ quote ≠ '[' := by
    refine ⟨?_, ?_, ?_⟩ <;> rintro rfl <;> revert hquote <;> decide
  unfold ReadsValue
  rw [readValue, if_neg hne.1, if_neg hne.2.1, if_neg hne.2.2, dif_pos hquote]
  split
  · next hfault => rw [h] at hfault; cases hfault
  · next hok =>
    rw [h] at hok
    cases hok
    exact ⟨_, rfl, rfl⟩

lemma token {token : String} {rest : List Char} (h : isReadableToken token = true)
    (hrest : ∀ c ∈ rest.head?, isTokenChar c = false) :
    ReadsValue total (.token token) (token.toList ++ rest) rest := by
  simp only [isReadableToken, Bool.and_eq_true, List.all_eq_true] at h
  obtain ⟨hall, hhead⟩ := h
  obtain ⟨htake, hdrop⟩ := span_append hall hrest
  cases hchars : token.toList with
  | nil => simp [hchars] at hhead
  | cons c chars =>
    have hopener : isValueOpener c = false := by simpa [hchars] using hhead
    simp only [isValueOpener, Bool.or_eq_false_iff, beq_eq_false_iff_ne] at hopener
    obtain ⟨⟨⟨hbrace, hangle⟩, hbracket⟩, hquote⟩ := hopener
    rw [hchars] at htake hdrop
    rw [List.cons_append] at htake hdrop ⊢
    unfold ReadsValue
    rw [readValue, if_neg hbrace, if_neg hangle, if_neg hbracket, dif_neg (by simp [hquote]),
      dif_neg (by simp [htake])]
    simp only [htake, ← hchars, String.ofList_toList]
    exact ⟨_, rfl, hdrop⟩

end ReadsValue

/-! ### Reading layouts back -/

/-- Quoted text is told from what follows it by anything but another literal. -/
def EndsQuoted (v : Value) (after : List Char) : Prop :=
  v.isQuoted = true → ∀ c ∈ (skipBlanks after).head?, isQuote c = false

/-- A separator other than white space, or what stands after white space alone, ends literals. -/
lemma Separators.head_skipBlanks {run rest : List Char} (h : Separators run)
    (hends : (∃ c ∈ run, isBlank c = false) ∨
      ∀ c ∈ rest.head?, isBlank c = false ∧ isQuote c = false) :
    ∀ c ∈ (skipBlanks (run ++ rest)).head?, isQuote c = false := by
  induction h with
  | nil =>
    replace hends := hends.resolve_left (by simp)
    cases rest with
    | nil => simp [skipBlanks]
    | cons c rest =>
      obtain ⟨hblank, hquote⟩ := hends c rfl
      simp [skipBlanks_cons hblank, hquote]
  | @cons c run mark more ih =>
    cases hblank : isBlank c with
    | true =>
      have hskip : skipBlanks (c :: run ++ rest) = skipBlanks (run ++ rest) := by
        simp [skipBlanks, hblank]
      rw [hskip]
      refine ih (hends.imp_left ?_)
      rintro ⟨x, hx, hnot⟩
      rcases List.mem_cons.mp hx with rfl | hx
      · rw [hblank] at hnot
        cases hnot
      · exact ⟨x, hx, hnot⟩
    | false =>
      have hmark : c = ',' ∨ c = ';' := by simpa [isSeparator, hblank] using mark
      rw [List.cons_append, skipBlanks_cons hblank]
      rcases hmark with rfl | rfl <;> exact forall_mem_head? (by decide) _
  | comment =>
    rw [List.cons_append, skipBlanks_cons (by decide)]
    exact forall_mem_head? (by decide) _

/-- White space and a colon lead from a key to its value, and are no part of either. -/
lemma Link.skip {v : Value} {link text : List Char} (h : Link v link)
    (layout : Layout (.value v) text) (readable : v.isReadable = true) (rest : List Char) :
    skipColon (link ++ (text ++ rest)) = text ++ rest ∧
      ∀ c ∈ (link ++ (text ++ rest)).head?, isKeyChar c = false := by
  obtain ⟨c, chars, rfl, hstart⟩ := layout.startsValue readable
  have hblank := isBlank_of_not_isSeparator hstart.noSeparator
  have hvalue : skipBlanks (c :: chars ++ rest) = c :: chars ++ rest := skipBlanks_cons hblank
  have hkey : ∀ {x : Char}, isBlank x = true → isKeyChar x = false := by
    intro x hx
    rw [Bool.eq_false_iff]
    intro hkey
    rw [isBlank_of_isKeyChar hkey] at hx
    cases hx
  cases h with
  | @colon before after _ allBlank allBlank' =>
    constructor
    · rw [List.append_assoc, List.cons_append, skipColon, skipBlanks_append allBlank,
        skipBlanks_cons (by decide)]
      simp only
      rw [skipBlanks_append allBlank', hvalue]
    · cases before with
      | nil => exact forall_mem_head? (by decide) _
      | cons x before => simpa using hkey (allBlank x List.mem_cons_self)
  | omitted bracketed allBlank =>
    obtain ⟨hnotKey, hcolon⟩ := hstart.bracketed bracketed
    constructor
    · rw [skipColon, skipBlanks_append allBlank, hvalue]
      split
      · next heq =>
        cases heq
        exact absurd rfl hcolon
      · rfl
    · cases link with
      | nil => simpa using hnotKey
      | cons x blanks => simpa using hkey (allBlank x List.mem_cons_self)

/-- A part is read back from its layout, wherever in a text the layout stands. -/
def ReadsBack (total : Nat) : Part → List Char → Prop
  | .value v, text => ∀ after, EndsToken v after → EndsQuoted v after →
    ∃ last, ReadsValue total v (text ++ after) last ∧
      skipSeparators false last = skipSeparators false after
  | .entries close es, text => ∀ whole after, (close = none → after = []) →
    skipSeparators false whole = skipSeparators false (text ++ after) →
    ReadsEntries total close es whole after
  | .items vs, text => ∀ whole after,
    skipSeparators false whole = skipSeparators false (text ++ after) →
    ReadsItems total vs whole after

lemma EndsToken.append {v : Value} {text after : List Char} (h : EndsToken v text)
    (hafter : text = [] → after = []) : EndsToken v (text ++ after) := by
  cases text with
  | nil =>
    rw [hafter rfl]
    exact h
  | cons c text => exact h

theorem Layout.readsBack {part : Part} {text : List Char} (h : Layout part text)
    (readable : part.isReadable = true) (total : Nat) : ReadsBack total part text := by
  induction h with
  | token token => exact fun after hends _ => ⟨after, .token readable (hends rfl), rfl⟩
  | quoted literals =>
    intro after _ hends
    have hread := literals.read (hends rfl)
    obtain ⟨quote, rest, rfl, hquote⟩ := literals.head
    exact ⟨_, .quoted hquote hread, skipSeparators_skipBlanks after⟩
  | @braced es run text separators inner ih =>
    intro after _ _
    exact ⟨after, .braced (ih readable _ after nofun (separators.skip_within text after)), rfl⟩
  | @angled es run text separators inner ih =>
    intro after _ _
    exact ⟨after, .angled (ih readable _ after nofun (separators.skip_within text after)), rfl⟩
  | @bracketed vs run text separators inner ih =>
    intro after _ _
    exact ⟨after, .bracketed (ih readable _ after (separators.skip_within text after)), rfl⟩
  | close c =>
    intro whole after _ hwhole
    have hcloser : isCloser c = true := by simpa [Part.isReadable, Value.areReadable] using readable
    obtain ⟨hseparator, hcomment, -⟩ := isSeparator_of_isCloser hcloser
    exact .close (hwhole.trans (skipSeparators_cons hseparator hcomment))
  | ended =>
    intro whole after hafter hwhole
    rw [hafter rfl] at hwhole ⊢
    exact .ended hwhole
  | endedInComment line =>
    intro whole after hafter hwhole
    rw [hafter rfl] at hwhole ⊢
    refine .ended (hwhole.trans ?_)
    simpa [skipSeparators] using skipSeparators_line line
  | @entry close key v es link text run tail isLink value separators endsToken more ihv ihes =>
    intro whole after hafter hwhole
    simp only [Part.isReadable, Value.areReadable, Bool.and_eq_true] at readable
    obtain ⟨hclose, ⟨hkey, hv⟩, hes⟩ := readable
    have hentries : (Part.entries close es).isReadable = true := by
      simp [Part.isReadable, hclose, hes]
    obtain ⟨hhead, htail⟩ := more.startsEntries hentries
    have hends : EndsToken v (run ++ (tail ++ after)) := by
      rw [← List.append_assoc]
      refine endsToken.append fun hnil => hafter (htail (List.append_eq_nil_iff.mp hnil).2)
    have hquoted : EndsQuoted v (run ++ (tail ++ after)) := by
      refine fun _ => separators.head_skipBlanks (.inr ?_)
      cases tail with
      | nil => simp [hafter (htail rfl)]
      | cons c tail => exact hhead
    obtain ⟨last, hvalue, hlast⟩ := ihv hv _ hends hquoted
    obtain ⟨hskip, hnotKey⟩ := isLink.skip value hv (run ++ (tail ++ after))
    have hmore := ihes hentries last after hafter (hlast.trans (separators.skip _))
    have hkeyText : skipSeparators false whole =
        key.toList ++ (link ++ (text ++ (run ++ (tail ++ after)))) := by
      obtain ⟨c, chars, hchars, hall⟩ := exists_of_isWritableKey hkey
      obtain ⟨hseparator, hcomment, -⟩ := isSeparator_of_isKeyChar (hall c (by simp [hchars]))
      rw [hwhole, hchars, List.cons_append, List.cons_append,
        skipSeparators_cons hseparator hcomment]
      simp only [List.cons_append, List.append_assoc]
    have hopen : key.toList.head? ≠ close := by
      rintro rfl
      obtain ⟨c, chars, hchars, hall⟩ := exists_of_isWritableKey hkey
      have hcloser : isCloser c = true := by simpa [hchars] using hclose
      have hkeyChar := hall c (by simp [hchars])
      rw [(isSeparator_of_isCloser hcloser).2.2.2] at hkeyChar
      cases hkeyChar
    exact .cons hkey hopen hkeyText hnotKey (by rwa [hskip]) hmore
  | listClose =>
    intro whole after hwhole
    exact .close (hwhole.trans (skipSeparators_cons (by decide) (by decide)))
  | @item v vs text run tail value separators endsToken endsQuoted more ihv ihvs =>
    intro whole after hwhole
    simp only [Part.isReadable, Value.areReadableItems, Bool.and_eq_true,
      Bool.not_eq_true'] at readable
    obtain ⟨⟨hv, hcomment⟩, hvs⟩ := readable
    obtain ⟨first, rest, rfl, hblank, hquote⟩ := more.startsItems hvs
    have hends : EndsToken v (run ++ (first :: rest ++ after)) := by
      rw [← List.append_assoc]
      exact endsToken.append (by simp)
    have hquoted : EndsQuoted v (run ++ (first :: rest ++ after)) := by
      intro hv
      refine separators.head_skipBlanks ?_
      cases hnext : vs.head?.any Value.isQuoted with
      | true => exact .inl (endsQuoted hv hnext)
      | false =>
        refine .inr ?_
        simp only [List.cons_append, List.head?_cons, Option.mem_some_iff, forall_eq', hblank,
          true_and]
        rw [Bool.eq_false_iff]
        exact fun h => by simp [hquote h] at hnext
    obtain ⟨last, hvalue, hlast⟩ := ihv hv _ hends hquoted
    have hmore := ihvs hvs last after (hlast.trans (separators.skip _))
    obtain ⟨c, chars, rfl, hstart⟩ := value.startsValue hv
    have hitemText : skipSeparators false whole =
        c :: (chars ++ (run ++ (first :: rest ++ after))) := by
      rw [hwhole]
      simp only [List.cons_append, List.append_assoc]
      exact skipSeparators_cons hstart.noSeparator (hstart.noComment hcomment)
    exact .cons hitemText hstart.noClose hvalue hmore

/-- Every layout of entries is read back as just these entries, if a reader can make them out. -/
lemma readText_of_isLayout {es : List Entry} {text : String}
    (readable : Value.areReadable es = true) (layout : IsLayout es text) :
    readText text = .ok es := by
  obtain ⟨run, rest, htext, separators, layout⟩ := layout
  have hreadable : (Part.entries none es).isReadable = true := readable
  have hwhole : skipSeparators false text.toList = skipSeparators false (rest ++ []) := by
    rw [htext, separators.skip, List.append_nil]
  obtain ⟨after, hread, -⟩ :=
    layout.readsBack hreadable text.toList.length text.toList [] (fun _ => rfl) hwhole
  rw [readText, hread]

/-- Every layout of entries that can be written is read back as just these entries. -/
theorem readText_layout {es : List Entry} {text : String}
    (writable : Value.areWritable es = true) (layout : IsLayout es text) :
    readText text = .ok es :=
  readText_of_isLayout (Value.areReadable_of_areWritable es writable) layout

/-- Lists and messages under two keys, with a comment between them. -/
theorem readText_nested :
    readText "a.b:['x' \"y\\n\", t] #c\nm<k:\"\">" =
      .ok [("a.b", .list [.quoted "xy\n", .token "t"]), ("m", .message [("k", .quoted "")])] := by
  have hempty : Layout (.value (.quoted "")) ['"', '"'] := .quoted (.single rfl .close)
  have hinner : Layout (.entries (some '>') [("k", .quoted "")])
      ("k".toList ++ ([':'] ++ (['"', '"'] ++ ([] ++ ['>'])))) :=
    .entry (.colon _ allBlank_nil allBlank_nil) hempty .nil nofun (.close '>')
  have hmessages : Layout (.entries none [("m", .message [("k", .quoted "")])])
      ("m".toList ++
        ([] ++ (('<' :: ([] ++ ("k".toList ++ [':', '"', '"', '>']))) ++ ([] ++ [])))) :=
    .entry (.omitted rfl allBlank_nil) (.angled .nil hinner) .nil nofun .ended
  have hliterals : QuotedLayout (['x'] ++ ['y', '\n'])
      ('\'' :: (['x', '\''] ++ ([' '] ++ ('"' :: ['y', '\\', 'n', '"'])))) :=
    .adjacent rfl (.cons (.plain (by decide) (by decide)) .close)
      (List.forall_mem_singleton.mpr (by decide))
      (.single rfl (.cons (.plain (by decide) (by decide)) (.cons .newline .close)))
  have htoken : Layout (.items [.token "t"]) ("t".toList ++ ([] ++ [']'])) :=
    .item (.token "t") .nil (fun _ c hc => by cases hc; decide) nofun .listClose
  have hitems : Layout (.items [.quoted "xy\n", .token "t"])
      (('\'' :: ['x', '\'', ' ', '"', 'y', '\\', 'n', '"']) ++ ([',', ' '] ++ ['t', ']'])) :=
    .item (.quoted hliterals) (.cons (by decide) (.cons (by decide) .nil)) nofun
      (fun _ h => absurd h (by decide)) htoken
  have hline : '\n' ∉ ['c'] := by decide
  have hseparators : Separators (' ' :: '#' :: (['c'] ++ ['\n'])) :=
    .cons (by decide) (.comment hline .nil)
  have hentries := @Layout.entry none "a.b" _ _ _ _ _ _ (.colon _ allBlank_nil allBlank_nil)
    (.bracketed .nil hitems) hseparators nofun hmessages
  exact readText_layout (by decide) ⟨[], _, rfl, .nil, hentries⟩

end Laminate.Annotation
