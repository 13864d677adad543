import Laminate.Proofs.CanonicalText

/-! Annotation values whose text is cut off are refused.
More text changes nothing of what has been read up to a closing bracket or a closing quote. So a
message, a list or a quoted text of which only a part is there cannot be read as anything: it would
be read off the front of the whole text too, and leave the other part. -/
namespace Laminate.Annotation

open Laminate.Text

variable {text after : List Char}

/-! ### More text -/

lemma skipSeparators_append {inComment : Bool} (h : skipSeparators inComment text ≠ [])
    (more : List Char) :
    skipSeparators inComment (text ++ more) = skipSeparators inComment text ++ more := by
  induction text generalizing inComment with
  | nil => exact absurd rfl h
  | cons c rest ih =>
    rw [List.cons_append]
    unfold skipSeparators at h ⊢
    split
    · next hcomment => exact ih (by rwa [if_pos hcomment] at h)
    · next hline =>
      rw [if_neg hline] at h
      split
      · next hopen => exact ih (by rwa [if_pos hopen] at h)
      · next hopen =>
        rw [if_neg hopen] at h
        split
        · next hmark => exact ih (by rwa [if_pos hmark] at h)
        · rfl

lemma skipBlanks_append_of_ne_nil (h : skipBlanks text ≠ []) (more : List Char) :
    skipBlanks (text ++ more) = skipBlanks text ++ more := by
  rw [skipBlanks, List.dropWhile_append, if_neg (by simpa [skipBlanks] using h), skipBlanks]

lemma skipColon_append (h : skipColon text ≠ []) (more : List Char) :
    skipColon (text ++ more) = skipColon text ++ more := by
  have hblanks : skipBlanks text ≠ [] := by
    intro hnil
    simp [skipColon, hnil] at h
  unfold skipColon at h ⊢
  rw [skipBlanks_append_of_ne_nil hblanks]
  split at h
  · next rest hcolon =>
    rw [hcolon]
    exact skipBlanks_append_of_ne_nil h more
  · next hnone =>
    obtain ⟨c, rest, hcons⟩ := List.exists_cons_of_ne_nil hblanks
    have hne : c ≠ ':' := by
      rintro rfl
      exact hnone rest hcons
    simp [hcons, hne]

lemma readLiteral_append {quote : Char} {contents : List Char}
    (h : readLiteral quote text = .ok (contents, after)) (more : List Char) :
    readLiteral quote (text ++ more) = .ok (contents, after ++ more) := by
  fun_induction readLiteral quote text generalizing contents after with
  | case1 => cases h
  | case2 rest =>
    cases h
    rw [List.cons_append, readLiteral.eq_def]
    simp
  | case3 => cases h
  | case4 => cases h
  | case5 e rest contents' after' hread hne ih =>
    cases h
    simp [readLiteral, hne, ih hread]
  | case6 => cases h
  | case7 c rest hquote hescape contents' after' hread ih =>
    cases h
    rw [List.cons_append, readLiteral.eq_def]
    simp [hquote, hescape, ih hread]

lemma readQuoted_append {contents : List Char} (h : readQuoted text = .ok (contents, after))
    (hafter : after ≠ []) (more : List Char) :
    readQuoted (text ++ more) = .ok (contents, after ++ more) := by
  fun_induction readQuoted text generalizing contents after with
  | case1 =>
    cases h
    exact absurd rfl hafter
  | case2 => cases h
  | case3 => cases h
  | case4 quote rest hquote contents' middle hliteral more' last hmore ih =>
    cases h
    have hskip : skipBlanks middle ≠ [] := by
      intro hnil
      rw [hnil, readQuoted] at hmore
      cases hmore
      exact hafter rfl
    refine readQuoted_cons hquote (readLiteral_append hliteral more) ?_
    rw [skipBlanks_append_of_ne_nil hskip]
    exact ih hmore hafter
  | case5 quote rest hquote =>
    cases h
    rw [List.cons_append, readQuoted, if_neg hquote]

/-- The end of a part is told by what has been read, and not by the end of the text. -/
def Part.IsSettled : Part → List Char → Prop
  | value v, after => v.isBracketed = true ∨ after ≠ []
  | entries close _, _ => close ≠ none
  | items _, _ => True

/-- Only entries that end with the text are read of nothing. -/
lemma Reads.ne_nil {part : Part} (h : Reads part text after)
    (closed : ∀ es, part ≠ .entries none es) : text ≠ [] := by
  cases h with
  | braced _ => exact List.cons_ne_nil _ _
  | angled _ => exact List.cons_ne_nil _ _
  | bracketed _ => exact List.cons_ne_nil _ _
  | quoted _ _ => exact List.cons_ne_nil _ _
  | @token token _ readable _ =>
    simp only [isReadableToken, Bool.and_eq_true] at readable
    intro hnil
    rw [(List.append_eq_nil_iff.mp hnil).1] at readable
    exact absurd readable.2 (by decide)
  | close closes => rintro rfl; cases closes
  | ended _ => exact absurd rfl (closed _)
  | @entry _ key _ _ _ rest _ _ isKey _ starts _ _ _ =>
    rintro rfl
    obtain ⟨c, chars, hchars, -⟩ := exists_of_isWritableKey isKey
    rw [hchars] at starts
    cases starts
  | listClose closes => rintro rfl; cases closes
  | item starts _ _ _ => rintro rfl; cases starts

lemma Reads.extend {part : Part} (h : Reads part text after) (settled : part.IsSettled after)
    (more : List Char) : Reads part (text ++ more) (after ++ more) := by
  induction h with
  | braced _ ih => exact .braced (ih nofun)
  | angled _ ih => exact .angled (ih nofun)
  | bracketed _ ih => exact .bracketed (ih trivial)
  | quoted isQuote literals =>
    have hafter := settled.resolve_left nofun
    exact .quoted isQuote (readQuoted_append literals hafter more)
  | token readable ends =>
    have hafter := settled.resolve_left nofun
    rw [List.append_assoc]
    exact .token readable (by rwa [List.head?_append_of_ne_nil _ hafter])
  | close closes =>
    refine .close ?_
    rw [skipSeparators_append (by simp [closes]), closes, List.cons_append]
  | ended _ => exact absurd rfl settled
  | @entry close key v es text rest middle after isKey isOpen starts ends value next ihv ihes =>
    have hcolon : skipColon rest ≠ [] := value.ne_nil nofun
    have hrest : rest ≠ [] := by
      rintro rfl
      exact hcolon rfl
    have hmiddle : middle ≠ [] := next.ne_nil fun _ heq => settled (Part.entries.inj heq).1
    obtain ⟨c, chars, hchars, -⟩ := exists_of_isWritableKey isKey
    refine .entry isKey isOpen ?_ (by rwa [List.head?_append_of_ne_nil _ hrest])
      (skipColon_append hcolon more ▸ ihv (.inr hmiddle)) (ihes settled)
    rw [skipSeparators_append (by simp [starts, hchars]), starts, List.append_assoc]
  | listClose closes =>
    refine .listClose ?_
    rw [skipSeparators_append (by simp [closes]), closes, List.cons_append]
  | @item v vs c text rest middle after starts isOpen value next ihv ihvs =>
    have hstarts : skipSeparators false (text ++ more) = c :: (rest ++ more) := by
      rw [skipSeparators_append (by simp [starts]), starts, List.cons_append]
    exact .item hstarts isOpen (ihv (.inr (next.ne_nil nofun))) (ihvs trivial)

/-! ### Parts of values -/

/-- What opens a value other than a bare token tells which it is. -/
lemma Reads.opened {v : Value} {c : Char} {rest : List Char}
    (h : Reads (.value v) (c :: rest) after) (opener : isValueOpener c = true) :
    (isQuote c = true → ∃ contents, readQuoted (c :: rest) = .ok (contents, after)) ∧
      (isQuote c = false → v.isBracketed = true) := by
  generalize htext : c :: rest = text at h
  cases h with
  | braced _ => cases htext; exact ⟨nofun, fun _ => rfl⟩
  | angled _ => cases htext; exact ⟨nofun, fun _ => rfl⟩
  | bracketed _ => cases htext; exact ⟨nofun, fun _ => rfl⟩
  | quoted isQuote literals =>
    cases htext
    exact ⟨fun _ => ⟨_, literals⟩, fun hnot => absurd hnot (by simp [isQuote])⟩
  | @token token _ readable _ =>
    simp only [isReadableToken, Bool.and_eq_true] at readable
    cases hchars : token.toList with
    | nil => simp [hchars] at readable
    | cons x chars =>
      rw [hchars] at htext
      cases htext
      simp [hchars, opener] at readable

lemma exists_of_readQuoted {quote : Char} {rest contents : List Char}
    (hquote : isQuote quote = true) (h : readQuoted (quote :: rest) = .ok (contents, after)) :
    ∃ first middle, readLiteral quote rest = .ok (first, middle) := by
  rw [readQuoted, if_pos hquote] at h
  split at h
  · cases h
  · next first middle hliteral => exact ⟨first, middle, hliteral⟩

/-- A message or a list is read of its canonical text, and nothing is left. -/
lemma reads_canonical {v : Value} (readable : v.isReadable = true)
    (bracketed : v.isBracketed = true) : Reads (.value v) v.canonical.toList [] := by
  cases v with
  | token _ => cases bracketed
  | quoted _ => cases bracketed
  | message es =>
    have hends : ∀ c ∈ ['\x7d'].head?, isTokenChar c = false := forall_mem_head? (by decide) []
    have hinner := (layout_entryTexts (.close '\x7d') hends es).readsBack readable 0 _ [] nofun rfl
    simpa [Value.canonical] using Reads.braced (isRead_iff.mp hinner)
  | list vs =>
    have hinner := (layout_itemTexts vs).readsBack readable 0 _ [] rfl
    simpa [Value.canonical] using Reads.bracketed (isRead_iff.mp hinner)

variable {v : Value} {key cut rest : String}

lemma not_reads_bracketed {w : Value} (readable : v.isReadable = true)
    (bracketed : v.isBracketed = true) (hw : w.isBracketed = true)
    (htext : v.canonical = cut ++ rest) (hrest : rest ≠ "") :
    ¬ Reads (.value w) cut.toList after := by
  intro h
  have hwhole := h.extend (.inl hw) rest.toList
  rw [← String.toList_append, ← htext] at hwhole
  have hnil := ((reads_canonical readable bracketed).value_unique hwhole).2
  exact hrest (String.toList_eq_nil_iff.mp (List.append_eq_nil_iff.mp hnil.symm).2)

lemma not_readLiteral_cut {text cut rest contents : List Char}
    (htext : text.flatMap escapeMark ++ ['"'] = cut ++ rest) (hrest : rest ≠ []) :
    readLiteral '"' cut ≠ .ok (contents, after) := by
  intro h
  have hwhole := readLiteral_append h rest
  have hliteral := literalLayout_flatMap charLayout_escapeMark text
  have hread := hliteral.read (by decide) []
  rw [List.append_nil, htext, hwhole] at hread
  have hnil : after ++ rest = [] := congrArg Prod.snd (Except.ok.inj hread)
  exact hrest (List.append_eq_nil_iff.mp hnil).2

/-- A value starts as its canonical text does, however little of that there is. -/
lemma exists_cons_of_canonical (readable : v.isReadable = true)
    (htext : v.canonical = cut ++ rest) (hcut : cut ≠ "") :
    ∃ c chars, cut.toList = c :: chars ∧ v.canonical.toList.head? = some c ∧ isBlank c = false := by
  obtain ⟨c, chars, hchars, hstart⟩ := (layout_canonical v).startsValue readable
  obtain ⟨x, xs, hxs⟩ := List.exists_cons_of_ne_nil (mt String.toList_eq_nil_iff.mp hcut)
  have hx : c = x := by simpa [hchars, hxs] using congrArg (·.toList.head?) htext
  subst hx
  exact ⟨c, xs, hxs, by rw [hchars]; rfl, isBlank_of_not_isSeparator hstart.noSeparator⟩

lemma skipColon_canonical (readable : v.isReadable = true) (htext : v.canonical = cut ++ rest)
    (hcut : cut ≠ "") (more : List Char) :
    skipColon (':' :: ' ' :: (cut.toList ++ more)) = cut.toList ++ more := by
  obtain ⟨c, chars, hchars, -, hblank⟩ := exists_cons_of_canonical readable htext hcut
  have hspace : AllBlank [' '] := List.forall_mem_singleton.mpr (by decide)
  rw [skipColon, skipBlanks_cons (by decide)]
  simp only
  rw [← List.singleton_append, skipBlanks_append hspace, hchars, List.cons_append,
    skipBlanks_cons hblank]

/-- Nothing is read of a value that is not all there. -/
lemma not_reads_cut {w : Value} (readable : v.isReadable = true) (htoken : v.isToken = false)
    (htext : v.canonical = cut ++ rest) (hcut : cut ≠ "") (hrest : rest ≠ "") :
    ¬ Reads (.value w) cut.toList after := by
  intro h
  obtain ⟨c, chars, hchars, hhead, -⟩ := exists_cons_of_canonical readable htext hcut
  cases v with
  | token _ => cases htoken
  | quoted text =>
    obtain rfl : '"' = c := by simpa [Value.canonical] using hhead
    rw [hchars] at h
    have hbody : text.toList.flatMap escapeMark ++ ['"'] = chars ++ rest.toList := by
      simpa [Value.canonical, hchars] using congrArg String.toList htext
    obtain ⟨contents, hread⟩ := (h.opened (by decide)).1 (by decide)
    obtain ⟨first, middle, hliteral⟩ := exists_of_readQuoted (by decide) hread
    exact not_readLiteral_cut hbody (mt String.toList_eq_nil_iff.mp hrest) hliteral
  | message es =>
    obtain rfl : '\x7b' = c := by simpa [Value.canonical] using hhead
    have hw := ((hchars ▸ h).opened (by decide)).2 (by decide)
    exact not_reads_bracketed readable rfl hw htext hrest h
  | list vs =>
    obtain rfl : '[' = c := by simpa [Value.canonical] using hhead
    have hw := ((hchars ▸ h).opened (by decide)).2 (by decide)
    exact not_reads_bracketed readable rfl hw htext hrest h

/-- The key that stands at the front is read, and a value behind it. -/
lemma Reads.exists_of_key {es : List Entry} {whole rest : List Char}
    (h : Reads (.entries none es) whole after) (hkey : isWritableKey key = true)
    (starts : skipSeparators false whole = key.toList ++ rest)
    (ends : ∀ c ∈ rest.head?, isKeyChar c = false) :
    ∃ w more middle, Reads (.value w) (skipColon rest) middle ∧
      Reads (.entries none more) middle after := by
  obtain ⟨x, chars, hchars, hall⟩ := exists_of_isWritableKey hkey
  cases h with
  | ended hnil => simp [starts, hchars] at hnil
  | @entry _ key' w more _ rest' middle _ isKey _ starts' ends' value next =>
    obtain ⟨-, -, -, hall'⟩ := exists_of_isWritableKey isKey
    have hrest : rest' = rest := by
      rw [← (span_append hall' ends').2, ← starts', starts, (span_append hall ends).2]
    exact ⟨w, more, middle, hrest ▸ value, next⟩

lemma skipSeparators_key (hkey : isWritableKey key = true) (rest : List Char) :
    skipSeparators false (key.toList ++ rest) = key.toList ++ rest := by
  obtain ⟨c, chars, hchars, hall⟩ := exists_of_isWritableKey hkey
  obtain ⟨hseparator, hcomment, -⟩ := isSeparator_of_isKeyChar (hall c (by simp [hchars]))
  rw [hchars, List.cons_append, skipSeparators_cons hseparator hcomment]

/-- A value that a comma follows is read, and what is left goes on behind the comma. -/
lemma skipSeparators_of_reads {w : Value} {middle more : List Char} (readable : v.isReadable = true)
    (h : Reads (.value w) (v.canonical.toList ++ ',' :: ' ' :: more) middle) :
    skipSeparators false middle = skipSeparators false more := by
  have hquoted : EndsQuoted v (',' :: ' ' :: more) := by
    intro _ c hc
    rw [skipBlanks_cons (by decide)] at hc
    cases hc
    decide
  obtain ⟨last, hread, hlast⟩ :=
    (layout_canonical v).readsBack readable 0 _ (endsToken_mark (by decide) v _) hquoted
  have hreads : Reads (.value v) _ last := isRead_iff.mp hread
  rw [(hreads.value_unique h).2] at hlast
  exact hlast.trans (separators_comma.skip more)

/-- Nothing is read of entries up to one whose value is not all there. -/
lemma not_reads_entries {front : List Entry} (hfront : Value.areReadable front = true)
    (hkey : isWritableKey key = true) (readable : v.isReadable = true) (htoken : v.isToken = false)
    (htext : v.canonical = cut ++ rest) (hcut : cut ≠ "") (hrest : rest ≠ "") {es : List Entry}
    {whole : List Char} (hwhole : skipSeparators false whole = skipSeparators false
      (", ".intercalate (entryTexts front ++ [key ++ ": " ++ cut])).toList) :
    ¬ Reads (.entries none es) whole after := by
  intro h
  induction front generalizing whole es with
  | nil =>
    have hkeyText : (", ".intercalate (entryTexts [] ++ [key ++ ": " ++ cut])).toList =
        key.toList ++ ':' :: ' ' :: (cut.toList ++ []) := by
      simp [entryTexts]
    rw [hkeyText, skipSeparators_key hkey] at hwhole
    obtain ⟨w, more, middle, hvalue, -⟩ := h.exists_of_key hkey hwhole (by simp; decide)
    rw [skipColon_canonical readable htext hcut, List.append_nil] at hvalue
    exact not_reads_cut readable htoken htext hcut hrest hvalue
  | cons e front ih =>
    obtain ⟨key', u⟩ := e
    simp only [Value.areReadable, Bool.and_eq_true] at hfront
    obtain ⟨⟨hkey', hu⟩, hfront⟩ := hfront
    set more := ", ".intercalate (entryTexts front ++ [key ++ ": " ++ cut])
    have hkeyText :
        (", ".intercalate (entryTexts ((key', u) :: front) ++ [key ++ ": " ++ cut])).toList =
          key'.toList ++ ':' :: ' ' :: (u.canonical.toList ++ ',' :: ' ' :: more.toList) := by
      rw [entryTexts, List.cons_append, String.intercalate_cons_of_ne_nil (by simp)]
      simp [more]
    rw [hkeyText, skipSeparators_key hkey'] at hwhole
    obtain ⟨w, es', middle, hvalue, hnext⟩ := h.exists_of_key hkey' hwhole (by simp; decide)
    have hempty : u.canonical ≠ "" := by
      obtain ⟨c, rest, hchars, -⟩ := (layout_canonical u).startsValue hu
      rintro hnil
      simp [hnil] at hchars
    rw [skipColon_canonical hu String.append_empty.symm hempty] at hvalue
    exact ih hfront (skipSeparators_of_reads hu hvalue) hnext

/-! ### Where values stand -/

/-- The canonical text of a part, without the closing bracket of what it is in. -/
def Part.canonical : Part → String
  | value v => v.canonical
  | entries _ es => ", ".intercalate (entryTexts es)
  | items vs => ", ".intercalate (itemTexts vs)

/-- A value stands in a part, with some text of the part before it and some behind it. -/
inductive Occurs (w : Value) : Part → String → String → Prop
  | self : Occurs w (.value w) "" ""
  | message {es : List Entry} {before after : String}
    (inner : Occurs w (.entries (some '\x7d') es) before after) :
    Occurs w (.value (.message es)) ("\x7b" ++ before) (after ++ "\x7d")
  | list {vs : List Value} {before after : String} (inner : Occurs w (.items vs) before after) :
    Occurs w (.value (.list vs)) ("[" ++ before) (after ++ "]")
  | entry {close : Option Char} {front back : List Entry} {key : String} {v : Value}
    {before after : String} (inner : Occurs w (.value v) before after) :
    Occurs w (.entries close (front ++ (key, v) :: back))
      (", ".intercalate (entryTexts front ++ [key ++ ": " ++ before]))
      (", ".intercalate (after :: entryTexts back))
  | item {front back : List Value} {v : Value} {before after : String}
    (inner : Occurs w (.value v) before after) :
    Occurs w (.items (front ++ v :: back)) (", ".intercalate (itemTexts front ++ [before]))
      (", ".intercalate (after :: itemTexts back))

/-- Whatever stands in a value has its place in the text. -/
theorem Value.Within.exists_occurs {w v : Value} (h : w.Within v) :
    ∃ before after, Occurs w (.value v) before after := by
  induction h with
  | self => exact ⟨_, _, .self⟩
  | entry mem _ ih =>
    obtain ⟨before, after, ih⟩ := ih
    obtain ⟨front, back, rfl⟩ := List.append_of_mem mem
    exact ⟨_, _, .message (.entry ih)⟩
  | item mem _ ih =>
    obtain ⟨before, after, ih⟩ := ih
    obtain ⟨front, back, rfl⟩ := List.append_of_mem mem
    exact ⟨_, _, .list (.item ih)⟩

lemma entryTexts_append (front back : List Entry) :
    entryTexts (front ++ back) = entryTexts front ++ entryTexts back := by
  induction front with
  | nil => rfl
  | cons e front ih => rw [List.cons_append, entryTexts, entryTexts, ih, List.cons_append]

lemma itemTexts_append (front back : List Value) :
    itemTexts (front ++ back) = itemTexts front ++ itemTexts back := by
  induction front with
  | nil => rfl
  | cons v front ih => rw [List.cons_append, itemTexts, itemTexts, ih, List.cons_append]

/-- A joined text falls apart within one of its members. -/
lemma intercalate_append_cons (front back : List String) (before after : String) :
    ", ".intercalate (front ++ (before ++ after) :: back) =
      ", ".intercalate (front ++ [before]) ++ ", ".intercalate (after :: back) := by
  cases front with
  | nil => rw [List.nil_append, String.intercalate_cons_append, List.nil_append,
      String.intercalate_singleton]
  | cons t front =>
    rw [String.intercalate_append_of_ne_nil (List.cons_ne_nil t front) (List.cons_ne_nil _ back),
      String.intercalate_append_of_ne_nil (List.cons_ne_nil t front) (List.cons_ne_nil before []),
      String.intercalate_cons_append, String.intercalate_singleton]
    simp only [String.append_assoc]

/-- What stands before a value, its canonical text and what stands behind it make up the whole. -/
lemma Occurs.canonical_eq {w : Value} {part : Part} {before after : String}
    (h : Occurs w part before after) : part.canonical = before ++ (w.canonical ++ after) := by
  induction h with
  | self => simp [Part.canonical]
  | message _ ih =>
    simp only [Part.canonical, Value.canonical] at ih ⊢
    rw [ih]
    simp only [String.append_assoc]
  | list _ ih =>
    simp only [Part.canonical, Value.canonical] at ih ⊢
    rw [ih]
    simp only [String.append_assoc]
  | @entry close front back key v before after _ ih =>
    have hvalue : v.canonical = before ++ (w.canonical ++ after) := ih
    rw [Part.canonical, entryTexts_append, entryTexts, hvalue, ← String.append_assoc,
      intercalate_append_cons, String.intercalate_cons_append]
  | @item front back v before after _ ih =>
    have hvalue : v.canonical = before ++ (w.canonical ++ after) := ih
    rw [Part.canonical, itemTexts_append, itemTexts, hvalue, intercalate_append_cons,
      String.intercalate_cons_append]

/-- Only the token itself stands in a token. -/
lemma Occurs.isToken {w v : Value} {before after : String} (h : Occurs w (.value v) before after)
    (htoken : w.isToken = false) : v.isToken = false := by
  cases h with
  | self => exact htoken
  | message _ => rfl
  | list _ => rfl

/-- A text that ends within a message, a list or a quoted text, at any depth, is refused. -/
theorem readText_truncated {es : List Entry} {w : Value} {before after cut rest : String}
    (readable : Value.areReadable es = true) (occurs : Occurs w (.entries none es) before after)
    (htoken : w.isToken = false) (htext : w.canonical = cut ++ rest) (hcut : cut ≠ "")
    (hrest : rest ≠ "") :
    canonicalText es = before ++ cut ++ (rest ++ after) ∧
      ∃ fault, readText (before ++ cut) = .error fault := by
  constructor
  · have hwhole : canonicalText es = before ++ (w.canonical ++ after) := occurs.canonical_eq
    rw [hwhole, htext]
    simp only [String.append_assoc]
  · cases hread : readText (before ++ cut) with
    | error fault => exact ⟨fault, rfl⟩
    | ok es' =>
      exfalso
      obtain ⟨last, hreads⟩ := readText_eq_ok_iff.mp hread
      cases occurs with
      | @entry _ front back key v before' after' inner =>
        have hentries := Value.areReadable_iff.mp readable
        have hfront : Value.areReadable front = true :=
          Value.areReadable_iff.mpr fun e he => hentries e (List.mem_append_left _ he)
        obtain ⟨hkey, hv⟩ := hentries (key, v) (by simp)
        have hvalue : v.canonical = (before' ++ cut) ++ (rest ++ after') := by
          have hinner : v.canonical = before' ++ (w.canonical ++ after') := inner.canonical_eq
          rw [hinner, htext]
          simp only [String.append_assoc]
        have hwhole : ", ".intercalate (entryTexts front ++ [key ++ ": " ++ (before' ++ cut)]) =
            ", ".intercalate (entryTexts front ++ [key ++ ": " ++ before']) ++ cut := by
          rw [← String.append_assoc, intercalate_append_cons, String.intercalate_singleton]
        exact not_reads_entries hfront hkey hv (inner.isToken htoken) hvalue (by simp [hcut])
          (by simp [hrest]) (by rw [hwhole]) hreads

/-- The text ends within an escape, three levels down. -/
theorem readText_truncated_escape :
    canonicalText
        [("a", .token "t"), ("m", .message [("k", .list [.quoted "x\"y", .token "u"])])] =
      "a: t, m: \x7bk: [" ++ "\"x\\" ++ ("\"y\"" ++ ", u]\x7d") ∧
    ∃ fault, readText ("a: t, m: \x7bk: [" ++ "\"x\\") = .error fault := by
  have hitem : Occurs (.quoted "x\"y") (.items ([] ++ .quoted "x\"y" :: [.token "u"])) _ _ :=
    .item .self
  have hinner : Occurs (.quoted "x\"y")
      (.entries (some '\x7d') ([] ++ ("k", .list [.quoted "x\"y", .token "u"]) :: [])) _ _ :=
    .entry (.list hitem)
  have houter : Occurs (.quoted "x\"y")
      (.entries none ([("a", .token "t")] ++
        ("m", .message [("k", .list [.quoted "x\"y", .token "u"])]) :: []))
      "a: t, m: \x7bk: [" ", u]\x7d" :=
    .entry (.message hinner)
  exact readText_truncated (by decide) houter rfl (by decide) (by decide) (by decide)

end Laminate.Annotation
