import Laminate.Form.Tags
import Laminate.Proofs.Literals
import Laminate.Proofs.WordForms
import Laminate.Proofs.Decoding

/-! How struct tags are read: pairs of a key and a quoted value, looked up by key.
The tags of a field are read part by part where the texts that they take over as they are have
nothing in them that means something between quotes. -/
namespace Laminate.Form

open Laminate.Text Laminate.Schema Laminate.Code Laminate.Descriptor Laminate.Annotation

/-! ### Reading -/

/-- A character of a key. -/
def isTagKeyChar (c : Char) : Bool := ' ' < c && c != ':' && c != '"' && c != '\x7f'

/-- What stands before the quote that closes a value, and what follows it. A backslash takes the
next character along. -/
def closeQuote : List Char → Option (List Char × List Char)
  | [] => none
  | '"' :: rest => some ([], rest)
  | '\\' :: c :: rest => (closeQuote rest).map fun (inner, after) => ('\\' :: c :: inner, after)
  | c :: rest => (closeQuote rest).map fun (inner, after) => (c :: inner, after)

/-- The first pair of a tag, its value as it is quoted, and what follows. -/
def scanPair (text : List Char) : Option ((String × List Char) × List Char) :=
  let key := text.takeWhile isTagKeyChar
  match text.dropWhile isTagKeyChar with
  | ':' :: '"' :: rest =>
    if key = [] then none
    else (closeQuote rest).map fun (quoted, after) => ((String.ofList key, quoted), after)
  | _ => none

/-- What a quoted value stands for. -/
def unquote (quoted : List Char) : Option (List UInt8) :=
  match readInterpreted (quoted ++ ['"']) with
  | some (octets, []) => some octets
  | _ => none

lemma closeQuote_length {text inner after : List Char} (h : closeQuote text = some (inner, after)) :
    after.length < text.length := by
  fun_induction closeQuote text generalizing inner with
  | case1 => cases h
  | case2 rest =>
    cases h
    simp
  | case3 c rest ih =>
    obtain ⟨⟨i, a⟩, heq, hpair⟩ := Option.map_eq_some_iff.mp h
    cases hpair
    have := ih heq
    simp only [List.length_cons]
    omega
  | case4 c rest _ _ ih =>
    obtain ⟨⟨i, a⟩, heq, hpair⟩ := Option.map_eq_some_iff.mp h
    cases hpair
    have := ih heq
    simp only [List.length_cons]
    omega

lemma scanPair_length {text after : List Char} {pair : String × List Char}
    (h : scanPair text = some (pair, after)) : after.length < text.length := by
  unfold scanPair at h
  simp only at h
  split at h
  · next rest hrest =>
    split at h
    · cases h
    · obtain ⟨⟨quoted, left⟩, hclose, hpair⟩ := Option.map_eq_some_iff.mp h
      simp only [Prod.mk.injEq] at hpair
      obtain ⟨-, rfl⟩ := hpair
      have hclosed := closeQuote_length hclose
      have hdropped := (List.dropWhile_suffix isTagKeyChar (l := text)).length_le
      rw [hrest, List.length_cons, List.length_cons] at hdropped
      omega
  · cases h

/-- The value that a tag has under a key. Spaces before a pair are passed over; a tag that goes
wrong has nothing more in it, and values under other keys are not looked into. -/
def lookupTag (key : String) (text : List Char) : Option (List UInt8) :=
  match h : scanPair (text.dropWhile (· == ' ')) with
  | none => none
  | some ((found, quoted), after) =>
    have := Nat.lt_of_lt_of_le (scanPair_length h) (List.dropWhile_suffix _).length_le
    if found = key then unquote quoted else lookupTag key after
termination_by text.length

/-- The pairs of a tag that is made of nothing else but single spaces between them. -/
def readPairs (text : List Char) : Option (List (String × List UInt8)) :=
  match h : scanPair text with
  | none => none
  | some ((key, quoted), after) =>
    have := scanPair_length h
    (unquote quoted).bind fun value =>
      if after = [] then some [(key, value)]
      else if after.head? = some ' ' then (readPairs after.tail).map ((key, value) :: ·)
      else none
termination_by text.length

lemma lookupTag_eq (key : String) (text : List Char) : lookupTag key text =
    match scanPair (text.dropWhile (· == ' ')) with
    | none => none
    | some ((found, quoted), after) =>
      if found = key then unquote quoted else lookupTag key after := by
  rw [lookupTag]
  split <;> simp_all only

lemma readPairs_eq (text : List Char) : readPairs text =
    match scanPair text with
    | none => none
    | some ((key, quoted), after) =>
      (unquote quoted).bind fun value =>
        if after = [] then some [(key, value)]
        else if after.head? = some ' ' then (readPairs after.tail).map ((key, value) :: ·)
        else none := by
  rw [readPairs]
  split <;> simp_all only

/-! ### Plain parts -/

/-- A part whose value stands for itself. -/
structure TagPart.IsPlain (part : TagPart) : Prop where
  named : part.key ≠ ""
  key : ∀ c ∈ part.key.toList, isTagKeyChar c = true
  value : ∀ c ∈ part.value.toList, isVerbatim c = true

/-- A part as it is read. -/
def TagPart.pair (part : TagPart) : String × List UInt8 := (part.key, encode part.value)

section

variable {part : TagPart} {parts : List TagPart}

lemma closeQuote_verbatims {value : List Char} (h : ∀ c ∈ value, isVerbatim c = true)
    (rest : List Char) : closeQuote (value ++ '"' :: rest) = some (value, rest) := by
  induction value with
  | nil => rfl
  | cons c value ih =>
    have hc := h c List.mem_cons_self
    simp only [isVerbatim, Bool.and_eq_true, bne_iff_ne] at hc
    rw [List.cons_append, closeQuote, ih fun c hc => h c (List.mem_cons_of_mem _ hc)]
    · rfl
    · exact hc.1.1
    · rintro _ _ rfl
      exact absurd rfl hc.1.2

lemma unquote_verbatims {value : List Char} (h : ∀ c ∈ value, isVerbatim c = true) :
    unquote value = some (value.flatMap String.utf8EncodeChar) := by
  rw [unquote, readInterpreted_verbatims h]

lemma toList_text (part : TagPart) :
    part.text.toList = part.key.toList ++ ':' :: '"' :: (part.value.toList ++ ['"']) := by
  have hopen : ":\"".toList = [':', '"'] := by decide
  have hclose : "\"".toList = ['"'] := by decide
  simp [TagPart.text, String.toList_append, hopen, hclose]

lemma scanPair_text (h : part.IsPlain) (rest : List Char) :
    scanPair (part.text.toList ++ rest) = some ((part.key, part.value.toList), rest) := by
  have htext : part.text.toList ++ rest =
      part.key.toList ++ ':' :: '"' :: (part.value.toList ++ '"' :: rest) := by
    simp [toList_text]
  have hcolon : isTagKeyChar ':' = false := by decide
  have hne : part.key.toList ≠ [] := fun hnil => h.named (String.toList_eq_nil_iff.mp hnil)
  obtain ⟨htake, hdrop⟩ := span_append h.key (show ∀ c ∈ (':' :: '"' ::
    (part.value.toList ++ '"' :: rest)).head?, isTagKeyChar c = false by simpa using hcolon)
  simp only [scanPair, htext, htake, hdrop, if_neg hne, closeQuote_verbatims h.value,
    Option.map_some, String.ofList_toList]

lemma unquote_value (h : part.IsPlain) : unquote part.value.toList = some (encode part.value) := by
  rw [unquote_verbatims h.value, encode_eq]

/-- What follows the first part of a tag. -/
def followed : List TagPart → List Char
  | [] => []
  | next :: rest => ' ' :: (tagText (next :: rest)).toList

lemma toList_tagText_cons (part : TagPart) (rest : List TagPart) :
    (tagText (part :: rest)).toList = part.text.toList ++ followed rest := by
  cases rest with
  | nil => rw [tagText, List.map_singleton, String.intercalate_singleton, followed, List.append_nil]
  | cons next rest =>
    have hspace : " ".toList = [' '] := by decide
    simp [tagText, followed, String.intercalate_cons_cons, String.toList_append, hspace]

/-- The parts of a tag are its pairs. -/
theorem readPairs_tagText (h : ∀ part ∈ parts, part.IsPlain) (hne : parts ≠ []) :
    readPairs (tagText parts).toList = some (parts.map TagPart.pair) := by
  induction parts with
  | nil => exact absurd rfl hne
  | cons part rest ih =>
    have hpart := h part List.mem_cons_self
    rw [toList_tagText_cons, readPairs_eq, scanPair_text hpart]
    simp only [unquote_value hpart, Option.bind_some]
    cases rest with
    | nil => rfl
    | cons next rest =>
      have hrest := ih (fun part hmem => h part (List.mem_cons_of_mem _ hmem)) (by simp)
      simp only [followed, List.head?_cons, List.tail_cons, hrest]
      rfl

/-- No part of a tag starts with a space. -/
lemma dropWhile_text (h : part.IsPlain) (rest : List Char) :
    (part.text.toList ++ rest).dropWhile (· == ' ') = part.text.toList ++ rest := by
  rw [toList_text]
  cases hkey : part.key.toList with
  | nil => exact absurd (String.toList_eq_nil_iff.mp hkey) h.named
  | cons c key =>
    have hc : isTagKeyChar c = true := h.key c (by simp [hkey])
    have hspace : c ≠ ' ' := by
      rintro rfl
      revert hc
      decide
    exact List.dropWhile_cons_of_neg (by simpa using hspace)

/-- What a tag has under a key is what its parts have. -/
theorem lookupTag_tagText (h : ∀ part ∈ parts, part.IsPlain) (key : String) :
    lookupTag key (tagText parts).toList = (parts.map TagPart.pair).lookup key := by
  induction parts with
  | nil =>
    rw [lookupTag_eq]
    rfl
  | cons part rest ih =>
    have hpart := h part List.mem_cons_self
    have hrest : lookupTag key (followed rest) = (rest.map TagPart.pair).lookup key := by
      rw [← ih fun part hmem => h part (List.mem_cons_of_mem _ hmem)]
      cases rest with
      | nil => rfl
      | cons next rest =>
        rw [followed, lookupTag_eq, List.dropWhile_cons_of_pos (by rfl), ← lookupTag_eq]
    rw [toList_tagText_cons, lookupTag_eq, dropWhile_text hpart, scanPair_text hpart, List.map_cons]
    simp only [TagPart.pair, List.lookup_cons, hrest, unquote_value hpart]
    by_cases hkey : part.key = key
    · simp [hkey]
    · have hkey' : (key == part.key) = false := beq_false_of_ne (Ne.symm hkey)
      rw [if_neg hkey, hkey']

end

/-! ### The texts of tags -/

/-- A character that means nothing of its own in a tag, nor in the raw literal around it. -/
def isTagChar (c : Char) : Bool := isVerbatim c && c != Char.ofNat 96

def isTagText (text : String) : Bool := text.toList.all isTagChar

lemma isTagText_append (a b : String) : isTagText (a ++ b) = (isTagText a && isTagText b) := by
  rw [isTagText, String.toList_append, List.all_append, isTagText, isTagText]

lemma isTagText_intercalate {separator : String} (hseparator : isTagText separator = true)
    {texts : List String} (h : ∀ text ∈ texts, isTagText text = true) :
    isTagText (separator.intercalate texts) = true := by
  induction texts with
  | nil => rfl
  | cons first rest ih =>
    have hfirst := h first List.mem_cons_self
    cases rest with
    | nil => rwa [String.intercalate_singleton]
    | cons second rest =>
      rw [String.intercalate_cons_cons, isTagText_append, isTagText_append, hfirst, hseparator,
        ih fun text hmem => h text (List.mem_cons_of_mem _ hmem)]
      rfl

lemma isTagChar_of_isWordChar {c : Char} (h : isWordChar c = true) : isTagChar c = true := by
  simp only [isTagChar, isVerbatim, Bool.and_eq_true, bne_iff_ne]
  refine ⟨⟨⟨?_, ?_⟩, ?_⟩, ?_⟩ <;> rintro rfl <;> revert h <;> decide

lemma isTagText_snakeCase (name : String) : isTagText (snakeCase name) = true := by
  refine List.all_eq_true.mpr fun c hc => ?_
  rcases of_mem_snakeCase c hc with rfl | hword
  · decide
  · exact isTagChar_of_isWordChar hword

lemma isTagText_serializedKey (name : String) (naming : Naming) :
    isTagText (serializedKey name naming) = true := by
  cases naming with
  | snake => exact isTagText_snakeCase name
  | camel =>
    exact List.all_eq_true.mpr fun c hc =>
      isTagChar_of_isWordChar (of_mem_lowerCamelCase c hc)

lemma isTagText_omitEmpty (allowEmpty : Bool) : isTagText (omitEmpty allowEmpty) = true := by
  cases allowEmpty <;> decide

lemma isTagText_of_said {text name : String} (h : said text = some name)
    (htext : isTagText text = true) : isTagText name = true := by
  unfold said at h
  split at h <;> cases h
  exact htext

/-! ### The tags of a field -/

/-- A part that is plain and does not close the raw literal around its tag. -/
structure TagPart.IsClosed (part : TagPart) : Prop extends part.IsPlain where
  keyText : Char.ofNat 96 ∉ part.key.toList
  valueText : Char.ofNat 96 ∉ part.value.toList

/-- A tag of a layer as it is read: under `json` the key, under its own name the column, and then
the custom tags. -/
structure ReadsAs (text : String) (json : String) (column : Option TagPart) (custom : List Tag) :
    Prop where
  grave : Char.ofNat 96 ∉ text.toList
  pairs : readPairs text.toList = some (("json", encode json) ::
    column.toList.map (fun part => (part.key, encode part.value)) ++
      custom.map fun tag => (tag.name, encode tag.value))
  json : lookupTag "json" text.toList = some (encode json)
  column : ∀ part, column = some part → lookupTag part.key text.toList = some (encode part.value)

section

variable {part : TagPart} {parts : List TagPart}

lemma TagPart.isClosed_of_isTagText (hnamed : part.key ≠ "")
    (hkey : ∀ c ∈ part.key.toList, isTagKeyChar c = true ∧ c ≠ Char.ofNat 96)
    (hvalue : isTagText part.value = true) : part.IsClosed := by
  have hchar : ∀ c ∈ part.value.toList, isVerbatim c = true ∧ c ≠ Char.ofNat 96 := fun c hc => by
    simpa [isTagChar] using List.all_eq_true.mp hvalue c hc
  exact {
    named := hnamed
    key := fun c hc => (hkey c hc).1
    value := fun c hc => (hchar c hc).1
    keyText := fun h => (hkey _ h).2 rfl
    valueText := fun h => (hchar _ h).2 rfl }

/-- The parts that are under keys of their own. -/
lemma isClosed_of_mem {key value : String} (hkey : key ∈ ["json", "bson", "gorm"])
    (hvalue : isTagText value = true) : (TagPart.mk key value).IsClosed := by
  have hkeys : ∀ key ∈ ["json", "bson", "gorm"], key ≠ "" ∧
      (key.toList.all fun c => isTagKeyChar c && c != Char.ofNat 96) = true := by decide
  obtain ⟨hnamed, hchars⟩ := hkeys key hkey
  refine TagPart.isClosed_of_isTagText hnamed (fun c hc => ?_) hvalue
  simpa using List.all_eq_true.mp hchars c hc

lemma TagPart.grave_text (h : part.IsClosed) : Char.ofNat 96 ∉ part.text.toList := by
  have hcolon : Char.ofNat 96 ≠ ':' ∧ Char.ofNat 96 ≠ '"' := by decide
  simp only [toList_text, List.mem_append, List.mem_cons, List.not_mem_nil, or_false, not_or]
  exact ⟨h.keyText, hcolon.1, hcolon.2, h.valueText, hcolon.2⟩

lemma grave_tagText (h : ∀ part ∈ parts, part.IsClosed) :
    Char.ofNat 96 ∉ (tagText parts).toList := by
  have hspace : Char.ofNat 96 ≠ ' ' := by decide
  induction parts with
  | nil => simp [tagText]
  | cons part rest ih =>
    have hpart := TagPart.grave_text (h part List.mem_cons_self)
    have hrest := ih fun part hmem => h part (List.mem_cons_of_mem _ hmem)
    rw [toList_tagText_cons, List.mem_append]
    rintro (hmem | hmem)
    · exact hpart hmem
    · cases rest with
      | nil => cases hmem
      | cons next rest =>
        rcases List.mem_cons.mp hmem with hmem | hmem
        · exact hspace hmem
        · exact hrest hmem

lemma readsAs_of_isClosed {json : String} {column : Option TagPart} {custom : List Tag}
    (hjson : isTagText json = true)
    (hcolumn : ∀ part, column = some part → part.IsClosed ∧ part.key ≠ "json")
    (hcustom : ∀ tag ∈ custom, (TagPart.mk tag.name tag.value).IsClosed) :
    ReadsAs (tagText (⟨"json", json⟩ :: column.toList ++
      custom.map fun tag => ⟨tag.name, tag.value⟩)) json column custom := by
  have hclosed : ∀ part ∈ (⟨"json", json⟩ : TagPart) :: column.toList ++
      custom.map fun tag => ⟨tag.name, tag.value⟩, part.IsClosed := by
    intro part hpart
    rw [List.cons_append, List.mem_cons, List.mem_append] at hpart
    rcases hpart with rfl | hpart | hpart
    · exact isClosed_of_mem (by simp) hjson
    · exact (hcolumn part (Option.mem_toList.mp hpart)).1
    · obtain ⟨tag, htag, rfl⟩ := List.mem_map.mp hpart
      exact hcustom tag htag
  have hplain := fun part hpart => (hclosed part hpart).toIsPlain
  refine ⟨grave_tagText hclosed, ?_, ?_, ?_⟩
  · rw [readPairs_tagText hplain (by simp), List.map_append, List.map_map]
    rfl
  · rw [lookupTag_tagText hplain]
    rfl
  · rintro part rfl
    have hne : (part.key == "json") = false := beq_false_of_ne (hcolumn part rfl).2
    rw [lookupTag_tagText hplain]
    simp [TagPart.pair, List.lookup_cons, hne]

lemma isTagKeyChar_of_breaksTagName {c : Char} (h : breaksTagName c = false) :
    isTagKeyChar c = true ∧ c ≠ Char.ofNat 96 := by
  simp only [breaksTagName, Bool.or_eq_false_iff, beq_eq_false_iff_ne] at h
  obtain ⟨⟨⟨⟨hcolon, hquote⟩, hgrave⟩, hblank⟩, hcontrol⟩ := h
  have hspace : 32 < c.toNat ∧ c.toNat ≠ 127 := by
    simp only [isBlank, Bool.or_eq_false_iff, beq_eq_false_iff_ne] at hblank
    simp only [isControl, Bool.or_eq_false_iff, Bool.and_eq_false_iff, decide_eq_false_iff_not]
      at hcontrol
    omega
  have hdelete : c ≠ '\x7f' := by
    rintro rfl
    exact hspace.2 rfl
  have hlt : ' ' < c := hspace.1
  simp [isTagKeyChar, hlt, hcolon, hquote, hdelete, hgrave]

/-- The name of a custom tag is a key, as the loader sees to. -/
lemma isClosed_custom {tag : Tag} (h : tagFault? tag = none)
    (hvalue : '\\' ∉ tag.value.toList ∧ '\n' ∉ tag.value.toList) :
    (TagPart.mk tag.name tag.value).IsClosed := by
  unfold tagFault? at h
  split_ifs at h with hjson hempty hname hquoted
  rw [Bool.not_eq_true, List.any_eq_false] at hname hquoted
  refine TagPart.isClosed_of_isTagText (by simpa using hempty)
    (fun c hc => isTagKeyChar_of_breaksTagName (by simpa using hname c hc))
    (List.all_eq_true.mpr fun c hc => ?_)
  have hne : c ≠ '\\' ∧ c ≠ '\n' := by
    constructor <;> rintro rfl
    · exact hvalue.1 hc
    · exact hvalue.2 hc
  have hquote := hquoted c hc
  simp only [Bool.or_eq_true, beq_iff_eq, not_or] at hquote
  simp [isTagChar, isVerbatim, hne, hquote]

lemma tagFault?_of_fault? {field : Field} (h : field.fault? = none) :
    ∀ tag ∈ field.options.tags, tagFault? tag = none := by
  unfold Field.fault? at h
  split at h
  · cases h
  · exact List.findSome?_eq_none_iff.mp h

lemma isTagText_switches (o : ColumnOptions) :
    ∀ text ∈ Column.switches o, isTagText text = true := by
  have hswitches : ∀ text ∈ ["primaryKey", "autoIncrement", "unique", "index"],
      isTagText text = true := by decide
  intro text htext
  refine hswitches text ?_
  simp only [Column.switches, List.mem_append, List.mem_ite_nil_right, List.mem_singleton] at htext
  simp only [List.mem_cons, List.not_mem_nil, or_false]
  tauto

/-- The tag of a column is plain where the name that it is given is. -/
lemma isClosed_column {column : Column} {database : Database}
    (hkey : isTagText column.key = true)
    (hgiven : database ≠ .none → ∀ o, column.options = some o → o.ignore = false →
      isTagText o.columnName = true) :
    ∀ part, column.tag database = some part → part.IsClosed ∧ part.key ≠ "json" := by
  have hname : database ≠ .none → column.isIgnored = false → ∀ default, isTagText default = true →
      isTagText (column.givenName.getD default) = true := by
    intro hdatabase hignored default hdefault
    cases hgivenName : column.givenName with
    | none => exact hdefault
    | some name =>
      obtain ⟨o, ho, hsaid⟩ := Option.bind_eq_some_iff.mp hgivenName
      refine isTagText_of_said hsaid (hgiven hdatabase o ho ?_)
      simpa [Column.isIgnored, ho] using hignored
  intro part hpart
  cases database with
  | none => cases hpart
  | document =>
    cases hpart
    unfold Column.documentTag
    split
    · exact ⟨isClosed_of_mem (by simp) (by decide), by decide⟩
    · next hignored =>
      have hgiven := hname (by decide) (by simpa using hignored) _ hkey
      refine ⟨isClosed_of_mem (by simp) ?_, show "bson" ≠ "json" by decide⟩
      rw [isTagText_append, isTagText_omitEmpty, Bool.and_true]
      split
      · decide
      · exact hgiven
  | relational =>
    cases hpart
    unfold Column.relationalTag
    split
    · exact ⟨isClosed_of_mem (by simp) (by decide), by decide⟩
    · next hignored =>
      have hgiven := hname (by decide) (by simpa using hignored) _
        (isTagText_snakeCase column.domainName)
      refine ⟨isClosed_of_mem (by simp) (isTagText_intercalate (by decide) fun text htext => ?_),
        show "gorm" ≠ "json" by decide⟩
      rcases List.mem_cons.mp htext with rfl | htext
      · rw [isTagText_append, hgiven]
        rfl
      · cases hoptions : column.options with
        | none => simp [hoptions] at htext
        | some o => exact isTagText_switches o text (by simpa [hoptions] using htext)

end

lemma isTagText_outbound {message : Message} {field : Field}
    (h : ∀ o, field.options.outbound = some o → isTagText o.name = true) :
    isTagText (FieldKeys.of message field (FieldNames.of message field)).outbound = true := by
  show isTagText ((field.options.outbound.bind fun o => said o.name).getD _) = true
  cases hsaid : field.options.outbound.bind fun o => said o.name with
  | none => exact isTagText_serializedKey _ _
  | some name =>
    obtain ⟨o, ho, hname⟩ := Option.bind_eq_some_iff.mp hsaid
    exact isTagText_of_said hname (h o ho)

lemma key_tag (column : Column) (database : Database) :
    (column.tag database).map (·.key) = match database with
      | .none => none
      | .document => some "bson"
      | .relational => some "gorm" := by
  cases database with
  | none => rfl
  | document =>
    simp only [Column.tag, Column.documentTag, Option.map_some]
    split <;> rfl
  | relational =>
    simp only [Column.tag, Column.relationalTag, Option.map_some]
    split <;> rfl

/-- The tags of a field of a loaded message, under every database. A tag cannot leave the raw
literal that it stands in, and its pairs with single spaces between them are the key of its layer,
in the domain layer the column, and the custom tags, all with their values as they are. The values
of custom tags, the name of a column and the name in the outbound layer must be free of what has a
meaning of its own there; each layer asks this of the texts that it takes over. -/
theorem tags_read {settings : Settings} {index : Index} {files : List FileDesc} {file : FileDesc}
    {schema : FileSchema} (hload : FileSchema.load settings index files file = .ok schema)
    {message : Message} (hmessage : message ∈ schema.messages) {field : Field}
    (hfield : field ∈ message.fields)
    (hcustom : ∀ tag ∈ field.options.tags, '\\' ∉ tag.value.toList ∧ '\n' ∉ tag.value.toList)
    (database : Database) :
    let names := FieldNames.of message field
    let keys := FieldKeys.of message field names
    let tags := FieldTags.of database field names keys
    let domainEmpty := field.options.domain.any (·.allowEmpty)
    let inboundEmpty := field.options.inbound.any (·.allowEmpty)
    let outboundEmpty := field.options.outbound.any (·.allowEmpty)
    let column : Column := ⟨keys.domain, names.domain, field.options.column, domainEmpty⟩
    ((column.tag database).map (·.key) = match database with
      | .none => none
      | .document => some "bson"
      | .relational => some "gorm") ∧
    ((database ≠ .none → ∀ o, field.options.column = some o → o.ignore = false →
        isTagText o.columnName = true) →
      ReadsAs (tagText tags.domain) (keys.domain ++ if domainEmpty then "" else ",omitempty")
        (column.tag database) field.options.tags) ∧
    ReadsAs (tagText tags.inbound) (keys.inbound ++ if inboundEmpty then "" else ",omitempty")
      none field.options.tags ∧
    ((∀ o, field.options.outbound = some o → isTagText o.name = true) →
      ReadsAs (tagText tags.outbound) (keys.outbound ++ if outboundEmpty then "" else ",omitempty")
        none field.options.tags) := by
  intro names keys tags domainEmpty inboundEmpty outboundEmpty column
  obtain ⟨_, _, _, _, hmade⟩ := FileSchema.field_made hload hmessage hfield
  have hclosed : ∀ tag ∈ field.options.tags, (TagPart.mk tag.name tag.value).IsClosed :=
    fun tag htag => isClosed_custom (tagFault?_of_fault? (Scope.field_ok hmade).2 tag htag)
      (hcustom tag htag)
  have hjson : ∀ (key : String) (allowEmpty : Bool), isTagText key = true →
      isTagText (key ++ omitEmpty allowEmpty) = true := by
    intro key allowEmpty hkey
    rw [isTagText_append, hkey, isTagText_omitEmpty]
    rfl
  have hdomainKey : isTagText keys.domain = true := isTagText_serializedKey _ _
  have hinboundKey : isTagText keys.inbound = true := isTagText_serializedKey _ _
  have hnone : ∀ part : TagPart, none = some part → part.IsClosed ∧ part.key ≠ "json" := by simp
  refine ⟨key_tag column database, fun hgiven => ?_, ?_, fun hgiven => ?_⟩
  · exact readsAs_of_isClosed (hjson _ _ hdomainKey) (isClosed_column hdomainKey hgiven) hclosed
  · exact readsAs_of_isClosed (hjson _ _ hinboundKey) hnone hclosed
  · exact readsAs_of_isClosed (hjson _ _ (isTagText_outbound hgiven)) hnone hclosed

/-- A badge that is annotated in every way that tags take over. -/
def badgeOptions (outboundName : String) : FieldOptions where
  domain := some { allowEmpty := true }
  outbound := some { name := outboundName }
  column := some { columnName := "badge_no", primaryKey := true }
  tags := [⟨"form", "badge"⟩]

def badgeField (outboundName : String) : Field where
  name := "badge_id"
  number := 1
  goName := "BadgeId"
  kind := .scalar .string
  cardinality := .singular
  message := "UserWire"
  module := "acme"
  options := badgeOptions outboundName

def badgeMessage (outboundName : String) : Message where
  name := "UserWire"
  fullName := "acme.UserWire"
  kind := .wire
  names := .derive {} "UserWire" .wire
  members := [.surfaced (badgeField outboundName)]
  options := {}

def badgeRequest : Request where
  files := [packageFile "user" "acme"
    [.node
      { name := "UserWire"
        fields := [{ name := "badge_id", number := 1, type := .string }] } []]]
  generate := []

def badgeIndex (outboundName : String) : Index where
  fields := [(("acme.UserWire", 1), badgeOptions outboundName)]

/-- The tag of the badge in the outbound layer. -/
def badgeTag (outboundName : String) : String :=
  let message := badgeMessage outboundName
  let field := badgeField outboundName
  let names := FieldNames.of message field
  tagText (FieldTags.of .relational field names (FieldKeys.of message field names)).outbound

theorem badge_tags_read :
    ∃ schema, FileSchema.load {} (badgeIndex "badge") badgeRequest.files badgeRequest.files[0] =
        .ok schema ∧
      schema.messages = [badgeMessage "badge"] ∧
      ReadsAs "json:\"badge_id\" gorm:\"column:badge_no;primaryKey\" form:\"badge\"" "badge_id"
        (some ⟨"gorm", "column:badge_no;primaryKey"⟩) [⟨"form", "badge"⟩] ∧
      ReadsAs "json:\"badge_id,omitempty\" form:\"badge\"" "badge_id,omitempty" none
        [⟨"form", "badge"⟩] ∧
      ReadsAs "json:\"badge,omitempty\" form:\"badge\"" "badge,omitempty" none
        [⟨"form", "badge"⟩] := by
  have hbadge : (FileSchema.load {} (badgeIndex "badge") badgeRequest.files
      badgeRequest.files[0]).toOption.any (fun schema =>
        decide (schema.messages = [badgeMessage "badge"])) = true := by
    decide +kernel
  obtain ⟨schema, hload, hcheck⟩ := exists_of_check hbadge
  have hmessages := of_decide_eq_true hcheck
  have hmessage : badgeMessage "badge" ∈ schema.messages := by simp [hmessages]
  have hfield : badgeField "badge" ∈ (badgeMessage "badge").fields := by decide
  obtain ⟨-, hdomain, hinbound, houtbound⟩ :=
    tags_read hload hmessage hfield (by decide) .relational
  exact ⟨schema, hload, hmessages, hdomain (by decide), hinbound, houtbound (by decide)⟩

/-- A quote in the outbound name ends its value early, and nothing else is found in the tag. -/
theorem quoted_badge_misread :
    ∃ schema, FileSchema.load {} (badgeIndex "a\"b") badgeRequest.files badgeRequest.files[0] =
        .ok schema ∧
      schema.messages = [badgeMessage "a\"b"] ∧
      badgeTag "a\"b" = "json:\"a\"b,omitempty\" form:\"badge\"" ∧
      readPairs (badgeTag "a\"b").toList = none ∧
      lookupTag "json" (badgeTag "a\"b").toList = some (encode "a") ∧
      lookupTag "form" (badgeTag "a\"b").toList = none := by
  have hbadge : (FileSchema.load {} (badgeIndex "a\"b") badgeRequest.files
      badgeRequest.files[0]).toOption.any (fun schema =>
        decide (schema.messages = [badgeMessage "a\"b"])) = true := by
    decide +kernel
  obtain ⟨schema, hload, hcheck⟩ := exists_of_check hbadge
  refine ⟨schema, hload, of_decide_eq_true hcheck, ?_, ?_, ?_, ?_⟩
  all_goals decide +kernel

end Laminate.Form
