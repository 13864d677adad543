import Laminate.Proofs.CompanionOutcome
import Laminate.Proofs.Evaluation
import Laminate.Proofs.Identifiers
import Laminate.Proofs.Inventory
import Laminate.Proofs.NameWords

/-! Names in the companion file. Identifiers of the schema become identifiers of the companion
language: their exported form begins with a capital, so its snake case begins with a small letter,
and what no word may be is told apart. -/
namespace Laminate.Text

/-- A character of an identifier in a schema. -/
def isSchemaChar (c : Char) : Bool := c.isAlphanum || c == '_'

/-- An identifier in a schema: a letter or an underscore with letters, digits and underscores. -/
def isSchemaName (name : String) : Bool :=
  match name.toList with
  | [] => false
  | c :: rest => (c.isAlpha || c == '_') && rest.all isSchemaChar

lemma isSchemaName_iff {name : String} :
    isSchemaName name = true ↔
      ∃ c rest, name.toList = c :: rest ∧ (c.isAlpha = true ∨ c = '_') ∧
        ∀ d ∈ rest, isSchemaChar d = true := by
  unfold isSchemaName
  split
  · next hnil => simp [hnil]
  · next c rest hcons => simp [hcons]

/-! ### Characters -/

lemma isAlpha_iff {c : Char} : c.isAlpha = true ↔ c.isUpper = true ∨ c.isLower = true :=
  Bool.or_eq_true_iff

lemma lt_of_isAlphanum {c : Char} (h : c.isAlphanum = true) : c.toNat < 128 := by
  rcases Bool.or_eq_true_iff.mp h with hletter | hdigit
  · rcases isAlpha_iff.mp hletter with hupper | hlower
    · exact lt_of_isUpper hupper
    · exact lt_of_isLower hlower
  · exact lt_of_isDigit hdigit

lemma lt_of_isSchemaChar {c : Char} (h : isSchemaChar c = true) : c.toNat < 128 := by
  rcases Bool.or_eq_true_iff.mp h with halphanum | hunderscore
  · exact lt_of_isAlphanum halphanum
  · rw [beq_iff_eq.mp hunderscore]
    decide

lemma schemaChar_ascii : ∀ c : Char, c.toNat < 128 →
    (isSchemaChar c = true → isSchemaChar c.toUpper = true) ∧
    (c.isAlpha = true → c.isDigit = false ∧ c.toUpper.isUpper = true) ∧
    (c.isUpper = true → c.toLower.isLower = true) ∧
    (isAlphanumeric c = true → isSnakeChar c.toLower = true) :=
  forall_ascii (by decide +kernel)

lemma isSchemaChar_of_isAlpha {c : Char} (h : c.isAlpha = true ∨ c = '_') :
    isSchemaChar c = true := by
  rcases h with h | rfl
  · simp [isSchemaChar, Char.isAlphanum, h]
  · rfl

/-! ### Exported names -/

open Laminate.Code in
lemma isSchemaChar_of_mem_exportedFrom {place : NamePlace} {name : List Char}
    (h : ∀ c ∈ name, isSchemaChar c = true) :
    ∀ c ∈ exportedFrom place name, isSchemaChar c = true := by
  induction name generalizing place with
  | nil => simp [exportedFrom]
  | cons c rest ih =>
    obtain ⟨hc, hrest⟩ := List.forall_mem_cons.mp h
    have hupper := (schemaChar_ascii c (lt_of_isSchemaChar hc)).1 hc
    have hdot : c ≠ '.' := by
      rintro rfl
      cases hc
    unfold exportedFrom
    simp only [hdot, if_false]
    split
    · exact List.forall_mem_cons.mpr ⟨hc, ih hrest⟩
    · split
      · exact List.forall_mem_cons.mpr ⟨rfl, ih hrest⟩
      · split
        · exact ih hrest
        · split
          · exact List.forall_mem_cons.mpr ⟨hc, ih hrest⟩
          · exact List.forall_mem_cons.mpr ⟨hupper, ih hrest⟩

/-- A capital stands in front of an exported name. -/
lemma toList_exportedName_upper {name : String} (h : isSchemaName name = true) :
    ∃ u rest, (Code.exportedName name).toList = u :: rest ∧ u.isUpper = true ∧
      ∀ c ∈ rest, isSchemaChar c = true := by
  obtain ⟨c, rest, hname, hc, hrest⟩ := isSchemaName_iff.mp h
  rw [Code.exportedName, String.toList_ofList, hname]
  rcases hc with hc | rfl
  · have hlow : c.toNat < 128 := lt_of_isAlphanum (by simp [Char.isAlphanum, hc])
    obtain ⟨hdigit, hupper⟩ := (schemaChar_ascii c hlow).2.1 hc
    have hdot : c ≠ '.' := by
      rintro rfl
      cases hc
    have hunderscore : c ≠ '_' := by
      rintro rfl
      cases hc
    refine ⟨c.toUpper, Code.exportedFrom .word rest, ?_, hupper,
      isSchemaChar_of_mem_exportedFrom hrest⟩
    simp [Code.exportedFrom, hdot, hunderscore, hdigit]
  · exact ⟨'X', Code.exportedFrom .inner rest, by simp [Code.exportedFrom], rfl,
      isSchemaChar_of_mem_exportedFrom hrest⟩

/-! ### Snake case -/

lemma mem_of_mem_splitAt {cut : Char → Bool} {text piece : List Char}
    (h : piece ∈ splitAt cut text) {c : Char} (hc : c ∈ piece) : c ∈ text := by
  induction text generalizing piece with
  | nil => simp_all [splitAt]
  | cons d rest ih =>
    simp only [splitAt] at h
    split at h
    · simp_all
    · next first pieces hrest =>
      rw [hrest] at ih
      split at h
      · rcases List.mem_cons.mp h with rfl | h
        · cases hc
        · exact List.mem_cons_of_mem _ (ih h hc)
      · rcases List.mem_cons.mp h with rfl | h
        · rcases List.mem_cons.mp hc with rfl | hc
          · exact List.mem_cons_self
          · exact List.mem_cons_of_mem _ (ih List.mem_cons_self hc)
        · exact List.mem_cons_of_mem _ (ih (List.mem_cons_of_mem _ h) hc)

/-- The characters of words are the letters and digits of the name. -/
lemma mem_of_mem_words {name word : List Char} (h : word ∈ words name) {c : Char} (hc : c ∈ word) :
    c ∈ name ∧ isAlphanumeric c = true := by
  obtain ⟨run, hrun, hword⟩ := List.mem_flatMap.mp h
  have hmem := mem_of_mem_humps hword hc
  exact ⟨mem_of_mem_splitAt hrun hmem, by simpa using not_of_mem_splitAt hrun c hmem⟩

lemma humps_cons (hump : Hump) (c : Char) (word : List Char) {run : List Char} (h : run ≠ []) :
    ∃ more rest, humps hump (c :: word) run = (c :: more) :: rest := by
  induction run generalizing hump word with
  | nil => contradiction
  | cons d run ih =>
    cases run with
    | nil => exact ⟨_, _, rfl⟩
    | cons after run =>
      rw [humps]
      split
      · exact ⟨_, _, rfl⟩
      · split
        · exact ⟨_, _, rfl⟩
        · exact ih (hump.next d) (word ++ [d]) (by simp)

/-- The first word of a name starts like the name. -/
lemma words_cons {c : Char} (h : isAlphanumeric c = true) (rest : List Char) :
    ∃ word more, words (c :: rest) = (c :: word) :: more := by
  have hrun : ∀ run : List Char, ∃ word more, humps .fresh [] (c :: run) = (c :: word) :: more := by
    intro run
    cases run with
    | nil => exact ⟨_, _, rfl⟩
    | cons after run =>
      rw [humps]
      split
      · exact ⟨_, _, rfl⟩
      · simp only [reduceCtorEq, false_and, if_false]
        exact humps_cons _ c [] (by simp)
  unfold words
  rw [splitAt]
  split
  · next hnil => exact absurd hnil (splitAt_ne_nil _ rest)
  · next piece pieces _ =>
    obtain ⟨word, more, hword⟩ := hrun piece
    rw [if_neg (by simp [h]), List.flatMap_cons, hword]
    exact ⟨word, _, rfl⟩

lemma isSnakeChar_of_mem_snakeCase {name : String}
    (h : ∀ c ∈ name.toList, isSchemaChar c = true) :
    ∀ c ∈ (snakeCase name).toList, isSnakeChar c = true := by
  refine of_mem_joined (fun c hc => by rw [List.mem_singleton.mp hc]; rfl)
    fun part hpart d hd => ?_
  obtain ⟨word, hword, rfl⟩ := List.mem_map.mp hpart
  have hlow : ∀ c ∈ word, c.toNat < 128 := fun c hc =>
    lt_of_isSchemaChar (h c (mem_of_mem_words hword hc).1)
  rw [lowerWord_of_ascii hlow] at hd
  obtain ⟨c, hc, rfl⟩ := List.mem_map.mp hd
  exact (schemaChar_ascii c (hlow c hc)).2.2.2 (mem_of_mem_words hword hc).2

/-- The snake case of a name with a capital in front has its small letter there. -/
lemma toList_snakeCase_upper {name : String} {u : Char} {rest : List Char}
    (hname : name.toList = u :: rest) (hu : u.isUpper = true)
    (hrest : ∀ c ∈ rest, isSchemaChar c = true) :
    ∃ more, (snakeCase name).toList = u.toLower :: more ∧
      ∀ c ∈ more, isSnakeChar c = true := by
  have halphanum : u.isAlphanum = true := by simp [Char.isAlphanum, isAlpha_iff, hu]
  have hall : ∀ c ∈ name.toList, isSchemaChar c = true := by
    rw [hname]
    exact List.forall_mem_cons.mpr ⟨by simp [isSchemaChar, halphanum], hrest⟩
  obtain ⟨word, more, hwords⟩ := words_cons (isAlphanumeric_of_isAlphanum halphanum) rest
  have hlow : ∀ c ∈ u :: word, c.toNat < 128 := by
    intro c hc
    refine lt_of_isSchemaChar (hall c (mem_of_mem_words ?_ hc).1)
    rw [hname, hwords]
    exact List.mem_cons_self
  have hsnake : ∃ tail, (snakeCase name).toList = u.toLower :: tail := by
    rw [snakeCase, hname, hwords, List.map_cons, lowerWord_of_ascii hlow, joined,
      String.toList_ofList, List.map_cons]
    cases more with
    | nil => exact ⟨_, by simp [List.intercalate]; rfl⟩
    | cons next more => exact ⟨_, by simp [List.intercalate]; rfl⟩
  obtain ⟨tail, htail⟩ := hsnake
  refine ⟨tail, htail, fun c hc => isSnakeChar_of_mem_snakeCase hall c ?_⟩
  rw [htail]
  exact List.mem_cons_of_mem _ hc

end Laminate.Text

namespace Laminate.Companion

open Laminate.Text Laminate.Code Laminate.Schema Laminate.Form Laminate.Descriptor
open Laminate.Annotation

lemma domainName_of_unnamed {field : Field}
    (h : ∀ options, field.options.domain = some options → options.name = "") :
    domainName field = field.goName := by
  unfold domainName
  cases hoptions : field.options.domain with
  | none => rfl
  | some options => simp [said, h options hoptions]

/-! ### Fields -/

/-- An identifier: a word that is not reserved, or a word in raw form. -/
def isIdentifier (name : String) : Bool :=
  (isWord name.toList && !reservedWords.contains name) || isRawWord name

/-- How a field is called whose name makes a word. -/
structure NamesField (word name : String) : Prop where
  identifier : isIdentifier name = true
  raw : isRawWord name = true ↔ word ∈ rawWords
  ofRaw : word ∈ rawWords → name = "r#" ++ word
  ofPath : word ∈ ["self", "super", "crate"] → name = word ++ "_"
  ofOther : word ∉ rawWords → word ∉ ["self", "super", "crate"] → name = word

lemma pathWords_ok : ∀ word ∈ pathWords, isIdentifier (word ++ "_") = true ∧
    isRawWord (word ++ "_") = false ∧ word ∉ rawWords := by
  decide +kernel

lemma isNameContinue_of_isSnakeChar {c : Char} (h : isSnakeChar c = true) :
    isNameContinue c = true := by
  rcases of_isSnakeChar h with hlower | hdigit | rfl
  · simp [isNameContinue, Char.isAlphanum, isAlpha_iff, hlower]
  · simp [isNameContinue, Char.isAlphanum, hdigit]
  · rfl

section

variable {word : String} {c : Char} {rest : List Char}

/-- A small letter with small letters, digits and underscores is a word, not in raw form. -/
lemma isWord_of_small (hword : word.toList = c :: rest) (hc : c.isLower = true)
    (hrest : ∀ d ∈ rest, isSnakeChar d = true) :
    isWord word.toList = true ∧ isRawWord word = false ∧ word ∉ ["_", "Self"] := by
  refine ⟨?_, ?_, ?_⟩
  · rw [hword, isWord]
    simp only [isNameStart, isAlpha_iff.mpr (.inr hc), Bool.or_true, Bool.true_or, Bool.true_and,
      List.all_eq_true]
    exact fun d hd => isNameContinue_of_isSnakeChar (hrest d hd)
  · unfold isRawWord
    split
    · next inner hinner =>
      -- the second character of a raw form is not one of the word
      have hchars := Registry.dropHead?_eq_some.mp hinner
      have hmark : "r#".toList = ['r', '#'] := rfl
      rw [hword, hmark] at hchars
      obtain ⟨-, rfl⟩ := List.cons.inj hchars
      cases hrest '#' List.mem_cons_self
    · rfl
  · intro hmem
    have hlower : ∀ other ∈ ["_", "Self"], other.toList.head?.any Char.isLower = false := by decide
    have := hlower word hmem
    simp [hword, hc] at this

/-- A word of no special meaning in a path has a raw form. -/
lemma isRawWord_raw (hword : isWord word.toList = true) (hplain : word ∉ "_" :: pathWords) :
    isRawWord ("r#" ++ word) = true := by
  have hinner : dropHead? "r#" ("r#" ++ word) = some word :=
    Registry.dropHead?_eq_some.mpr String.toList_append.symm
  have hcontains : ("_" :: pathWords).contains word = false := by
    simpa [List.contains_iff_mem] using hplain
  unfold isRawWord
  rw [hinner]
  simp only [hword, hcontains, Bool.not_false, Bool.true_and]

end

/-- The field of a name that begins with a capital has an identifier. -/
theorem fieldName?_exportedName {name : String} (h : isSchemaName name = true) :
    ∃ ident, fieldName? (exportedName name) = some ident ∧
      NamesField (snakeCase (exportedName name)) ident := by
  obtain ⟨u, rest, hname, hu, hrest⟩ := toList_exportedName_upper h
  obtain ⟨more, hsnake, hmore⟩ := toList_snakeCase_upper hname hu hrest
  obtain ⟨word, hword⟩ : ∃ word, snakeCase (exportedName name) = word := ⟨_, rfl⟩
  rw [hword] at hsnake ⊢
  have hlower := (schemaChar_ascii u (lt_of_isUpper hu)).2.2.1 hu
  obtain ⟨hisWord, hnotRaw, hspecial⟩ := isWord_of_small hsnake hlower hmore
  have hpaths : word ∈ pathWords ↔ word ∈ ["self", "super", "crate"] := by
    simp_all [pathWords]
  unfold fieldName?
  simp only [hword, List.contains_iff_mem]
  by_cases hpath : word ∈ pathWords
  · obtain ⟨hidentifier, hraw, hnotMem⟩ := pathWords_ok word hpath
    refine ⟨word ++ "_", if_pos hpath, hidentifier, ?_, ?_, fun _ => rfl, ?_⟩
    · simp [hraw, hnotMem]
    · exact fun hmem => absurd hmem hnotMem
    · exact fun _ hnot => absurd (hpaths.mp hpath) hnot
  · rw [if_neg hpath]
    by_cases hrawWord : word ∈ rawWords
    · have hraw : isRawWord ("r#" ++ word) = true :=
        isRawWord_raw hisWord (by simp_all)
      refine ⟨"r#" ++ word, if_pos hrawWord, ?_, ?_, fun _ => rfl, ?_, ?_⟩
      · simp [isIdentifier, hraw]
      · simp [hraw, hrawWord]
      · exact fun hmem => absurd (hpaths.mpr hmem) hpath
      · exact fun hnot => absurd hrawWord hnot
    · refine ⟨word, by rw [if_neg hrawWord, if_pos hisWord], ?_, ?_, ?_, ?_, fun _ _ => rfl⟩
      · have hreserved : word ∉ reservedWords := by
          simp_all [reservedWords]
        simp [isIdentifier, hisWord, hreserved]
      · simp [hnotRaw, hrawWord]
      · exact fun hmem => absurd hmem hrawWord
      · exact fun hmem => absurd (hpaths.mpr hmem) hpath

/-! ### Structs -/

lemma isWord_of_isSchemaName {name : String} (h : isSchemaName name = true) :
    isWord name.toList = true := by
  obtain ⟨c, rest, hname, hc, hrest⟩ := isSchemaName_iff.mp h
  have hstart : (c == '_' || isNameStart c) = true := by
    rcases hc with hc | rfl
    · simp [isNameStart, hc]
    · rfl
  have hcontinue : ∀ d ∈ rest, isNameContinue d = true := by
    intro d hd
    rcases Bool.or_eq_true_iff.mp (hrest d hd) with halphanum | hunderscore
    · simp [isNameContinue, halphanum]
    · simp [isNameContinue, hunderscore]
  rw [hname, isWord, hstart, Bool.true_and, List.all_eq_true]
  exact hcontinue

lemma isSchemaName_of_append {front back : String} (h : isSchemaName (front ++ back) = true)
    (hne : front ≠ "") : isSchemaName front = true := by
  obtain ⟨c, rest, hname, hc, hrest⟩ := isSchemaName_iff.mp h
  rw [String.toList_append] at hname
  cases hfront : front.toList with
  | nil => exact absurd (String.toList_eq_nil_iff.mp hfront) hne
  | cons d more =>
    rw [hfront, List.cons_append] at hname
    obtain ⟨rfl, rfl⟩ := List.cons.inj hname
    exact isSchemaName_iff.mpr
      ⟨d, more, hfront, hc, fun x hx => hrest x (List.mem_append_left _ hx)⟩

/-- Names joined by underscores are a name. -/
lemma isSchemaName_wireName {d : Declaration}
    (h : ∀ name ∈ d.path ++ [d.desc.name], isSchemaName name = true) :
    isSchemaName d.wireName = true := by
  have heach : ∀ names : List String, (∀ name ∈ names, isSchemaName name = true) →
      ∀ c ∈ eachAfter '_' names, isSchemaChar c = true := by
    intro names hnames c hc
    obtain ⟨name, hname, hc⟩ := List.mem_flatMap.mp hc
    obtain ⟨first, rest, hchars, hfirst, hrest⟩ := isSchemaName_iff.mp (hnames name hname)
    rw [hchars] at hc
    rcases List.mem_cons.mp hc with rfl | hc
    · rfl
    · rcases List.mem_cons.mp hc with rfl | hc
      · exact isSchemaChar_of_isAlpha hfirst
      · exact hrest c hc
  have hwire := d.toList_wireName
  obtain ⟨name, names, hsplit⟩ := List.exists_cons_of_ne_nil
    (show d.path ++ [d.desc.name] ≠ [] by simp)
  rw [hsplit] at h hwire
  obtain ⟨hname, hnames⟩ := List.forall_mem_cons.mp h
  obtain ⟨first, rest, hchars, hfirst, hrest⟩ := isSchemaName_iff.mp hname
  rw [eachAfter_cons, List.cons.injEq, hchars] at hwire
  refine isSchemaName_iff.mpr ⟨first, rest ++ eachAfter '_' names, hwire.2, hfirst, ?_⟩
  intro c hc
  rcases List.mem_append.mp hc with hc | hc
  · exact hrest c hc
  · exact heach names hnames c hc

lemma endsIn_of_ofName {suffixes : Suffixes} {name : String}
    (h : MessageKind.ofName suffixes name = .wire) :
    MessageKind.endsIn name suffixes.wire = true := by
  unfold MessageKind.ofName at h
  split at h
  · next hends => exact hends
  · split at h
    · cases h
    · split at h <;> cases h

/-- Something is left of a wire name without the ending of its kind. -/
lemma baseName_ne_empty {suffixes : Suffixes} {d : Declaration} (hkind : d.kind suffixes = .wire) :
    MessageKind.wire.baseName suffixes d.wireName ++ suffixes.wire = d.wireName ∧
      MessageKind.wire.baseName suffixes d.wireName ≠ "" := by
  obtain ⟨hoctets, hsuffix⟩ := Bool.and_eq_true_iff.mp (endsIn_of_ofName hkind)
  have hname : d.wireName = d.stem ++ d.desc.name := rfl
  have hends : (MessageKind.wire.ending suffixes).toList <:+ d.wireName.toList := by
    rw [hname, String.toList_append]
    exact (List.isSuffixOf_iff_suffix.mp hsuffix).trans (List.suffix_append _ _)
  have hbase := MessageKind.baseName_append hends
  refine ⟨hbase, fun hempty => ?_⟩
  rw [hempty, String.empty_append, hname] at hbase
  have hsize := congrArg octets hbase
  have hlonger := of_decide_eq_true hoctets
  simp only [octets, MessageKind.ending, String.utf8ByteSize_append] at hsize hlonger
  omega

/-- The domain struct of a message has a name that it may have. -/
lemma isWord_domain {suffixes : Suffixes} {d : Declaration}
    (h : ∀ name ∈ d.path ++ [d.desc.name], isSchemaName name = true)
    (hsuffix : ∀ c ∈ suffixes.domain.toList, isNameContinue c = true)
    (hkind : d.kind suffixes = .wire) :
    ∃ c rest, (d.names suffixes).domain.toList = c :: rest ∧ c.isDigit = false ∧
      isWord (c :: rest) = true := by
  obtain ⟨hwire, hne⟩ := baseName_ne_empty hkind
  have hbase : isSchemaName (MessageKind.wire.baseName suffixes d.wireName) = true :=
    isSchemaName_of_append (hwire.symm ▸ isSchemaName_wireName h) hne
  have hword := isWord_of_isSchemaName hbase
  obtain ⟨c, rest, hchars, hc, -⟩ := isSchemaName_iff.mp hbase
  have hdomain : (d.names suffixes).domain =
      MessageKind.wire.baseName suffixes d.wireName ++ suffixes.domain := by
    rw [Declaration.names, hkind]
    rfl
  refine ⟨c, rest ++ suffixes.domain.toList, ?_, ?_, ?_⟩
  · rw [hdomain, String.toList_append, hchars]
    rfl
  · rcases hc with hc | rfl
    · exact ((schemaChar_ascii c (lt_of_isAlphanum (by simp [Char.isAlphanum, hc]))).2.1 hc).1
    · rfl
  · rw [hchars, isWord, Bool.and_eq_true] at hword
    rw [isWord, List.all_append, hword.1, hword.2, Bool.true_and, Bool.true_and, List.all_eq_true]
    exact hsuffix

/-! ### The file -/

variable {request : Request} {settings : Settings} {index : Index} {file : FileDesc} {plan : Plan}

/-- Where messages and fields are called by identifiers and fields by no other name, every domain
struct of the companion file has a name and so has every field in it. What else may be wrong with
the file is then reported, whatever reads the types, unless it is that one of them has been read and
has no layout. -/
theorem companion_named (hplan : request.plan settings index file = .ok plan)
    (named : ∀ d ∈ file.declarations,
      (∀ name ∈ d.path ++ [d.desc.name], isSchemaName name = true) ∧
        ∀ f ∈ d.desc.fields, isSchemaName f.name = true)
    (unnamed : ∀ m ∈ plan.messages, ∀ f ∈ m.fields, ∀ options,
      f.field.options.domain = some options → options.name = "")
    (suffix : ∀ c ∈ settings.suffixes.domain.toList, isNameContinue c = true) :
    (∀ m ∈ plan.domainMessages,
      (∃ c rest, m.message.names.domain.toList = c :: rest ∧ c.isDigit = false ∧
        isWord (c :: rest) = true) ∧
      ∀ f ∈ m.fields, ∃ name, fieldName? f.names.domain = some name ∧
        NamesField (snakeCase f.names.domain) name) ∧
    (∀ read, fileTextBy read plan = .error .unspeakable ↔ IsStuck read plan) ∧
    (plan.files = .error .unspeakable ↔
      .companion ∈ plan.written ∧ IsStuck typeLayout? plan) := by
  have hnames : ∀ m ∈ plan.domainMessages,
      (∃ c rest, m.message.names.domain.toList = c :: rest ∧ c.isDigit = false ∧
        isWord (c :: rest) = true) ∧
      ∀ f ∈ m.fields, ∃ name, fieldName? f.names.domain = some name ∧
        NamesField (snakeCase f.names.domain) name := by
    intro m hm
    obtain ⟨hmem, hdomain⟩ := List.mem_filter.mp hm
    obtain ⟨symbols, -, ⟨d, hd, hdeclared⟩, hfields, locations, hplanned⟩ :=
      exists_declaration hplan hmem
    obtain ⟨-, -, hkind, hnames, -, hmembers⟩ := message_of_declared hdeclared
    obtain ⟨hpath, hdescs⟩ := named d (List.mem_of_mem_filter hd)
    have hwire : d.kind settings.suffixes = .wire := hkind.symm.trans (beq_iff_eq.mp hdomain)
    refine ⟨hnames ▸ isWord_domain hpath suffix hwire, fun f hf => ?_⟩
    have hfield : f.field ∈ m.message.fields := hfields ▸ List.mem_map_of_mem hf
    obtain ⟨desc, hdesc, -, hmade⟩ :=
      Scope.exists_of_mem_members hmembers (Message.mem_fields.mp hfield)
    have hname : f.names.domain = exportedName desc.name := by
      rw [Plan.domainName_of_planned (hplanned f hf), domainName_of_unnamed (unnamed m hmem f hf),
        Scope.field_goName hmade, (Scope.field_element hmade).1]
    rw [hname]
    exact fieldName?_exportedName (hdescs desc hdesc)
  have hspeakable : IsSpeakable plan := by
    intro m hm
    obtain ⟨⟨c, rest, hchars, -, hword⟩, hall⟩ := hnames m hm
    refine ⟨by simp [typeName?, hchars, hword], fun f hf => ?_⟩
    obtain ⟨name, hname, -⟩ := hall f hf
    simp [hname]
  have hstuck : ∀ read, fileTextBy read plan = .error .unspeakable ↔ IsStuck read plan :=
    fun read => fileTextBy_unspeakable_iff hspeakable
  exact ⟨hnames, hstuck, files_unspeakable_iff.trans (and_congr_right fun _ => hstuck typeLayout?)⟩

/-- Names of underscores and digits, and names that make reserved words. -/
def oddFile : FileDesc :=
  packageFile "odd" "acme"
    [.node { name := "_9" } [.node
      { name := "__Wire"
        fields := ["_", "__1", "userID", "type", "self", "Super_", "CRATE", "a_1_B"].map
          fun name => { name := name, type := .string } } []]]

theorem odd_companion_named :
    ∃ plan, Request.plan ⟨[oddFile], none, []⟩ { addons := [.rust] } {} oddFile = .ok plan ∧
      Template.companion ∈ plan.written ∧
      (∃ m ∈ plan.domainMessages, m.message.names.domain = "_9___Domain" ∧
        m.fields.map (fun f => fieldName? f.names.domain) =
          ["x", "x_1", "user_id", "r#type", "self_", "super_", "crate_", "a_1_b"].map some) ∧
      (∀ m ∈ plan.domainMessages, ∀ f ∈ m.fields, ∃ name,
        fieldName? f.names.domain = some name ∧ NamesField (snakeCase f.names.domain) name) ∧
      plan.files ≠ .error .unspeakable := by
  have h : (Request.plan ⟨[oddFile], none, []⟩ { addons := [.rust] } {} oddFile).toOption.any
      (fun plan =>
        decide (Template.companion ∈ plan.written) &&
        decide (∃ m ∈ plan.domainMessages, m.message.names.domain = "_9___Domain" ∧
          m.fields.map (fun f => fieldName? f.names.domain) =
            ["x", "x_1", "user_id", "r#type", "self_", "super_", "crate_", "a_1_b"].map some) &&
        decide (∀ m ∈ plan.messages, ∀ f ∈ m.fields, f.field.options.domain = none) &&
        decide (∀ m ∈ plan.domainMessages, ∀ text ∈ typeTexts m,
          (typeLayout? text).all (·.isPrintable) = true)) = true := by
    rw [Request.plan_eq_planOnePass]
    decide +kernel
  obtain ⟨plan, hplan, hcheck⟩ := exists_of_check h
  simp only [Bool.and_eq_true, decide_eq_true_eq] at hcheck
  obtain ⟨⟨⟨hwritten, hodd⟩, hunnamed⟩, hprintable⟩ := hcheck
  have hnames : ∀ d ∈ oddFile.declarations,
      (∀ name ∈ d.path ++ [d.desc.name], isSchemaName name = true) ∧
        ∀ f ∈ d.desc.fields, isSchemaName f.name = true := by
    decide +kernel
  obtain ⟨hall, -, hfiles⟩ := companion_named hplan hnames
    (fun m hm f hf options hoptions => by simp [hunnamed m hm f hf] at hoptions)
    (List.all_eq_true.mp (by decide +kernel))
  refine ⟨plan, hplan, hwritten, hodd, fun m hm => (hall m hm).2, fun hfault => ?_⟩
  obtain ⟨m, hm, text, htext, layout, hread, hlayout⟩ := (hfiles.mp hfault).2.verbatim
  simpa [hread, hlayout] using hprintable m hm text htext

/-- Whether a computation has failed unreported. -/
def isUnspeakable {α : Type} : Except GenError α → Bool
  | .error .unspeakable => true
  | _ => false

lemma eq_of_isUnspeakable {α : Type} {x : Except GenError α} (h : isUnspeakable x = true) :
    x = .error .unspeakable := by
  unfold isUnspeakable at h
  split at h
  · rfl
  · cases h

/-- A message of a package whose name ends the word for trait types with a star. -/
def starredFiles : List FileDesc :=
  [packageFile "user" "acme" [holder "UserWire" ".acme.ext.AddressWire" []],
    { packageFile "ext" "acme.ext" [.node { name := "AddressWire" } []] with
      goPackage := some "example.com/ext;dyn* ext" }]

lemma registry_starred : Registry.ofFiles starredFiles =
    { modules := [⟨"acme.ext", "dyn* ext", "example.com/ext"⟩,
        ⟨"acme", "user", "github.com/acme/user"⟩]
      qualifiers := [("github.com/acme/user", "user"), ("example.com/ext", "dyn* ext")] } :=
  (ofFiles_pair rfl).trans rfl

/-- All names of the schema are identifiers, and still the file fails unreported. -/
theorem starred_package_unspeakable :
    ∃ plan, Request.plan ⟨starredFiles, none, []⟩ { addons := [.rust] } {} starredFiles[0] =
        .ok plan ∧
      (∀ d ∈ starredFiles[0].declarations,
        (∀ name ∈ d.path ++ [d.desc.name], isSchemaName name = true) ∧
          ∀ f ∈ d.desc.fields, isSchemaName f.name = true) ∧
      (∀ m ∈ plan.messages, ∀ f ∈ m.fields, f.field.options.domain = none) ∧
      (∀ c ∈ plan.settings.suffixes.domain.toList, isNameContinue c = true) ∧
      plan.domainMessages.map typeTexts = [["Option<Box<dyn* ext::AddressDomain>>"]] ∧
      plan.files = .error .unspeakable := by
  have h : (Request.plan ⟨starredFiles, none, []⟩ { addons := [.rust] } {}
      starredFiles[0]).toOption.any (fun plan =>
        decide (∀ m ∈ plan.messages, ∀ f ∈ m.fields, f.field.options.domain = none) &&
        plan.settings.suffixes.domain.toList.all isNameContinue &&
        decide (plan.domainMessages.map typeTexts =
          [["Option<Box<dyn* ext::AddressDomain>>"]]) &&
        decide (Template.companion ∈ plan.written) && isUnspeakable (fileText plan)) = true := by
    rw [Request.plan_eq_planOnePass]
    unfold Request.planOnePass FileSchema.load
    rw [registry_starred]
    decide +kernel
  obtain ⟨plan, hplan, hcheck⟩ := exists_of_check h
  simp only [Bool.and_eq_true, decide_eq_true_eq] at hcheck
  obtain ⟨⟨⟨⟨hunnamed, hsuffix⟩, htexts⟩, hwritten⟩, hfault⟩ := hcheck
  exact ⟨plan, hplan, by decide +kernel, hunnamed, List.all_eq_true.mp hsuffix, htexts,
    files_unspeakable_iff.mpr ⟨hwritten, eq_of_isUnspeakable hfault⟩⟩

end Laminate.Companion
