import Laminate.Proofs.CompanionNames
import Laminate.Proofs.NameWords
import Laminate.Proofs.SettingParts
import Laminate.Proofs.Trimming
import Laminate.Proofs.TypeText

/-! The parameter that spells settings out, and what is read off it.
Values never hold the marks that parts are cut at, nor white space at either end, so that what one
reading has made of them is what the next one finds. -/
namespace Laminate.Text

/-! ### Members of lists in text -/

/-- A text that a list cut at `mark` can hold. -/
def IsItem (mark : Char) (s : String) : Prop :=
  mark ∉ s.toList ∧ IsTrimmed s.toList

instance (mark : Char) (s : String) : Decidable (IsItem mark s) :=
  inferInstanceAs (Decidable (_ ∧ _))

variable {mark : Char}

lemma trim_of_isTrimmed {s : String} (h : IsTrimmed s.toList) : trim s = s := by
  rw [trim, trimBoth_of_isTrimmed h, String.ofList_toList]

lemma isTrimmed_trim (s : String) : IsTrimmed (trim s).toList := by
  rw [trim, String.toList_ofList]
  exact isTrimmed_trimBoth _

lemma not_mem_trim {s : String} {c : Char} (h : c ∉ s.toList) : c ∉ (trim s).toList := by
  rw [trim, String.toList_ofList]
  exact fun hc => h (mem_of_mem_trimBoth hc)

lemma isItem_of_mem_trimmedPieces {s piece : String} (h : piece ∈ trimmedPieces mark s) :
    IsItem mark piece ∧ piece ≠ "" := by
  simp only [trimmedPieces, pieces, List.mem_filter, List.mem_map, exists_exists_and_eq_and] at h
  obtain ⟨⟨text, htext, rfl⟩, hne⟩ := h
  refine ⟨⟨not_mem_trim ?_, isTrimmed_trim _⟩, by simpa using hne⟩
  rw [String.toList_ofList]
  intro hmark
  simpa using not_of_mem_splitAt htext mark hmark

/-- A list is read off its members with the mark between them. -/
lemma trimmedPieces_intercalate {parts : List String}
    (h : ∀ part ∈ parts, IsItem mark part ∧ part ≠ "") :
    trimmedPieces mark ((String.singleton mark).intercalate parts) = parts := by
  by_cases hne : parts = []
  · subst hne
    rfl
  · have hplain : ∀ text ∈ parts.map String.toList, ∀ c ∈ text, (c == mark) = false := by
      intro text htext c hc
      obtain ⟨part, hpart, rfl⟩ := List.mem_map.mp htext
      rw [beq_eq_false_iff_ne]
      rintro rfl
      exact (h part hpart).1.1 hc
    have hpieces : pieces (· == mark) ((String.singleton mark).intercalate parts) = parts := by
      rw [pieces, String.toList_intercalate, String.toList_singleton,
        splitAt_intercalate (by simp) (by simpa using hne) hplain, List.map_map]
      exact List.map_id'' (fun s => String.ofList_toList) parts
    have htrim : parts.map trim = parts := by
      conv_rhs => rw [← List.map_id parts]
      exact List.map_congr_left fun part hpart => trim_of_isTrimmed (h part hpart).1.2
    rw [trimmedPieces, hpieces, htrim, List.filter_eq_self]
    intro part hpart
    simpa using (h part hpart).2

lemma isItem_intercalate {separator : String} (hseparator : IsItem mark separator)
    {parts : List String} (h : ∀ part ∈ parts, IsItem mark part) :
    IsItem mark (separator.intercalate parts) := by
  induction parts with
  | nil => exact ⟨by simp, by simp [IsTrimmed]⟩
  | cons part rest ih =>
    rw [List.forall_mem_cons] at h
    cases rest with
    | nil => simpa using h.1
    | cons next rest =>
      obtain ⟨hmark, htrimmed⟩ := ih h.2
      have htext : (separator.intercalate (part :: next :: rest)).toList =
          part.toList ++ separator.toList ++ (separator.intercalate (next :: rest)).toList := by
        simp
      refine ⟨?_, ?_⟩ <;> rw [htext]
      · simp only [List.mem_append, not_or]
        exact ⟨⟨h.1.1, hseparator.1⟩, hmark⟩
      · exact (h.1.2.append hseparator.2).append htrimmed

lemma around?_eq_none {s : String} : around? mark s = none ↔ mark ∉ s.toList := by
  rw [around?, Option.map_eq_none_iff, cutFirst_eq_none]

lemma around?_eq_some {s before after : String} :
    around? mark s = some (before, after) ↔
      s.toList = before.toList ++ mark :: after.toList ∧ mark ∉ before.toList := by
  constructor
  · intro h
    obtain ⟨⟨front, back⟩, hcut, hpair⟩ := Option.map_eq_some_iff.mp h
    cases hpair
    rw [String.toList_ofList, String.toList_ofList]
    exact cutFirst_eq_some hcut
  · rintro ⟨htext, hmark⟩
    simp only [around?, htext, Code.cutFirst_append hmark, Option.map_some, String.ofList_toList]

end Laminate.Text

namespace Laminate

open Laminate.Text

/-! ### Rules -/

/-- The text that registers a rule with a reference. -/
def Rule.spec (rule : Rule) (reference : String) : String :=
  rule.name ++ ":" ++ reference ++ if rule.requiresArgs then ":args" else ""

/-- A rule that a text registers. -/
inductive Rule.Reads (spec : String) : Rule → Prop
  | mk {name reference : String} {requiresArgs : Bool} {found : Code.Reference}
    (parts : Rule.parts spec = (name, reference, if requiresArgs then some "args" else none))
    (name_ne : name ≠ "") (reference_ne : reference ≠ "")
    (parse : Code.Reference.parse? reference = some found) :
    Rule.Reads spec ⟨name, found.package, found.name, some reference, requiresArgs⟩

lemma Rule.parse_eq_ok {spec : String} {rule : Rule} :
    Rule.parse spec = .ok rule ↔ Rule.Reads spec rule := by
  constructor
  · intro h
    unfold Rule.parse at h
    rcases hparts : Rule.parts spec with ⟨name, reference, flag⟩
    simp only [hparts, Bool.or_eq_true, String.isEmpty_iff] at h
    have hfinish (requiresArgs : Bool) (hflag : flag = if requiresArgs then some "args" else none)
        {found : Code.Reference} (hfound : Code.Reference.parse? reference = some found)
        (hname : ¬(name = "" ∨ reference = ""))
        (h : (.ok ⟨name, found.package, found.name, some reference, requiresArgs⟩ :
          Except GenError Rule) = .ok rule) : Rule.Reads spec rule := by
      rw [not_or] at hname
      cases h
      exact ⟨hflag ▸ hparts, hname.1, hname.2, hfound⟩
    cases flag with
    | none =>
      simp only at h
      split_ifs at h with hname
      split at h
      · cases h
      · next found hfound => exact hfinish false rfl hfound hname h
    | some flag =>
      simp only at h
      split_ifs at h with hflag hname
      split at h
      · cases h
      · next found hfound => exact hfinish true (hflag ▸ rfl) hfound hname h
  · rintro @⟨name, reference, requiresArgs, found, hparts, hname, hreference, hfound⟩
    unfold Rule.parse
    cases requiresArgs <;> simp [hparts, hname, hreference, hfound]

lemma Rule.parts_spec {name reference : String} (hname : IsItem ':' name)
    (hreference : IsItem ':' reference) (requiresArgs : Bool) :
    Rule.parts (name ++ ":" ++ reference ++ if requiresArgs then ":args" else "") =
      (name, reference, if requiresArgs then some "args" else none) := by
  have hargs : trim "args" = "args" := by decide
  unfold Rule.parts
  cases requiresArgs with
  | false =>
    have hfirst : around? ':' (name ++ ":" ++ reference ++ "") = some (name, reference) :=
      around?_eq_some.mpr ⟨by simp, hname.1⟩
    simp only [Bool.false_eq_true, if_false, hfirst, around?_eq_none.mpr hreference.1,
      trim_of_isTrimmed hname.2, trim_of_isTrimmed hreference.2]
  | true =>
    have hfirst : around? ':' (name ++ ":" ++ reference ++ ":args") =
        some (name, reference ++ ":args") :=
      around?_eq_some.mpr ⟨by simp, hname.1⟩
    have hsecond : around? ':' (reference ++ ":args") = some (reference, "args") :=
      around?_eq_some.mpr ⟨by simp, hreference.1⟩
    simp only [if_true, hfirst, hsecond, trim_of_isTrimmed hname.2,
      trim_of_isTrimmed hreference.2, hargs]

/-- The name and the reference of a text are cut at its colons, and trimmed. -/
lemma Rule.isItem_parts {mark : Char} {spec name reference : String} {flag : Option String}
    (hspec : mark ∉ spec.toList) (h : Rule.parts spec = (name, reference, flag)) :
    (IsItem ':' name ∧ mark ∉ name.toList) ∧ IsItem ':' reference ∧ mark ∉ reference.toList := by
  have hitem : ∀ piece : String, ':' ∉ piece.toList → mark ∉ piece.toList →
      IsItem ':' (trim piece) ∧ mark ∉ (trim piece).toList :=
    fun piece hcolon hmark => ⟨⟨not_mem_trim hcolon, isTrimmed_trim _⟩, not_mem_trim hmark⟩
  unfold Rule.parts at h
  split at h
  · next hnone =>
    cases h
    exact ⟨hitem spec (around?_eq_none.mp hnone) hspec, by decide, by simp⟩
  · next first rest hfirst =>
    obtain ⟨htext, hcolon⟩ := around?_eq_some.mp hfirst
    rw [htext, List.mem_append, List.mem_cons, not_or, not_or] at hspec
    split at h
    · next hnone =>
      cases h
      exact ⟨hitem first hcolon hspec.1, hitem rest (around?_eq_none.mp hnone) hspec.2.2⟩
    · next second last hsecond =>
      obtain ⟨htext', hcolon'⟩ := around?_eq_some.mp hsecond
      rw [htext', List.mem_append, List.mem_cons, not_or, not_or] at hspec
      cases h
      exact ⟨hitem first hcolon hspec.1, hitem second hcolon' hspec.2.2.1⟩

/-- A rule is read off the text that registers it as it has been read once. -/
lemma Rule.parse_spec {value : String} {rule : Rule} (hvalue : IsItem ',' value)
    (h : Rule.parse value = .ok rule) :
    ∃ reference, rule.reference = some reference ∧ IsItem ',' (rule.spec reference) ∧
      Rule.parse (rule.spec reference) = .ok rule := by
  obtain @⟨name, reference, requiresArgs, found, hparts, hname, hreference, hfound⟩ :=
    Rule.parse_eq_ok.mp h
  obtain ⟨⟨hitem, hcomma⟩, hitem', hcomma'⟩ := Rule.isItem_parts hvalue.1 hparts
  refine ⟨reference, rfl, ⟨?_, ?_⟩, ?_⟩
  · cases requiresArgs <;> simp [Rule.spec, hcomma, hcomma']
  · have hcolon : IsTrimmed [':'] := by decide
    have hfront : IsTrimmed (name.toList ++ ':' :: reference.toList) :=
      hitem.2.append (hcolon.append hitem'.2)
    have hargs : IsTrimmed ":args".toList := by decide
    cases requiresArgs with
    | false => simpa [Rule.spec] using hfront
    | true => simpa [Rule.spec] using hfront.append hargs
  · exact Rule.parse_eq_ok.mpr
      ⟨Rule.parts_spec hitem hitem' requiresArgs, hname, hreference, hfound⟩

namespace Settings

lemma builtinRules_reference : ∀ rule ∈ builtinRules, rule.reference = none := by decide

/-- A rule in force is a registered one or a built-in one. -/
lemma Overlays.mem {registered rules : List Rule} (h : Overlays registered rules) {rule : Rule}
    (hrule : rule ∈ rules) : rule ∈ registered ∨ rule ∈ builtinRules := by
  have hlatest := h.latest rule hrule
  split at hlatest
  · next last hlast =>
    subst hlatest
    exact .inl (List.mem_filter.mp (List.mem_of_getLast? hlast)).1
  · exact .inr hlatest

lemma eq_of_map_name_eq {rules rules' : List Rule}
    (hnames : rules.map (·.name) = rules'.map (·.name))
    (h : ∀ rule ∈ rules, ∀ rule' ∈ rules', rule.name = rule'.name → rule = rule') :
    rules = rules' := by
  induction rules generalizing rules' with
  | nil => simpa using hnames.symm
  | cons rule rest ih =>
    cases rules' with
    | nil => cases hnames
    | cons rule' rest' =>
      obtain ⟨hname, hrest⟩ := List.cons.inj hnames
      rw [h rule List.mem_cons_self rule' List.mem_cons_self hname, ih hrest fun x hx y hy =>
        h x (List.mem_cons_of_mem _ hx) y (List.mem_cons_of_mem _ hy)]

/-- The rules in force are decided by those that have been registered. -/
lemma Overlays.unique {registered rules rules' : List Rule} (h : Overlays registered rules)
    (h' : Overlays registered rules') : rules = rules' := by
  refine eq_of_map_name_eq (h.names.trans h'.names.symm) fun rule hrule rule' hrule' hname => ?_
  have hlatest := h.latest rule hrule
  have hlatest' := h'.latest rule' hrule'
  rw [hname] at hlatest
  split at hlatest
  · next last hlast =>
    rw [hlast] at hlatest'
    exact hlatest.trans hlatest'.symm
  · next hlast =>
    rw [hlast] at hlatest'
    exact List.inj_on_of_nodup_map nodup_builtinRules hlatest hlatest' hname

lemma eraseDups_of_nodup {α : Type} [BEq α] [LawfulBEq α] [DecidableEq α] {xs : List α}
    (h : xs.Nodup) : xs.eraseDups = xs := by
  induction xs using List.reverseRecOn with
  | nil => rfl
  | append_singleton xs x ih =>
    rw [List.nodup_append'] at h
    rw [eraseDups_concat, if_neg (by simpa using h.2.2), ih h.1]

lemma filter_name_eq {rules : List Rule} (hrules : (rules.map (·.name)).Nodup) {rule : Rule}
    (hrule : rule ∈ rules) : rules.filter (·.name = rule.name) = [rule] := by
  obtain ⟨before, after, rfl⟩ := List.append_of_mem hrule
  rw [List.map_append, List.map_cons, List.nodup_middle, List.nodup_cons, List.mem_append,
    not_or] at hrules
  have hother : ∀ others : List Rule, rule.name ∉ others.map (·.name) →
      others.filter (·.name = rule.name) = [] := by
    intro others hnot
    refine List.filter_eq_nil_iff.mpr fun other hmem => ?_
    rw [decide_eq_true_eq]
    exact fun heq => hnot (heq ▸ List.mem_map_of_mem hmem)
  rw [List.filter_append, List.filter_cons_of_pos (by simp), hother before hrules.1.1,
    hother after hrules.1.2, List.nil_append]

/-- The rules in force that are not built-in are enough to register. -/
lemma Overlays.of_referenced {registered rules : List Rule} (h : Overlays registered rules)
    (href : ∀ rule ∈ registered, rule.reference.isSome = true) :
    Overlays (rules.filter (·.reference.isSome)) rules := by
  refine ⟨?_, h.distinct, fun rule hrule => ?_⟩
  · have hnew : ((rules.filter (·.reference.isSome)).map (·.name)).filter
        (· ∉ builtinRules.map (·.name)) =
          (rules.map (·.name)).filter (· ∉ builtinRules.map (·.name)) := by
      rw [List.filter_map, List.filter_map, List.filter_filter]
      congr 1
      refine List.filter_congr fun rule hrule => ?_
      by_cases hname : rule.name ∈ builtinRules.map (·.name)
      · simp only [Function.comp, hname, not_true, decide_false, Bool.false_and]
      · have hregistered : rule ∈ registered :=
          (h.mem hrule).resolve_right fun hmem => hname (List.mem_map_of_mem hmem)
        rw [href rule hregistered, Bool.and_true]
    have hfilter : (rules.map (·.name)).filter (· ∉ builtinRules.map (·.name)) =
        ((registered.map (·.name)).filter (· ∉ builtinRules.map (·.name))).eraseDups := by
      rw [h.names, List.filter_append, List.filter_eq_nil_iff.mpr (by simp), List.nil_append,
        List.filter_eq_self]
      intro name hname
      rw [List.mem_eraseDups] at hname
      exact (List.mem_filter.mp hname).2
    rw [hnew, hfilter, eraseDups_of_nodup (nodup_eraseDups _)]
    exact h.names
  · have hown : (rules.filter (·.reference.isSome)).filter (·.name = rule.name) =
        [rule].filter (·.reference.isSome) := by
      rw [← filter_name_eq h.distinct hrule, List.filter_filter, List.filter_filter]
      exact List.filter_congr fun _ _ => Bool.and_comm ..
    rw [hown, List.filter_singleton]
    cases hreference : rule.reference.isSome with
    | true => rfl
    | false =>
      refine (h.mem hrule).resolve_left fun hmem => ?_
      rw [href rule hmem] at hreference
      cases hreference

end Settings

/-! ### Settings spelled out -/

/-- The word that chooses a database. -/
def Database.word : Database → String
  | .none => "none"
  | .document => "mongo"
  | .relational => "gorm"

def flagWord (flag : Bool) : String := if flag then "true" else "false"

namespace Settings

def ruleParts (rules : List Rule) : List (String × String) :=
  rules.filterMap fun rule => rule.reference.map fun reference => ("rule", rule.spec reference)

/-- All that a parameter can say about settings, each of it once. -/
def parts (s : Settings) : List (String × String) :=
  keyedSuffixes.map (fun keyed => (keyed.1, keyed.2 s.suffixes)) ++
    [("db", s.database.word), ("converters", s.converters.path)] ++ ruleParts s.rules ++
    [("strict", flagWord s.strict), ("addons", "+".intercalate (s.addons.map (·.name))),
      ("debug", flagWord s.debug)]

def partText (part : String × String) : String := part.1 ++ "=" ++ part.2

/-- The parameter that spells settings out. -/
def canonical (s : Settings) : String := ",".intercalate (s.parts.map partText)

/-- A text that can be the value of a part that needs one. -/
def IsValue (v : String) : Prop := IsItem ',' v ∧ v ≠ ""

instance (v : String) : Decidable (IsValue v) := inferInstanceAs (Decidable (_ ∧ _))

/-- Settings whose values can stand in a parameter. -/
structure IsPrintable (s : Settings) : Prop where
  suffixes : ∀ keyed ∈ keyedSuffixes, IsValue (keyed.2 s.suffixes)
  converters : IsValue s.converters.path ∧ s.converters = .ofPath s.converters.path
  rules : ∀ rule ∈ s.rules, ∀ reference, rule.reference = some reference →
    IsItem ',' (rule.spec reference) ∧ Rule.parse (rule.spec reference) = .ok rule
  overlays : Overlays (s.rules.filter (·.reference.isSome)) s.rules
  addons : s.addons.Nodup

lemma isItem_keyValue {part : String} (h : IsItem ',' part) : IsItem ',' (keyValue part).2 := by
  unfold keyValue
  split
  · next key value hcut =>
    have htext := (around?_eq_some.mp hcut).1
    have hcomma := h.1
    rw [htext, List.mem_append, List.mem_cons, not_or, not_or] at hcomma
    exact ⟨not_mem_trim hcomma.2.2, isTrimmed_trim _⟩
  · exact show IsItem ',' "true" by decide

lemma isItem_of_mem_valuesOf {key parameter value : String} (h : value ∈ valuesOf key parameter) :
    IsItem ',' value := by
  obtain ⟨part, hpart, rfl⟩ := List.mem_map.mp h
  exact isItem_keyValue (isItem_of_mem_trimmedPieces (List.mem_filter.mp hpart).1).1

lemma nonEmpty_eq_ok {key value v : String} : nonEmpty key value = .ok v ↔ v = value ∧ v ≠ "" := by
  unfold nonEmpty
  constructor
  · intro h
    split_ifs at h with hempty
    cases h
    exact ⟨rfl, by simpa using hempty⟩
  · rintro ⟨rfl, hne⟩
    rw [if_neg (by simpa using hne)]

/-- What is decided is the default, or has been read off a value. -/
lemma Decides.elim {α : Type} {P : α → Prop} {parameter key : String}
    {read : String → Except GenError α} {default value : α}
    (h : Decides parameter key read default value) (hdefault : P default)
    (hread : ∀ text, IsItem ',' text → read text = .ok value → P value) : P value := by
  unfold Decides at h
  split at h
  · next text htext => exact hread text (isItem_of_mem_valuesOf (List.mem_of_getLast? htext)) h
  · exact h ▸ hdefault

lemma isPrintable_of_ofParameter {parameter : String} {s : Settings}
    (h : ofParameter (some parameter) = .ok s) : IsPrintable s := by
  have hlast := ofParameter_lastWins h
  obtain ⟨registered, hregistered, hoverlays⟩ := ofParameter_overlays h
  rw [mapM_eq_ok] at hregistered
  have hspec : ∀ rule ∈ registered, ∃ reference, rule.reference = some reference ∧
      IsItem ',' (rule.spec reference) ∧ Rule.parse (rule.spec reference) = .ok rule := by
    intro rule hrule
    obtain ⟨value, hvalue, hparse⟩ := exists_of_mem_forall₂ hregistered hrule
    exact Rule.parse_spec (isItem_of_mem_valuesOf hvalue) hparse
  constructor
  case suffixes =>
    have hdefault : ∀ keyed ∈ keyedSuffixes, IsValue (keyed.2 {}) := by decide
    intro keyed hkeyed
    refine (hlast.suffixes keyed hkeyed).elim (hdefault keyed hkeyed) fun text htext hread => ?_
    obtain ⟨heq, hne⟩ := nonEmpty_eq_ok.mp hread
    exact ⟨heq ▸ htext, hne⟩
  case converters =>
    refine hlast.converters.elim (P := fun converters => IsValue converters.path ∧
      converters = .ofPath converters.path) ⟨by decide, rfl⟩ fun text htext hread => ?_
    obtain ⟨path, hpath, heq⟩ := map_eq_ok.mp hread
    obtain ⟨rfl, hne⟩ := nonEmpty_eq_ok.mp hpath
    rw [← heq]
    exact ⟨⟨htext, hne⟩, rfl⟩
  case rules =>
    intro rule hrule reference href
    rcases hoverlays.mem hrule with hmem | hmem
    · obtain ⟨reference', href', hitem⟩ := hspec rule hmem
      rw [href] at href'
      cases href'
      exact hitem
    · rw [builtinRules_reference rule hmem] at href
      cases href
  case overlays =>
    refine hoverlays.of_referenced fun rule hrule => ?_
    obtain ⟨reference, href, -⟩ := hspec rule hrule
    rw [href, Option.isSome_some]
  case addons => exact ofParameter_nodup_addons h

/-! ### Reading what has been spelled out -/

/-- A key that ends where the value begins. -/
def IsKey (key : String) : Prop := '=' ∉ key.toList ∧ IsValue key

instance (key : String) : Decidable (IsKey key) := inferInstanceAs (Decidable (_ ∧ _))

/-- A part that is read off its text. -/
def IsPart (part : String × String) : Prop := IsKey part.1 ∧ IsItem ',' part.2

lemma IsPart.keyValue {part : String × String} (h : IsPart part) :
    keyValue (partText part) = part := by
  have hcut : around? '=' (partText part) = some part :=
    around?_eq_some.mpr ⟨by simp [partText], h.1.1⟩
  unfold Laminate.keyValue
  simp only [hcut, trim_of_isTrimmed h.1.2.1.2, trim_of_isTrimmed h.2.2]

lemma IsPart.isItem {part : String × String} (h : IsPart part) : IsItem ',' (partText part) := by
  obtain ⟨⟨-, hkey, hne⟩, hvalue⟩ := h
  constructor
  · simp [partText, hkey.1, hvalue.1]
  · have hequals : IsTrimmed ['='] := by decide
    simpa [partText] using (hkey.2.append hequals).append hvalue.2

lemma trimmedPieces_parts {parts : List (String × String)} (h : ∀ part ∈ parts, IsPart part) :
    (trimmedPieces ',' (",".intercalate (parts.map partText))).map Laminate.keyValue = parts := by
  have hpieces : trimmedPieces ',' (",".intercalate (parts.map partText)) = parts.map partText := by
    refine trimmedPieces_intercalate fun text htext => ?_
    obtain ⟨part, hpart, rfl⟩ := List.mem_map.mp htext
    exact ⟨(h part hpart).isItem, by simp [partText]⟩
  rw [hpieces, List.map_map]
  conv_rhs => rw [← List.map_id parts]
  exact List.map_congr_left fun part hpart => (h part hpart).keyValue

lemma setAll_cons {s t : Settings} {key value : String} (h : Sets s key value t)
    (rest : List (String × String)) : setAll ((key, value) :: rest) s = setAll rest t := by
  rw [setAll, set_eq_ok.mpr h]

lemma setAll_append {parts parts' : List (String × String)} {s t : Settings}
    (h : setAll parts s = .ok t) : setAll (parts ++ parts') s = setAll parts' t := by
  induction parts generalizing s with
  | nil =>
    cases h
    rfl
  | cons part rest ih =>
    obtain ⟨key, value⟩ := part
    rw [List.cons_append, setAll]
    rw [setAll] at h
    split at h
    · cases h
    · next next hnext =>
      exact ih h

lemma setAll_ruleParts {rules : List Rule} (s : Settings)
    (h : ∀ rule ∈ rules, ∀ reference, rule.reference = some reference →
      Rule.parse (rule.spec reference) = .ok rule) :
    setAll (ruleParts rules) s = .ok { s with
      rules := (rules.filter (·.reference.isSome)).foldl (fun rules rule => replaceRule rule rules)
        s.rules } := by
  induction rules generalizing s with
  | nil => rfl
  | cons rule rest ih =>
    rw [List.forall_mem_cons] at h
    cases hreference : rule.reference with
    | none =>
      have hnone : ruleParts (rule :: rest) = ruleParts rest := by simp [ruleParts, hreference]
      rw [hnone, List.filter_cons_of_neg (by simp [hreference])]
      exact ih s h.2
    | some reference =>
      have hsome : ruleParts (rule :: rest) = ("rule", rule.spec reference) :: ruleParts rest := by
        simp [ruleParts, hreference]
      rw [hsome, List.filter_cons_of_pos (by simp [hreference]),
        setAll_cons (.rule (h.1 reference hreference))]
      exact ih { s with rules := replaceRule rule s.rules } h.2

lemma addAddons_append {added addons : List Addon} (h : (added ++ addons).Nodup) :
    addAddons (addons.map (·.name)) added = .ok (added ++ addons) := by
  induction addons generalizing added with
  | nil => rw [List.map_nil, addAddons, List.append_nil]
  | cons addon rest ih =>
    have hname : Addon.ofName? addon.name = some addon := by cases addon <;> decide
    have hnew : addon ∉ added := by
      rw [List.nodup_middle, List.nodup_cons, List.mem_append, not_or] at h
      exact h.1.1
    rw [List.map_cons, addAddons, hname]
    simp only [if_neg hnew]
    rw [List.append_cons added addon rest] at h ⊢
    exact ih h

namespace IsPrintable

variable {s : Settings} (h : s.IsPrintable)
include h

lemma isPart : ∀ part ∈ s.parts, IsPart part := by
  have hkeys : ∀ keyed ∈ keyedSuffixes, IsKey keyed.1 := by decide
  have hword : ∀ flag, IsItem ',' (flagWord flag) := by decide
  have hdatabase : IsItem ',' s.database.word := by cases s.database <;> decide
  have haddons : IsItem ',' ("+".intercalate (s.addons.map (·.name))) := by
    refine isItem_intercalate (by decide) fun name hname => ?_
    obtain ⟨addon, -, rfl⟩ := List.mem_map.mp hname
    cases addon <;> decide
  unfold parts
  simp only [List.forall_mem_append, List.forall_mem_cons, List.not_mem_nil, false_imp_iff,
    implies_true, and_true]
  refine ⟨⟨⟨fun part hpart => ?suffix, ⟨?db, hdatabase⟩, ⟨?converters, h.converters.1.1⟩⟩,
    fun part hpart => ?rule⟩, ⟨?strict, hword _⟩, ⟨?addons, haddons⟩, ⟨?debug, hword _⟩⟩
  case suffix =>
    obtain ⟨keyed, hkeyed, rfl⟩ := List.mem_map.mp hpart
    exact ⟨hkeys keyed hkeyed, (h.suffixes keyed hkeyed).1⟩
  case rule =>
    obtain ⟨rule, hrule, hsome⟩ := List.mem_filterMap.mp hpart
    obtain ⟨reference, href, rfl⟩ := Option.map_eq_some_iff.mp hsome
    exact ⟨show IsKey "rule" by decide, (h.rules rule hrule reference href).1⟩
  case db => exact show IsKey "db" by decide
  case converters => exact show IsKey "converters" by decide
  case strict => exact show IsKey "strict" by decide
  case addons => exact show IsKey "addons" by decide
  case debug => exact show IsKey "debug" by decide

lemma setAll_suffixes (t : Settings) :
    setAll (keyedSuffixes.map fun keyed => (keyed.1, keyed.2 s.suffixes)) t =
      .ok { t with suffixes := s.suffixes } := by
  have hsuffix : ∀ keyed ∈ keyedSuffixes,
      nonEmpty keyed.1 (keyed.2 s.suffixes) = .ok (keyed.2 s.suffixes) :=
    fun keyed hkeyed => nonEmpty_eq_ok.mpr ⟨rfl, (h.suffixes keyed hkeyed).2⟩
  simp only [keyedSuffixes, List.forall_mem_cons, List.not_mem_nil, false_imp_iff, implies_true,
    and_true] at hsuffix
  obtain ⟨hwire, hrequest, hresponse, hdomain, houtbound, hinbound⟩ := hsuffix
  simp only [keyedSuffixes, List.map_cons, List.map_nil]
  rw [setAll_cons (.wire hwire), setAll_cons (.request hrequest), setAll_cons (.response hresponse),
    setAll_cons (.domain hdomain), setAll_cons (.outbound houtbound),
    setAll_cons (.inbound hinbound), setAll]

lemma setAll_packages (t : Settings) :
    setAll [("db", s.database.word), ("converters", s.converters.path)] t =
      .ok { t with database := s.database, converters := s.converters } := by
  have hdatabase : Database.parse s.database.word = .ok s.database := by
    cases s.database <;> rfl
  have hconverters : nonEmpty "converters" s.converters.path = .ok s.converters.path :=
    nonEmpty_eq_ok.mpr ⟨rfl, h.converters.1.2⟩
  rw [setAll_cons (.database hdatabase), setAll_cons (.converters hconverters), setAll,
    ← h.converters.2]

lemma setAll_switches {t : Settings} (ht : t.addons = []) :
    setAll [("strict", flagWord s.strict), ("addons", "+".intercalate (s.addons.map (·.name))),
      ("debug", flagWord s.debug)] t =
        .ok { t with strict := s.strict, addons := s.addons, debug := s.debug } := by
  have hflag : ∀ key flag, parseBool key (flagWord flag) = .ok flag := by
    intro key flag
    cases flag <;> rfl
  have hpieces : trimmedPieces '+' ("+".intercalate (s.addons.map (·.name))) =
      s.addons.map (·.name) := by
    refine trimmedPieces_intercalate fun name hname => ?_
    obtain ⟨addon, -, rfl⟩ := List.mem_map.mp hname
    cases addon <;> decide
  rw [setAll_cons (.strict (hflag _ _))]
  refine (setAll_cons (.addons (v := s.addons) ?_) _).trans ?_
  · rw [hpieces, ht]
    exact addAddons_append h.addons
  · rw [setAll_cons (.debug (hflag _ _)), setAll]

lemma setAll_parts {t : Settings} (hrules : t.rules = builtinRules) (haddons : t.addons = []) :
    setAll s.parts t = .ok s := by
  have hregister : (s.rules.filter (·.reference.isSome)).foldl
      (fun rules rule => replaceRule rule rules) t.rules = s.rules := by
    rw [hrules]
    exact (overlays_foldl _).unique h.overlays
  have hruleParts := setAll_ruleParts
    { t with suffixes := s.suffixes, database := s.database, converters := s.converters }
    fun rule hrule reference href => (h.rules rule hrule reference href).2
  rw [hregister] at hruleParts
  rw [parts, List.append_assoc, List.append_assoc, setAll_append (h.setAll_suffixes t),
    setAll_append (h.setAll_packages _), setAll_append hruleParts]
  exact h.setAll_switches haddons

end IsPrintable

/-- The parameter that spells out the settings of an accepted one is accepted, and asks for the
same settings. -/
theorem ofParameter_canonical {parameter : Option String} {s : Settings}
    (h : ofParameter parameter = .ok s) : ofParameter (some s.canonical) = .ok s := by
  have hprintable : s.IsPrintable := by
    cases parameter with
    | none => exact isPrintable_of_ofParameter (show ofParameter (some "") = .ok s from h)
    | some parameter => exact isPrintable_of_ofParameter h
  rw [ofParameter_some, canonical, trimmedPieces_parts hprintable.isPart]
  exact hprintable.setAll_parts rfl rfl

/-- A parameter with blanks, a key alone, and a rule with arguments in the place of a built-in
one. -/
def spreadParameter : String := " wire_suffix = W=1 ,debug,rule=ip : a.b/c.D : args, addons = rust"

theorem spreadParameter_canonical :
    ∃ s, ofParameter (some spreadParameter) = .ok s ∧
      s.parts = [("wire_suffix", "W=1"), ("request_suffix", "Request"),
        ("response_suffix", "Response"), ("domain_suffix", "Domain"),
        ("outbound_suffix", "Outbound"), ("inbound_suffix", "Inbound"), ("db", "none"),
        ("converters", defaultConvertersPath), ("rule", "ip:a.b/c.D:args"), ("strict", "true"),
        ("addons", "rust"), ("debug", "true")] ∧
      ofParameter (some s.canonical) = .ok s := by
  have h : (ofParameter (some spreadParameter)).toOption.any (fun s =>
      decide (s.parts = [("wire_suffix", "W=1"), ("request_suffix", "Request"),
        ("response_suffix", "Response"), ("domain_suffix", "Domain"),
        ("outbound_suffix", "Outbound"), ("inbound_suffix", "Inbound"), ("db", "none"),
        ("converters", defaultConvertersPath), ("rule", "ip:a.b/c.D:args"), ("strict", "true"),
        ("addons", "rust"), ("debug", "true")])) = true := by
    decide +kernel
  obtain ⟨s, hs, hparts⟩ := exists_of_check h
  exact ⟨s, hs, of_decide_eq_true hparts, ofParameter_canonical hs⟩

end Settings

end Laminate
