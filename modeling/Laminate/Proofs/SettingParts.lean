import Laminate.Settings.Parameter
import Laminate.Proofs.Outcome
import Mathlib.Data.List.Induction
import Mathlib.Data.List.Nodup
import Mathlib.Tactic.SplitIfs

/-! What the parts of a parameter ask for, key by key.
No two keys have a say in the same piece of the settings, so the parts of each key alone decide its
piece, whatever stands between them. -/
namespace Laminate.Settings

open Laminate.Text

/-! ### Parts -/

/-- The parts of a parameter that set a key, in order. Blank parts set none. -/
def partsOf (key parameter : String) : List String :=
  (trimmedPieces ',' parameter).filter fun part => (keyValue part).1 == key

/-- What the parts of a parameter set a key to, in order. -/
def valuesOf (key parameter : String) : List String :=
  (partsOf key parameter).map fun part => (keyValue part).2

/-- The values under a key. -/
def valuesUnder (key : String) (parts : List (String × String)) : List String :=
  (parts.filter (·.1 == key)).map (·.2)

lemma valuesUnder_keyValue (key parameter : String) :
    valuesUnder key ((trimmedPieces ',' parameter).map keyValue) = valuesOf key parameter := by
  rw [valuesUnder, List.filter_map, List.map_map, valuesOf, partsOf]
  rfl

lemma valuesUnder_cons (key : String) (part : String × String) (rest : List (String × String)) :
    valuesUnder key (part :: rest) =
      if part.1 = key then part.2 :: valuesUnder key rest else valuesUnder key rest := by
  unfold valuesUnder
  split_ifs with h <;> simp [h]

lemma mem_valuesUnder {key value : String} {parts : List (String × String)} :
    value ∈ valuesUnder key parts ↔ (key, value) ∈ parts := by
  simp [valuesUnder]

/-! ### One part -/

/-- What a part makes of the settings, by its key. -/
inductive Sets (s : Settings) : String → String → Settings → Prop
  | wire {value v : String} (read : nonEmpty "wire_suffix" value = .ok v) :
    Sets s "wire_suffix" value { s with suffixes := { s.suffixes with wire := v } }
  | request {value v : String} (read : nonEmpty "request_suffix" value = .ok v) :
    Sets s "request_suffix" value { s with suffixes := { s.suffixes with request := v } }
  | response {value v : String} (read : nonEmpty "response_suffix" value = .ok v) :
    Sets s "response_suffix" value { s with suffixes := { s.suffixes with response := v } }
  | domain {value v : String} (read : nonEmpty "domain_suffix" value = .ok v) :
    Sets s "domain_suffix" value { s with suffixes := { s.suffixes with domain := v } }
  | outbound {value v : String} (read : nonEmpty "outbound_suffix" value = .ok v) :
    Sets s "outbound_suffix" value { s with suffixes := { s.suffixes with outbound := v } }
  | inbound {value v : String} (read : nonEmpty "inbound_suffix" value = .ok v) :
    Sets s "inbound_suffix" value { s with suffixes := { s.suffixes with inbound := v } }
  | database {value : String} {v : Database} (read : Database.parse value = .ok v) :
    Sets s "db" value { s with database := v }
  | converters {value v : String} (read : nonEmpty "converters" value = .ok v) :
    Sets s "converters" value { s with converters := .ofPath v }
  | rule {value : String} {rule : Rule} (read : Rule.parse value = .ok rule) :
    Sets s "rule" value { s with rules := replaceRule rule s.rules }
  | strict {value : String} {v : Bool} (read : parseBool "strict" value = .ok v) :
    Sets s "strict" value { s with strict := v }
  | debug {value : String} {v : Bool} (read : parseBool "debug" value = .ok v) :
    Sets s "debug" value { s with debug := v }
  | addons {value : String} {v : List Addon}
    (read : addAddons (trimmedPieces '+' value) s.addons = .ok v) :
    Sets s "addons" value { s with addons := v }

lemma set_eq_ok {s t : Settings} {key value : String} :
    s.set key value = .ok t ↔ Sets s key value t := by
  constructor
  · intro h
    unfold set at h
    split at h
    case h_13 => cases h
    all_goals
      obtain ⟨v, hread, rfl⟩ := map_eq_ok.mp h
      constructor
      exact hread
  · intro h
    cases h <;> exact map_eq_ok.mpr ⟨_, ‹_›, rfl⟩

/-! ### Components -/

/-- A piece of the settings with the key that decides it, and what one more value under the key
makes of it. -/
structure Component (α : Type) where
  key : String
  get : Settings → α
  put : String → α → Except GenError α

/-- The suffixes by their keys. -/
def keyedSuffixes : List (String × (Suffixes → String)) := [
  ("wire_suffix", (·.wire)), ("request_suffix", (·.request)), ("response_suffix", (·.response)),
  ("domain_suffix", (·.domain)), ("outbound_suffix", (·.outbound)),
  ("inbound_suffix", (·.inbound))]

namespace Component

variable {α : Type}

/-- A component of which each value says all. -/
def single (key : String) (get : Settings → α) (read : String → Except GenError α) : Component α :=
  ⟨key, get, fun value _ => read value⟩

def suffix (keyed : String × (Suffixes → String)) : Component String :=
  single keyed.1 (fun s => keyed.2 s.suffixes) (nonEmpty keyed.1)

def database : Component Database := single "db" (·.database) Database.parse

def converters : Component Converters :=
  single "converters" (·.converters) fun value => (nonEmpty "converters" value).map .ofPath

def strict : Component Bool := single "strict" (·.strict) (parseBool "strict")

def debug : Component Bool := single "debug" (·.debug) (parseBool "debug")

def rules : Component (List Rule) where
  key := "rule"
  get s := s.rules
  put value rules := (Rule.parse value).map fun rule => replaceRule rule rules

def addons : Component (List Addon) where
  key := "addons"
  get s := s.addons
  put value addons := addAddons (trimmedPieces '+' value) addons

/-- Parts with the key of a component put their values to it, and other parts leave it alone. -/
def IsSeparate (c : Component α) : Prop :=
  ∀ {s t : Settings} {key value : String}, Sets s key value t →
    if key = c.key then c.put value (c.get s) = .ok (c.get t) else c.get t = c.get s

lemma suffix_isSeparate : ∀ keyed ∈ keyedSuffixes, (suffix keyed).IsSeparate := by
  intro keyed hkeyed s t key value h
  simp only [keyedSuffixes, List.mem_cons, List.not_mem_nil, or_false] at hkeyed
  rcases hkeyed with rfl | rfl | rfl | rfl | rfl | rfl <;> cases h <;> simp_all [suffix, single]

lemma database_isSeparate : database.IsSeparate := by
  intro s t key value h
  cases h <;> simp_all [database, single]

lemma converters_isSeparate : converters.IsSeparate := by
  intro s t key value h
  cases h <;> simp_all [converters, single]

lemma strict_isSeparate : strict.IsSeparate := by
  intro s t key value h
  cases h <;> simp_all [strict, single]

lemma debug_isSeparate : debug.IsSeparate := by
  intro s t key value h
  cases h <;> simp_all [debug, single]

lemma rules_isSeparate : rules.IsSeparate := by
  intro s t key value h
  cases h <;> simp_all [rules]

lemma addons_isSeparate : addons.IsSeparate := by
  intro s t key value h
  cases h <;> simp_all [addons]

/-- A component is made from the values under its key, in order. -/
lemma IsSeparate.run {c : Component α} (hc : c.IsSeparate) {parts : List (String × String)}
    {s t : Settings} (h : setAll parts s = .ok t) :
    (valuesUnder c.key parts).foldlM (fun a value => c.put value a) (c.get s) = .ok (c.get t) := by
  induction parts generalizing s with
  | nil =>
    cases h
    rfl
  | cons part rest ih =>
    obtain ⟨key, value⟩ := part
    rw [setAll] at h
    split at h
    · cases h
    · next next hset =>
      have hstep := hc (set_eq_ok.mp hset)
      have hrest := ih h
      rw [valuesUnder_cons]
      split_ifs at hstep ⊢ with hkey
      · rw [List.foldlM_cons, bind_eq_ok]
        exact ⟨_, hstep, hrest⟩
      · rwa [hstep] at hrest

/-- Where each value says all, the last one has its say. -/
lemma foldlM_single {read : String → Except GenError α} {values : List String} {a b : α}
    (h : values.foldlM (fun _ value => read value) a = .ok b) :
    match values.getLast? with
    | some value => read value = .ok b
    | none => b = a := by
  induction values using List.reverseRecOn with
  | nil =>
    cases h
    rfl
  | append_singleton values value _ =>
    rw [List.foldlM_append, bind_eq_ok] at h
    obtain ⟨_, -, hlast⟩ := h
    rw [List.getLast?_concat]
    simpa using hlast

end Component

/-- Settings are made of their components. -/
lemma eq_of_components {s t : Settings}
    (suffixes : ∀ keyed ∈ keyedSuffixes, keyed.2 s.suffixes = keyed.2 t.suffixes)
    (database : s.database = t.database) (converters : s.converters = t.converters)
    (rules : s.rules = t.rules) (strict : s.strict = t.strict) (addons : s.addons = t.addons)
    (debug : s.debug = t.debug) : s = t := by
  obtain ⟨⟨wire, request, response, domain, outbound, inbound⟩, _, _, _, _, _, _⟩ := s
  obtain ⟨⟨wire', request', response', domain', outbound', inbound'⟩, _, _, _, _, _, _⟩ := t
  simp only [keyedSuffixes, List.forall_mem_cons, List.not_mem_nil, false_imp_iff,
    implies_true, and_true] at suffixes
  simp_all

/-! ### Accepted parts -/

lemma addAddons_isOk (names : List String) (addons : List Addon) :
    (addAddons names addons).isOk = names.all fun name => (Addon.ofName? name).isSome := by
  induction names generalizing addons with
  | nil => rfl
  | cons name rest ih =>
    rw [addAddons]
    cases hname : Addon.ofName? name with
    | none => simp [hname, Except.isOk, Except.toBool]
    | some addon => simp [hname, ih]

/-- Whether a part is accepted does not depend on those before it. -/
lemma set_isOk (s t : Settings) (key value : String) :
    (s.set key value).isOk = (t.set key value).isOk := by
  unfold set
  split <;> simp [addAddons_isOk]

lemma setAll_isOk {parts : List (String × String)} {s : Settings} (base : Settings) :
    (setAll parts s).isOk = parts.all fun part => (base.set part.1 part.2).isOk := by
  induction parts generalizing s with
  | nil => rfl
  | cons part rest ih =>
    obtain ⟨key, value⟩ := part
    rw [setAll, List.all_cons, ← set_isOk s base]
    cases s.set key value with
    | error e => rfl
    | ok next => exact ih

/-- Parts with the same values under each key come to the same. -/
lemma setAll_eq_of_valuesUnder {parts parts' : List (String × String)} {s t : Settings}
    (hvalues : ∀ key, valuesUnder key parts' = valuesUnder key parts)
    (h : setAll parts s = .ok t) : setAll parts' s = .ok t := by
  have hmem : ∀ part, part ∈ parts' ↔ part ∈ parts := by
    rintro ⟨key, value⟩
    rw [← mem_valuesUnder, hvalues, mem_valuesUnder]
  obtain ⟨t', h'⟩ : ∃ t', setAll parts' s = .ok t' := by
    have hok : (setAll parts s).isOk = true := isOk_iff.mpr ⟨t, h⟩
    rw [setAll_isOk s, List.all_eq_true] at hok
    rw [← isOk_iff, setAll_isOk s, List.all_eq_true]
    exact fun part hpart => hok part ((hmem part).mp hpart)
  have hget : ∀ {α : Type} {c : Component α}, c.IsSeparate → c.get t' = c.get t := by
    intro α c hc
    have hrun' := hc.run h'
    rw [hvalues, hc.run h] at hrun'
    exact (Except.ok.inj hrun').symm
  rw [h', eq_of_components (fun keyed hkeyed => hget (Component.suffix_isSeparate keyed hkeyed))
    (hget Component.database_isSeparate) (hget Component.converters_isSeparate)
    (hget Component.rules_isSeparate) (hget Component.strict_isSeparate)
    (hget Component.addons_isSeparate) (hget Component.debug_isSeparate)]

/-! ### Rules -/

lemma eraseDups_concat {α : Type} [BEq α] [LawfulBEq α] [DecidableEq α] (xs : List α) (x : α) :
    (xs ++ [x]).eraseDups = if x ∈ xs then xs.eraseDups else xs.eraseDups ++ [x] := by
  rw [List.eraseDups_append]
  split_ifs with h <;> simp [List.removeAll, List.eraseDups_cons, h]

lemma nodup_eraseDups {α : Type} [BEq α] [LawfulBEq α] [DecidableEq α] (xs : List α) :
    xs.eraseDups.Nodup := by
  induction xs using List.reverseRecOn with
  | nil => simp
  | append_singleton xs x ih =>
    rw [eraseDups_concat]
    split_ifs with h
    · exact ih
    · exact List.nodup_append'.mpr ⟨ih, by simp, by simpa using h⟩

/-- What comes on top of a base, once more of it has come. -/
lemma append_eraseDups_concat {α : Type} [BEq α] [LawfulBEq α] [DecidableEq α] (base xs : List α)
    (x : α) :
    base ++ ((xs ++ [x]).filter (· ∉ base)).eraseDups =
      if x ∈ base ++ (xs.filter (· ∉ base)).eraseDups then
        base ++ (xs.filter (· ∉ base)).eraseDups
      else base ++ (xs.filter (· ∉ base)).eraseDups ++ [x] := by
  by_cases hbase : x ∈ base
  · simp [hbase]
  · rw [List.filter_append, List.filter_singleton, decide_eq_true hbase, cond_true,
      eraseDups_concat]
    have hmem : x ∈ base ++ (xs.filter (· ∉ base)).eraseDups ↔ x ∈ xs.filter (· ∉ base) := by
      simp [hbase]
    split_ifs with hold hnew hnew
    · rfl
    · exact absurd (hmem.mpr hold) hnew
    · exact absurd (hmem.mp hnew) hold
    · exact (List.append_assoc ..).symm

lemma mem_replaceRule {rule x : Rule} {rules : List Rule} (h : (rules.map (·.name)).Nodup) :
    x ∈ replaceRule rule rules ↔ x = rule ∨ x ∈ rules ∧ x.name ≠ rule.name := by
  induction rules with
  | nil => simp [replaceRule]
  | cons first rest ih =>
    rw [List.map_cons, List.nodup_cons] at h
    unfold replaceRule
    split_ifs with hname
    · -- no rule of the rest has the name of the first one
      have hrest : ∀ x ∈ rest, x.name ≠ rule.name := by
        intro x hx heq
        exact h.1 (hname.trans heq.symm ▸ List.mem_map_of_mem hx)
      constructor
      · intro hx
        rcases List.mem_cons.mp hx with rfl | hx
        · exact .inl rfl
        · exact .inr ⟨List.mem_cons_of_mem _ hx, hrest x hx⟩
      · rintro (rfl | ⟨hx, hne⟩)
        · exact List.mem_cons_self
        · rcases List.mem_cons.mp hx with rfl | hx
          · exact absurd hname hne
          · exact List.mem_cons_of_mem _ hx
    · rw [List.mem_cons, ih h.2, List.mem_cons]
      constructor
      · rintro (rfl | rfl | hx)
        · exact .inr ⟨.inl rfl, hname⟩
        · exact .inl rfl
        · exact .inr ⟨.inr hx.1, hx.2⟩
      · rintro (rfl | ⟨rfl | hx, hne⟩)
        · exact .inr (.inl rfl)
        · exact .inl rfl
        · exact .inr (.inr ⟨hx, hne⟩)

/-- The rules that are in force once some have been registered on top of the built-in ones. -/
structure Overlays (registered rules : List Rule) : Prop where
  /-- The built-in ones come first, and the others in the order in which they first came. -/
  names : rules.map (·.name) = builtinRules.map (·.name) ++
    ((registered.map (·.name)).filter (· ∉ builtinRules.map (·.name))).eraseDups
  distinct : (rules.map (·.name)).Nodup
  /-- A rule is the last one that has been registered under its name. -/
  latest : ∀ rule ∈ rules, match (registered.filter (·.name = rule.name)).getLast? with
    | some last => rule = last
    | none => rule ∈ builtinRules

lemma nodup_builtinRules : (builtinRules.map (·.name)).Nodup := by decide

lemma overlays_foldl (registered : List Rule) :
    Overlays registered (registered.foldl (fun rules rule => replaceRule rule rules)
      builtinRules) := by
  induction registered using List.reverseRecOn with
  | nil => exact ⟨by simp, nodup_builtinRules, fun rule hrule => hrule⟩
  | append_singleton registered rule ih =>
    rw [List.foldl_append, List.foldl_cons, List.foldl_nil]
    generalize registered.foldl _ _ = rules at ih
    refine ⟨?_, ?_, ?_⟩
    · rw [replaceRule_map_name, List.map_append, List.map_singleton, append_eraseDups_concat,
        ← ih.names]
    · rw [replaceRule_map_name]
      split_ifs with h
      · exact ih.distinct
      · exact List.nodup_append'.mpr ⟨ih.distinct, by simp, by simpa using h⟩
    · intro x hx
      rcases (mem_replaceRule ih.distinct).mp hx with rfl | ⟨hx, hne⟩
      · simp [List.filter_append]
      · have hfilter : (registered ++ [rule]).filter (·.name = x.name) =
            registered.filter (·.name = x.name) := by
          simp [List.filter_append, Ne.symm hne]
        rw [hfilter]
        exact ih.latest x hx

lemma foldlM_rules {values : List String} {start rules : List Rule}
    (h : values.foldlM (fun rules value => Component.rules.put value rules) start = .ok rules) :
    ∃ registered, values.mapM Rule.parse = .ok registered ∧
      rules = registered.foldl (fun rules rule => replaceRule rule rules) start := by
  induction values generalizing start with
  | nil =>
    cases h
    exact ⟨[], rfl, rfl⟩
  | cons value rest ih =>
    rw [List.foldlM_cons, bind_eq_ok] at h
    obtain ⟨next, hnext, hrest⟩ := h
    obtain ⟨rule, hrule, rfl⟩ := map_eq_ok.mp hnext
    obtain ⟨registered, hregistered, rfl⟩ := ih hrest
    refine ⟨rule :: registered, ?_, rfl⟩
    rw [mapM_eq_ok] at hregistered ⊢
    exact .cons hrule hregistered

/-! ### Addons -/

lemma name_of_ofName? {name : String} {addon : Addon} (h : Addon.ofName? name = some addon) :
    addon.name = name := by
  simpa using List.find?_some h

lemma addonName_injective : Function.Injective Addon.name := by
  intro a b
  cases a <;> cases b <;> decide

lemma addAddons_names {names seen : List String} {addons added : List Addon}
    (hseen : addons.map (·.name) = seen.eraseDups) (h : addAddons names addons = .ok added) :
    added.map (·.name) = (seen ++ names).eraseDups := by
  induction names generalizing seen addons with
  | nil =>
    cases h
    rw [hseen, List.append_nil]
  | cons name rest ih =>
    rw [addAddons] at h
    split at h
    · cases h
    · next addon haddon =>
      obtain rfl := name_of_ofName? haddon
      have hmem : addon ∈ addons ↔ addon.name ∈ seen := by
        rw [← List.mem_eraseDups (l := seen), ← hseen,
          List.mem_map_of_injective addonName_injective]
      rw [List.append_cons]
      refine ih ?_ h
      rw [eraseDups_concat, ← hseen]
      split_ifs with hold hnew hnew
      · rfl
      · exact absurd (hmem.mp hold) hnew
      · exact absurd (hmem.mpr hnew) hold
      · simp

lemma foldlM_addons {values seen : List String} {start addons : List Addon}
    (hseen : start.map (·.name) = seen.eraseDups)
    (h : values.foldlM (fun addons value => Component.addons.put value addons) start = .ok addons) :
    addons.map (·.name) = (seen ++ values.flatMap (trimmedPieces '+')).eraseDups := by
  induction values generalizing seen start with
  | nil =>
    cases h
    rw [hseen, List.flatMap_nil, List.append_nil]
  | cons value rest ih =>
    rw [List.foldlM_cons, bind_eq_ok] at h
    obtain ⟨next, hnext, hrest⟩ := h
    rw [List.flatMap_cons, ← List.append_assoc]
    exact ih (addAddons_names hseen hnext) hrest

/-! ### Whole parameters -/

/-- The parts of a parameter in another order, where the parts of each key stand as they did. -/
def Reorders (parameter other : String) : Prop :=
  ∀ key, partsOf key other = partsOf key parameter

/-- Under a key stands what its last part says, or what stands there by default. -/
def Decides {α : Type} (parameter key : String) (read : String → Except GenError α)
    (default value : α) : Prop :=
  match (valuesOf key parameter).getLast? with
  | some text => read text = .ok value
  | none => value = default

/-- The components of a single value as the last parts of their keys say. -/
structure LastWins (parameter : String) (s : Settings) : Prop where
  suffixes : ∀ keyed ∈ keyedSuffixes,
    Decides parameter keyed.1 (nonEmpty keyed.1) (keyed.2 {}) (keyed.2 s.suffixes)
  database : Decides parameter "db" Database.parse .none s.database
  converters : Decides parameter "converters"
    (fun value => (nonEmpty "converters" value).map .ofPath) (.ofPath defaultConvertersPath)
    s.converters
  strict : Decides parameter "strict" (parseBool "strict") true s.strict
  debug : Decides parameter "debug" (parseBool "debug") false s.debug

lemma ofParameter_some (parameter : String) :
    ofParameter (some parameter) = setAll ((trimmedPieces ',' parameter).map keyValue) {} :=
  rfl

section

variable {parameter : String} {s : Settings} (h : ofParameter (some parameter) = .ok s)
include h

lemma ofParameter_reordered {other : String} (hother : Reorders parameter other) :
    ofParameter (some other) = .ok s := by
  rw [ofParameter_some] at h ⊢
  refine setAll_eq_of_valuesUnder (fun key => ?_) h
  rw [valuesUnder_keyValue, valuesUnder_keyValue, valuesOf, hother key, valuesOf]

lemma Component.IsSeparate.run_valuesOf {α : Type} {c : Component α} (hc : c.IsSeparate) :
    (valuesOf c.key parameter).foldlM (fun a value => c.put value a) (c.get {}) =
      .ok (c.get s) := by
  rw [← valuesUnder_keyValue]
  exact hc.run h

lemma ofParameter_lastWins : LastWins parameter s := by
  have hsingle : ∀ {α : Type} (key : String) (get : Settings → α)
      (read : String → Except GenError α), (Component.single key get read).IsSeparate →
        Decides parameter key read (get {}) (get s) :=
    fun key get read hc => Component.foldlM_single (hc.run_valuesOf h)
  exact {
    suffixes := fun keyed hkeyed =>
      hsingle keyed.1 (fun s => keyed.2 s.suffixes) _ (Component.suffix_isSeparate keyed hkeyed)
    database := hsingle "db" (·.database) _ Component.database_isSeparate
    converters := hsingle "converters" (·.converters) _ Component.converters_isSeparate
    strict := hsingle "strict" (·.strict) _ Component.strict_isSeparate
    debug := hsingle "debug" (·.debug) _ Component.debug_isSeparate }

lemma ofParameter_overlays :
    ∃ registered, (valuesOf "rule" parameter).mapM Rule.parse = .ok registered ∧
      Overlays registered s.rules := by
  obtain ⟨registered, hregistered, hrules⟩ :=
    foldlM_rules (Component.rules_isSeparate.run_valuesOf h)
  refine ⟨registered, hregistered, ?_⟩
  rw [show s.rules = _ from hrules]
  exact overlays_foldl registered

lemma ofParameter_addons : s.addons.map (·.name) =
    ((valuesOf "addons" parameter).flatMap (trimmedPieces '+')).eraseDups := by
  have hstart : ([] : List Addon).map (·.name) = ([] : List String).eraseDups := rfl
  have hnames := foldlM_addons hstart (Component.addons_isSeparate.run_valuesOf h)
  rwa [List.nil_append] at hnames

lemma ofParameter_nodup_addons : s.addons.Nodup := by
  refine List.Nodup.of_map Addon.name ?_
  rw [show s.addons.map Addon.name = _ from ofParameter_addons h]
  exact nodup_eraseDups _

end

/-- The settings that an accepted parameter asks for, by the parts of each key alone: another order
between the keys makes no difference, the last part wins under the keys of a single value, rules
replace those of their names, and addons are listed as they are first mentioned. -/
theorem ofParameter_by_key {parameter : String} {s : Settings}
    (h : ofParameter (some parameter) = .ok s) :
    (∀ other, Reorders parameter other → ofParameter (some other) = .ok s) ∧
    LastWins parameter s ∧
    (∃ registered, (valuesOf "rule" parameter).mapM Rule.parse = .ok registered ∧
      Overlays registered s.rules) ∧
    s.addons.map (·.name) =
      ((valuesOf "addons" parameter).flatMap (trimmedPieces '+')).eraseDups ∧ s.addons.Nodup :=
  ⟨fun _ hother => ofParameter_reordered h hother, ofParameter_lastWins h, ofParameter_overlays h,
    ofParameter_addons h, ofParameter_nodup_addons h⟩

def scatteredParts : String :=
  "strict=no, rule=email:acme.org/checks.Email, strict=yes, addons=rust+fixtures+rust"

def gatheredParts : String :=
  "addons=rust+fixtures+rust,strict=no,strict=yes,rule=email:acme.org/checks.Email"

lemma gatheredParts_reorders : Reorders scatteredParts gatheredParts := by
  intro key
  have hscattered : trimmedPieces ',' scatteredParts = ["strict=no",
      "rule=email:acme.org/checks.Email", "strict=yes", "addons=rust+fixtures+rust"] := by
    decide +kernel
  have hgathered : trimmedPieces ',' gatheredParts = ["addons=rust+fixtures+rust", "strict=no",
      "strict=yes", "rule=email:acme.org/checks.Email"] := by
    decide +kernel
  have hstrict : (keyValue "strict=no").1 = "strict" ∧ (keyValue "strict=yes").1 = "strict" := by
    decide
  have hrule : (keyValue "rule=email:acme.org/checks.Email").1 = "rule" := by decide
  have haddons : (keyValue "addons=rust+fixtures+rust").1 = "addons" := by decide
  simp only [partsOf, hscattered, hgathered, List.filter_cons, List.filter_nil, hstrict, hrule,
    haddons, beq_iff_eq]
  by_cases hkey : "addons" = key
  · subst hkey
    decide
  · simp only [if_neg hkey]
    by_cases hkey : "strict" = key
    · subst hkey
      decide
    · simp only [if_neg hkey]

/-- Parts of three keys, in an order of their own and gathered by key. -/
theorem scatteredParts_by_key :
    ∃ s, ofParameter (some scatteredParts) = .ok s ∧ s.strict = true ∧
      s.addons = [.rust, .fixtures] ∧
      (∀ other, Reorders scatteredParts other → ofParameter (some other) = .ok s) ∧
      ofParameter (some gatheredParts) = .ok s ∧
      LastWins scatteredParts s ∧
      (∃ registered, (valuesOf "rule" scatteredParts).mapM Rule.parse = .ok registered ∧
        Overlays registered s.rules) ∧
      s.addons.map (·.name) =
        ((valuesOf "addons" scatteredParts).flatMap (trimmedPieces '+')).eraseDups ∧
      s.addons.Nodup := by
  have h : (ofParameter (some scatteredParts)).toOption.any (fun s =>
      decide (s.strict = true ∧ s.addons = [.rust, .fixtures])) = true := by decide +kernel
  obtain ⟨s, hs, hread⟩ := exists_of_check h
  obtain ⟨hstrict, haddons⟩ := of_decide_eq_true hread
  obtain ⟨hreorder, hbykey⟩ := ofParameter_by_key hs
  exact ⟨s, hs, hstrict, haddons, hreorder, hreorder gatheredParts gatheredParts_reorders, hbykey⟩

end Laminate.Settings
