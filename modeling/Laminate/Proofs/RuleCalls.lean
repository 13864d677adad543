import Laminate.Proofs.Validations

/-! Which validation rules are refused, and the call that the others become.
Where one of a field's rules cannot be there, there is no call; otherwise every rule is in the call
once, in a fixed order. -/
namespace Laminate.Form

open Laminate.Text Laminate.Schema Laminate.Code Laminate.Annotation

/-! ### Rules that are refused -/

def ConditionKind.all : List ConditionKind := [.whenEqual, .whenDifferent, .whenGiven, .whenMissing]

/-- Looks at the value of a sibling, and not only at whether there is one. -/
def ConditionKind.compares : ConditionKind → Bool
  | .whenEqual | .whenDifferent => true
  | .whenGiven | .whenMissing => false

/-- The condition of a kind, where it is declared. -/
def conditionOf (rules : ValidateRules) : ConditionKind → Option Condition
  | .whenEqual => rules.requiredIf
  | .whenDifferent => rules.requiredIfNot
  | .whenGiven => rules.requiredWith
  | .whenMissing => rules.requiredWithout

/-- How many of the five ways of being required are declared. -/
def presenceCount (rules : ValidateRules) : Nat :=
  (rules.required :: ConditionKind.all.map fun kind => (conditionOf rules kind).isSome).count true

/-- One value, and of a type that the text is a constant of. -/
def IsComparable (sibling : Field) (value : String) : Prop :=
  (sibling.cardinality = .singular ∨ sibling.cardinality = .optional) ∧
    match sibling.kind with
    | .enum .. => True
    | .scalar .string => True
    | .scalar .bool => value = "true" ∨ value = "false"
    | .scalar scalar => scalar.isNumeric = true ∧ isNumber value = true
    | _ => False

/-- What a pair of a condition can be refused for. -/
inductive PairFaulty (message : Message) (kind : ConditionKind) (pair : FieldValue) : Prop
  | unknown (absent : pair.field ∉ message.fields.map (·.name))
  | incomparable {sibling : Field} (compares : kind.compares = true)
    (found : message.field? pair.field = some sibling) (differs : ¬ IsComparable sibling pair.value)

/-- What a condition can be refused for. -/
inductive ConditionFaulty (message : Message) (kind : ConditionKind) (condition : Condition) : Prop
  | empty (all : condition.all = []) (any : condition.any = [])
  | mixed (all : condition.all ≠ []) (any : condition.any ≠ [])
  | pair {pair : FieldValue} (listed : pair ∈ condition.all ++ condition.any)
    (faulty : PairFaulty message kind pair)

/-- What a bound can be refused for. -/
inductive BoundFaulty (field : Field) (bound : Int) : Prop
  | nonNumber (kind : ∀ scalar, field.kind = .scalar scalar → scalar.isNumeric = false)
  | negative {scalar : Builtin} (kind : field.kind = .scalar scalar)
    (unsigned : scalar.isUnsigned = true) (negative : bound < 0)

/-- What a named rule can be refused for. -/
inductive NamedFaulty (settings : Settings) (named : NamedRule) : Prop
  | unregistered (absent : named.name ∉ settings.rules.map (·.name))
  | unwantedArgs {rule : Rule} (found : settings.rule? named.name = some rule)
    (wants : rule.requiresArgs = false) (args : named.args ≠ [])
  | missingArgs {rule : Rule} (found : settings.rule? named.name = some rule)
    (wants : rule.requiresArgs = true) (args : named.args = [])

/-- What the rules of a field can be refused for. -/
inductive RulesFaulty (settings : Settings) (message : Message) (field : Field)
    (rules : ValidateRules) : Prop
  | severalPresences (several : 1 < presenceCount rules)
  | condition {kind : ConditionKind} {condition : Condition}
    (declared : conditionOf rules kind = some condition)
    (faulty : ConditionFaulty message kind condition)
  | bound {bound : Int} (declared : rules.min = some bound ∨ rules.max = some bound)
    (faulty : BoundFaulty field bound)
  | noPattern {rule : MatchRule} (declared : rules.matching = some rule) (none : rule.patterns = [])
  | named {named : NamedRule} (declared : named ∈ rules.rules) (faulty : NamedFaulty settings named)
  | dive (declared : rules.dive = true) (single : field.cardinality ≠ .repeated)

/-! ### The call of the others -/

/-- A number as it is written, and any other argument as text. -/
def argumentText (arg : String) : String := if isNumber arg then arg else literal arg

def namedText (settings : Settings) (named : NamedRule) : Option String :=
  (settings.rule? named.name).map fun rule =>
    rule.callee ++
      if named.args = [] then "" else "(" ++ ", ".intercalate (named.args.map argumentText) ++ ")"

/-- A call of the validation package. -/
def callText (function : String) (args : List String) : String :=
  "validation." ++ function ++ "(" ++ ", ".intercalate args ++ ")"

def lengthText (rules : ValidateRules) : String :=
  callText "Length" [toString (rules.minLen.getD 0), toString (rules.maxLen.getD 0)]

/-- A bound in the type of the field's elements. -/
def boundText (field : Field) (name : String) (value : Int) : Option String :=
  match field.kind with
  | .scalar scalar => some (callText name [scalar.text ++ "(" ++ toString value ++ ")"])
  | _ => none

def patternText (pattern : String) : String :=
  callText "Match" ["regexp.MustCompile(" ++ rawLiteral pattern ++ ")"]

def conditionText (message : Message) (field : Field) (kind : ConditionKind)
    (condition : Condition) : Option String :=
  (conditionExpr message field kind condition).toOption.map fun e =>
    "validation.Required.When(" ++ e.render ++ ")"

/-- The patterns that a field's text has to match. -/
def patternsOf (rules : ValidateRules) : List String :=
  (rules.matching.map (·.patterns)).getD []

def presenceTexts (message : Message) (field : Field) (rules : ValidateRules) : List String :=
  (if rules.required then ["validation.Required"] else []) ++
    ConditionKind.all.filterMap fun kind =>
      (conditionOf rules kind).bind (conditionText message field kind)

def contentTexts (settings : Settings) (field : Field) (rules : ValidateRules) : List String :=
  (if rules.minLen.isSome || rules.maxLen.isSome then [lengthText rules] else []) ++
    rules.min.toList.filterMap (boundText field "Min") ++
    rules.max.toList.filterMap (boundText field "Max") ++
    (patternsOf rules).map patternText ++
    rules.rules.filterMap (namedText settings)

/-- How many content rules are declared. -/
def contentCount (rules : ValidateRules) : Nat :=
  (if rules.minLen.isSome || rules.maxLen.isSome then 1 else 0) + rules.min.toList.length +
    rules.max.toList.length + (patternsOf rules).length + rules.rules.length

/-- The rules of a call; the content rules are wrapped together where they are for each item. -/
def ruleTexts (settings : Settings) (message : Message) (field : Field) (rules : ValidateRules) :
    List String :=
  let content := contentTexts settings field rules
  presenceTexts message field rules ++
    if rules.dive = true ∧ content ≠ [] then [callText "Each" content] else content

section

variable {settings : Settings} {message : Message} {field sibling : Field} {rules : ValidateRules}

lemma comparand_isOk (field : Field) {value : String} :
    (∃ e, comparand field sibling value = .ok e) ↔ IsComparable sibling value := by
  unfold comparand IsComparable Field.isRepeated Field.isMap
  cases sibling.cardinality with
  | repeated => simp
  | map key => simp
  | singular | optional =>
    cases sibling.kind with
    | enum => simp
    | message => simp
    | wellKnown => simp
    | scalar scalar => cases scalar <;> simp [Builtin.isNumeric] <;> split <;> simp_all

lemma field?_eq_none {name : String} :
    message.field? name = none ↔ name ∉ message.fields.map (·.name) := by
  simp only [Message.field?, List.find?_eq_none, beq_iff_eq, List.mem_map, not_exists, not_and]

lemma conditionTerm_isOk (field : Field) {kind : ConditionKind} {pair : FieldValue} :
    (∃ e, conditionTerm message field kind pair = .ok e) ↔ ¬ PairFaulty message kind pair := by
  unfold conditionTerm
  cases hfound : message.field? pair.field with
  | none =>
    have hunknown : PairFaulty message kind pair := .unknown (field?_eq_none.mp hfound)
    simpa using hunknown
  | some sibling =>
    have hfaulty : PairFaulty message kind pair ↔
        kind.compares = true ∧ ¬ IsComparable sibling pair.value := by
      constructor
      · rintro (absent | ⟨compares, found, differs⟩)
        · simp [field?_eq_none.mpr absent] at hfound
        · rw [hfound] at found
          cases found
          exact ⟨compares, differs⟩
      · rintro ⟨compares, differs⟩
        exact .incomparable compares hfound differs
    rw [hfaulty]
    cases kind <;> simp [ConditionKind.compares, ← comparand_isOk field]

lemma conditionExpr_isOk (field : Field) {kind : ConditionKind} {condition : Condition} :
    (∃ e, conditionExpr message field kind condition = .ok e) ↔
      ¬ ConditionFaulty message kind condition := by
  have hterms : ∀ (op : BinaryOp) (pairs : List FieldValue),
      (∃ e, (pairs.mapM (conditionTerm message field kind)).map
        (fun es => (Expr.joined op es).getD (.ident "")) = .ok e) ↔
      ∀ pair ∈ pairs, ¬ PairFaulty message kind pair := by
    intro op pairs
    simp [← conditionTerm_isOk field, ← mapM_isOk]
  -- where one of the two lists is there, only their pairs are left to be wrong
  have hpairs : ∀ {pairs}, condition.all ++ condition.any = pairs →
      ¬ (condition.all = [] ∧ condition.any = []) → ¬ (condition.all ≠ [] ∧ condition.any ≠ []) →
      ((∀ pair ∈ pairs, ¬ PairFaulty message kind pair) ↔
        ¬ ConditionFaulty message kind condition) := by
    rintro pairs rfl hempty hmixed
    constructor
    · rintro h (⟨all, any⟩ | ⟨all, any⟩ | ⟨listed, faulty⟩)
      · exact hempty ⟨all, any⟩
      · exact hmixed ⟨all, any⟩
      · exact h _ listed faulty
    · exact fun h pair listed faulty => h (.pair listed faulty)
  unfold conditionExpr
  cases hall : condition.all with
  | nil =>
    cases hany : condition.any with
    | nil => simpa using ConditionFaulty.empty hall hany
    | cons pair rest =>
      refine (hterms .or _).trans (hpairs ?_ (by simp [hany]) (by simp [hall]))
      rw [hall, hany]
      rfl
  | cons pair rest =>
    cases hany : condition.any with
    | nil =>
      refine (hterms .and _).trans (hpairs ?_ (by simp [hall]) (by simp [hany]))
      rw [hall, hany, List.append_nil]
    | cons pair' rest' =>
      have hmixed : ConditionFaulty message kind condition :=
        .mixed (by simp [hall]) (by simp [hany])
      simpa using hmixed

/-- The ways of being required, one for each that is declared. -/
lemma declaredPresence_eq (rules : ValidateRules) :
    declaredPresence rules = (if rules.required then [("required", none)] else []) ++
      ConditionKind.all.filterMap fun kind =>
        (conditionOf rules kind).map fun condition => (kind.key, some (kind, condition)) := by
  simp [declaredPresence, ConditionKind.all, conditionOf, List.filterMap_eq_flatMap_toList]

lemma length_declaredPresence (rules : ValidateRules) :
    (declaredPresence rules).length = presenceCount rules := by
  have hkinds : ∀ kinds : List ConditionKind, (kinds.filterMap fun kind =>
      (conditionOf rules kind).map fun condition =>
        (kind.key, some (kind, condition))).length =
      (kinds.map fun kind => (conditionOf rules kind).isSome).count true := by
    intro kinds
    induction kinds with
    | nil => rfl
    | cons kind rest ih => cases h : conditionOf rules kind <;> simp [h, ih]
  rw [declaredPresence_eq, List.length_append, hkinds, presenceCount]
  cases rules.required <;> simp [Nat.add_comm]

lemma mem_declaredPresence {kind : ConditionKind} {condition : Condition} {key : String} :
    (key, some (kind, condition)) ∈ declaredPresence rules ↔
      key = kind.key ∧ conditionOf rules kind = some condition := by
  have hall : kind ∈ ConditionKind.all := by cases kind <;> decide
  rw [declaredPresence_eq, List.mem_append]
  constructor
  · rintro (h | h)
    · split at h <;> simp at h
    · obtain ⟨kind', -, h⟩ := List.mem_filterMap.mp h
      obtain ⟨condition', hcondition, h⟩ := Option.map_eq_some_iff.mp h
      cases h
      exact ⟨rfl, hcondition⟩
  · rintro ⟨rfl, hcondition⟩
    exact .inr (List.mem_filterMap.mpr ⟨kind, hall, by simp [hcondition]⟩)

lemma presenceOf_isOk :
    (∃ presence, presenceOf message field rules = .ok presence) ↔
      presenceCount rules ≤ 1 ∧ ∀ kind condition, conditionOf rules kind = some condition →
        ¬ ConditionFaulty message kind condition := by
  have hdeclared : ∀ {kind condition}, conditionOf rules kind = some condition →
      (kind.key, some (kind, condition)) ∈ declaredPresence rules := fun h =>
    mem_declaredPresence.mpr ⟨rfl, h⟩
  unfold presenceOf
  rw [← length_declaredPresence]
  split
  · next hnone =>
    refine iff_of_true ⟨_, rfl⟩ ⟨by simp [hnone], fun kind condition h => ?_⟩
    have := hdeclared h
    simp [hnone] at this
  · next key halways =>
    refine iff_of_true ⟨_, rfl⟩ ⟨by simp [halways], fun kind condition h => ?_⟩
    have := hdeclared h
    simp [halways] at this
  · next key kind condition hunder =>
    have hthis : conditionOf rules kind = some condition :=
      (mem_declaredPresence.mp (hunder ▸ List.mem_singleton_self (key, some (kind, condition)))).2
    have honly : ∀ kind' condition', conditionOf rules kind' = some condition' →
        kind' = kind ∧ condition' = condition := by
      intro kind' condition' h
      have := hdeclared h
      rw [hunder, List.mem_singleton] at this
      cases this
      exact ⟨rfl, rfl⟩
    have hok : (∃ presence, ((conditionExpr message field kind condition).map fun e =>
        some (Presence.under e)) = .ok presence) ↔ ¬ ConditionFaulty message kind condition := by
      rw [← conditionExpr_isOk field]
      simp
    rw [hok]
    constructor
    · refine fun h => ⟨by simp [hunder], fun kind' condition' hdecl => ?_⟩
      obtain ⟨rfl, rfl⟩ := honly kind' condition' hdecl
      exact h
    · exact fun h => h.2 kind condition hthis
  · next hnone halways hunder =>
    have hmany : 1 < (declaredPresence rules).length := by
      rcases hdeclared : declaredPresence rules with _ | ⟨⟨key, _ | ⟨kind, condition⟩⟩, _ | _⟩
      · exact absurd hdeclared hnone
      · exact absurd hdeclared (halways key)
      · simp
      · exact absurd hdeclared (hunder key kind condition)
      · simp
    refine iff_of_false (by simp) fun h => ?_
    omega

/-- What one declared way of being required is written as. -/
def declaredText (message : Message) (field : Field) :
    String × Option (ConditionKind × Condition) → Option String
  | (_, none) => some "validation.Required"
  | (_, some (kind, condition)) => conditionText message field kind condition

lemma presenceTexts_eq (message : Message) (field : Field) (rules : ValidateRules) :
    presenceTexts message field rules =
      (declaredPresence rules).filterMap (declaredText message field) := by
  have halways : (if rules.required then [("required", none)] else []).filterMap
      (declaredText message field) = if rules.required then ["validation.Required"] else [] := by
    split <;> rfl
  rw [declaredPresence_eq, List.filterMap_append, halways, List.filterMap_filterMap, presenceTexts]
  congr 2
  funext kind
  cases conditionOf rules kind <;> rfl

lemma presenceTexts_of_ok {presence : Option Presence}
    (h : presenceOf message field rules = .ok presence) :
    presenceTexts message field rules = (presence.map fun p => p.expr.render).toList ∧
      (presenceTexts message field rules).length = presenceCount rules := by
  rw [presenceTexts_eq, ← length_declaredPresence]
  unfold presenceOf at h
  split at h
  · next hnone =>
    cases h
    simp [hnone]
  · next halways =>
    cases h
    simp [halways, declaredText, Presence.expr, validationName, Expr.render]
  · next hunder =>
    obtain ⟨e, he, rfl⟩ := map_eq_ok.mp h
    simp [hunder, declaredText, conditionText, he, Except.toOption, Presence.expr, validationName,
      Expr.render, Expr.renderAll]
  · cases h

/-! ### Content rules -/

lemma render_validationCall (function : String) (args : List Expr) :
    (Expr.call (validationName function) args).render =
      callText function (args.map Expr.render) := by
  have hpackage : "validation" ++ "." = "validation." := by decide
  rw [Expr.render, validationName, Expr.render, Expr.renderAll_eq_map, hpackage]
  rfl

lemma boundRule_isOk (name : String) {value : Int} :
    (∃ rule, boundRule field name value = .ok rule) ↔ ¬ BoundFaulty field value := by
  unfold boundRule
  split
  · next scalar hkind =>
    have hfaulty : BoundFaulty field value ↔
        scalar.isNumeric = false ∨ value < 0 ∧ scalar.isUnsigned = true := by
      constructor
      · rintro (kind | ⟨kind, unsigned, negative⟩)
        · exact .inl (kind scalar hkind)
        · rw [hkind] at kind
          cases kind
          exact .inr ⟨negative, unsigned⟩
      · rintro (hnumeric | ⟨negative, unsigned⟩)
        · refine .nonNumber fun other hother => ?_
          rw [hkind] at hother
          cases hother
          exact hnumeric
        · exact .negative hkind unsigned negative
    rw [hfaulty, not_or]
    split
    · next hnumeric => simp_all
    · next hnumeric =>
      split
      · next hsign => simp [hsign]
      · next hsign => exact iff_of_true ⟨_, rfl⟩ ⟨by simpa using hnumeric, hsign⟩
  · next hkind =>
    refine iff_of_false (by simp) fun h => h (.nonNumber fun scalar hscalar => ?_)
    exact absurd hscalar (hkind scalar)

lemma boundRules_isOk {name : String} {bound : Option Int} :
    (∃ rules, boundRules field name bound = .ok rules) ↔
      ∀ value, bound = some value → ¬ BoundFaulty field value := by
  cases bound <;> simp [boundRules, ← boundRule_isOk name]

lemma boundRule_ok {name : String} {value : Int} {rule : ContentRule}
    (h : boundRule field name value = .ok rule) :
    ∃ scalar, field.kind = .scalar scalar ∧ rule = .bound name scalar value := by
  unfold boundRule at h
  split at h
  · next scalar hkind =>
    split at h
    · cases h
    · split at h <;> cases h
      exact ⟨scalar, hkind, rfl⟩
  · cases h

lemma boundTexts_of_ok {name : String} {bound : Option Int} {content : List ContentRule}
    (h : boundRules field name bound = .ok content) :
    content.map (fun rule => rule.expr.render) = bound.toList.filterMap (boundText field name) ∧
      content.length = bound.toList.length := by
  cases bound with
  | none =>
    cases h
    exact ⟨rfl, rfl⟩
  | some value =>
    obtain ⟨rule, hrule, rfl⟩ := map_eq_ok.mp h
    obtain ⟨scalar, hkind, rfl⟩ := boundRule_ok hrule
    have htext : (ContentRule.bound name scalar value).expr.render =
        callText name [scalar.text ++ "(" ++ toString value ++ ")"] := by
      rw [ContentRule.expr, render_validationCall, List.map_singleton, Expr.render_call_one]
      rfl
    simp [htext, boundText, hkind]

lemma lengthTexts (rules : ValidateRules) :
    (lengthRules rules).map (fun rule => rule.expr.render) =
      if rules.minLen.isSome || rules.maxLen.isSome then [lengthText rules] else [] := by
  unfold lengthRules
  split
  · rw [List.map_singleton, ContentRule.expr, render_validationCall]
    rfl
  · rfl

lemma patternRules_isOk {matching : Option MatchRule} :
    (∃ content, patternRules field matching = .ok content) ↔
      ∀ rule, matching = some rule → rule.patterns ≠ [] := by
  cases matching with
  | none => simp [patternRules]
  | some rule => cases h : rule.patterns <;> simp [patternRules, h]

lemma patternTexts_of_ok {content : List ContentRule}
    (h : patternRules field rules.matching = .ok content) :
    content.map (fun rule => rule.expr.render) = (patternsOf rules).map patternText := by
  unfold patternRules at h
  unfold patternsOf
  split at h
  · next hnone =>
    cases h
    simp [hnone]
  · next rule hrule =>
    split at h
    · cases h
    · cases h
      have htext : ∀ pattern, (ContentRule.pattern pattern).expr.render = patternText pattern := by
        intro pattern
        have hcompile : "regexp" ++ "." ++ "MustCompile" ++ "(" = "regexp.MustCompile(" := by decide
        rw [ContentRule.expr, render_validationCall, List.map_singleton, Expr.render_call_one,
          Expr.render, hcompile]
        rfl
      simp [hrule, Function.comp_def, htext]

lemma rule?_eq_none {name : String} :
    settings.rule? name = none ↔ name ∉ settings.rules.map (·.name) := by
  simp only [Settings.rule?, List.find?_eq_none, beq_iff_eq, List.mem_map, not_exists, not_and]

lemma namedRule_isOk {named : NamedRule} :
    (∃ pair, namedRule settings field named = .ok pair) ↔ ¬ NamedFaulty settings named := by
  unfold namedRule
  cases hfound : settings.rule? named.name with
  | none => simpa using NamedFaulty.unregistered (rule?_eq_none.mp hfound)
  | some rule =>
    have hfaulty : NamedFaulty settings named ↔ rule.requiresArgs = named.args.isEmpty := by
      constructor
      · rintro (absent | ⟨found, wants, args⟩ | ⟨found, wants, args⟩)
        · simp [rule?_eq_none.mpr absent] at hfound
        · rw [hfound] at found
          cases found
          simp [wants, args]
        · rw [hfound] at found
          cases found
          simp [wants, args]
      · intro h
        cases hwants : rule.requiresArgs with
        | false => exact .unwantedArgs hfound hwants (by simpa [hwants] using h)
        | true => exact .missingArgs hfound hwants (by simpa [hwants] using h)
    rw [hfaulty]
    cases hwants : rule.requiresArgs <;> cases hnone : named.args.isEmpty <;> simp [hwants]

lemma render_ruleArgument (arg : String) : (ruleArgument arg).render = argumentText arg := by
  unfold ruleArgument argumentText
  split <;> rfl

lemma namedText_of_ok {named : NamedRule} {pair : Rule × ContentRule}
    (h : namedRule settings field named = .ok pair) :
    namedText settings named = some pair.2.expr.render := by
  obtain ⟨rule, content⟩ := pair
  obtain ⟨hrule, rfl⟩ := namedRule_ok h
  have htexts : (named.args.map ruleArgument).map Expr.render = named.args.map argumentText := by
    simp [render_ruleArgument]
  rw [namedText, hrule, Option.map_some, ← htexts]
  cases named.args with
  | nil => simp [Rule.callee, ContentRule.expr, Expr.render]
  | cons first rest =>
    simp [Rule.callee, ContentRule.expr, Expr.render, Expr.renderAll_eq_map, Expr.renderAll,
      String.append_assoc]

/-! ### The whole call -/

lemma nodup_firstOccurrences (texts : List String) : (firstOccurrences texts).Nodup := by
  have hfold : ∀ {texts seen : List String}, seen.Nodup →
      (texts.foldl (fun seen t => if t ∈ seen then seen else seen ++ [t]) seen).Nodup := by
    intro texts
    induction texts with
    | nil => exact fun h => h
    | cons first rest ih =>
      intro seen hseen
      refine ih ?_
      dsimp only
      split
      · exact hseen
      · next hnew => exact List.nodup_append'.mpr ⟨hseen, by simp, by simpa using hnew⟩
  exact hfold List.nodup_nil

/-- The parts of a validation are found one after the other, and none of them is left out. -/
lemma Validation.of_eq_ok {names : FieldNames} {result : Option Validation}
    (hrules : field.options.validate = some rules) :
    Validation.of settings message field names = .ok result ↔
      ∃ presence, presenceOf message field rules = .ok presence ∧
      ∃ min, boundRules field "Min" rules.min = .ok min ∧
      ∃ max, boundRules field "Max" rules.max = .ok max ∧
      ∃ patterns, patternRules field rules.matching = .ok patterns ∧
      ∃ named, rules.rules.mapM (namedRule settings field) = .ok named ∧
      ¬ (rules.dive = true ∧ field.cardinality ≠ .repeated) ∧
      ∃ content, content = lengthRules rules ++ min ++ max ++ patterns ++ named.map (·.2) ∧
        result = if presence.isNone && content.isEmpty then none else some
          ⟨names.domain, presence, content, rules.dive,
            firstOccurrences (named.filterMap (·.1.reference))⟩ := by
  unfold Validation.of
  rw [hrules]
  simp only [bind_eq_ok]
  refine exists_congr fun presence => and_congr_right fun _ => exists_congr fun min =>
    and_congr_right fun _ => exists_congr fun max => and_congr_right fun _ =>
    exists_congr fun patterns => and_congr_right fun _ => exists_congr fun named =>
    and_congr_right fun _ => ?_
  have hsingle : (rules.dive && !field.isRepeated) = true ↔
      rules.dive = true ∧ field.cardinality ≠ .repeated := by
    simp [Field.isRepeated]
  by_cases hdive : (rules.dive && !field.isRepeated) = true
  · rw [if_pos hdive]
    exact iff_of_false (by simp) fun h => h.1 (hsingle.mp hdive)
  · have hpure : ∀ {p : Prop} [Decidable p] (a b : Option Validation),
        (if p then pure a else pure b : Except GenError (Option Validation)) = .ok result ↔
          result = if p then a else b := by
      intro p _ a b
      split <;> rw [pure_eq_ok, eq_comm]
    rw [if_neg hdive, hpure, exists_eq_left, ← hsingle]
    exact (and_iff_right hdive).symm

/-- Rules are refused for nothing else than what is wrong with them. -/
lemma Validation.of_isOk {names : FieldNames} (hrules : field.options.validate = some rules) :
    (∃ result, Validation.of settings message field names = .ok result) ↔
      ¬ RulesFaulty settings message field rules := by
  have hparts : (∃ result, Validation.of settings message field names = .ok result) ↔
      (∃ presence, presenceOf message field rules = .ok presence) ∧
      (∃ min, boundRules field "Min" rules.min = .ok min) ∧
      (∃ max, boundRules field "Max" rules.max = .ok max) ∧
      (∃ patterns, patternRules field rules.matching = .ok patterns) ∧
      (∃ named, rules.rules.mapM (namedRule settings field) = .ok named) ∧
      ¬ (rules.dive = true ∧ field.cardinality ≠ .repeated) := by
    simp only [Validation.of_eq_ok hrules]
    constructor
    · rintro ⟨_, presence, hpresence, min, hmin, max, hmax, patterns, hpatterns, named, hnamed,
        hdive, -⟩
      exact ⟨⟨_, hpresence⟩, ⟨_, hmin⟩, ⟨_, hmax⟩, ⟨_, hpatterns⟩, ⟨_, hnamed⟩, hdive⟩
    · rintro ⟨⟨_, hpresence⟩, ⟨_, hmin⟩, ⟨_, hmax⟩, ⟨_, hpatterns⟩, ⟨_, hnamed⟩, hdive⟩
      exact ⟨_, _, hpresence, _, hmin, _, hmax, _, hpatterns, _, hnamed, hdive, _, rfl, rfl⟩
  rw [hparts, presenceOf_isOk, boundRules_isOk, boundRules_isOk, patternRules_isOk, mapM_isOk]
  simp only [namedRule_isOk]
  constructor
  · rintro ⟨⟨hcount, hcondition⟩, hmin, hmax, hpattern, hnamed, hdive⟩
    rintro (several | ⟨declared, faulty⟩ | ⟨declared, faulty⟩ | ⟨declared, none⟩ |
      ⟨declared, faulty⟩ | ⟨declared, single⟩)
    · omega
    · exact hcondition _ _ declared faulty
    · exact declared.elim (fun h => hmin _ h faulty) (fun h => hmax _ h faulty)
    · exact hpattern _ declared none
    · exact hnamed _ declared faulty
    · exact hdive ⟨declared, single⟩
  · intro h
    refine ⟨⟨?_, fun kind condition declared faulty => h (.condition declared faulty)⟩,
      fun _ declared faulty => h (.bound (.inl declared) faulty),
      fun _ declared faulty => h (.bound (.inr declared) faulty),
      fun _ declared none => h (.noPattern declared none),
      fun _ declared faulty => h (.named declared faulty), fun hdive => h (.dive hdive.1 hdive.2)⟩
    by_contra hcount
    exact h (.severalPresences (by omega))

lemma namedTexts_of_ok {declared : List NamedRule} {named : List (Rule × ContentRule)}
    (h : List.Forall₂ (fun x y => namedRule settings field x = .ok y) declared named) :
    declared.filterMap (namedText settings) = named.map fun pair => pair.2.expr.render := by
  induction h with
  | nil => rfl
  | cons hpair _ ih => rw [List.filterMap_cons, namedText_of_ok hpair, ih, List.map_cons]

/-- The content rules of a call are those that are declared. -/
lemma contentTexts_eq {min max patterns : List ContentRule} {named : List (Rule × ContentRule)}
    (hmin : boundRules field "Min" rules.min = .ok min)
    (hmax : boundRules field "Max" rules.max = .ok max)
    (hpatterns : patternRules field rules.matching = .ok patterns)
    (hnamed : rules.rules.mapM (namedRule settings field) = .ok named) :
    (lengthRules rules ++ min ++ max ++ patterns ++ named.map (·.2)).map
          (fun rule => rule.expr.render) = contentTexts settings field rules ∧
      (contentTexts settings field rules).length = contentCount rules := by
  rw [mapM_eq_ok] at hnamed
  obtain ⟨hmin, hminCount⟩ := boundTexts_of_ok hmin
  obtain ⟨hmax, hmaxCount⟩ := boundTexts_of_ok hmax
  have hpatterns := patternTexts_of_ok hpatterns
  have hcontent : (lengthRules rules ++ min ++ max ++ patterns ++ named.map (·.2)).map
      (fun rule => rule.expr.render) = contentTexts settings field rules := by
    rw [contentTexts, ← hmin, ← hmax, ← hpatterns, namedTexts_of_ok hnamed, ← lengthTexts]
    simp only [List.map_append, List.map_map, Function.comp_def]
  have hlength : (lengthRules rules).length =
      if rules.minLen.isSome || rules.maxLen.isSome then 1 else 0 := by
    unfold lengthRules
    split <;> rfl
  have hcount : patterns.length = (patternsOf rules).length := by
    simpa using congrArg List.length hpatterns
  refine ⟨hcontent, ?_⟩
  rw [← hcontent, List.length_map, contentCount, ← hlength, ← hminCount, ← hmaxCount, ← hcount,
    hnamed.length_eq]
  simp only [List.length_append, List.length_map]

/-- What is declared of the content is in the call, so there is one. -/
lemma Validation.exists_of_mem_contentTexts {names : FieldNames} {result : Option Validation}
    (hrules : field.options.validate = some rules)
    (h : Validation.of settings message field names = .ok result) {text : String}
    (htext : text ∈ contentTexts settings field rules) :
    ∃ v, result = some v ∧ text ∈ v.content.map fun rule => rule.expr.render := by
  obtain ⟨presence, -, min, hmin, max, hmax, patterns, hpatterns, named, hnamed, -, content,
    hcontent, hresult⟩ := (Validation.of_eq_ok hrules).mp h
  obtain ⟨htexts, -⟩ := contentTexts_eq hmin hmax hpatterns hnamed
  rw [← htexts, ← hcontent] at htext
  have hsome : content ≠ [] := by
    rintro rfl
    cases htext
  rw [if_neg (by simp [hsome])] at hresult
  exact ⟨_, hresult, htext⟩

lemma render_rules (v : Validation) :
    v.rules.map Expr.render = (v.presence.map fun p => p.expr.render).toList ++
      if v.dive = true ∧ v.content.map (fun rule => rule.expr.render) ≠ [] then
        [callText "Each" (v.content.map fun rule => rule.expr.render)]
      else v.content.map fun rule => rule.expr.render := by
  have hpresence : (v.presence.map Presence.expr).toList.map Expr.render =
      (v.presence.map fun p => p.expr.render).toList := by
    cases v.presence <;> rfl
  have hcontent : (v.content.map ContentRule.expr).map Expr.render =
      v.content.map fun rule => rule.expr.render := by
    simp
  have hsome : v.content.map ContentRule.expr ≠ [] ↔
      v.content.map (fun rule => rule.expr.render) ≠ [] := by
    simp
  rw [Validation.rules, List.map_append, hpresence]
  simp only [hsome]
  split
  · rw [List.map_singleton, render_validationCall, hcontent]
  · rw [hcontent]

lemma render_validation (v : Validation) :
    v.expr.render = callText "Field" (("&in." ++ v.target) :: v.rules.map Expr.render) := by
  have htarget : (Expr.address (Validation.inboundField v.target)).render = "&in." ++ v.target := by
    have hin : "&" ++ "in" ++ "." = "&in." := by decide
    rw [Expr.render, Validation.inboundField, Expr.render, Expr.render, ← String.append_assoc,
      ← String.append_assoc, hin]
  rw [Validation.expr, render_validationCall, List.map_cons, htarget]

/-- What a validation says, where the rules are all in order. -/
lemma Validation.of_texts {names : FieldNames} {result : Option Validation}
    (hrules : field.options.validate = some rules)
    (h : Validation.of settings message field names = .ok result) :
    (presenceTexts message field rules).length = presenceCount rules ∧
      (contentTexts settings field rules).length = contentCount rules ∧
      (result = none ↔ ruleTexts settings message field rules = []) ∧
      ∀ v, result = some v →
        v.expr.render = callText "Field"
          (("&in." ++ names.domain) :: ruleTexts settings message field rules) ∧
        v.references.Nodup ∧ ∀ text, text ∈ v.references ↔ ∃ named ∈ rules.rules, ∃ rule,
          settings.rule? named.name = some rule ∧ rule.reference = some text := by
  obtain ⟨presence, hpresence, min, hmin, max, hmax, patterns, hpatterns, named, hnamed, -, content,
    hcontent, hresult⟩ := (Validation.of_eq_ok hrules).mp h
  obtain ⟨hpresence, hcount⟩ := presenceTexts_of_ok hpresence
  obtain ⟨htexts, hlength⟩ := contentTexts_eq hmin hmax hpatterns hnamed
  rw [← hcontent] at htexts
  refine ⟨hcount, hlength, ?_, ?_⟩
  · have hempty : ruleTexts settings message field rules = [] ↔
        presence = none ∧ content = [] := by
      rw [ruleTexts, List.append_eq_nil_iff, hpresence, ← htexts]
      refine and_congr (by cases presence <;> simp) ?_
      split
      · next hdive => simpa using hdive.2
      · simp
    rw [hempty, hresult]
    cases presence <;> cases content <;> simp
  · rintro v rfl
    split at hresult
    · cases hresult
    · cases hresult
      refine ⟨?_, nodup_firstOccurrences _, fun text => ?_⟩
      · rw [render_validation, render_rules, ruleTexts, hpresence, ← htexts]
      · rw [mem_firstOccurrences, List.mem_filterMap]
        constructor
        · rintro ⟨pair, hpair, hreference⟩
          obtain ⟨declared, hdeclared, hok⟩ := exists_of_mem_forall₂ (mapM_eq_ok.mp hnamed) hpair
          exact ⟨declared, hdeclared, pair.1, (namedRule_ok hok).1, hreference⟩
        · rintro ⟨declared, hdeclared, rule, hfound, hreference⟩
          obtain ⟨pair, hpair, hok⟩ := exists_of_forall₂_mem (mapM_eq_ok.mp hnamed) hdeclared
          obtain rfl : pair.1 = rule := Option.some.inj ((namedRule_ok hok).1.symm.trans hfound)
          exact ⟨pair, hpair, hreference⟩

end

/-- Rules are refused just where one of them is faulty. Otherwise a field that declares none has no
call, and every other field has the one call of all that it declares: first the way of being
required, then the content rules in their order, wrapped together where they are for each item. The
references of the call are those of the rules that are named, each once. -/
theorem rules_called (settings : Settings) (message : Message) (field : Field)
    (names : FieldNames) :
    ((∃ e, Validation.of settings message field names = .error e) ↔
      ∃ rules, field.options.validate = some rules ∧
        RulesFaulty settings message field rules) ∧
    (Validation.of settings message field names = .ok none ↔
      ∀ rules, field.options.validate = some rules →
        ¬ RulesFaulty settings message field rules ∧
          ruleTexts settings message field rules = []) ∧
    ∀ v, Validation.of settings message field names = .ok (some v) →
      ∃ rules, field.options.validate = some rules ∧
        v.expr.render = callText "Field"
          (("&in." ++ names.domain) :: ruleTexts settings message field rules) ∧
        (presenceTexts message field rules).length = presenceCount rules ∧
        (contentTexts settings field rules).length = contentCount rules ∧
        v.references.Nodup ∧ ∀ text, text ∈ v.references ↔ ∃ named ∈ rules.rules, ∃ rule,
          settings.rule? named.name = some rule ∧ rule.reference = some text := by
  cases hrules : field.options.validate with
  | none =>
    have hnone : Validation.of settings message field names = .ok none := by
      unfold Validation.of
      rw [hrules]
    simp [hnone]
  | some rules =>
    have hok : (∃ result, Validation.of settings message field names = .ok result) ↔
        ¬ RulesFaulty settings message field rules := Validation.of_isOk hrules
    simp only [Option.some.injEq, exists_eq_left', forall_eq']
    refine ⟨?_, ?_, ?_⟩
    · rw [← not_iff_not, ← hok]
      cases Validation.of settings message field names <;> simp
    · constructor
      · intro h
        exact ⟨hok.mp ⟨_, h⟩, (Validation.of_texts hrules h).2.2.1.mp rfl⟩
      · rintro ⟨hfaulty, hempty⟩
        obtain ⟨result, hresult⟩ := hok.mpr hfaulty
        rw [hresult, (Validation.of_texts hrules hresult).2.2.1.mpr hempty]
    · intro v hv
      obtain ⟨hcount, hlength, -, hcall⟩ := Validation.of_texts hrules hv
      obtain ⟨hrender, hnodup, hreferences⟩ := hcall v rfl
      exact ⟨hrender, hcount, hlength, hnodup, hreferences⟩

/-- Settings with a registered rule. -/
def slugSettings : Settings where
  rules := builtinRules ++
    [{ name := "slug", package := "rules", function := "Slug"
       reference := some "github.com/acme/rules.Slug" }]

def roleField : Field where
  name := "role"
  number := 1
  goName := "Role"
  kind := .scalar .string
  cardinality := .optional
  message := "UserRequest"
  module := "acme"
  options := {}

/-- A list under a condition, with rules for each item. -/
def slugsField : Field where
  name := "slugs"
  number := 2
  goName := "Slugs"
  kind := .scalar .string
  cardinality := .repeated
  message := "UserRequest"
  module := "acme"
  options := { validate := some {
    requiredIf := some { all := [⟨"role", "editor"⟩] }
    maxLen := some 32
    dive := true
    rules := [⟨"slug", []⟩, ⟨"not_in", ["me", "1"]⟩, ⟨"slug", []⟩] } }

def slugsMessage : Message where
  name := "UserRequest"
  fullName := "acme.UserRequest"
  kind := .request
  names := .derive {} "UserRequest" .request
  members := [.surfaced roleField, .surfaced slugsField]
  options := {}

theorem slugs_called :
    ∃ v, Validation.of slugSettings slugsMessage slugsField
        (FieldNames.of slugsMessage slugsField) = .ok (some v) ∧
      v.expr.render = "validation.Field(&in.Slugs, validation.Required.When(in.Role != nil && " ++
        "*in.Role == \"editor\"), validation.Each(validation.Length(0, 32), rules.Slug, " ++
        "validation.NotIn(\"me\", 1), rules.Slug))" ∧
      v.references.Nodup ∧ "github.com/acme/rules.Slug" ∈ v.references := by
  have h : (Validation.of slugSettings slugsMessage slugsField
      (FieldNames.of slugsMessage slugsField)).toOption.any Option.isSome = true := by
    decide +kernel
  obtain ⟨result, hresult, hsome⟩ := exists_of_check h
  obtain ⟨v, rfl⟩ := Option.isSome_iff_exists.mp hsome
  obtain ⟨rules, hrules, hrender, -, -, hnodup, hreferences⟩ :=
    (rules_called slugSettings slugsMessage slugsField
      (FieldNames.of slugsMessage slugsField)).2.2 v hresult
  cases hrules
  refine ⟨v, hresult, hrender.trans (by decide +kernel), hnodup, (hreferences _).mpr ?_⟩
  exact ⟨⟨"slug", []⟩, by decide, _, rfl, rfl⟩

end Laminate.Form
