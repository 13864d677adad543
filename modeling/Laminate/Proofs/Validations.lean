import Laminate.Proofs.Uses

/-! What validations are written with.
Conditions compare with texts, numbers and truth values, in which a scan finds nothing; every
package but that of validations comes from a content rule. -/
namespace Laminate.Form

open Laminate.Text Laminate.Schema Laminate.Code Laminate.Annotation

/-- The rules of a field. Everything about validations is in one package. -/
def Writing.rules (w : Writing) (rules : ValidateRules) : List Use :=
  .standard "validation" ::
    ((if rules.matching.isSome then [.standard "regexp"] else []) ++
      rules.rules.filterMap fun named => (w.settings.rule? named.name).map Use.rule)

section

variable {vars : List String} (hin : "in" ∈ vars)

/-- An expression that calls the validation package at the most. -/
def Validates (vars : List String) (e : Expr) : Prop :=
  Expr.Plain vars e ∧ ∀ q ∈ e.packages, q = "validation"

include hin

lemma plain_inboundField (name : String) : Expr.Plain vars (Validation.inboundField name) :=
  .selectVariable hin name

omit hin

lemma plain_ruleArgument (arg : String) : Expr.Plain vars (ruleArgument arg) := by
  unfold ruleArgument
  split
  · next hnumber => exact .verbatim (Expr.isToken_of_isNumber hnumber)
  · exact .text arg

lemma packages_ruleArgument (arg : String) : (ruleArgument arg).packages = [] := by
  unfold ruleArgument
  split <;> rfl

lemma validates_comparand {field sibling : Field} {value : String} {e : Expr}
    (h : comparand field sibling value = .ok e) : Expr.Plain vars e ∧ e.packages = [] := by
  have hword : ∀ token, token = "true" ∨ token = "false" →
      Expr.Plain vars (.verbatim token) ∧ (Expr.verbatim token).packages = [] := by
    rintro token (rfl | rfl) <;>
      exact ⟨.verbatim (Expr.isToken_of_isIdentifier (by decide)), rfl⟩
  unfold comparand at h
  dsimp only at h
  split at h
  · cases h
  · split at h
    · cases h
      exact ⟨.text _, rfl⟩
    · cases h
      exact ⟨.text _, rfl⟩
    · split at h
      · next hvalue =>
        cases h
        exact hword value hvalue
      · cases h
    · split at h
      · next hnumber =>
        cases h
        rw [Bool.and_eq_true] at hnumber
        exact ⟨.verbatim (Expr.isToken_of_isNumber hnumber.2), rfl⟩
      · cases h
    · cases h

include hin

lemma validates_term {message : Message} {field : Field} {kind : ConditionKind} {pair : FieldValue}
    {e : Expr} (h : conditionTerm message field kind pair = .ok e) : Validates vars e := by
  have hnil : Expr.Plain vars (.ident "nil") := .ident "nil"
  unfold conditionTerm at h
  split at h
  · cases h
  · next sibling hsibling =>
    have htarget := plain_inboundField hin (FieldNames.of message sibling).domain
    have hempty : Expr.Plain vars (.call (validationName "IsEmpty")
        [Validation.inboundField (FieldNames.of message sibling).domain]) :=
      .call (.member _ _) (by simpa using htarget)
    have hcompared : ∀ {equal value}, Expr.Plain vars value ∧ value.packages = [] →
        Validates vars (comparison sibling.isOptional equal
          (Validation.inboundField (FieldNames.of message sibling).domain) value) := by
      rintro equal value ⟨hplain, hpackages⟩
      unfold comparison
      split
      · exact ⟨.binary _ htarget hplain,
          by simp [Expr.packages, Validation.inboundField, hpackages]⟩
      · exact ⟨.binary _ htarget hplain,
          by simp [Expr.packages, Validation.inboundField, hpackages]⟩
      · exact ⟨.binary _ (.binary _ htarget hnil) (.binary _ (.deref htarget) hplain),
          by simp [Expr.packages, Validation.inboundField, hpackages]⟩
      · exact ⟨.binary _ (.binary _ htarget hnil) (.binary _ (.deref htarget) hplain),
          by simp [Expr.packages, Validation.inboundField, hpackages]⟩
    cases kind with
    | whenGiven =>
      cases h
      exact ⟨.not hempty, by simp [Expr.packages, Expr.packagesAll, validationName,
        Validation.inboundField]⟩
    | whenMissing =>
      cases h
      exact ⟨hempty, by simp [Expr.packages, Expr.packagesAll, validationName,
        Validation.inboundField]⟩
    | whenEqual =>
      obtain ⟨value, hvalue, rfl⟩ := map_eq_ok.mp h
      exact hcompared (validates_comparand hvalue)
    | whenDifferent =>
      obtain ⟨value, hvalue, rfl⟩ := map_eq_ok.mp h
      exact hcompared (validates_comparand hvalue)

omit hin

lemma validates_joined {op : BinaryOp} {terms : List Expr} (h : ∀ e ∈ terms, Validates vars e) :
    Validates vars ((Expr.joined op terms).getD (.ident "")) := by
  cases terms with
  | nil => exact ⟨.ident "", by simp [Expr.joined, Expr.packages]⟩
  | cons first rest =>
    obtain ⟨hfirst, hrest⟩ := List.forall_mem_cons.mp h
    cases rest with
    | nil => exact hfirst
    | cons second rest =>
      have hfold : ∀ {terms : List Expr} {left : Expr}, (∀ e ∈ terms, Validates vars e) →
          Validates vars left →
          Validates vars (terms.foldl (fun left right => .binary op left (.paren right)) left) := by
        intro terms
        induction terms with
        | nil => exact fun _ hleft => hleft
        | cons e rest ih =>
          intro left hterms hleft
          obtain ⟨he, hrest⟩ := List.forall_mem_cons.mp hterms
          refine ih hrest ⟨.binary op hleft.1 (.paren he.1), ?_⟩
          intro q hq
          rcases List.mem_append.mp hq with hq | hq
          · exact hleft.2 q hq
          · exact he.2 q hq
      exact hfold hrest ⟨.paren hfirst.1, hfirst.2⟩

include hin

lemma validates_condition {message : Message} {field : Field} {kind : ConditionKind}
    {condition : Condition} {e : Expr} (h : conditionExpr message field kind condition = .ok e) :
    Validates vars e := by
  have hterms : ∀ {op : BinaryOp} {pairs : List FieldValue},
      (pairs.mapM (conditionTerm message field kind)).map
        (fun es => (Expr.joined op es).getD (.ident "")) = .ok e → Validates vars e := by
    intro op pairs h
    obtain ⟨terms, hterms, rfl⟩ := map_eq_ok.mp h
    rw [mapM_eq_ok] at hterms
    refine validates_joined fun e he => ?_
    obtain ⟨pair, -, hterm⟩ := exists_of_mem_forall₂ hterms he
    exact validates_term hin hterm
  unfold conditionExpr at h
  dsimp only at h
  split at h
  · cases h
  · exact hterms h
  · exact hterms h
  · cases h

lemma validates_presence {message : Message} {field : Field} {rules : ValidateRules}
    {presence : Presence} (h : presenceOf message field rules = .ok (some presence)) :
    Validates vars presence.expr := by
  have hrequired : Validates vars (validationName "Required") :=
    ⟨.member _ _, by simp [validationName, Expr.packages]⟩
  unfold presenceOf at h
  split at h
  · cases h
  · cases h
    exact hrequired
  · obtain ⟨condition, hcondition, hsome⟩ := map_eq_ok.mp h
    cases hsome
    obtain ⟨hplain, hpackages⟩ := validates_condition hin hcondition
    refine ⟨.call (.select rfl hrequired.1 _) (by simpa using hplain), ?_⟩
    intro q hq
    simp only [Presence.expr, validationName, Expr.packages, Expr.packagesAll, List.append_nil,
      List.cons_append, List.nil_append, List.mem_cons] at hq
    exact hq.elim id (hpackages q)
  · cases h

end

namespace ContentRule

/-- The package of a content rule, other than the validation package. -/
def extra : ContentRule → List String
  | pattern _ => ["regexp"]
  | named package _ _ => [package]
  | _ => []

def args : ContentRule → List Expr
  | named _ _ args => args
  | _ => []

end ContentRule

section

variable {vars : List String}

/-- A content rule is written with its own package and perhaps with the validation package. -/
lemma content_spec {rule : ContentRule}
    (hargs : ∀ e ∈ rule.args, Expr.Plain vars e ∧ e.packages = []) :
    Expr.Plain vars rule.expr ∧ rule.extra ⊆ rule.expr.packages ∧
      ∀ q ∈ rule.expr.packages, q = "validation" ∨ q ∈ rule.extra := by
  have hinteger : ∀ n, Expr.Plain vars (integerExpr n) := fun n =>
    .verbatim (Expr.isToken_toString n)
  cases rule with
  | length min max =>
    refine ⟨.call (.member _ _) ?_, by simp [ContentRule.extra], ?_⟩
    · simpa using ⟨hinteger min, hinteger max⟩
    · simp [ContentRule.expr, Expr.packages, Expr.packagesAll, validationName, integerExpr]
  | bound name scalar value =>
    refine ⟨.call (.member _ _) ?_, by simp [ContentRule.extra], ?_⟩
    · have hcall : Expr.Plain vars (.call (.ident scalar.text) [integerExpr value]) :=
        .call (.ident _) (by simpa using hinteger value)
      simpa using hcall
    · simp [ContentRule.expr, Expr.packages, Expr.packagesAll, validationName, integerExpr]
  | pattern text =>
    refine ⟨.call (.member _ _) ?_, ?_, ?_⟩
    · have hcall : Expr.Plain vars (.call (.member "regexp" "MustCompile") [.rawText text]) :=
        .call (.member _ _) (by simpa using .rawText text)
      simpa using hcall
    · simp [ContentRule.extra, ContentRule.expr, Expr.packages, Expr.packagesAll]
    · simp [ContentRule.extra, ContentRule.expr, Expr.packages, Expr.packagesAll, validationName]
  | named package function args =>
    cases args with
    | nil => exact ⟨.member _ _, by simp [ContentRule.extra, ContentRule.expr, Expr.packages],
        by simp [ContentRule.extra, ContentRule.expr, Expr.packages]⟩
    | cons first rest =>
      have hnone : (first :: rest).flatMap Expr.packages = [] := by
        rw [List.flatMap_eq_nil_iff]
        exact fun e he => (hargs e he).2
      have hpackages : (ContentRule.named package function (first :: rest)).expr.packages =
          [package] := by
        rw [ContentRule.expr, Expr.packages, Expr.packagesAll_eq, hnone]
        · simp [Expr.packages]
        · simp
      refine ⟨?_, by simp [ContentRule.extra, hpackages], by simp [ContentRule.extra, hpackages]⟩
      exact .call (.member _ _) fun e he => (hargs e he).1

/-- A validation is written with the validation package and with those of its content rules. -/
lemma validation_spec {v : Validation} (hin : "in" ∈ vars)
    (hpresence : ∀ presence, v.presence = some presence → Validates vars presence.expr)
    (hargs : ∀ rule ∈ v.content, ∀ e ∈ rule.args, Expr.Plain vars e ∧ e.packages = []) :
    Expr.Plain vars v.expr ∧
      ∀ q, q ∈ v.expr.packages ↔ q = "validation" ∨ ∃ rule ∈ v.content, q ∈ rule.extra := by
  have hcontent : ∀ e ∈ v.content.map ContentRule.expr, Expr.Plain vars e ∧
      ∀ q ∈ e.packages, q = "validation" ∨ ∃ rule ∈ v.content, q ∈ rule.extra := by
    intro e he
    obtain ⟨rule, hrule, rfl⟩ := List.mem_map.mp he
    obtain ⟨hplain, -, honly⟩ := content_spec (hargs rule hrule)
    exact ⟨hplain, fun q hq => (honly q hq).imp id fun hq => ⟨rule, hrule, hq⟩⟩
  -- the rules of a validation, whether or not they are wrapped
  have hrules : ∀ e ∈ v.rules, Expr.Plain vars e ∧
      ∀ q ∈ e.packages, q = "validation" ∨ ∃ rule ∈ v.content, q ∈ rule.extra := by
    intro e he
    simp only [Validation.rules, List.mem_append, Option.mem_toList, Option.map_eq_some_iff] at he
    rcases he with ⟨presence, hsome, rfl⟩ | he
    · obtain ⟨hplain, hpackages⟩ := hpresence presence hsome
      exact ⟨hplain, fun q hq => .inl (hpackages q hq)⟩
    · split at he
      · obtain rfl := List.mem_singleton.mp he
        refine ⟨.call (.member _ _) fun e he => (hcontent e he).1, ?_⟩
        intro q hq
        simp only [validationName, Expr.packages, Expr.packagesAll_eq, List.mem_append,
          List.mem_singleton, List.mem_flatMap] at hq
        rcases hq with rfl | ⟨e, he, hq⟩
        · exact .inl rfl
        · exact (hcontent e he).2 q hq
      · exact hcontent e he
  have hwithin : ∀ rule ∈ v.content, ∀ q ∈ rule.extra, ∃ e ∈ v.rules, q ∈ e.packages := by
    intro rule hrule q hq
    have hmem : rule.expr ∈ v.content.map ContentRule.expr := List.mem_map_of_mem hrule
    have hpackages := (content_spec (hargs rule hrule)).2.1 hq
    simp only [Validation.rules]
    split
    · refine ⟨_, List.mem_append_right _ (List.mem_singleton_self _), ?_⟩
      simp only [Expr.packages, Expr.packagesAll_eq, List.mem_append, List.mem_flatMap]
      exact .inr ⟨_, hmem, hpackages⟩
    · exact ⟨_, List.mem_append_right _ hmem, hpackages⟩
  constructor
  · refine .call (.member _ _) ?_
    rw [List.forall_mem_cons]
    exact ⟨.address (plain_inboundField hin _), fun e he => (hrules e he).1⟩
  · intro q
    simp only [Validation.expr, validationName, Validation.inboundField, Expr.packages,
      Expr.packagesAll, Expr.packagesAll_eq, List.nil_append, List.mem_append, List.mem_singleton,
      List.mem_flatMap]
    constructor
    · rintro (rfl | ⟨e, he, hq⟩)
      · exact .inl rfl
      · exact (hrules e he).2 q hq
    · rintro (rfl | ⟨rule, hrule, hq⟩)
      · exact .inl rfl
      · exact .inr (hwithin rule hrule q hq)

end

section

variable {message : Message} {field : Field} {names : FieldNames} {v : Validation}

/-- What a validation is made of. -/
lemma Validation.of_ok {settings : Settings}
    (h : Validation.of settings message field names = .ok (some v)) :
    ∃ rules, field.options.validate = some rules ∧
      presenceOf message field rules = .ok v.presence ∧
      ∃ min max patterns named, boundRules field "Min" rules.min = .ok min ∧
        boundRules field "Max" rules.max = .ok max ∧
        patternRules field rules.matching = .ok patterns ∧
        rules.rules.mapM (namedRule settings field) = .ok named ∧
        v.content = lengthRules rules ++ min ++ max ++ patterns ++ named.map (·.2) ∧
        v.references = firstOccurrences (named.filterMap (·.1.reference)) ∧
        v.target = names.domain := by
  unfold Validation.of at h
  split at h
  · cases h
  · next rules hrules =>
    simp only [bind_eq_ok] at h
    obtain ⟨presence, hpresence, min, hmin, max, hmax, patterns, hpatterns, named, hnamed, h⟩ := h
    split at h
    · simp at h
    · split at h
      · simp at h
      · simp only [pure_eq_ok, Option.some.injEq] at h
        subst h
        exact ⟨rules, hrules, hpresence, min, max, patterns, named, hmin, hmax, hpatterns, hnamed,
          rfl, rfl, rfl⟩

lemma namedRule_ok {settings : Settings} {named : NamedRule} {rule : Rule} {content : ContentRule}
    (h : namedRule settings field named = .ok (rule, content)) :
    settings.rule? named.name = some rule ∧
      content = .named rule.package rule.function (named.args.map ruleArgument) := by
  unfold namedRule at h
  split at h
  · cases h
  · next found hfound =>
    split at h
    · cases h
    · split at h
      · cases h
      · cases h
        exact ⟨hfound, rfl⟩

lemma patternRules_ok {matching : Option MatchRule} {patterns : List ContentRule}
    (h : patternRules field matching = .ok patterns) :
    (∀ rule ∈ patterns, rule.args = [] ∧ rule.extra = ["regexp"]) ∧
      (patterns ≠ [] ↔ matching.isSome = true) := by
  unfold patternRules at h
  split at h
  · cases h
    simp
  · next rule =>
    split at h
    · cases h
    · next hsome =>
      cases h
      refine ⟨?_, ?_⟩
      · intro content hcontent
        obtain ⟨text, -, rfl⟩ := List.mem_map.mp hcontent
        exact ⟨rfl, rfl⟩
      · simpa using hsome

lemma boundRules_ok {name : String} {bound : Option Int} {rules : List ContentRule}
    (h : boundRules field name bound = .ok rules) :
    ∀ rule ∈ rules, rule.args = [] ∧ rule.extra = [] := by
  unfold boundRules at h
  split at h
  · cases h
    simp
  · obtain ⟨rule, hrule, rfl⟩ := map_eq_ok.mp h
    intro content hcontent
    obtain rfl := List.mem_singleton.mp hcontent
    unfold boundRule at hrule
    split at hrule
    · split at hrule
      · cases hrule
      · split at hrule
        · cases hrule
        · cases hrule
          exact ⟨rfl, rfl⟩
    · cases hrule

lemma mem_firstOccurrences {texts : List String} {text : String} :
    text ∈ firstOccurrences texts ↔ text ∈ texts := by
  have hfold : ∀ {texts seen : List String},
      text ∈ texts.foldl (fun seen t => if t ∈ seen then seen else seen ++ [t]) seen ↔
        text ∈ seen ∨ text ∈ texts := by
    intro texts
    induction texts with
    | nil => simp
    | cons first rest ih =>
      intro seen
      rw [List.foldl_cons, ih, List.mem_cons]
      split
      · next hseen =>
        constructor
        · rintro (h | h)
          · exact .inl h
          · exact .inr (.inr h)
        · rintro (h | rfl | h)
          · exact .inl h
          · exact .inl hseen
          · exact .inr h
      · rw [List.mem_append, List.mem_singleton, or_assoc]
  rw [firstOccurrences, hfold]
  simp

lemma mem_lengthRules {rules : ValidateRules} {rule : ContentRule} (h : rule ∈ lengthRules rules) :
    rule.args = [] ∧ rule.extra = [] := by
  unfold lengthRules at h
  split at h
  · obtain rfl := List.mem_singleton.mp h
    exact ⟨rfl, rfl⟩
  · cases h

/-- The arguments of content rules are numbers and texts. -/
lemma Validation.args_of_ok {settings : Settings}
    (h : Validation.of settings message field names = .ok (some v)) :
    ∀ rule ∈ v.content, ∀ e ∈ rule.args, ∃ arg, e = ruleArgument arg := by
  obtain ⟨rules, -, -, min, max, patterns, named, hmin, hmax, hpatterns, hnamed, hcontent, -⟩ :=
    Validation.of_ok h
  intro rule hrule e he
  simp only [hcontent, List.mem_append, List.mem_map] at hrule
  rcases hrule with (((hrule | hrule) | hrule) | hrule) | ⟨pair, hpair, rfl⟩
  · simp [(mem_lengthRules hrule).1] at he
  · simp [(boundRules_ok hmin rule hrule).1] at he
  · simp [(boundRules_ok hmax rule hrule).1] at he
  · simp [((patternRules_ok hpatterns).1 rule hrule).1] at he
  · obtain ⟨declared, -, hok⟩ := exists_of_mem_forall₂ (mapM_eq_ok.mp hnamed) hpair
    rw [(namedRule_ok hok).2] at he
    obtain ⟨arg, -, rfl⟩ := List.mem_map.mp he
    exact ⟨arg, rfl⟩

/-- A validation is written with the packages of the rules that a field declares, and registers the
references of those of them that have one. -/
lemma rules_spec (w : Writing) (h : Validation.of w.settings message field names = .ok (some v)) :
    Expr.Plain Qualifiers.receivers v.expr ∧ ∃ rules, field.options.validate = some rules ∧
      (∀ q, q ∈ v.expr.packages ↔ ∃ u ∈ w.rules rules, u.qualifier = q) ∧
      ∀ named ∈ rules.rules, ∀ rule, w.settings.rule? named.name = some rule →
        ∀ text, rule.reference = some text → text ∈ v.references := by
  obtain ⟨rules, hrules, hpresence, min, max, patterns, named, hmin, hmax, hpatterns, hnamed,
    hcontent, hreferences, -⟩ := Validation.of_ok h
  rw [mapM_eq_ok] at hnamed
  have hlength : ∀ rule ∈ lengthRules rules, rule.args = [] ∧ rule.extra = [] :=
    fun rule => mem_lengthRules
  obtain ⟨hpattern, hsome⟩ := patternRules_ok hpatterns
  have hmember : ∀ pair ∈ named, ∃ declared ∈ rules.rules,
      w.settings.rule? declared.name = some pair.1 ∧
        pair.2 = .named pair.1.package pair.1.function (declared.args.map ruleArgument) := by
    intro pair hpair
    obtain ⟨declared, hdeclared, hok⟩ := exists_of_mem_forall₂ hnamed hpair
    exact ⟨declared, hdeclared, namedRule_ok hok⟩
  have hdeclared : ∀ declared ∈ rules.rules, ∀ rule, w.settings.rule? declared.name = some rule →
      ∃ pair ∈ named, pair.1 = rule := by
    intro declared hmem rule hrule
    obtain ⟨pair, hpair, hok⟩ := exists_of_forall₂_mem hnamed hmem
    have := (namedRule_ok hok).1
    rw [hrule, Option.some.injEq] at this
    exact ⟨pair, hpair, this.symm⟩
  have hargs : ∀ rule ∈ v.content, ∀ e ∈ rule.args,
      Expr.Plain Qualifiers.receivers e ∧ e.packages = [] := by
    intro rule hrule e he
    obtain ⟨arg, rfl⟩ := Validation.args_of_ok h rule hrule e he
    exact ⟨plain_ruleArgument arg, packages_ruleArgument arg⟩
  have hextra : ∀ q, (∃ rule ∈ v.content, q ∈ rule.extra) ↔
      (q = "regexp" ∧ rules.matching.isSome = true) ∨ ∃ pair ∈ named, q = pair.1.package := by
    intro q
    constructor
    · rintro ⟨rule, hrule, hq⟩
      simp only [hcontent, List.mem_append, List.mem_map] at hrule
      rcases hrule with (((hrule | hrule) | hrule) | hrule) | ⟨pair, hpair, rfl⟩
      · simp [(hlength rule hrule).2] at hq
      · simp [(boundRules_ok hmin rule hrule).2] at hq
      · simp [(boundRules_ok hmax rule hrule).2] at hq
      · rw [(hpattern rule hrule).2, List.mem_singleton] at hq
        exact .inl ⟨hq, hsome.mp (List.ne_nil_of_mem hrule)⟩
      · obtain ⟨declared, -, -, heq⟩ := hmember pair hpair
        rw [heq] at hq
        exact .inr ⟨pair, hpair, List.mem_singleton.mp hq⟩
    · rintro (⟨rfl, hmatching⟩ | ⟨pair, hpair, rfl⟩)
      · obtain ⟨rule, hrule⟩ := List.exists_mem_of_ne_nil _ (hsome.mpr hmatching)
        refine ⟨rule, ?_, by simp [(hpattern rule hrule).2]⟩
        simp [hcontent, hrule]
      · obtain ⟨declared, -, -, heq⟩ := hmember pair hpair
        refine ⟨pair.2, ?_, by simp [heq, ContentRule.extra]⟩
        rw [hcontent]
        exact List.mem_append_right _ (List.mem_map_of_mem hpair)
  have hin : "in" ∈ Qualifiers.receivers := by decide
  obtain ⟨hplain, hpackages⟩ := validation_spec hin
    (fun presence hp => validates_presence hin (hp ▸ hpresence)) hargs
  refine ⟨hplain, rules, hrules, ?_, ?_⟩
  · intro q
    rw [hpackages, hextra]
    simp only [Writing.rules, List.mem_cons, List.mem_append, List.mem_filterMap,
      Option.map_eq_some_iff]
    constructor
    · rintro (rfl | ⟨rfl, hmatching⟩ | ⟨pair, hpair, rfl⟩)
      · exact ⟨.standard "validation", .inl rfl, rfl⟩
      · exact ⟨.standard "regexp", .inr (.inl (by simp [hmatching])), rfl⟩
      · obtain ⟨declared, hmem, hrule, -⟩ := hmember pair hpair
        exact ⟨.rule pair.1, .inr (.inr ⟨declared, hmem, pair.1, hrule, rfl⟩), rfl⟩
    · rintro ⟨u, rfl | hu | ⟨declared, hmem, rule, hrule, rfl⟩, rfl⟩
      · exact .inl rfl
      · split at hu
        · next hmatching =>
          obtain rfl := List.mem_singleton.mp hu
          exact .inr (.inl ⟨rfl, hmatching⟩)
        · cases hu
      · obtain ⟨pair, hpair, rfl⟩ := hdeclared declared hmem rule hrule
        exact .inr (.inr ⟨pair, hpair, rfl⟩)
  · intro declared hmem rule hrule text htext
    obtain ⟨pair, hpair, rfl⟩ := hdeclared declared hmem rule hrule
    rw [hreferences, mem_firstOccurrences]
    exact List.mem_filterMap.mpr ⟨pair, hpair, htext⟩

end

end Laminate.Form
