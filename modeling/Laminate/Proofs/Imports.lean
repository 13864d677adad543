import Laminate.Proofs.Contents
import Laminate.Proofs.Forms
import Laminate.Proofs.Registration
import Laminate.Proofs.TypeText

/-! The import block of a file, against what the file is written with.
Lines are looked up for the text of the file's types and expressions. Where names are identifiers
the text has just their packages, and a qualifier is declared right unless its name or its path is
taken. -/
namespace Laminate

/-- Whether a template writes tests outside the package. -/
def Template.isTest (t : Template) : Bool := t == fixtures

instance (lines : List Code.Import) (name path : String) :
    Decidable (Code.Declares lines name path) :=
  inferInstanceAs (Decidable (_ = _))

end Laminate

namespace Laminate.Form

open Laminate.Schema Laminate.Code Laminate.Descriptor Laminate.Annotation

/-! ### Names that are looked up -/

namespace Plan

section

variable {plan : Plan} {t : Template} {mention : Mention}

/-- What is looked up for a field in a template's file. -/
def fieldMentions (f : PlannedField) (t : Template) : List Mention :=
  (fieldTypes f t).map .ofType ++ (fieldExprs f t).map .ofExpr

/-- Files with validations always look up their package. -/
def validates (plan : Plan) : Template → Prop
  | .inbound => ∃ m ∈ plan.inboundMessages, ∃ f ∈ m.fields, f.validation.isSome = true
  | _ => False

lemma mem_mentions_fields (made : plan.IsMade) (named : plan.module.goName.isEmpty = false)
    (ht : t ≠ .enums) :
    mention ∈ plan.mentions t.scope ↔
      (∃ m ∈ plan.messagesOf t, ∃ f ∈ m.fields, mention ∈ fieldMentions f t) ∨
        mention ∈ (plan.otherTypes t).map .ofType ∨ mention ∈ (plan.otherExprs t).map .ofExpr ∨
          (plan.validates t ∧ mention = .package "validation") := by
  unfold fieldMentions fieldTypes fieldExprs
  cases t with
  | enums => exact absurd rfl ht
  | companion => simp [Template.scope, mentions, messagesOf, otherTypes, otherExprs, validates]
  | domain => simp [Template.scope, mentions, messagesOf, otherTypes, otherExprs, validates]
  | domainConvert =>
    simp [Template.scope, mentions, messagesOf, otherTypes, otherExprs, validates,
      Mention.ofConversion]
  | outbound =>
    -- hidden fields are passed over, and have neither a type nor a conversion
    simp only [Template.scope, mentions, PlannedMessage.outboundFields, Mention.ofConversion,
      messagesOf, otherTypes, otherExprs, validates, List.mem_flatMap, List.mem_filter,
      List.mem_append, List.mem_map, Option.mem_toList, Option.map_eq_some_iff, List.map_map,
      Function.comp_apply, List.map_nil, List.not_mem_nil, false_and, or_self, or_false]
    constructor
    · rintro ⟨m, hm, f, ⟨hf, -⟩, hmention⟩
      exact ⟨m, hm, f, hf, hmention⟩
    · rintro ⟨m, hm, f, hf, hmention⟩
      obtain ⟨locations, planned⟩ := made.fields m (List.mem_of_mem_filter hm)
      refine ⟨m, hm, f, ⟨hf, ?_⟩, hmention⟩
      rcases hmention with ⟨type, hsome, -⟩ | ⟨c, hsome, -⟩
      · rw [hsome]
        rfl
      · rw [outbound_isSome (planned f hf), hsome]
        rfl
  | inbound =>
    -- the validations of a message come after its fields
    simp only [Template.scope, mentions, PlannedMessage.validations, Mention.ofConversion,
      messagesOf, otherTypes, otherExprs, validates, List.mem_flatMap, List.mem_filterMap,
      List.mem_append, List.mem_map, Option.mem_toList, Option.map_eq_some_iff, List.map_map,
      Function.comp_apply, List.map_nil, List.map_append, List.not_mem_nil, false_or,
      List.isEmpty_iff, List.filterMap_eq_nil_iff, List.mem_ite_nil_left, List.mem_singleton,
      Option.isSome_iff_ne_none, not_forall, exists_prop]
    constructor
    · rintro ⟨m, hm, (⟨f, hf, hmention⟩ | ⟨v, ⟨f, hf, hv⟩, rfl⟩) | ⟨⟨f, hf, hv⟩, rfl⟩⟩
      · exact .inl ⟨m, hm, f, hf, hmention.imp_right .inl⟩
      · exact .inl ⟨m, hm, f, hf, .inr (.inr ⟨v, hv, rfl⟩)⟩
      · exact .inr ⟨⟨m, hm, f, hf, hv⟩, rfl⟩
    · rintro (⟨m, hm, f, hf, hmention⟩ | ⟨⟨m, hm, f, hf, hv⟩, rfl⟩)
      · rcases hmention with hmention | hmention | ⟨v, hv, rfl⟩
        · exact ⟨m, hm, .inl (.inl ⟨f, hf, .inl hmention⟩)⟩
        · exact ⟨m, hm, .inl (.inl ⟨f, hf, .inr hmention⟩)⟩
        · exact ⟨m, hm, .inl (.inr ⟨v, ⟨f, hf, hv⟩, rfl⟩)⟩
      · exact ⟨m, hm, .inr ⟨⟨f, hf, hv⟩, rfl⟩⟩
  | http =>
    simp only [Template.scope, mentions, messagesOf, otherTypes, otherExprs, validates, decodes,
      List.mem_flatMap, List.mem_cons, List.mem_append, List.mem_map, Option.mem_toList,
      Option.map_eq_some_iff, List.not_mem_nil, false_and, exists_false, false_or, or_false]
    constructor
    · rintro ⟨m, hm, rfl | ⟨body, hbody, rfl⟩ | ⟨p, hp, rfl⟩⟩
      · exact .inl ⟨_, ⟨m, hm, rfl⟩, rfl⟩
      · exact .inr ⟨_, ⟨m, hm, .inl ⟨body, hbody, rfl⟩⟩, rfl⟩
      · exact .inr ⟨_, ⟨m, hm, .inr ⟨p, hp, rfl⟩⟩, rfl⟩
    · rintro (⟨type, ⟨m, hm, rfl⟩, rfl⟩ | ⟨e, ⟨m, hm, he⟩, rfl⟩)
      · exact ⟨m, hm, .inl rfl⟩
      · rcases he with ⟨body, hbody, rfl⟩ | ⟨p, hp, rfl⟩
        · exact ⟨m, hm, .inr (.inl ⟨body, hbody, rfl⟩)⟩
        · exact ⟨m, hm, .inr (.inr ⟨p, hp, rfl⟩)⟩
  | fixtures =>
    -- the package's own types are mentioned as text
    have hself : ∀ name, Mention.ofType (.pointer (.qualified plan.module.goName name)) =
        .type ("*" ++ plan.module.goName ++ "." ++ name) := by
      intro name
      simp [Mention.ofType, TypeRef.text, named, String.append_assoc]
    simp only [Template.scope, mentions, messagesOf, otherTypes, otherExprs, validates,
      List.mem_flatMap, List.mem_cons, List.mem_map, Option.mem_toList, Option.map_eq_some_iff,
      List.map_map, Function.comp_apply, hself, List.map_nil, List.append_nil, List.not_mem_nil,
      false_and, or_false]
    constructor
    · rintro ⟨m, hm, rfl | ⟨f, hf, hmention⟩⟩
      · exact .inr ⟨m, hm, rfl⟩
      · exact .inl ⟨m, hm, f, hf, hmention⟩
    · rintro (⟨m, hm, f, hf, hmention⟩ | ⟨m, hm, rfl⟩)
      · exact ⟨m, hm, .inr ⟨f, hf, hmention⟩⟩
      · exact ⟨m, hm, .inl rfl⟩

/-- Mentioned are the types and the expressions of a file, and the package of validations. -/
theorem mem_mentions (made : plan.IsMade) (named : plan.module.goName.isEmpty = false)
    (ht : t ≠ .enums) :
    mention ∈ plan.mentions t.scope ↔
      (∃ type ∈ plan.types t, Mention.ofType type = mention) ∨
        (∃ e ∈ plan.exprs t, Mention.ofExpr e = mention) ∨
          (plan.validates t ∧ mention = .package "validation") := by
  rw [mem_mentions_fields made named ht]
  simp only [types, exprs, fieldMentions, List.mem_append, List.mem_map, mem_flatMap_fields]
  constructor
  · rintro (⟨m, hm, f, hf, ⟨type, htype, rfl⟩ | ⟨e, he, rfl⟩⟩ | ⟨type, htype, rfl⟩ |
      ⟨e, he, rfl⟩ | hpackage)
    · exact .inl ⟨type, .inl ⟨m, hm, f, hf, htype⟩, rfl⟩
    · exact .inr (.inl ⟨e, .inl ⟨m, hm, f, hf, he⟩, rfl⟩)
    · exact .inl ⟨type, .inr htype, rfl⟩
    · exact .inr (.inl ⟨e, .inr he, rfl⟩)
    · exact .inr (.inr hpackage)
  · rintro (⟨type, ⟨m, hm, f, hf, htype⟩ | htype, rfl⟩ |
      ⟨e, ⟨m, hm, f, hf, he⟩ | he, rfl⟩ | hpackage)
    · exact .inl ⟨m, hm, f, hf, .inl ⟨type, htype, rfl⟩⟩
    · exact .inr (.inl ⟨type, htype, rfl⟩)
    · exact .inl ⟨m, hm, f, hf, .inr ⟨e, he, rfl⟩⟩
    · exact .inr (.inr (.inl ⟨e, he, rfl⟩))
    · exact .inr (.inr (.inr hpackage))

/-- Every validation calls the package of validations. -/
lemma writes_validation (h : plan.validates t) :
    plan.Writes t "validation" := by
  cases t with
  | inbound =>
    obtain ⟨m, hm, f, hf, hsome⟩ := h
    obtain ⟨v, hv⟩ := Option.isSome_iff_exists.mp hsome
    have he : v.expr ∈ plan.exprs .inbound := by
      refine List.mem_append_left _ (mem_flatMap_fields.mpr ⟨m, hm, f, hf, ?_⟩)
      exact List.mem_append_right _ (by simp [hv])
    exact .inr ⟨v.expr, he, by simp [Validation.expr, validationName, Expr.packages]⟩
  | _ => exact h.elim

/-- The names that are looked up for a template's file. -/
def lookedUp (plan : Plan) (t : Template) : List String :=
  (plan.mentions t.scope).flatMap Mention.names

/-- A file looks up the packages that it is written with, and perhaps variables. -/
theorem lookedUp_spec (made : plan.IsMade) (spelled : plan.isSpelled t = true) :
    (∀ q, plan.Writes t q → q ∈ plan.lookedUp t) ∧
      ∀ q ∈ plan.lookedUp t, plan.Writes t q ∨ q ∈ Qualifiers.receivers := by
  unfold isSpelled at spelled
  simp only [Bool.and_eq_true, List.all_eq_true] at spelled
  obtain ⟨⟨hself, htypes⟩, hexprs⟩ := spelled
  have named : plan.module.goName.isEmpty = false := by
    rw [String.isEmpty_eq_false_iff]
    intro hempty
    rw [hempty] at hself
    exact absurd hself (by decide)
  have htype : ∀ type ∈ plan.types t, (Mention.ofType type).names = type.packages := by
    intro type hmem
    exact congrArg Prod.fst (TypeRef.typeQualifiers_text (htypes type hmem))
  have hexpr : ∀ e ∈ plan.exprs t,
      Expr.Finds Qualifiers.receivers e.packages (Mention.ofExpr e).names := fun e hmem =>
    Expr.exprQualifiers_render (exprs_plain made hmem) (hexprs e hmem)
  by_cases ht : t = .enums
  · -- enums are written with nothing, and have nothing looked up
    subst ht
    refine ⟨fun q hq => ?_, fun q hq => by cases hq⟩
    obtain ⟨u, hu, -⟩ := (writes_iff made q).mp hq
    cases hu
  · constructor
    · rintro q (⟨type, hmem, hq⟩ | ⟨e, hmem, hq⟩)
      · refine List.mem_flatMap.mpr ⟨.ofType type, ?_, htype type hmem ▸ hq⟩
        exact (mem_mentions made named ht).mpr (.inl ⟨type, hmem, rfl⟩)
      · refine List.mem_flatMap.mpr ⟨.ofExpr e, ?_, (hexpr e hmem).all hq⟩
        exact (mem_mentions made named ht).mpr (.inr (.inl ⟨e, hmem, rfl⟩))
    · intro q hq
      obtain ⟨mention, hmention, hq⟩ := List.mem_flatMap.mp hq
      rcases (mem_mentions made named ht).mp hmention with
        ⟨type, hmem, rfl⟩ | ⟨e, hmem, rfl⟩ | ⟨validates, rfl⟩
      · rw [htype type hmem] at hq
        exact .inl (.inl ⟨type, hmem, hq⟩)
      · rcases List.mem_append.mp ((hexpr e hmem).only hq) with hq | hq
        · exact .inl (.inr ⟨e, hmem, hq⟩)
        · exact .inr hq
      · obtain rfl := List.mem_singleton.mp hq
        exact .inl (writes_validation validates)

/-- The import lines of an available template are those of the names that it looks up. -/
lemma importsOf_spec (resolved : plan.resolveImports = .ok plan.imports)
    (available : t.isAvailable plan.settings = true) :
    ∃ set, (plan.qualifiers t.isTest).Collected (plan.lookedUp t) set ∧
      plan.importsOf t = set.sorted := by
  have hlookup : ∀ {templates : List Template} {imports : List (Template × List Import)},
      List.Forall₂ (fun t entry =>
        (plan.templateImports plan.sourceQualifiers plan.testQualifiers t).map (t, ·) = .ok entry)
        templates imports →
      t ∈ templates → ∃ lines, imports.lookup t = some lines ∧
        plan.templateImports plan.sourceQualifiers plan.testQualifiers t = .ok lines := by
    intro templates imports h hmem
    induction h with
    | nil => cases hmem
    | @cons first entry rest entries hfirst _ ih =>
      obtain ⟨lines, hlines, rfl⟩ := map_eq_ok.mp hfirst
      by_cases heq : t = first
      · subst heq
        exact ⟨lines, List.lookup_cons_self, hlines⟩
      · obtain ⟨lines', hlookup, hlines'⟩ := ih ((List.mem_cons.mp hmem).resolve_left heq)
        exact ⟨lines', by rwa [List.lookup_cons, beq_false_of_ne heq], hlines'⟩
  have hmem : t ∈ Template.all.filter (·.isAvailable plan.settings) :=
    List.mem_filter.mpr ⟨by cases t <;> decide, available⟩
  obtain ⟨lines, hlines, hok⟩ := hlookup (mapM_eq_ok.mp resolved) hmem
  obtain ⟨set, hset, rfl⟩ := map_eq_ok.mp hok
  have hqualifiers : (if t.scope = .fixtures then plan.testQualifiers else plan.sourceQualifiers) =
      plan.qualifiers t.isTest := by
    cases t <;> rfl
  refine ⟨set, ?_, by rw [importsOf, hlines]; rfl⟩
  have hcollected := collected_of_mentions hset
  rw [hqualifiers] at hcollected
  simpa [Template.fixedImports, lookedUp] using hcollected

end

end Plan

section

variable {request : Request} {settings : Settings} {index : Index} {home : FileDesc} {plan : Plan}
  {t : Template}

/-- Of some names in a file, one has the line for a path: it is neither a variable nor the package
itself, no other path has been registered under it since, and it is the least of them that stands
for the path. -/
def Plan.HasLine (plan : Plan) (t : Template) (names : List String) (name path : String) : Prop :=
  name ∉ plan.ignored t.isTest ∧ (plan.qualifiers t.isTest).pathOf? name = some path ∧
    ∀ other ∈ names, other ∉ plan.ignored t.isTest →
      (plan.qualifiers t.isTest).pathOf? other = some path → name ≤ other

lemma Plan.declares_iff (resolved : plan.resolveImports = .ok plan.imports)
    (available : t.isAvailable plan.settings = true) {name path : String} :
    Declares (Template.sourceFile plan t).imports name path ↔
      name ∈ plan.lookedUp t ∧ plan.HasLine t (plan.lookedUp t) name path := by
  obtain ⟨set, collected, himports⟩ := Plan.importsOf_spec resolved available
  have hlines : (Template.sourceFile plan t).imports = set.sorted := himports
  rw [hlines, collected.declares_iff (Plan.qualifiers_bindsNames _), Plan.qualifiers_ignored]
  rfl

/-- Names that are looked up and need a line are written. -/
lemma Plan.hasLine_uses_iff (made : plan.IsMade) (spelled : plan.isSpelled t = true)
    {name path : String} :
    plan.HasLine t ((plan.uses t).map (·.qualifier)) name path ↔
      plan.HasLine t (plan.lookedUp t) name path := by
  obtain ⟨hall, honly⟩ := Plan.lookedUp_spec made spelled
  have hwrites : ∀ q, q ∈ (plan.uses t).map (·.qualifier) ↔ plan.Writes t q := fun q =>
    List.mem_map.trans (Plan.writes_iff made q).symm
  refine and_congr_right fun _ => and_congr_right fun _ => ⟨fun h other hother hnot => ?_,
    fun h other hother => h other (hall other ((hwrites other).mp hother))⟩
  rcases honly other hother with hwritten | hreceiver
  · exact h other ((hwrites other).mpr hwritten) hnot
  · refine absurd ?_ hnot
    unfold Plan.ignored
    split
    · exact hreceiver
    · exact List.mem_cons_of_mem _ hreceiver

/-- What the import block of a file declares. The file holds the types and the expressions of its
fields and methods, and these are written with just the qualifiers that they call for. The block has
one line for each name that is found in the texts, unless the name needs none or has lost it to
another path or another name. No registration leaves a name without a path: one of those that have
been registered under it has the name. Where all names are identifiers, the names that are found are
the qualifiers. So a qualifier then has its line, for the package that it is meant for, where
neither its name nor its path is registered otherwise. -/
theorem imports_declared (hplan : request.plan settings index home = .ok plan)
    (ht : t ∈ plan.written) :
    (∀ text ∈ (Template.sourceFile plan t).decls.flatMap Decl.typeTexts,
        ∃ type ∈ plan.types t, type.text = text) ∧
      (t ≠ .fixtures → ∀ text ∈ (Template.sourceFile plan t).decls.flatMap Decl.exprTexts,
        ∃ e ∈ plan.exprs t, e.render = text) ∧
      (∀ q, plan.Writes t q ↔ ∃ u ∈ plan.uses t, u.qualifier = q) ∧
      (∀ name path, Declares (Template.sourceFile plan t).imports name path ↔
        name ∈ plan.lookedUp t ∧ plan.HasLine t (plan.lookedUp t) name path) ∧
      (∀ name path, plan.Registers t.isTest name path → name ∉ plan.ignored t.isTest →
        ∃ path', (plan.qualifiers t.isTest).pathOf? name = some path' ∧
          plan.Registers t.isTest name path') ∧
      (plan.isSpelled t = true → ∀ u ∈ plan.uses t, ∀ path, u.path = some path →
        (Declares (Template.sourceFile plan t).imports u.qualifier path ↔
          plan.HasLine t ((plan.uses t).map (·.qualifier)) u.qualifier path) ∧
        (u.qualifier ∉ plan.ignored t.isTest →
          (∀ path', plan.Registers t.isTest u.qualifier path' → path' = path) →
          (∀ v ∈ plan.uses t, plan.Registers t.isTest v.qualifier path →
            v.qualifier = u.qualifier) →
          Declares (Template.sourceFile plan t).imports u.qualifier path)) := by
  obtain ⟨schema, -, hof⟩ := plan_ok hplan
  have made := Plan.isMade_of_ok hof
  obtain ⟨-, -, -, -, -, -, resolved⟩ := Plan.of_ok hof
  have available : t.isAvailable plan.settings = true :=
    (Bool.and_eq_true_iff.mp (List.mem_filter.mp ht).2).1
  have hnamed : ∀ name path, plan.Registers t.isTest name path → name ∉ plan.ignored t.isTest →
      ∃ path', (plan.qualifiers t.isTest).pathOf? name = some path' ∧
        plan.Registers t.isTest name path' := by
    intro name path hregisters hnot
    obtain ⟨path', hpath'⟩ := Plan.exists_pathOf? hregisters hnot
    exact ⟨path', hpath', Plan.registers_of_pathOf? hpath'⟩
  refine ⟨fun text => Plan.exists_type, fun hsource text => Plan.exists_expr hsource,
    Plan.writes_iff made, fun name path => Plan.declares_iff resolved available, hnamed, ?_⟩
  intro spelled u hu path _
  have hlooked : u.qualifier ∈ plan.lookedUp t :=
    (Plan.lookedUp_spec made spelled).1 _ ((Plan.writes_iff made _).mpr ⟨u, hu, rfl⟩)
  have hdeclares : ∀ path, Declares (Template.sourceFile plan t).imports u.qualifier path ↔
      plan.HasLine t ((plan.uses t).map (·.qualifier)) u.qualifier path := fun path => by
    rw [Plan.declares_iff resolved available, Plan.hasLine_uses_iff made spelled]
    exact and_iff_right hlooked
  refine ⟨hdeclares path, fun hnot honly hother => ?_⟩
  obtain ⟨set, collected, -⟩ := Plan.importsOf_spec resolved available
  obtain ⟨path', hpath'⟩ :=
    collected.exists_pathOf? hlooked (by rwa [Plan.qualifiers_ignored])
  obtain rfl := honly path' (Plan.registers_of_pathOf? hpath')
  refine (hdeclares path').mpr ⟨hnot, hpath', fun other hmem _ hpath => ?_⟩
  obtain ⟨v, hv, rfl⟩ := List.mem_map.mp hmem
  exact Std.le_of_eq (hother v hv (Plan.registers_of_pathOf? hpath)).symm

end

/-! ### Requests -/

/-- A field of responses that a function of some package converts. -/
def convertedBy (name reference : String) : FieldDesc where
  name := name
  type := .int64
  options :=
    [{ name := [⟨fieldExtension, true⟩, ⟨"outbound", false⟩, ⟨"custom_bind", false⟩]
       text := some reference.toUTF8.toList }]

/-- A response with something of a module, of a standard package, of the helpers and of a custom
package. -/
def sourcesHome : FileDesc :=
  packageFile "user" "acme"
    [.node
      { name := "UserResponse"
        fields :=
          [{ name := "home", type := .message, typeName := ".acme.common.AddressWire" },
            { name := "since", type := .message, typeName := ".google.protobuf.Timestamp" },
            convertedBy "price" "github.com/acme/money.Format"] } []]

def sourcesRequest : Request where
  files := [sourcesHome, packageFile "common" "acme.common" [.node { name := "AddressWire" } []]]
  generate := []

/-- Qualifiers of every source are declared for their packages. -/
theorem sources_declared :
    ∃ plan, sourcesRequest.plan {} {} sourcesHome = .ok plan ∧
      .outbound ∈ plan.written ∧ plan.isSpelled .outbound = true ∧
      plan.uses .outbound =
        [⟨"common", "github.com/acme/common"⟩, ⟨"time", "time"⟩,
          ⟨"convert", defaultConvertersPath⟩, ⟨"money", "github.com/acme/money"⟩] ∧
      ∀ u ∈ plan.uses .outbound, ∃ path, u.path = some path ∧
        Declares (Template.sourceFile plan .outbound).imports u.qualifier path := by
  have h : (sourcesRequest.plan {} {} sourcesHome).toOption.any (fun plan =>
      decide (.outbound ∈ plan.written) && plan.isSpelled .outbound &&
        decide (plan.uses .outbound =
          [⟨"common", "github.com/acme/common"⟩, ⟨"time", "time"⟩,
            ⟨"convert", defaultConvertersPath⟩, ⟨"money", "github.com/acme/money"⟩]) &&
        decide (∀ u ∈ plan.uses .outbound, u.path.isSome = true ∧
          u.qualifier ∉ plan.ignored false ∧
          (plan.qualifiers false).pathOf? u.qualifier = u.path ∧
          ∀ v ∈ plan.uses .outbound, (plan.qualifiers false).pathOf? v.qualifier = u.path →
            u.qualifier = v.qualifier)) = true := by
    unfold Request.plan FileSchema.load
    rw [ofFiles_eq_nested (by rfl)]
    decide +kernel
  obtain ⟨plan, hplan, hcheck⟩ := exists_of_check h
  simp only [Bool.and_eq_true, decide_eq_true_eq] at hcheck
  obtain ⟨⟨⟨hwritten, hspelled⟩, huses⟩, hcheck⟩ := hcheck
  refine ⟨plan, hplan, hwritten, hspelled, huses, fun u hu => ?_⟩
  obtain ⟨hsome, hnot, hpath, hleast⟩ := hcheck u hu
  obtain ⟨path, hu'⟩ := Option.isSome_iff_exists.mp hsome
  rw [hu'] at hpath hleast
  obtain ⟨-, -, -, -, -, hdeclares⟩ := imports_declared hplan hwritten
  refine ⟨path, hu', (hdeclares hspelled u hu path hu').1.mpr ⟨hnot, hpath, ?_⟩⟩
  intro other hmem _ hother
  obtain ⟨v, hv, rfl⟩ := List.mem_map.mp hmem
  exact Std.le_of_eq (hleast v hv hother)

/-- The file of a template is written with a qualifier for a package, which its import block does
not declare. -/
def Misdeclares (plan : Plan) (t : Template) (u : Use) : Prop :=
  t ∈ plan.written ∧ u ∈ plan.uses t ∧
    ∀ path ∈ u.path, ¬ Declares (Template.sourceFile plan t).imports u.qualifier path

instance (plan : Plan) (t : Template) (u : Use) : Decidable (Misdeclares plan t u) :=
  inferInstanceAs (Decidable (_ ∧ _ ∧ _))

/-- A package that another one uses. -/
def calledRequest (name : String) : Request where
  files := [packageFile "user" "acme" [holder "UserWire" ".acme.common.AddressWire" []],
    packageFile name "acme.common" [.node { name := "AddressWire" } []]]
  generate := []

/-- Two packages of one name that convert fields. -/
def homonymsRequest : Request where
  files := [packageFile "user" "acme"
    [.node
      { name := "UserResponse"
        fields := [convertedBy "price" "github.com/acme/a/money.Format",
          convertedBy "cost" "github.com/acme/b/money.Format"] } []]]
  generate := []

/-- An enum of another package whose name starts with a lower-case letter. -/
def lowerCaseRequest : Request where
  files := [packageFile "user" "acme"
      [.node
        { name := "UserWire"
          fields := [{ name := "role", type := .enum, typeName := ".acme.common.role" }] } []],
    { packageFile "common" "acme.common" [] with enums := [{ name := "role", values := [] }] }]
  generate := []

lemma registry_called_receiver :
    Registry.ofFiles (calledRequest "w").files =
      { modules := [⟨"acme.common", "w", "github.com/acme/w"⟩,
          ⟨"acme", "user", "github.com/acme/user"⟩]
        qualifiers := [("github.com/acme/w", "w"), ("github.com/acme/user", "user")] } :=
  (ofFiles_pair rfl).trans rfl

lemma registry_called_standard :
    Registry.ofFiles (calledRequest "time").files =
      { modules := [⟨"acme.common", "time", "github.com/acme/time"⟩,
          ⟨"acme", "user", "github.com/acme/user"⟩]
        qualifiers := [("github.com/acme/user", "user"), ("github.com/acme/time", "time")] } :=
  (ofFiles_pair rfl).trans rfl

lemma exists_misdeclared {request : Request} {home : FileDesc} {t : Template} {u : Use}
    (h : (request.plan {} {} home).toOption.any (fun plan =>
      decide (Misdeclares plan t u)) = true) :
    ∃ plan, request.plan {} {} home = .ok plan ∧ Misdeclares plan t u := by
  obtain ⟨plan, hplan, hcheck⟩ := exists_of_check h
  exact ⟨plan, hplan, of_decide_eq_true hcheck⟩

/-- A package called like a receiver is not imported, one called like a standard package is taken
for it, of two packages of one name only the last one is imported though fields call both, and a
function with a lower-case name is not seen. -/
theorem imports_misdeclared :
    (∃ plan, (calledRequest "w").plan {} {} (calledRequest "w").files[0] = .ok plan ∧
        Misdeclares plan .domain ⟨"w", "github.com/acme/w"⟩) ∧
      (∃ plan, (calledRequest "time").plan {} {} (calledRequest "time").files[0] = .ok plan ∧
        Misdeclares plan .domain ⟨"time", "github.com/acme/time"⟩) ∧
      (∃ plan, homonymsRequest.plan {} {} homonymsRequest.files[0] = .ok plan ∧
        Misdeclares plan .outbound ⟨"money", "github.com/acme/a/money"⟩) ∧
      ∃ plan, lowerCaseRequest.plan {} {} lowerCaseRequest.files[0] = .ok plan ∧
        Misdeclares plan .domainConvert ⟨"common", "github.com/acme/common"⟩ := by
  refine ⟨exists_misdeclared ?_, exists_misdeclared ?_, exists_misdeclared ?_,
    exists_misdeclared ?_⟩
  · unfold Request.plan FileSchema.load
    rw [registry_called_receiver]
    decide +kernel
  · unfold Request.plan FileSchema.load
    rw [registry_called_standard]
    decide +kernel
  · decide +kernel
  · unfold Request.plan FileSchema.load
    rw [ofFiles_eq_nested (by rfl)]
    decide +kernel

end Laminate.Form
