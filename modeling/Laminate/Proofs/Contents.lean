import Laminate.Proofs.Validations

/-! What the files of a plan are written with, and what their imports are looked up for.
A file holds the types and the expressions of the fields of its messages; imports are looked up for
the packages of just these. -/
namespace Laminate.Code

/-- The types that a declaration gives to fields and parameters. -/
def Decl.typeTexts : Decl → List String
  | struct _ _ fields => fields.map (·.type)
  | function _ _ _ params _ _ => params.map (·.type)
  | _ => []

/-- What a statement sets fields to, validates with or decodes by. -/
def Stmt.exprTexts : Stmt → List String
  | retStruct _ entries => entries.map (·.2)
  | retCall _ _ args => args
  | errorGuard call => [call]
  | _ => []

def Decl.exprTexts : Decl → List String
  | function _ _ _ _ _ body => body.flatMap Stmt.exprTexts
  | _ => []

end Laminate.Code

namespace Laminate.Form

open Laminate.Schema Laminate.Code

/-- The packages of a field's rules. -/
def Writing.validation (w : Writing) (field : Field) : List Use :=
  match field.options.validate with
  | some rules => w.rules rules
  | none => []

namespace Plan

/-- The messages that a template is about. -/
def messagesOf (plan : Plan) : Template → List PlannedMessage
  | .domain | .domainConvert | .fixtures => plan.domainMessages
  | .outbound => plan.outboundMessages
  | .inbound => plan.inboundMessages
  | _ => []

/-- The types of a field in a template's file. -/
def fieldTypes (f : PlannedField) : Template → List TypeRef
  | .domain => f.domain.toList
  | .outbound => f.outbound.toList
  | .inbound => f.inbound.toList
  | .fixtures => f.fixture.toList
  | _ => []

/-- The expressions of a field in a template's file. -/
def fieldExprs (f : PlannedField) : Template → List Expr
  | .domainConvert => f.conversions.intoDomain.toList.map Conversion.expr ++
      f.conversions.intoWire.toList.map Conversion.expr
  | .outbound => f.conversions.intoOutbound.toList.map Conversion.expr
  | .inbound => f.conversions.intoWireInput.toList.map Conversion.expr ++
      f.validation.toList.map Validation.expr
  | _ => []

variable (plan : Plan)

/-- Where a plan's code is written. -/
def writing (isTest : Bool) : Writing := ⟨plan.settings, plan.module, plan.registry, isTest⟩

/-- What a field is written with in a template's file. -/
def fieldUses (f : PlannedField) : Template → List Use
  | .domain => (plan.writing false).type f.field .domain
  | .domainConvert => (plan.writing false).conversion f.field .wireToDomain ++
      (plan.writing false).conversion f.field .domainToWire
  | .outbound =>
    if f.field.isOutboundHidden then []
    else (plan.writing false).type f.field .outbound ++
      (plan.writing false).conversion f.field .wireToOutbound
  | .inbound => (plan.writing false).type f.field .inbound ++
      (plan.writing false).conversion f.field .inboundToWire ++
      if f.validation.isSome then (plan.writing false).validation f.field else []
  | .fixtures => (plan.writing true).type f.field .domain
  | _ => []

/-- The types in a template's file that are of no field. Decoders take a request, and constructors
for tests return a type of the package. -/
def otherTypes : Template → List TypeRef
  | .enums => plan.enums.flatMap fun e => [.named e.name, .builtin .string]
  | .http => plan.methods.map fun _ => (TypeRef.qualified "http" "Request").toPointer
  | .fixtures => plan.domainMessages.map fun m =>
    .pointer (.qualified plan.module.goName m.message.names.domain)
  | _ => []

/-- The types in a template's file. -/
def types (t : Template) : List TypeRef :=
  ((plan.messagesOf t).flatMap fun m => m.fields.flatMap (fieldTypes · t)) ++ plan.otherTypes t

/-- The decode statements of a method. -/
def decodes (m : BoundMethod) : List Expr :=
  m.body.toList.map BodyDecode.expr ++ m.params.map ParameterDecode.expr

/-- The expressions in a template's file that are of no field. -/
def otherExprs : Template → List Expr
  | .http => plan.methods.flatMap decodes
  | _ => []

/-- The expressions in a template's file. -/
def exprs (t : Template) : List Expr :=
  ((plan.messagesOf t).flatMap fun m => m.fields.flatMap (fieldExprs · t)) ++ plan.otherExprs t

/-- What a template's file is written with beside its fields. -/
def otherUses : Template → List Use
  | .http => plan.methods.flatMap fun m =>
    .standard "http" :: (m.body.toList.map fun _ => Use.standard "json") ++
      m.params.map fun _ => .helpers plan.settings
  | .fixtures => plan.domainMessages.flatMap fun _ =>
    Use.written ⟨plan.module.goName, plan.module.goPath⟩
  | _ => []

/-- What a template's file is written with. -/
def uses (t : Template) : List Use :=
  ((plan.messagesOf t).flatMap fun m => m.fields.flatMap (plan.fieldUses · t)) ++ plan.otherUses t

/-- A package that a type or an expression of a template's file is written with. -/
def Writes (t : Template) (package : String) : Prop :=
  (∃ type ∈ plan.types t, package ∈ type.packages) ∨ ∃ e ∈ plan.exprs t, package ∈ e.packages

/-- Names in a template's file are identifiers, and those of packages that expressions mention
start with an upper-case letter. -/
def isSpelled (t : Template) : Bool :=
  isIdentifier plan.module.goName && (plan.types t).all TypeRef.isSpelled &&
    (plan.exprs t).all Expr.isSpelled

/-! ### Fields -/

section

variable {plan : Plan} {locations : Locations} {message : Message} {f : PlannedField}
variable (planned : (plan.planning locations).IsPlanned message f)

include planned

lemma typeIn_isSome (layer : Layer) : (f.typeIn layer).isSome = holds message f.field layer :=
  onlyIf_isSome (planned.types layer)

lemma fixture_isSome : f.fixture.isSome = message.hasDomain := onlyIf_isSome planned.fixture

lemma along_isSome (direction : Direction) :
    (f.conversions.along direction).isSome = converts message f.field direction :=
  onlyIf_isSome (planned.conversions direction)

/-- Hidden fields have neither a type nor a conversion in responses. -/
lemma outbound_isSome : f.outbound.isSome = f.conversions.intoOutbound.isSome :=
  (typeIn_isSome planned .outbound).trans (along_isSome planned .wireToOutbound).symm

lemma type_spec {layer : Layer} (hlayer : layer ≠ .wire) {type : TypeRef}
    (h : f.typeIn layer = some type) :
    type.packages = ((plan.writing false).type f.field layer).map (·.qualifier) := by
  obtain ⟨-, htype⟩ := onlyIf_some (h ▸ planned.types layer)
  exact packages_typeOf (w := plan.writing false) hlayer htype

lemma fixture_spec {type : TypeRef} (h : f.fixture = some type) :
    type.packages = ((plan.writing true).type f.field .domain).map (·.qualifier) := by
  obtain ⟨-, htype⟩ := onlyIf_some (h ▸ planned.fixture)
  exact packages_typeOf (w := plan.writing true) (by decide) htype

lemma along_spec {direction : Direction} {c : Conversion}
    (h : f.conversions.along direction = some c) :
    c.expr.packages = ((plan.writing false).conversion f.field direction).map (·.qualifier) ∧
      Expr.Plain Qualifiers.receivers c.expr := by
  obtain ⟨-, hc⟩ := onlyIf_some (h ▸ planned.conversions direction)
  exact conversion_spec (w := plan.writing false) rfl rfl rfl hc

lemma validated_spec {v : Validation} (h : f.validation = some v) :
    Expr.Plain Qualifiers.receivers v.expr ∧
      ∀ q, q ∈ v.expr.packages ↔
        ∃ u ∈ (plan.writing false).validation f.field, u.qualifier = q := by
  have hvalidation := planned.validation
  rw [h] at hvalidation
  split at hvalidation
  · obtain ⟨hplain, rules, hrules, hpackages, -⟩ := rules_spec (plan.writing false) hvalidation
    refine ⟨hplain, fun q => ?_⟩
    rw [hpackages, Writing.validation, hrules]
  · cases hvalidation

end

section

variable {plan : Plan} {locations : Locations} {m : PlannedMessage} {f : PlannedField}
  {t : Template}

/-- A field is written with what its kind and its annotations call for, and its expressions look
into nothing but variables. -/
lemma field_spec (planned : (plan.planning locations).IsPlanned m.message f)
    (hm : m ∈ plan.messagesOf t) :
    (∀ q, ((∃ type ∈ fieldTypes f t, q ∈ type.packages) ∨ ∃ e ∈ fieldExprs f t, q ∈ e.packages) ↔
        ∃ u ∈ plan.fieldUses f t, u.qualifier = q) ∧
      ∀ e ∈ fieldExprs f t, Expr.Plain Qualifiers.receivers e := by
  have htype : ∀ layer, holds m.message f.field layer = true →
      ∃ type, f.typeIn layer = some type :=
    fun _ h => Option.isSome_iff_exists.mp ((typeIn_isSome planned _).trans h)
  have halong : ∀ direction, converts m.message f.field direction = true →
      ∃ c, f.conversions.along direction = some c :=
    fun _ h => Option.isSome_iff_exists.mp ((along_isSome planned _).trans h)
  unfold fieldTypes fieldExprs fieldUses
  cases t with
  | enums => simp
  | http => simp
  | companion => simp
  | domain =>
    have hdomain : m.message.hasDomain = true := (List.mem_filter.mp hm).2
    obtain ⟨type, hsome⟩ := htype .domain hdomain
    have hpackages := type_spec planned (by decide) hsome
    change f.domain = some type at hsome
    simp [hsome, hpackages]
  | domainConvert =>
    have hdomain : m.message.hasDomain = true := (List.mem_filter.mp hm).2
    obtain ⟨into, hinto⟩ := halong .wireToDomain hdomain
    obtain ⟨back, hback⟩ := halong .domainToWire hdomain
    obtain ⟨hpackages, hplain⟩ := along_spec planned hinto
    obtain ⟨hpackages', hplain'⟩ := along_spec planned hback
    change f.conversions.intoDomain = some into at hinto
    change f.conversions.intoWire = some back at hback
    simp [hinto, hback, hpackages, hpackages', hplain, hplain', or_and_right, exists_or]
  | outbound =>
    have houtbound : m.message.hasOutbound = true := (List.mem_filter.mp hm).2
    cases hhidden : f.field.isOutboundHidden with
    | true =>
      have hnone : f.outbound = none := by
        have := typeIn_isSome planned .outbound
        rw [holds, hhidden, Bool.not_true, Bool.and_false] at this
        exact Option.not_isSome_iff_eq_none.mp (by simpa [PlannedField.typeIn] using this)
      have hnone' : f.conversions.intoOutbound = none := by
        have := outbound_isSome planned
        rw [hnone] at this
        simpa using this.symm
      simp [hnone, hnone']
    | false =>
      obtain ⟨type, hsome⟩ := htype .outbound (by simp [holds, houtbound, hhidden])
      obtain ⟨c, hc⟩ :=
        halong .wireToOutbound (by simp [converts, houtbound, hhidden])
      have hpackages := type_spec planned (by decide) hsome
      obtain ⟨hpackages', hplain⟩ := along_spec planned hc
      change f.outbound = some type at hsome
      change f.conversions.intoOutbound = some c at hc
      simp [hsome, hc, hpackages, hpackages', hplain, or_and_right, exists_or]
  | inbound =>
    have hinbound : m.message.hasInbound = true := (List.mem_filter.mp hm).2
    obtain ⟨type, hsome⟩ := htype .inbound hinbound
    obtain ⟨c, hc⟩ := halong .inboundToWire hinbound
    have hpackages := type_spec planned (by decide) hsome
    obtain ⟨hpackages', hplain⟩ := along_spec planned hc
    change f.inbound = some type at hsome
    change f.conversions.intoWireInput = some c at hc
    cases hvalidation : f.validation with
    | none => simp [hsome, hc, hpackages, hpackages', hplain, or_and_right, exists_or]
    | some v =>
      obtain ⟨hplain', hrules⟩ := validated_spec planned hvalidation
      simp [hsome, hc, hpackages, hpackages', hplain, hplain', hrules, or_and_right,
        exists_or]
  | fixtures =>
    have hdomain : m.message.hasDomain = true := (List.mem_filter.mp hm).2
    obtain ⟨type, hsome⟩ := Option.isSome_iff_exists.mp ((fixture_isSome planned).trans hdomain)
    simp [hsome, fixture_spec planned hsome]
end

end Plan

/-! ### Decode statements -/

namespace Bindings

variable {schema : FileSchema} {helpers service : String} {bindings bindings' : Bindings}

/-- The binding that a method of a service adds, if it adds one. -/
def boundMethod? (schema : FileSchema) (helpers : String) (entry : String × Method) :
    Option BoundMethod :=
  match entry.2.endpoint, schema.message? entry.2.input with
  | some endpoint, some request =>
    if request.hasInbound then
      (entry.2.bind request).toOption.map (bound helpers entry.1 entry.2 endpoint request)
    else none
  | _, _ => none

lemma boundMethod?_eq_some {entry : String × Method} {b : BoundMethod} :
    boundMethod? schema helpers entry = some b ↔
      ∃ endpoint request located, entry.2.endpoint = some endpoint ∧
        schema.message? entry.2.input = some request ∧ request.hasInbound = true ∧
        entry.2.bind request = .ok located ∧
        b = bound helpers entry.1 entry.2 endpoint request located := by
  constructor
  · intro h
    unfold boundMethod? at h
    split at h
    · next endpoint request hendpoint hrequest =>
      split at h
      · next hinbound =>
        obtain ⟨located, hlocated, rfl⟩ := Option.map_eq_some_iff.mp h
        refine ⟨endpoint, request, located, hendpoint, hrequest, hinbound, ?_, rfl⟩
        cases hbind : entry.2.bind request with
        | error e => simp [hbind, Except.toOption] at hlocated
        | ok found => simpa [hbind, Except.toOption] using hlocated
      · cases h
    · cases h
  · rintro ⟨endpoint, request, located, hendpoint, hrequest, hinbound, hbind, rfl⟩
    simp [boundMethod?, hendpoint, hrequest, hinbound, hbind, Except.toOption]

lemma add_methods {method : Method}
    (h : add schema helpers service bindings method = .ok bindings') :
    bindings'.methods =
      bindings.methods ++ (boundMethod? schema helpers (service, method)).toList := by
  unfold Bindings.add at h
  split at h
  · next hendpoint =>
    cases h
    simp [boundMethod?, hendpoint]
  · next endpoint hendpoint =>
    split at h
    · next hrequest =>
      cases h
      simp [boundMethod?, hendpoint, hrequest]
    · next request hrequest =>
      split at h
      · cases h
      · next hinbound =>
        split at h
        · cases h
        · next located hlocated =>
          cases h
          have hinbound : request.hasInbound = true := by simpa using hinbound
          have hbound : boundMethod? schema helpers (service, method) =
              some (bound helpers service method endpoint request located) :=
            boundMethod?_eq_some.mpr
              ⟨endpoint, request, located, hendpoint, hrequest, hinbound, hlocated, rfl⟩
          rw [hbound]
          rfl

/-- Methods are bound one by one, in order. -/
lemma methods_of_ok {settings : Settings} (h : Bindings.of settings schema = .ok bindings) :
    bindings.methods = (schema.services.flatMap fun s => s.methods.map (s.name, ·)).filterMap
      (boundMethod? schema settings.converters.name) := by
  have hrun : ∀ {entries : List (String × Method)} {start : Bindings},
      entries.foldlM (fun bindings entry =>
        add schema settings.converters.name entry.1 bindings entry.2) start = .ok bindings →
      bindings.methods =
        start.methods ++ entries.filterMap (boundMethod? schema settings.converters.name) := by
    intro entries
    induction entries with
    | nil =>
      intro start h
      cases h
      simp
    | cons entry rest ih =>
      intro start h
      rw [List.foldlM_cons, bind_eq_ok] at h
      obtain ⟨next, hnext, h⟩ := h
      rw [ih h, add_methods hnext, List.append_assoc]
      cases hbound : boundMethod? schema settings.converters.name entry with
      | none => simp [hbound]
      | some b => simp [hbound]
  exact (hrun h).trans (List.nil_append _)

/-- Parameters are parsed with one package of helpers. -/
def ParseWith (helpers : String) (bindings : Bindings) : Prop :=
  ∀ m ∈ bindings.methods, ∀ p ∈ m.params, p.helpers = helpers

lemma parseWith_of_ok {settings : Settings} (h : Bindings.of settings schema = .ok bindings) :
    bindings.ParseWith settings.converters.name := by
  intro m hm p hp
  rw [methods_of_ok h] at hm
  obtain ⟨entry, -, hbound⟩ := List.mem_filterMap.mp hm
  obtain ⟨endpoint, request, located, -, -, -, -, rfl⟩ := boundMethod?_eq_some.mp hbound
  obtain ⟨⟨name, location⟩, -, hdecode⟩ := List.mem_filterMap.mp hp
  obtain ⟨field, -, hdecode⟩ := Option.bind_eq_some_iff.mp hdecode
  unfold parameterDecode? at hdecode
  split at hdecode
  · obtain ⟨source, -, rfl⟩ := Option.map_eq_some_iff.mp hdecode
    rfl
  · cases hdecode

end Bindings

lemma plain_target (target : String) :
    Expr.Plain Qualifiers.receivers (.address (.select (.ident "in") target)) :=
  .address (.selectVariable (by decide) target)

lemma plain_request (name : String) : Expr.Plain Qualifiers.receivers (.select requestVar name) :=
  .selectVariable (by decide) name

lemma plain_body (body : BodyDecode) : Expr.Plain Qualifiers.receivers body.expr := by
  have hdecoder : Expr.Plain Qualifiers.receivers
      (.call (.member "json" "NewDecoder") [.select requestVar "Body"]) :=
    .call (.member _ _) (by simpa using plain_request "Body")
  refine .call (.select rfl hdecoder _) ?_
  cases body with
  | whole => simpa using .ident "in"
  | into target => simpa using plain_target target

lemma plain_source (source : ParameterSource) : Expr.Plain Qualifiers.receivers source.expr := by
  have hquery : Expr.Plain Qualifiers.receivers
      (.call (.select (.select requestVar "URL") "Query") []) :=
    .call (.select rfl (plain_request _) _) (by simp)
  cases source with
  | path name => exact .call (plain_request _) (by simpa using .text name)
  | query key => exact .call (.select rfl hquery _) (by simpa using .text key)
  | queryAll key => exact .index hquery (.text key)
  | header name => exact .call (.select rfl (plain_request _) _) (by simpa using .text name)
  | headerAll name => exact .call (.select rfl (plain_request _) _) (by simpa using .text name)

lemma plain_parameter (p : ParameterDecode) : Expr.Plain Qualifiers.receivers p.expr :=
  .call (.member _ _) (by simpa using ⟨plain_target p.target, plain_source p.source⟩)

/-- Decode statements look into nothing but the request and the struct they fill. -/
lemma decode_spec {m : BoundMethod} {e : Expr} (h : e ∈ Plan.decodes m) :
    Expr.Plain Qualifiers.receivers e := by
  rcases List.mem_append.mp h with h | h
  · obtain ⟨body, -, rfl⟩ := List.mem_map.mp h
    exact plain_body body
  · obtain ⟨p, -, rfl⟩ := List.mem_map.mp h
    exact plain_parameter p

lemma packages_body (body : BodyDecode) : body.expr.packages = ["json"] := by
  cases body <;>
    simp [BodyDecode.expr, requestVar, Expr.packages, Expr.packagesAll]

lemma packages_parameter (p : ParameterDecode) : p.expr.packages = [p.helpers] := by
  have hsource : p.source.expr.packages = [] := by
    cases p.source <;> simp [ParameterSource.expr, requestVar, Expr.packages, Expr.packagesAll]
  simp [ParameterDecode.expr, hsource, Expr.packages, Expr.packagesAll]

namespace Plan

variable {plan : Plan} {t : Template}

/-- How the fields of a plan and its methods have come about. -/
structure IsMade (plan : Plan) : Prop where
  fields (m : PlannedMessage) (hm : m ∈ plan.messages) :
    ∃ locations, ∀ f ∈ m.fields, (plan.planning locations).IsPlanned m.message f
  helpers (m : BoundMethod) (hm : m ∈ plan.methods) :
    ∀ p ∈ m.params, p.helpers = plan.settings.converters.name

/-- The methods of a plan are those that are bound. -/
lemma exists_bindings {settings : Settings} {schema : FileSchema}
    (h : Plan.of settings schema = .ok plan) :
    ∃ bindings, Bindings.of settings schema = .ok bindings ∧ plan.methods = bindings.methods := by
  unfold Plan.of at h
  simp only [bind_eq_ok, pure_eq_ok] at h
  obtain ⟨bindings, hbindings, messages, -, imports, -, rfl⟩ := h
  exact ⟨bindings, hbindings, rfl⟩

lemma isMade_of_ok {settings : Settings} {schema : FileSchema}
    (h : Plan.of settings schema = .ok plan) : plan.IsMade := by
  obtain ⟨hsettings, -, -, -, -, ⟨locations, hplanned⟩, -⟩ := Plan.of_ok h
  constructor
  · intro m hm
    obtain ⟨message, -, hok⟩ := exists_of_mem_forall₂ hplanned hm
    obtain ⟨rfl, -, hall⟩ := Planning.message_ok hok
    exact ⟨locations, hall⟩
  · obtain ⟨bindings, hbindings, hmethods⟩ := exists_bindings h
    rw [hmethods, hsettings]
    exact Bindings.parseWith_of_ok hbindings

lemma mem_messages {m : PlannedMessage} (h : m ∈ plan.messagesOf t) : m ∈ plan.messages := by
  cases t <;> first | exact List.mem_of_mem_filter h | cases h

/-- Through the fields of a template's messages. -/
lemma mem_flatMap_fields {β : Type} {g : PlannedField → List β} {b : β} :
    (b ∈ (plan.messagesOf t).flatMap fun m => m.fields.flatMap g) ↔
      ∃ m ∈ plan.messagesOf t, ∃ f ∈ m.fields, b ∈ g f := by
  simp only [List.mem_flatMap]

/-- A method is written with the package of requests, and its decode statements with those of
decoders and of the helpers. -/
lemma http_spec (made : plan.IsMade) (q : String) :
    ((∃ type ∈ plan.otherTypes .http, q ∈ type.packages) ∨
        ∃ e ∈ plan.otherExprs .http, q ∈ e.packages) ↔
      ∃ u ∈ plan.otherUses .http, u.qualifier = q := by
  have hrequest : (TypeRef.qualified "http" "Request").toPointer.packages = ["http"] := rfl
  constructor
  · rintro (⟨type, htype, hq⟩ | ⟨e, he, hq⟩)
    · obtain ⟨m, hm, rfl⟩ := List.mem_map.mp htype
      rw [hrequest, List.mem_singleton] at hq
      subst hq
      exact ⟨.standard "http", List.mem_flatMap.mpr ⟨m, hm, List.mem_cons_self⟩, rfl⟩
    · obtain ⟨m, hm, he⟩ := List.mem_flatMap.mp he
      rcases List.mem_append.mp he with he | he
      · obtain ⟨body, hbody, rfl⟩ := List.mem_map.mp he
        rw [packages_body, List.mem_singleton] at hq
        subst hq
        refine ⟨.standard "json", List.mem_flatMap.mpr ⟨m, hm, ?_⟩, rfl⟩
        exact List.mem_append_left _ (List.mem_cons_of_mem _ (List.mem_map.mpr ⟨body, hbody, rfl⟩))
      · obtain ⟨p, hp, rfl⟩ := List.mem_map.mp he
        rw [packages_parameter, List.mem_singleton, made.helpers m hm p hp] at hq
        subst hq
        refine ⟨.helpers plan.settings, List.mem_flatMap.mpr ⟨m, hm, ?_⟩, rfl⟩
        exact List.mem_append_right _ (List.mem_map.mpr ⟨p, hp, rfl⟩)
  · rintro ⟨u, hu, rfl⟩
    obtain ⟨m, hm, hu⟩ := List.mem_flatMap.mp hu
    rw [List.cons_append, List.mem_cons, List.mem_append] at hu
    rcases hu with rfl | hu | hu
    · refine .inl ⟨_, List.mem_map.mpr ⟨m, hm, rfl⟩, ?_⟩
      rw [hrequest]
      exact List.mem_singleton_self _
    · obtain ⟨body, hbody, rfl⟩ := List.mem_map.mp hu
      refine .inr ⟨body.expr, List.mem_flatMap.mpr ⟨m, hm, ?_⟩, ?_⟩
      · exact List.mem_append_left _ (List.mem_map.mpr ⟨body, hbody, rfl⟩)
      · rw [packages_body]
        exact List.mem_singleton_self _
    · obtain ⟨p, hp, rfl⟩ := List.mem_map.mp hu
      refine .inr ⟨p.expr, List.mem_flatMap.mpr ⟨m, hm, ?_⟩, ?_⟩
      · exact List.mem_append_right _ (List.mem_map.mpr ⟨p, hp, rfl⟩)
      · rw [packages_parameter, made.helpers m hm p hp]
        exact List.mem_singleton_self _

/-- A template's file is written with just what its fields and its methods call for. -/
theorem writes_iff (made : plan.IsMade) (q : String) :
    plan.Writes t q ↔ ∃ u ∈ plan.uses t, u.qualifier = q := by
  unfold Writes types exprs uses
  simp only [List.mem_append, or_and_right, exists_or, mem_flatMap_fields]
  rw [or_or_or_comm]
  refine or_congr ?_ ?_
  · constructor
    · rintro (⟨type, ⟨m, hm, f, hf, hmem⟩, hq⟩ | ⟨e, ⟨m, hm, f, hf, hmem⟩, hq⟩)
      · obtain ⟨locations, planned⟩ := made.fields m (mem_messages hm)
        obtain ⟨u, hu, rfl⟩ := ((field_spec (planned f hf) hm).1 q).mp (.inl ⟨type, hmem, hq⟩)
        exact ⟨u, ⟨m, hm, f, hf, hu⟩, rfl⟩
      · obtain ⟨locations, planned⟩ := made.fields m (mem_messages hm)
        obtain ⟨u, hu, rfl⟩ := ((field_spec (planned f hf) hm).1 q).mp (.inr ⟨e, hmem, hq⟩)
        exact ⟨u, ⟨m, hm, f, hf, hu⟩, rfl⟩
    · rintro ⟨u, ⟨m, hm, f, hf, hu⟩, rfl⟩
      obtain ⟨locations, planned⟩ := made.fields m (mem_messages hm)
      rcases ((field_spec (planned f hf) hm).1 _).mpr ⟨u, hu, rfl⟩ with
        ⟨type, hmem, hq⟩ | ⟨e, hmem, hq⟩
      · exact .inl ⟨type, ⟨m, hm, f, hf, hmem⟩, hq⟩
      · exact .inr ⟨e, ⟨m, hm, f, hf, hmem⟩, hq⟩
  · cases t with
    | enums =>
      simp only [otherTypes, otherExprs, otherUses, List.not_mem_nil, false_and, exists_false,
        or_false, iff_false]
      rintro ⟨type, htype, hq⟩
      obtain ⟨e, -, htype⟩ := List.mem_flatMap.mp htype
      simp only [List.mem_cons, List.not_mem_nil, or_false] at htype
      rcases htype with rfl | rfl <;> simp [TypeRef.packages] at hq
    | http => exact http_spec made q
    | fixtures =>
      have hself : ∀ m : PlannedMessage, (TypeRef.pointer
          (.qualified plan.module.goName m.message.names.domain)).packages =
            (Use.written ⟨plan.module.goName, plan.module.goPath⟩).map (·.qualifier) :=
        fun m => packages_qualified ⟨plan.module.goName, _⟩ m.message.names.domain
      simp [otherTypes, otherExprs, otherUses, hself, and_assoc]
    | _ => simp [otherTypes, otherExprs, otherUses]

/-- Expressions of a template's file look into nothing but variables. -/
theorem exprs_plain (made : plan.IsMade) {e : Expr} (h : e ∈ plan.exprs t) :
    Expr.Plain Qualifiers.receivers e := by
  rcases List.mem_append.mp h with h | h
  · obtain ⟨m, hm, f, hf, he⟩ := mem_flatMap_fields.mp h
    obtain ⟨locations, planned⟩ := made.fields m (mem_messages hm)
    exact (field_spec (planned f hf) hm).2 e he
  · cases t with
    | http =>
      obtain ⟨m, -, he⟩ := List.mem_flatMap.mp h
      exact decode_spec he
    | _ => cases h

/-! ### Texts -/

section

variable {plan : Plan} {t : Template} {text : String}

lemma exists_of_structField {fields : List PlannedField} {type? : PlannedField → Option TypeRef}
    {name : PlannedField → String} {tag : PlannedField → List TagPart}
    (h : text ∈ (fields.filterMap fun f =>
      (type? f).map fun t => Template.structField (name f) t (tag f)).map (·.type)) :
    ∃ f ∈ fields, ∃ type ∈ (type? f).toList, type.text = text := by
  obtain ⟨field, hfield, rfl⟩ := List.mem_map.mp h
  obtain ⟨f, hf, hfield⟩ := List.mem_filterMap.mp hfield
  obtain ⟨type, htype, rfl⟩ := Option.map_eq_some_iff.mp hfield
  exact ⟨f, hf, type, Option.mem_toList.mpr htype, rfl⟩

lemma exists_of_entry {fields : List PlannedField}
    {conversion? : PlannedField → Option Conversion} {name : PlannedField → String}
    (h : text ∈ (fields.filterMap fun f =>
      (conversion? f).map (Template.entry (name f))).map (·.2)) :
    ∃ f ∈ fields, ∃ e ∈ (conversion? f).toList.map Conversion.expr, e.render = text := by
  obtain ⟨entry, hentry, rfl⟩ := List.mem_map.mp h
  obtain ⟨f, hf, hentry⟩ := List.mem_filterMap.mp hentry
  obtain ⟨c, hc, rfl⟩ := Option.map_eq_some_iff.mp hentry
  exact ⟨f, hf, c.expr, List.mem_map_of_mem (Option.mem_toList.mpr hc), rfl⟩

/-- The types that a file holds are those of the plan. -/
lemma exists_type (h : text ∈ (Template.decls plan t).flatMap Decl.typeTexts) :
    ∃ type ∈ plan.types t, type.text = text := by
  have hfield : ∀ {m}, m ∈ plan.messagesOf t →
      (∃ f ∈ m.fields, ∃ type ∈ fieldTypes f t, type.text = text) →
        ∃ type ∈ plan.types t, type.text = text := by
    rintro m hm ⟨f, hf, type, htype, rfl⟩
    exact ⟨type, List.mem_append_left _ (mem_flatMap_fields.mpr ⟨m, hm, f, hf, htype⟩), rfl⟩
  have hother : (∃ type ∈ plan.otherTypes t, type.text = text) →
      ∃ type ∈ plan.types t, type.text = text :=
    fun ⟨type, htype, heq⟩ => ⟨type, List.mem_append_right _ htype, heq⟩
  obtain ⟨decl, hdecl, h⟩ := List.mem_flatMap.mp h
  cases t with
  | enums =>
    obtain ⟨e, he, hdecl⟩ := List.mem_flatMap.mp hdecl
    refine hother ?_
    simp only [Template.enumDecls, List.mem_cons, List.not_mem_nil, or_false] at hdecl
    rcases hdecl with rfl | rfl
    · obtain rfl := List.mem_singleton.mp h
      exact ⟨.named e.name, List.mem_flatMap.mpr ⟨e, he, by simp⟩, rfl⟩
    · obtain rfl := List.mem_singleton.mp h
      exact ⟨.builtin .string, List.mem_flatMap.mpr ⟨e, he, by simp⟩, rfl⟩
  | domain =>
    obtain ⟨m, hm, hdecl⟩ := List.mem_flatMap.mp hdecl
    rcases List.mem_cons.mp hdecl with rfl | hdecl
    · exact hfield hm (exists_of_structField h)
    · obtain ⟨block, -, rfl⟩ := List.mem_map.mp hdecl
      cases h
  | domainConvert =>
    obtain ⟨m, -, hdecl⟩ := List.mem_flatMap.mp hdecl
    simp only [Template.domainConvertDecls, List.mem_cons, List.not_mem_nil, or_false] at hdecl
    rcases hdecl with rfl | rfl <;> cases h
  | outbound =>
    obtain ⟨m, hm, hdecl⟩ := List.mem_flatMap.mp hdecl
    simp only [Template.outboundDecls, List.mem_cons, List.not_mem_nil, or_false] at hdecl
    rcases hdecl with rfl | rfl
    · exact hfield hm (exists_of_structField h)
    · cases h
  | inbound =>
    obtain ⟨m, hm, hdecl⟩ := List.mem_flatMap.mp hdecl
    simp only [Template.inboundDecls, List.mem_cons, List.not_mem_nil, or_false] at hdecl
    rcases hdecl with rfl | rfl | rfl
    · exact hfield hm (exists_of_structField h)
    · cases h
    · cases h
  | http =>
    obtain ⟨m, hm, hdecl⟩ := List.mem_flatMap.mp hdecl
    simp only [Template.routeDecls, List.mem_cons, List.not_mem_nil, or_false] at hdecl
    rcases hdecl with rfl | rfl | rfl
    · cases h
    · cases h
    · obtain rfl := List.mem_singleton.mp h
      exact hother ⟨_, List.mem_map.mpr ⟨m, hm, rfl⟩, rfl⟩
  | companion => cases hdecl
  | fixtures =>
    obtain ⟨m, hm, rfl⟩ := List.mem_map.mp hdecl
    refine hfield hm ?_
    simp only [Template.fixtureDecl, Decl.typeTexts, List.map_map, List.mem_map, List.mem_filterMap,
      Option.map_eq_some_iff] at h
    obtain ⟨_, ⟨f, hf, type, htype, rfl⟩, rfl⟩ := h
    exact ⟨f, hf, type, Option.mem_toList.mpr htype, rfl⟩

/-- The expressions that a file of the package holds are those of the plan. -/
lemma exists_expr (ht : t ≠ .fixtures)
    (h : text ∈ (Template.decls plan t).flatMap Decl.exprTexts) :
    ∃ e ∈ plan.exprs t, e.render = text := by
  have hfield : ∀ {m}, m ∈ plan.messagesOf t →
      (∃ f ∈ m.fields, ∃ e ∈ fieldExprs f t, e.render = text) →
        ∃ e ∈ plan.exprs t, e.render = text := by
    rintro m hm ⟨f, hf, e, he, rfl⟩
    exact ⟨e, List.mem_append_left _ (mem_flatMap_fields.mpr ⟨m, hm, f, hf, he⟩), rfl⟩
  have hmethod : ∀ {doc receiver owner name target : String} {entries : List (String × String)},
      text ∈ (Template.conversionMethod doc receiver owner name target entries).exprTexts →
        text ∈ entries.map (·.2) := by
    intro doc receiver owner name target entries h
    simpa [Template.conversionMethod, Decl.exprTexts, Stmt.exprTexts] using h
  obtain ⟨decl, hdecl, h⟩ := List.mem_flatMap.mp h
  cases t with
  | enums =>
    obtain ⟨e, -, hdecl⟩ := List.mem_flatMap.mp hdecl
    simp only [Template.enumDecls, List.mem_cons, List.not_mem_nil, or_false] at hdecl
    rcases hdecl with rfl | rfl <;> cases h
  | domain =>
    obtain ⟨m, hm, hdecl⟩ := List.mem_flatMap.mp hdecl
    rcases List.mem_cons.mp hdecl with rfl | hdecl
    · cases h
    · obtain ⟨block, -, rfl⟩ := List.mem_map.mp hdecl
      cases h
  | domainConvert =>
    obtain ⟨m, hm, hdecl⟩ := List.mem_flatMap.mp hdecl
    simp only [Template.domainConvertDecls, List.mem_cons, List.not_mem_nil, or_false] at hdecl
    rcases hdecl with rfl | rfl
    · obtain ⟨f, hf, e, he, rfl⟩ := exists_of_entry (hmethod h)
      exact hfield hm ⟨f, hf, e, List.mem_append_left _ he, rfl⟩
    · obtain ⟨f, hf, e, he, rfl⟩ := exists_of_entry (hmethod h)
      exact hfield hm ⟨f, hf, e, List.mem_append_right _ he, rfl⟩
  | outbound =>
    obtain ⟨m, hm, hdecl⟩ := List.mem_flatMap.mp hdecl
    simp only [Template.outboundDecls, List.mem_cons, List.not_mem_nil, or_false] at hdecl
    rcases hdecl with rfl | rfl
    · cases h
    · exact hfield hm (exists_of_entry (hmethod h))
  | inbound =>
    obtain ⟨m, hm, hdecl⟩ := List.mem_flatMap.mp hdecl
    simp only [Template.inboundDecls, List.mem_cons, List.not_mem_nil, or_false] at hdecl
    rcases hdecl with rfl | rfl | rfl
    · cases h
    · unfold Template.validateBody at h
      split at h
      · cases h
      · simp only [Decl.exprTexts, Stmt.exprTexts, List.flatMap_cons, List.flatMap_nil,
          List.append_nil, PlannedMessage.validations, List.mem_map, List.mem_filterMap] at h
        obtain ⟨v, ⟨f, hf, hv⟩, rfl⟩ := h
        refine hfield hm ⟨f, hf, v.expr, List.mem_append_right _ ?_, rfl⟩
        exact List.mem_map_of_mem (Option.mem_toList.mpr hv)
    · obtain ⟨f, hf, e, he, rfl⟩ := exists_of_entry (hmethod h)
      exact hfield hm ⟨f, hf, e, List.mem_append_left _ he, rfl⟩
  | http =>
    obtain ⟨m, hm, hdecl⟩ := List.mem_flatMap.mp hdecl
    simp only [Template.routeDecls, List.mem_cons, List.not_mem_nil, or_false] at hdecl
    rcases hdecl with rfl | rfl | rfl
    · cases h
    · cases h
    · have hdecode : text ∈ Template.decodeStatements m := by
        simpa [Decl.exprTexts, Stmt.exprTexts, List.flatMap_map] using h
      have hrender : Template.decodeStatements m = (decodes m).map Expr.render := by
        cases hbody : m.body <;> simp [Template.decodeStatements, decodes, hbody]
      obtain ⟨e, he, rfl⟩ := List.mem_map.mp (hrender ▸ hdecode)
      exact ⟨e, List.mem_append_right _ (List.mem_flatMap.mpr ⟨m, hm, he⟩), rfl⟩
  | companion => cases hdecl
  | fixtures => exact absurd rfl ht

end

end Plan

end Laminate.Form
