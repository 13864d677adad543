import Laminate.Proofs.Evaluation
import Laminate.Proofs.Forms
import Laminate.Proofs.Lookups

/-! Members of the generated structs. What a struct declares is what the literals of its type set,
and what the methods of its type look up. -/
namespace Laminate.Code

/-- The fields that a struct declares. -/
def Decl.fieldNames : Decl → List String
  | struct _ _ fields => fields.map (·.name)
  | _ => []

/-- The fields that the literals of a statement set. -/
def Stmt.keys : Stmt → List String
  | retStruct _ entries => entries.map (·.1)
  | _ => []

/-- The fields that the literals of a function set. -/
def Decl.keys : Decl → List String
  | function _ _ _ _ _ body => body.flatMap Stmt.keys
  | _ => []

end Laminate.Code

namespace Laminate.Form

open Laminate.Text Laminate.Schema Laminate.Code Laminate.Descriptor Laminate.Annotation

section

variable {m : PlannedMessage} {message : Message}

/-- The names of rows that are made for some fields of a message. -/
lemma map_rows {β γ : Type} {made : PlannedField → Option β} {row : PlannedField → β → γ}
    {key : γ → String} {fields : List PlannedField} (wanted : Field → Bool) (name : Field → String)
    (hmade : ∀ f ∈ fields, (made f).isSome = wanted f.field)
    (hkey : ∀ f ∈ fields, ∀ b, key (row f b) = name f.field) :
    (fields.filterMap fun f => (made f).map (row f)).map key =
      ((fields.map (·.field)).filter wanted).map name := by
  induction fields with
  | nil => rfl
  | cons f rest ih =>
    obtain ⟨hfirst, hrest⟩ := List.forall_mem_cons.mp hmade
    obtain ⟨hkeyFirst, hkeyRest⟩ := List.forall_mem_cons.mp hkey
    rw [List.map_cons, List.filter_cons, ← hfirst, List.filterMap_cons]
    cases hf : made f with
    | none => simpa using ih hrest hkeyRest
    | some b => simpa [hkeyFirst b] using ih hrest hkeyRest

/-- The expressions that a message's fields are converted by. -/
def conversionsOf (m : PlannedMessage) (direction : Direction) : List Expr :=
  m.fields.filterMap fun f => (f.conversions.along direction).map Conversion.expr

/-- The domain form of a message: the struct, the literals that fill it, and what is read of it. -/
structure DomainAgrees (plan : Plan) (m : PlannedMessage) : Prop where
  declared : (Template.domainStruct m).fieldNames = fieldIdentifiers m.message
  converted : ∃ out back, Template.domainConvertDecls m = [out, back] ∧
    out.method? = some (m.message.names.wire, "IntoDomain") ∧
    back.method? = some (m.message.names.domain, "IntoWire") ∧
    out.keys = (Template.domainStruct m).fieldNames ∧
    back.keys = m.message.fields.map (·.goName) ∧
    back.exprTexts = (conversionsOf m .domainToWire).map Expr.render
  fixture : (Template.fixtureDecl plan.module.goName
    ((plan.importsOf .fixtures).map Template.importName) m).keys =
      (Template.domainStruct m).fieldNames
  looksUp : ∀ e ∈ conversionsOf m .domainToWire,
    e.LooksUp "d" (Template.domainStruct m).fieldNames

/-- The outbound form of a message; hidden fields are in neither part of it. -/
structure OutboundAgrees (m : PlannedMessage) : Prop where
  declared : ∃ struct into, Template.outboundDecls m = [struct, into] ∧
    struct.struct? = some m.message.names.outbound ∧
    into.method? = some (m.message.names.wire, "IntoOutboundOrNil") ∧
    struct.fieldNames = (m.message.fields.filter (!·.isOutboundHidden)).map (·.goName) ∧
    into.keys = struct.fieldNames

/-- The inbound form of a message: the struct, and what its methods look up in it. -/
structure InboundAgrees (m : PlannedMessage) : Prop where
  declared : ∃ struct validate into, Template.inboundDecls m = [struct, validate, into] ∧
    struct.struct? = some m.message.names.inbound ∧
    validate.method? = some (m.message.names.inbound, "Validate") ∧
    into.method? = some (m.message.names.inbound, "IntoWireInput") ∧
    struct.fieldNames = fieldIdentifiers m.message ∧
    into.keys = m.message.fields.map (·.goName) ∧
    into.exprTexts = (conversionsOf m .inboundToWire).map Expr.render ∧
    validate.exprTexts = (m.validations.map Validation.expr).map Expr.render
  looksUp : ∀ e ∈ conversionsOf m .inboundToWire ++ m.validations.map Validation.expr,
    e.LooksUp "in" (fieldIdentifiers m.message)

/-- The decoder of a method fills fields of the inbound form of its request. -/
structure DecodeAgrees (plan : Plan) (b : BoundMethod) (m : PlannedMessage) : Prop where
  request : plan.message? b.method.input = some m
  inbound : b.inbound = m.message.names.inbound
  texts : (Template.routeDecls b).flatMap Decl.exprTexts = (Plan.decodes b).map Expr.render
  looksUp : ∀ e ∈ Plan.decodes b, e.LooksUp "in" (fieldIdentifiers m.message)

namespace Plan

variable {plan : Plan} {settings : Settings} {schema : FileSchema}

/-- A planned message has the fields of its message, each as it is planned for it. -/
lemma exists_isPlanned (h : Plan.of settings schema = .ok plan) (hm : m ∈ plan.messages) :
    m.fields.map (·.field) = m.message.fields ∧
      ∃ locations, ∀ f ∈ m.fields, (plan.planning locations).IsPlanned m.message f := by
  obtain ⟨-, -, -, -, -, ⟨locations, hplanned⟩, -⟩ := Plan.of_ok h
  obtain ⟨message, -, hok⟩ := exists_of_mem_forall₂ hplanned hm
  obtain ⟨rfl, hfields, hall⟩ := Planning.message_ok hok
  exact ⟨hfields, locations, hall⟩

lemma domainName_of_planned {p : Planning} {f : PlannedField} (planned : p.IsPlanned message f) :
    f.names.domain = domainName f.field := by
  rw [planned.names]
  rfl

/-- Every message of the file that has a kind is planned. -/
lemma message?_of_ok (h : Plan.of settings schema = .ok plan) {typeName : String}
    (hmessage : schema.message? typeName = some message) (hkind : message.kind ≠ .unknown) :
    ∃ m, plan.message? typeName = some m ∧ m.message = message := by
  have hfound : (plan.messages.map (·.message)).find?
      (·.fullName == dropLeading '.' typeName) = some message := by
    obtain ⟨hname, before, after, hsplit, hbefore⟩ := List.find?_eq_some_iff_append.mp hmessage
    rw [messages_of_ok h, hsplit, List.find?_eq_some_iff_append]
    refine ⟨hname, before.filter (·.kind != .unknown), after.filter (·.kind != .unknown), ?_, ?_⟩
    · simp [List.filter_append, hkind]
    · exact fun other hother => hbefore other (List.mem_of_mem_filter hother)
  rw [List.find?_map, Option.map_eq_some_iff] at hfound
  exact hfound

section

variable {locations : Locations} (hfields : m.fields.map (·.field) = m.message.fields)

include hfields

/-- A struct of all fields, or a literal that sets them all. -/
lemma map_rows_all {β γ : Type} {made : PlannedField → Option β} {row : PlannedField → β → γ}
    {key : γ → String} (name : Field → String) (hmade : ∀ f ∈ m.fields, (made f).isSome = true)
    (hkey : ∀ f ∈ m.fields, ∀ b, key (row f b) = name f.field) :
    (m.fields.filterMap fun f => (made f).map (row f)).map key = m.message.fields.map name := by
  rw [map_rows (fun _ => true) name hmade hkey, hfields, List.filter_true]

variable (planned : ∀ f ∈ m.fields, (plan.planning locations).IsPlanned m.message f)

include planned

/-- What a conversion towards the wire looks up is a field of its message. -/
lemma looksUp_conversion {direction : Direction} (hdirection : direction.target = .wire) :
    ∀ e ∈ conversionsOf m direction,
      e.LooksUp direction.receiver (fieldIdentifiers m.message) := by
  intro e he
  obtain ⟨f, hf, he⟩ := List.mem_filterMap.mp he
  obtain ⟨conversion, hconversion, rfl⟩ := Option.map_eq_some_iff.mp he
  obtain ⟨-, hmade⟩ := onlyIf_some (hconversion ▸ (planned f hf).conversions direction)
  refine .of_fields ?_
  rw [fieldsOf_conversion hdirection hmade, domainName_of_planned (planned f hf)]
  have hmem : f.field ∈ m.message.fields := hfields ▸ List.mem_map_of_mem hf
  have hname : domainName f.field ∈ fieldIdentifiers m.message := List.mem_map_of_mem hmem
  simpa using hname

lemma domain_agrees (hdomain : m.message.hasDomain = true) : DomainAgrees plan m := by
  have hname := fun f hf => domainName_of_planned (planned f hf)
  have hdeclared : (Template.domainStruct m).fieldNames = fieldIdentifiers m.message :=
    map_rows_all hfields domainName
      (fun f hf => (typeIn_isSome (planned f hf) .domain).trans hdomain) fun f hf _ => hname f hf
  have hinto : (Template.intoDomainEntries m).map (·.1) = fieldIdentifiers m.message :=
    map_rows_all hfields domainName
      (fun f hf => (along_isSome (planned f hf) .wireToDomain).trans hdomain)
      fun f hf _ => hname f hf
  have hback : (Template.intoWireEntries m).map (·.1) = m.message.fields.map (·.goName) :=
    map_rows_all hfields (·.goName)
      (fun f hf => (along_isSome (planned f hf) .domainToWire).trans hdomain) fun _ _ _ => rfl
  have hfixture : (m.fields.filterMap fun f => f.fixture.map fun t => (f.names.domain, t)).map
      (·.1) = fieldIdentifiers m.message :=
    map_rows_all hfields domainName
      (fun f hf => (fixture_isSome (planned f hf)).trans hdomain) fun f hf _ => hname f hf
  constructor
  · exact hdeclared
  · refine ⟨_, _, rfl, rfl, rfl, ?_, ?_, ?_⟩
    · rw [hdeclared, ← hinto]
      simp [Template.conversionMethod, Decl.keys, Stmt.keys]
    · rw [← hback]
      simp [Template.conversionMethod, Decl.keys, Stmt.keys]
    · simp [Template.conversionMethod, Decl.exprTexts, Stmt.exprTexts, Template.intoWireEntries,
        conversionsOf, Conversions.along, Template.entry, List.map_filterMap, Function.comp_def]
  · rw [hdeclared, ← hfixture]
    simp [Template.fixtureDecl, Decl.keys, Stmt.keys]
  · rw [hdeclared]
    exact looksUp_conversion hfields planned rfl

lemma outbound_agrees (houtbound : m.message.hasOutbound = true) : OutboundAgrees m := by
  have hwanted : ∀ f ∈ m.fields, f.outbound.isSome = !f.field.isOutboundHidden := by
    intro f hf
    have h := typeIn_isSome (planned f hf) .outbound
    rwa [holds, houtbound, Bool.true_and] at h
  have hname : ∀ f ∈ m.fields, f.names.outbound = f.field.goName := by
    intro f hf
    rw [(planned f hf).names]
    rfl
  have hstruct : (Template.outboundFields m).map (·.name) =
      (m.message.fields.filter (!·.isOutboundHidden)).map (·.goName) := by
    rw [← hfields]
    exact map_rows (!·.isOutboundHidden) (·.goName) hwanted fun f hf _ => hname f hf
  have hinto : (Template.intoOutboundEntries m).map (·.1) =
      (m.message.fields.filter (!·.isOutboundHidden)).map (·.goName) := by
    rw [← hfields]
    exact map_rows (!·.isOutboundHidden) (·.goName)
      (fun f hf => (outbound_isSome (planned f hf)).symm.trans (hwanted f hf))
      fun f hf _ => hname f hf
  refine ⟨⟨_, _, rfl, rfl, rfl, hstruct, ?_⟩⟩
  rw [Decl.fieldNames, hstruct, ← hinto]
  simp [Template.conversionMethod, Decl.keys, Stmt.keys]

lemma inbound_agrees (hinbound : m.message.hasInbound = true) : InboundAgrees m := by
  have hstruct : (Template.inboundFields m).map (·.name) = fieldIdentifiers m.message :=
    map_rows_all hfields domainName
      (fun f hf => (typeIn_isSome (planned f hf) .inbound).trans hinbound)
      fun f hf _ => domainName_of_planned (planned f hf)
  have hinto : (Template.intoWireInputEntries m).map (·.1) = m.message.fields.map (·.goName) :=
    map_rows_all hfields (·.goName)
      (fun f hf => (along_isSome (planned f hf) .inboundToWire).trans hinbound) fun _ _ _ => rfl
  constructor
  · refine ⟨_, _, _, rfl, rfl, rfl, rfl, hstruct, ?_, ?_, ?_⟩
    · rw [← hinto]
      simp [Template.conversionMethod, Decl.keys, Stmt.keys]
    · simp [Template.conversionMethod, Decl.exprTexts, Stmt.exprTexts,
        Template.intoWireInputEntries, conversionsOf, Conversions.along, Template.entry,
        List.map_filterMap, Function.comp_def]
    · simp only [Decl.exprTexts, List.flatMap_singleton, Template.validateBody]
      split
      · next hempty => simp [Stmt.exprTexts, List.isEmpty_iff.mp hempty]
      · simp [Stmt.exprTexts]
  · intro e he
    rcases List.mem_append.mp he with he | he
    · exact looksUp_conversion hfields planned rfl e he
    · obtain ⟨v, hv, rfl⟩ := List.mem_map.mp he
      obtain ⟨f, hf, hv⟩ := List.mem_filterMap.mp hv
      have hvalidation := (planned f hf).validation
      rw [if_pos hinbound, (planned f hf).names, hv] at hvalidation
      have hmem : f.field ∈ m.message.fields := hfields ▸ List.mem_map_of_mem hf
      exact .of_fields (fieldsOf_validation (List.mem_map_of_mem hmem) hvalidation)

end

lemma exprTexts_routeDecls (b : BoundMethod) :
    (Template.routeDecls b).flatMap Decl.exprTexts = (Plan.decodes b).map Expr.render := by
  have hguards : ∀ calls : List String,
      (calls.map Stmt.errorGuard).flatMap Stmt.exprTexts = calls := by
    intro calls
    rw [List.flatMap_map]
    exact List.flatMap_singleton' calls
  have hstatements : Template.decodeStatements b = (Plan.decodes b).map Expr.render := by
    cases hbody : b.body <;> simp [Template.decodeStatements, Plan.decodes, hbody]
  rw [← hstatements, ← hguards (Template.decodeStatements b)]
  simp [Template.routeDecls, Decl.exprTexts, Stmt.exprTexts]

/-- Structs, literals and look-ups agree. The domain struct declares what the literals of
`IntoDomain` and of the constructor for tests set, and what `IntoWire` looks up; the outbound struct
what `IntoOutboundOrNil` sets, which is every field that is not hidden; the inbound struct what its
methods look up and decoders fill. The wire literals set every surfaced field. -/
theorem members_agree (h : Plan.of settings schema = .ok plan) :
    (∀ m ∈ plan.domainMessages, DomainAgrees plan m) ∧
      (∀ m ∈ plan.outboundMessages, OutboundAgrees m) ∧
      (∀ m ∈ plan.inboundMessages, InboundAgrees m) ∧
      ∀ b ∈ plan.methods, ∃ m ∈ plan.inboundMessages, DecodeAgrees plan b m := by
  refine ⟨fun m hm => ?_, fun m hm => ?_, fun m hm => ?_, fun b hb => ?_⟩
  · obtain ⟨hm, hdomain⟩ := List.mem_filter.mp hm
    obtain ⟨hfields, locations, planned⟩ := exists_isPlanned h hm
    exact domain_agrees hfields planned hdomain
  · obtain ⟨hm, houtbound⟩ := List.mem_filter.mp hm
    obtain ⟨hfields, locations, planned⟩ := exists_isPlanned h hm
    exact outbound_agrees hfields planned houtbound
  · obtain ⟨hm, hinbound⟩ := List.mem_filter.mp hm
    obtain ⟨hfields, locations, planned⟩ := exists_isPlanned h hm
    exact inbound_agrees hfields planned hinbound
  · obtain ⟨bindings, hbindings, hmethods⟩ := exists_bindings h
    rw [hmethods, Bindings.methods_of_ok hbindings] at hb
    obtain ⟨entry, -, hbound⟩ := List.mem_filterMap.mp hb
    obtain ⟨endpoint, request, located, -, hrequest, hinbound, -, rfl⟩ :=
      Bindings.boundMethod?_eq_some.mp hbound
    have hkind : request.kind ≠ .unknown := by
      intro hunknown
      simp [Message.hasInbound, hunknown] at hinbound
    obtain ⟨m, hm, rfl⟩ := message?_of_ok h hrequest hkind
    refine ⟨m, List.mem_filter.mpr ⟨List.mem_of_find?_eq_some hm, hinbound⟩, hm, rfl, ?_, ?_⟩
    · exact exprTexts_routeDecls _
    · exact fun e he => .of_fields (fieldsOf_decode hrequest hbound e he)

end Plan

end

/-! ### A user and a request for one -/

/-- A user with a secret, and a request whose note wants a reason. -/
def secretRequest : Request where
  files := [{ packageFile "user" "acme"
    [.node
      { name := "UserWire"
        fields :=
          [{ name := "name", number := 1, type := .string },
            { name := "secret", number := 2, type := .string }] } [],
      .node
        { name := "UserRequest"
          fields :=
            [{ name := "name", number := 1, type := .string },
              { name := "note", number := 2, type := .string },
              { name := "reason", number := 3, type := .string }] } []] with
    services := [{
      name := "Users"
      methods := [{ name := "Get", input := ".acme.UserRequest", output := ".acme.UserWire" }] }] }]
  generate := []

def secretIndex : Index where
  fields :=
    [(("acme.UserWire", 2), { outbound := some { hide := true } }),
      (("acme.UserRequest", 2),
        { validate := some { requiredWith := some { any := [{ field := "reason" }] } } })]
  methods :=
    [("acme.Users.Get", { endpoint := some { method := "get", path := "/users/\x7bname\x7d" } })]

theorem secret_members_agree :
    ∃ schema plan, FileSchema.load {} secretIndex secretRequest.files secretRequest.files[0] =
        .ok schema ∧
      Plan.of {} schema = .ok plan ∧
      plan.domainMessages.map (fun m => (Template.domainStruct m).fieldNames) =
        [["Name", "Secret"]] ∧
      (plan.outboundMessages.flatMap Template.outboundDecls).map Decl.keys = [[], ["Name"]] ∧
      plan.inboundMessages.flatMap (·.validations.map fun v => v.expr.fieldsOf "in") =
        [["Note", "Reason"]] ∧
      plan.methods.flatMap (fun b => (Plan.decodes b).map (·.fieldsOf "in")) =
        [["Name"], ["Note"], ["Reason"]] ∧
      (∀ m ∈ plan.domainMessages, DomainAgrees plan m) ∧
      (∀ m ∈ plan.outboundMessages, OutboundAgrees m) ∧
      (∀ m ∈ plan.inboundMessages, InboundAgrees m) ∧
      ∀ b ∈ plan.methods, ∃ m ∈ plan.inboundMessages, DecodeAgrees plan b m := by
  have h : (secretRequest.plan {} secretIndex secretRequest.files[0]).toOption.any (fun plan =>
      decide (plan.domainMessages.map (fun m => (Template.domainStruct m).fieldNames) =
        [["Name", "Secret"]]) &&
      decide ((plan.outboundMessages.flatMap Template.outboundDecls).map Decl.keys =
        [[], ["Name"]]) &&
      decide (plan.inboundMessages.flatMap (·.validations.map fun v => v.expr.fieldsOf "in") =
        [["Note", "Reason"]]) &&
      decide (plan.methods.flatMap (fun b => (Plan.decodes b).map (·.fieldsOf "in")) =
        [["Name"], ["Note"], ["Reason"]])) = true := by
    rw [Request.plan_eq_planOnePass]
    decide +kernel
  obtain ⟨plan, hplan, hcheck⟩ := exists_of_check h
  obtain ⟨schema, hschema, hof⟩ := plan_ok hplan
  simp only [Bool.and_eq_true, decide_eq_true_eq] at hcheck
  obtain ⟨⟨⟨hdomain, houtbound⟩, hinbound⟩, hdecodes⟩ := hcheck
  exact ⟨schema, plan, hschema, hof, hdomain, houtbound, hinbound, hdecodes,
    Plan.members_agree hof⟩

/-- Fields whose enum is in a package of some name, in a message and in a request. -/
def enumRequest (package : String) : Request where
  files := [packageFile "user" "acme"
      [.node
        { name := "UserWire"
          fields := [{ name := "role", type := .enum, typeName := ".acme.common.Role" }] } [],
        .node
          { name := "UserRequest"
            fields := [{ name := "role", type := .enum, typeName := ".acme.common.Role" }] } []],
    { packageFile package "acme.common" [] with enums := [{ name := "Role", values := [] }] }]
  generate := []

lemma registry_enum {package : String} (h : package = "d" ∨ package = "in") :
    Registry.ofFiles (enumRequest package).files =
      let path := "github.com/acme/" ++ package
      let modules := [⟨"acme.common", package, path⟩, ⟨"acme", "user", "github.com/acme/user"⟩]
      { modules := modules, qualifiers := Registry.assignQualifiers modules } := by
  rcases h with rfl | rfl
  · exact (ofFiles_pair rfl).trans rfl
  · exact (ofFiles_pair rfl).trans rfl

/-- An expression has a name after a variable that the variable's struct does not declare. -/
def Misses (x name : String) (declared : List String) (e : Expr) : Prop :=
  name ∈ e.after x ∧ name ∉ declared

instance (x name : String) (declared : List String) (e : Expr) :
    Decidable (Misses x name declared e) :=
  inferInstanceAs (Decidable (_ ∧ _))

/-- What is meant for a package that is called like the receiver follows the receiver and a dot. -/
theorem receivers_shadow :
    (∃ schema plan, FileSchema.load {} {} (enumRequest "d").files (enumRequest "d").files[0] =
        .ok schema ∧
      Plan.of {} schema = .ok plan ∧
      ∃ m ∈ plan.domainMessages, ∃ e ∈ conversionsOf m .domainToWire,
        e.render = "d.RoleFromString(d.Role)" ∧
          Misses "d" "RoleFromString" (Template.domainStruct m).fieldNames e) ∧
    ∃ schema plan, FileSchema.load {} {} (enumRequest "in").files (enumRequest "in").files[0] =
        .ok schema ∧
      Plan.of {} schema = .ok plan ∧
      ∃ m ∈ plan.inboundMessages, ∃ e ∈ conversionsOf m .inboundToWire,
        e.render = "in.RoleFromString(in.Role)" ∧
          Misses "in" "RoleFromString" (fieldIdentifiers m.message) e := by
  constructor
  · have h : ((enumRequest "d").plan {} {} (enumRequest "d").files[0]).toOption.any (fun plan =>
        decide (∃ m ∈ plan.domainMessages, ∃ e ∈ conversionsOf m .domainToWire,
          e.render = "d.RoleFromString(d.Role)" ∧
            Misses "d" "RoleFromString" (Template.domainStruct m).fieldNames e)) = true := by
      rw [Request.plan_eq_planOnePass]
      unfold Request.planOnePass FileSchema.load
      rw [registry_enum (.inl rfl)]
      decide +kernel
    obtain ⟨plan, hplan, hcheck⟩ := exists_of_check h
    obtain ⟨schema, hschema, hof⟩ := plan_ok hplan
    exact ⟨schema, plan, hschema, hof, of_decide_eq_true hcheck⟩
  · have h : ((enumRequest "in").plan {} {} (enumRequest "in").files[0]).toOption.any (fun plan =>
        decide (∃ m ∈ plan.inboundMessages, ∃ e ∈ conversionsOf m .inboundToWire,
          e.render = "in.RoleFromString(in.Role)" ∧
            Misses "in" "RoleFromString" (fieldIdentifiers m.message) e)) = true := by
      rw [Request.plan_eq_planOnePass]
      unfold Request.planOnePass FileSchema.load
      rw [registry_enum (.inr rfl)]
      decide +kernel
    obtain ⟨plan, hplan, hcheck⟩ := exists_of_check h
    obtain ⟨schema, hschema, hof⟩ := plan_ok hplan
    exact ⟨schema, plan, hschema, hof, of_decide_eq_true hcheck⟩

end Laminate.Form
