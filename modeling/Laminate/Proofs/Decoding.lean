import Laminate.Proofs.Evaluation
import Laminate.Proofs.Members
import Mathlib.Logic.Function.Basic

/-! How a bound method reads its request.
Every scalar or enum field of a request is read, by one statement outside the body or with the body,
and what is read outside the body stays. -/
namespace Laminate.Form

open Schema Code Descriptor Annotation

/-! ### Running a decoder -/

/-- A statement of a decoder. -/
inductive DecodeStep where
  | body (decode : BodyDecode)
  | parameter (decode : ParameterDecode)
  deriving Repr, DecidableEq, Inhabited

def DecodeStep.expr : DecodeStep → Expr
  | body decode => decode.expr
  | parameter decode => decode.expr

def BoundMethod.steps (b : BoundMethod) : List DecodeStep :=
  b.body.toList.map .body ++ b.params.map .parameter

section

variable {V : Type} (fill : BodyDecode → (String → V) → String → V) (read : ParameterSource → V)

/-- What a statement makes of an inbound struct, which has a value under each field name. What a
body does is up to its contents; a parameter sets its own field. -/
def DecodeStep.run (struct : String → V) : DecodeStep → String → V
  | body decode => fill decode struct
  | parameter decode => Function.update struct decode.target (read decode.source)

def runSteps (steps : List DecodeStep) (struct : String → V) : String → V :=
  steps.foldl (DecodeStep.run fill read) struct

variable {fill read}

/-- A field that parameters set has the value of one of them. -/
lemma exists_runSteps_parameters {params : List ParameterDecode} {target : String}
    (h : target ∈ params.map (·.target)) (struct : String → V) :
    ∃ p ∈ params, p.target = target ∧
      runSteps fill read (params.map .parameter) struct target = read p.source := by
  induction params using List.reverseRecOn with
  | nil => cases h
  | append_singleton params last ih =>
    simp only [runSteps, List.map_append, List.foldl_append, List.map_cons, List.map_nil,
      List.foldl_cons, List.foldl_nil, DecodeStep.run] at ih ⊢
    by_cases htarget : last.target = target
    · subst htarget
      exact ⟨last, by simp, rfl, Function.update_self ..⟩
    · have h : target ∈ params.map (·.target) := by
        simpa [Ne.symm htarget] using h
      obtain ⟨p, hp, hpt, hvalue⟩ := ih h
      refine ⟨p, List.mem_append_left _ hp, hpt, ?_⟩
      rw [Function.update_of_ne (Ne.symm htarget), hvalue]

end

/-- The function that takes the steps of a decoder one by one and leaves at the first error. -/
def BoundMethod.decoder (b : BoundMethod) : Decl :=
  .function ("Decode" ++ b.method.name ++ " reads a " ++ b.inbound ++ " from r.") none
    ("Decode" ++ b.method.name) [⟨"r", "*http.Request"⟩] ("(*" ++ b.inbound ++ ", error)")
    (.define "in" ("&" ++ b.inbound ++ "\x7b\x7d") ::
      b.steps.map (fun step => .errorGuard step.expr.render) ++ [.ret "in, nil"])

lemma decoder_mem_routeDecls (b : BoundMethod) : b.decoder ∈ Template.routeDecls b := by
  have hsteps : (Template.decodeStatements b).map Stmt.errorGuard =
      b.steps.map fun step => .errorGuard step.expr.render := by
    cases hbody : b.body <;>
      simp [Template.decodeStatements, BoundMethod.steps, hbody, DecodeStep.expr]
  rw [Template.routeDecls, hsteps]
  exact List.mem_cons_of_mem _ (List.mem_cons_of_mem _ List.mem_cons_self)

/-! ### The statements of a bound method -/

/-- What the decoder of a method reads of its request. -/
structure DecodesFields (plan : Plan) (request : Message) (endpoint : Endpoint) (b : BoundMethod) :
    Prop where
  /-- There is a statement for each scalar or enum outside the body, in order of declaration, and
  for nothing else. -/
  params : List.Forall₂ (fun f p => p.helpers = plan.settings.converters.name ∧
      p.target = domainName f ∧
      parameterSource? f (FieldNames.of request f) (endpoint.locate f.name) = some p.source)
    (request.fields.filter fun f => isReadable f && endpoint.locate f.name != .body) b.params
  /-- A field in the body is decoded with all of it or on its own. -/
  body : ∀ f ∈ request.fields, f.name ≠ "" → endpoint.locate f.name = .body →
    endpoint.body = "*" ∧ b.body = some .whole ∨
      endpoint.body = f.name ∧ b.body = some (.into (domainName f))
  /-- The decoder that is written takes the steps in order, the body's first. -/
  written : b.decoder ∈ Template.decls plan .http
  /-- Whatever the body holds, a field that is read outside it ends up with what is read there. -/
  wins : ∀ (V : Type) (fill : BodyDecode → (String → V) → String → V) (read : ParameterSource → V)
    (struct : String → V), ∀ p ∈ b.params, ∃ p' ∈ b.params, p'.target = p.target ∧
      runSteps fill read b.steps struct p.target = read p'.source

section

variable {request : Message} {endpoint : Endpoint} {f : Field} {helpers : String}

lemma parameterDecode?_isSome (names : FieldNames) (location : Location) :
    (parameterDecode? helpers f names location).isSome = (isReadable f && location != .body) := by
  unfold parameterDecode?
  cases isReadable f with
  | false => rfl
  | true => cases location <;> rfl

lemma parameterDecode?_eq_some {names : FieldNames} {location : Location} {p : ParameterDecode} :
    parameterDecode? helpers f names location = some p ↔ isReadable f = true ∧
      p.helpers = helpers ∧ p.target = names.domain ∧
        parameterSource? f names location = some p.source := by
  unfold parameterDecode?
  cases isReadable f with
  | false => simp
  | true =>
    obtain ⟨h, t, s⟩ := p
    simp only [if_true, Option.map_eq_some_iff, ParameterDecode.mk.injEq, true_and]
    constructor
    · rintro ⟨source, hsource, rfl, rfl, rfl⟩
      exact ⟨rfl, rfl, hsource⟩
    · rintro ⟨rfl, rfl, hsource⟩
      exact ⟨s, hsource, rfl, rfl, rfl⟩

/-- Where names are distinct, a field is found under its name. -/
lemma field?_of_nodup (distinct : (request.fields.map (·.name)).Nodup) (hf : f ∈ request.fields) :
    request.field? f.name = some f := by
  unfold Message.field?
  cases hfind : request.fields.find? (·.name == f.name) with
  | none =>
    have := List.find?_eq_none.mp hfind f hf
    simp at this
  | some found =>
    have hname : found.name = f.name := by simpa using List.find?_some hfind
    rw [List.inj_on_of_nodup_map distinct (List.mem_of_find?_eq_some hfind) hf hname]

lemma bind_eq_ok_iff {method : Method} {located : List (String × Location)}
    (hendpoint : method.endpoint = some endpoint) :
    method.bind request = .ok located ↔ Method.bindFault? request endpoint = none ∧
      located = request.fields.map fun f => (f.name, endpoint.locate f.name) := by
  unfold Method.bind
  rw [hendpoint]
  cases hfault : Method.bindFault? request endpoint with
  | some fault => simp [hfault]
  | none => simp [hfault, eq_comm]

/-- The statements that fields make, each found under its name. -/
lemma params_bound (distinct : (request.fields.map (·.name)).Nodup) (service : String)
    (method : Method) :
    (Bindings.bound helpers service method endpoint request
      (request.fields.map fun f => (f.name, endpoint.locate f.name))).params =
      request.fields.filterMap fun f =>
        parameterDecode? helpers f (FieldNames.of request f) (endpoint.locate f.name) := by
  simp only [Bindings.bound, List.filterMap_map]
  refine List.filterMap_congr fun f hf => ?_
  simp [field?_of_nodup distinct hf]

/-- What is kept of a list goes with what is made of it. -/
lemma forall₂_filterMap {α β : Type} {g : α → Option β} {keep : α → Bool}
    (h : ∀ a, (g a).isSome = keep a) (xs : List α) :
    List.Forall₂ (fun a b => g a = some b) (xs.filter keep) (xs.filterMap g) := by
  induction xs with
  | nil => exact .nil
  | cons a rest ih =>
    cases hmade : g a with
    | none =>
      rw [List.filter_cons_of_neg (by simp [← h, hmade]), List.filterMap_cons_none hmade]
      exact ih
    | some b =>
      rw [List.filter_cons_of_pos (by simp [← h, hmade]), List.filterMap_cons_some hmade]
      exact .cons hmade ih

lemma bodyDecode_of_located (distinct : (request.fields.map (·.name)).Nodup)
    (hf : f ∈ request.fields) (hname : f.name ≠ "") (hbody : endpoint.locate f.name = .body) :
    endpoint.body = "*" ∧ bodyDecode? request endpoint.body = some .whole ∨
      endpoint.body = f.name ∧ bodyDecode? request endpoint.body = some (.into (domainName f)) := by
  have hselector : endpoint.body = "*" ∨ endpoint.body = f.name := by
    unfold Endpoint.locate at hbody
    split_ifs at hbody
    assumption
  by_cases hwhole : endpoint.body = "*"
  · exact .inl ⟨hwhole, by simp [bodyDecode?, hwhole]⟩
  · have hown : endpoint.body = f.name := hselector.resolve_left hwhole
    rw [hown] at hwhole
    refine .inr ⟨hown, ?_⟩
    rw [bodyDecode?, hown, if_neg hname, if_neg hwhole, field?_of_nodup distinct hf]
    rfl

end

/-! ### Bound methods -/

namespace Bindings

variable {schema : FileSchema} {helpers service : String} {bindings bindings' : Bindings}

/-- A method is bound just where it has an endpoint and its request is in the file. -/
def isBindable (schema : FileSchema) (entry : String × Method) : Bool :=
  entry.2.endpoint.isSome && (schema.message? entry.2.input).isSome

lemma boundMethod?_isSome {method : Method}
    (h : add schema helpers service bindings method = .ok bindings') :
    (boundMethod? schema helpers (service, method)).isSome =
      isBindable schema (service, method) := by
  unfold Bindings.add at h
  unfold boundMethod? isBindable
  split at h
  · next hendpoint => simp [hendpoint]
  · next endpoint hendpoint =>
    split at h
    · next hrequest => simp [hendpoint, hrequest]
    · next request hrequest =>
      split at h
      · cases h
      · next hinbound =>
        have hinbound : request.hasInbound = true := by simpa using hinbound
        split at h
        · cases h
        · next located hlocated =>
          simp [hendpoint, hrequest, hinbound, hlocated, Except.toOption]

/-- The methods of a file that are bound. -/
lemma bindable_of_ok {settings : Settings} (h : Bindings.of settings schema = .ok bindings) :
    bindings.methods.map (fun b => (b.service, b.method)) =
      (schema.services.flatMap fun s => s.methods.map (s.name, ·)).filter (isBindable schema) := by
  have hrun : ∀ {entries : List (String × Method)} {start : Bindings},
      entries.foldlM (fun bindings entry =>
        add schema settings.converters.name entry.1 bindings entry.2) start = .ok bindings →
      (entries.filterMap (boundMethod? schema settings.converters.name)).map
        (fun b => (b.service, b.method)) = entries.filter (isBindable schema) := by
    intro entries
    induction entries with
    | nil => exact fun _ => rfl
    | cons entry rest ih =>
      intro start h
      rw [List.foldlM_cons, bind_eq_ok] at h
      obtain ⟨next, hnext, h⟩ := h
      have hhere := boundMethod?_isSome hnext
      cases hbound : boundMethod? schema settings.converters.name entry with
      | none =>
        rw [List.filterMap_cons_none hbound, List.filter_cons_of_neg (by simp [← hhere, hbound])]
        exact ih h
      | some b =>
        rw [List.filterMap_cons_some hbound, List.filter_cons_of_pos (by simp [← hhere, hbound]),
          List.map_cons, ih h]
        obtain ⟨endpoint, request, located, -, -, -, -, rfl⟩ := boundMethod?_eq_some.mp hbound
        rfl
  rw [methods_of_ok h]
  exact hrun h

end Bindings

namespace Plan

variable {plan : Plan} {settings : Settings} {schema : FileSchema}

/-- A bound method comes from a method with an endpoint and from a request in the file that nothing
is wrong with. -/
lemma exists_bound (h : Plan.of settings schema = .ok plan) {b : BoundMethod}
    (hb : b ∈ plan.methods) :
    ∃ entry ∈ schema.services.flatMap fun s => s.methods.map (s.name, ·),
      ∃ endpoint request, entry.2.endpoint = some endpoint ∧
        schema.message? entry.2.input = some request ∧
        Method.bindFault? request endpoint = none ∧
        b = Bindings.bound plan.settings.converters.name entry.1 entry.2 endpoint request
          (request.fields.map fun f => (f.name, endpoint.locate f.name)) := by
  obtain ⟨hsettings, -⟩ := Plan.of_ok h
  obtain ⟨bindings, hbindings, hmethods⟩ := exists_bindings h
  rw [hmethods, Bindings.methods_of_ok hbindings] at hb
  obtain ⟨entry, hentry, hbound⟩ := List.mem_filterMap.mp hb
  obtain ⟨endpoint, request, located, hendpoint, hrequest, -, hbind, rfl⟩ :=
    Bindings.boundMethod?_eq_some.mp hbound
  obtain ⟨hfault, rfl⟩ := (bind_eq_ok_iff hendpoint).mp hbind
  exact ⟨entry, hentry, endpoint, request, hendpoint, hrequest, hfault, by rw [hsettings]⟩

/-- Every method with an endpoint and a request of the file is bound. Where the fields of its
request have distinct names, each scalar or enum among them is read: by a statement of its own, in
order of declaration, or with the body, which comes first and so does not undo what is read outside
it. -/
theorem fields_decoded (h : Plan.of settings schema = .ok plan) :
    plan.methods.map (fun b => (b.service, b.method)) =
      (schema.services.flatMap fun s => s.methods.map (s.name, ·)).filter
        (Bindings.isBindable schema) ∧
    ∀ b ∈ plan.methods, ∃ endpoint request, b.method.endpoint = some endpoint ∧
      schema.message? b.method.input = some request ∧
      ((request.fields.map (·.name)).Nodup → DecodesFields plan request endpoint b) := by
  constructor
  · obtain ⟨bindings, hbindings, hmethods⟩ := exists_bindings h
    rw [hmethods, Bindings.bindable_of_ok hbindings]
  · intro b hb
    obtain ⟨entry, -, endpoint, request, hendpoint, hrequest, -, hbound⟩ := exists_bound h hb
    refine ⟨endpoint, request, by rw [hbound]; exact hendpoint, by rw [hbound]; exact hrequest, ?_⟩
    intro distinct
    refine ⟨?_, ?_, ?_, ?_⟩
    · rw [hbound, params_bound distinct]
      refine (forall₂_filterMap (fun f => parameterDecode?_isSome _ _) _).imp fun f p hp => ?_
      exact (parameterDecode?_eq_some.mp hp).2
    · intro f hf hname hbody
      rw [hbound]
      exact bodyDecode_of_located distinct hf hname hbody
    · exact List.mem_flatMap.mpr ⟨b, hb, decoder_mem_routeDecls b⟩
    · intro V fill read struct p hp
      rw [BoundMethod.steps, runSteps, List.foldl_append]
      exact exists_runSteps_parameters (List.mem_map_of_mem hp) _

end Plan

/-! ### Requests for a user -/

/-- An index in which the method of the request for a user has an endpoint. -/
def endpointIndex (endpoint : EndpointOptions) : Index where
  methods := [("acme.Users.Get", { endpoint := some endpoint })]

/-- The note of a user comes in the body. -/
def noteIndex : Index :=
  endpointIndex { method := "post", path := "/users/\x7bname\x7d", body := "note" }

lemma exists_note_plan :
    ∃ plan b, secretRequest.plan {} noteIndex secretRequest.files[0] = .ok plan ∧
      plan.methods = [b] ∧ b.pattern = "POST /users/\x7bname\x7d" ∧
      b.method.endpoint = some ⟨"POST", "/users/\x7bname\x7d", "note", []⟩ ∧
      b.steps = [.body (.into "Note"), .parameter ⟨"convert", "Name", .path "name"⟩,
        .parameter ⟨"convert", "Reason", .query "reason"⟩] := by
  have h : (secretRequest.plan {} noteIndex secretRequest.files[0]).toOption.any (fun plan =>
      decide (plan.methods.map (fun b => (b.pattern, b.method.endpoint, b.steps)) =
        [("POST /users/\x7bname\x7d", some ⟨"POST", "/users/\x7bname\x7d", "note", []⟩,
          [.body (.into "Note"), .parameter ⟨"convert", "Name", .path "name"⟩,
            .parameter ⟨"convert", "Reason", .query "reason"⟩])])) = true := by
    rw [Request.plan_eq_planOnePass]
    decide +kernel
  obtain ⟨plan, hplan, hmethods⟩ := exists_of_check h
  obtain ⟨b, hsingle, hb⟩ := List.map_eq_singleton_iff.mp (of_decide_eq_true hmethods)
  simp only [Prod.mk.injEq] at hb
  exact ⟨plan, b, hplan, hsingle, hb⟩

theorem note_decoded :
    ∃ schema plan, FileSchema.load {} noteIndex secretRequest.files secretRequest.files[0] =
        .ok schema ∧
      Plan.of {} schema = .ok plan ∧
      ∃ b ∈ plan.methods, ∃ endpoint request,
        b.steps = [.body (.into "Note"), .parameter ⟨"convert", "Name", .path "name"⟩,
          .parameter ⟨"convert", "Reason", .query "reason"⟩] ∧
        DecodesFields plan request endpoint b := by
  have hnames : (FileSchema.load {} noteIndex secretRequest.files
      secretRequest.files[0]).toOption.any (fun schema =>
        schema.messages.all fun m => decide (m.fields.map (·.name)).Nodup) = true := by
    decide +kernel
  obtain ⟨plan, b, hplan, hsingle, -, -, hsteps⟩ := exists_note_plan
  obtain ⟨schema, hschema, hof⟩ := plan_ok hplan
  rw [hschema] at hnames
  have hnames := List.all_eq_true.mp hnames
  have hmem : b ∈ plan.methods := by simp [hsingle]
  obtain ⟨endpoint, request, -, hrequest, hdecodes⟩ := (Plan.fields_decoded hof).2 b hmem
  have hdistinct := of_decide_eq_true (hnames request (List.mem_of_find?_eq_some hrequest))
  exact ⟨schema, plan, hschema, hof, b, hmem, endpoint, request, hsteps, hdecodes hdistinct⟩

/-- A service whose only method takes and gives a message. -/
def usersRequest (desc : MessageDesc) : Request where
  files := [{ packageFile "user" "acme" [.node desc []] with
    services := [{
      name := "Users"
      methods := [{
        name := "Get"
        input := ".acme." ++ desc.name
        output := ".acme." ++ desc.name }] }] }]
  generate := []

/-- A request with a field that has no name and with a member of a oneof. -/
def contactRequest : Request :=
  usersRequest
    { name := "UserRequest"
      fields :=
        [{ number := 1, type := .string },
          { name := "email", number := 2, type := .string, oneofIndex := some 0 }]
      oneofs := [{ name := "contact" }] }

def contactIndex : Index := endpointIndex { method := "get", path := "/users" }

/-- Neither field is read, though one is located in the body and the other in the query. -/
theorem contact_unread :
    ∃ schema plan b endpoint request,
      FileSchema.load {} contactIndex contactRequest.files contactRequest.files[0] = .ok schema ∧
      Plan.of {} schema = .ok plan ∧ b ∈ plan.methods ∧ b.method.endpoint = some endpoint ∧
      schema.message? b.method.input = some request ∧
      contactRequest.files[0].loaded.map (fun d => d.desc.fields.map fun f => (f.name, f.type)) =
        [[("", .string), ("email", .string)]] ∧
      request.fields.map (fun f => (f.name, isReadable f)) = [("", true)] ∧
      endpoint.locate "" = .body ∧ endpoint.locate "email" = .query ∧
      b.body = none ∧ b.params = [] := by
  have hplan : (contactRequest.plan {} contactIndex contactRequest.files[0]).toOption.any
      (fun plan => decide (plan.methods.map (fun b => (b.method.input, b.body, b.params)) =
          [(".acme.UserRequest", none, [])]) &&
        plan.methods.all fun b => b.method.endpoint.any fun endpoint =>
          decide (endpoint.locate "" = .body) && decide (endpoint.locate "email" = .query)) =
      true := by
    rw [Request.plan_eq_planOnePass]
    decide +kernel
  have hschema : (FileSchema.load {} contactIndex contactRequest.files
      contactRequest.files[0]).toOption.any (fun schema =>
        (schema.message? ".acme.UserRequest").any fun request =>
          decide (request.fields.map (fun f => (f.name, isReadable f)) = [("", true)])) = true := by
    decide +kernel
  obtain ⟨plan, hplan, hcheck⟩ := exists_of_check hplan
  obtain ⟨schema, hload, hof⟩ := plan_ok hplan
  rw [hload] at hschema
  change (schema.message? ".acme.UserRequest").any _ = true at hschema
  obtain ⟨request, hrequest, hfields⟩ := (Option.any_eq_true _ _).mp hschema
  obtain ⟨hmethods, hlocated⟩ := Bool.and_eq_true_iff.mp hcheck
  obtain ⟨b, hsingle, hb⟩ := List.map_eq_singleton_iff.mp (of_decide_eq_true hmethods)
  have hmem : b ∈ plan.methods := by simp [hsingle]
  obtain ⟨endpoint, hendpoint, hlocations⟩ :=
    (Option.any_eq_true _ _).mp (List.all_eq_true.mp hlocated b hmem)
  obtain ⟨hbody, hquery⟩ := Bool.and_eq_true_iff.mp hlocations
  simp only [Prod.mk.injEq] at hb
  obtain ⟨hinput, hnone, hnil⟩ := hb
  exact ⟨schema, plan, b, endpoint, request, hload, hof, hmem, hendpoint, by rw [hinput, hrequest],
    by decide, of_decide_eq_true hfields, of_decide_eq_true hbody, of_decide_eq_true hquery, hnone,
    hnil⟩

end Laminate.Form
