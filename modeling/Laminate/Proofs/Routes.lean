import Laminate.Proofs.Decoding
import Laminate.Proofs.Evaluation
import Laminate.Proofs.Lexing
import Laminate.Proofs.Trimming

/-! The wildcards of a route and what is read of them.
The pattern that a router gets has the wildcards of the path template. Not all of them are read: the
ones without a name, and the ones that a well-known type is to be read from. -/
namespace Laminate

open Text Schema Descriptor Annotation Code Form

namespace Schema

/-! ### Patterns -/

/-- The name of a wildcard as a router reads it; dots at its end stand for all remaining
segments. -/
def PathPiece.wildcard? : PathPiece → Option String
  | plain _ => none
  | braced inner => some ((dropTail? "..." (String.ofList inner)).getD (String.ofList inner))

/-- The names of the wildcards of a pattern. -/
def wildcards (pattern : String) : List String :=
  (pathPieces pattern.toList).filterMap PathPiece.wildcard?

/-- A piece of a template as it is found again in the route: a wildcard is down to its name. -/
def PathPiece.routed : PathPiece → PathPiece
  | plain text => .plain text
  | braced inner =>
    .braced ((wildcardParts inner).1 ++
      if (wildcardParts inner).2 = some ['*', '*'] then ['.', '.', '.'] else [])

lemma PathPiece.route_braced (inner : List Char) :
    ∃ name, routed (.braced inner) = .braced name ∧
      route (.braced inner) = '\x7b' :: (name ++ ['\x7d']) := by
  refine ⟨_, rfl, ?_⟩
  simp [route]

lemma mem_of_mem_wildcardParts {inner : List Char} {c : Char} (h : c ∈ (wildcardParts inner).1) :
    c ∈ inner := by
  unfold wildcardParts at h
  split at h
  · next name pattern hcut =>
    rw [(cutFirst_eq_some hcut).1]
    exact List.mem_append_left _ (mem_of_mem_trimBoth h)
  · exact mem_of_mem_trimBoth h

lemma pathPieces_of_unclosed {path before after : List Char}
    (hopen : cutFirst '\x7b' path = some (before, after)) (hclose : cutFirst '\x7d' after = none) :
    pathPieces path = [.plain path] := by
  rw [pathPieces]
  split
  · rfl
  · next hcut =>
    rw [hopen] at hcut
    cases hcut
    split
    · rfl
    · next hcut =>
      rw [hclose] at hcut
      cases hcut

lemma pathPieces_of_plain {path : List Char} (hopen : cutFirst '\x7b' path = none) :
    pathPieces path = [.plain path] := by
  rw [pathPieces]
  split
  · rfl
  · next hcut =>
    rw [hopen] at hcut
    cases hcut

lemma pathPieces_of_braced {path before after inner rest : List Char}
    (hopen : cutFirst '\x7b' path = some (before, after))
    (hclose : cutFirst '\x7d' after = some (inner, rest)) :
    pathPieces path = .plain before :: .braced inner :: pathPieces rest := by
  rw [pathPieces]
  split
  · next hcut =>
    rw [hopen] at hcut
    cases hcut
  · next hcut =>
    rw [hopen] at hcut
    cases hcut
    split
    · next hcut =>
      rw [hclose] at hcut
      cases hcut
    · next hcut =>
      rw [hclose] at hcut
      cases hcut
      rfl

/-- The pieces of a route are those of its template, each as it is written. -/
lemma pathPieces_route (path : List Char) :
    pathPieces ((pathPieces path).flatMap PathPiece.route) =
      (pathPieces path).map PathPiece.routed := by
  induction path using pathPieces.induct with
  | case1 path hopen =>
    simp [pathPieces_of_plain hopen, PathPiece.route, PathPiece.routed]
  | case2 path before after hopen hclose =>
    simp [pathPieces_of_unclosed hopen hclose, PathPiece.route, PathPiece.routed]
  | case3 path before after hopen inner rest hclose ih =>
    obtain ⟨-, hbefore⟩ := cutFirst_eq_some hopen
    obtain ⟨-, hinner⟩ := cutFirst_eq_some hclose
    obtain ⟨name, hrouted, hroute⟩ := PathPiece.route_braced inner
    have hname : '\x7d' ∉ name := by
      cases hrouted
      intro h
      rcases List.mem_append.mp h with h | h
      · exact hinner (mem_of_mem_wildcardParts h)
      · split_ifs at h <;> simp at h
    rw [pathPieces_of_braced hopen hclose, List.flatMap_cons, List.flatMap_cons, hroute,
      List.map_cons, List.map_cons, hrouted, ← ih]
    refine pathPieces_of_braced ?_ (cutFirst_append hname)
    simpa [PathPiece.route] using cutFirst_append hbefore

/-- Text without a brace in front of a pattern has no wildcards. -/
lemma wildcards_append {front : List Char} (h : '\x7b' ∉ front) (text : List Char) :
    (pathPieces (front ++ text)).filterMap PathPiece.wildcard? =
      (pathPieces text).filterMap PathPiece.wildcard? := by
  cases hopen : cutFirst '\x7b' text with
  | none =>
    have hfront : cutFirst '\x7b' (front ++ text) = none := by
      rw [cutFirst_eq_none] at hopen ⊢
      simp [h, hopen]
    rw [pathPieces_of_plain hopen, pathPieces_of_plain hfront]
    rfl
  | some parts =>
    obtain ⟨before, after⟩ := parts
    obtain ⟨rfl, hbefore⟩ := cutFirst_eq_some hopen
    have hfront : cutFirst '\x7b' (front ++ (before ++ '\x7b' :: after)) =
        some (front ++ before, after) := by
      rw [← List.append_assoc]
      exact cutFirst_append (by simp [h, hbefore])
    cases hclose : cutFirst '\x7d' after with
    | none =>
      rw [pathPieces_of_unclosed hopen hclose, pathPieces_of_unclosed hfront hclose]
      rfl
    | some parts =>
      obtain ⟨inner, rest⟩ := parts
      rw [pathPieces_of_braced hopen hclose, pathPieces_of_braced hfront hclose]
      rfl

/-- The wildcards of a route are those of its template. -/
lemma wildcards_route {verb : String} (h : '\x7b' ∉ verb.toList) (path : String) :
    wildcards (verb ++ " " ++ routePath path) =
      (pathPieces path.toList).filterMap fun piece => piece.routed.wildcard? := by
  unfold wildcards
  rw [String.toList_append, routePath, String.toList_ofList, wildcards_append (by simp [h]),
    pathPieces_route, List.filterMap_map]
  rfl

lemma dropTail?_eq_some {tail s rest : String} :
    dropTail? tail s = some rest ↔ rest ++ tail = s := by
  unfold dropTail?
  simp only [Option.map_eq_some_iff, List.isSuffixOf?_eq_some_iff_append_eq]
  rw [← String.toList_inj, String.toList_append]
  constructor
  · rintro ⟨chars, hchars, rfl⟩
    rwa [String.toList_ofList]
  · intro h
    exact ⟨rest.toList, h, String.ofList_toList⟩

lemma PathPiece.parameter?_braced {inner : List Char} (h : (wildcardParts inner).1 ≠ []) :
    parameter? (.braced inner) = some (String.ofList (wildcardParts inner).1) := by
  simp [parameter?, h]

/-- A wildcard has no name or one among the parameters, unless a parameter lost dots at its end. -/
lemma parameter_of_wildcard {path name : String}
    (h : name ∈ (pathPieces path.toList).filterMap fun piece => piece.routed.wildcard?) :
    name = "" ∨ name ∈ (pathPieces path.toList).filterMap PathPiece.parameter? ∨
      name ++ "..." ∈ (pathPieces path.toList).filterMap PathPiece.parameter? := by
  obtain ⟨piece, hpiece, hname⟩ := List.mem_filterMap.mp h
  cases piece with
  | plain text => cases hname
  | braced inner =>
    have hparameter : ∀ {text : String}, text = String.ofList (wildcardParts inner).1 →
        text = "" ∨ text ∈ (pathPieces path.toList).filterMap PathPiece.parameter? := by
      rintro _ rfl
      by_cases hempty : (wildcardParts inner).1 = []
      · exact .inl (by rw [hempty])
      · exact .inr (List.mem_filterMap.mpr ⟨_, hpiece, PathPiece.parameter?_braced hempty⟩)
    simp only [PathPiece.routed, PathPiece.wildcard?, Option.some.injEq] at hname
    split_ifs at hname with hrest
    · have hdots : dropTail? "..." (String.ofList ((wildcardParts inner).1 ++ ['.', '.', '.'])) =
          some (String.ofList (wildcardParts inner).1) := by
        rw [dropTail?_eq_some, String.ofList_append]
      rw [hdots] at hname
      rcases hparameter hname.symm with hempty | hmem
      · exact .inl hempty
      · exact .inr (.inl hmem)
    · rw [List.append_nil] at hname
      cases hdrop : dropTail? "..." (String.ofList (wildcardParts inner).1) with
      | none =>
        rw [hdrop] at hname
        rcases hparameter hname.symm with hempty | hmem
        · exact .inl hempty
        · exact .inr (.inl hmem)
      | some rest =>
        rw [hdrop] at hname
        cases hname
        rcases hparameter (dropTail?_eq_some.mp hdrop) with hempty | hmem
        · simp at hempty
        · exact .inr (.inr hmem)

/-! ### Parameters -/

lemma Endpoint.locate_eq_path {endpoint : Endpoint} {name : String} :
    endpoint.locate name = .path ↔ name ∈ endpoint.parameters := by
  unfold locate
  split_ifs with hpath <;> simp [hpath]

/-- A name that a method is bound with is that of a field, which holds one value at most. -/
lemma field_of_parameter {request : Message} {endpoint : Endpoint}
    (h : Method.bindFault? request endpoint = none) {name : String}
    (hname : name ∈ endpoint.parameters) :
    ∃ f, request.field? name = some f ∧ f.isMessage = false ∧ f.isRepeated = false ∧
      f.isMap = false := by
  have hnone : endpoint.parameters.findSome? (Method.parameterFault? request) = none := by
    unfold Method.bindFault? at h
    split at h
    · cases h
    · next hparameters => exact hparameters
  have hfault := List.findSome?_eq_none_iff.mp hnone name hname
  unfold Method.parameterFault? at hfault
  split at hfault
  · cases hfault
  · next f hf =>
    refine ⟨f, hf, ?_⟩
    split_ifs at hfault with hkind
    simpa [not_or, and_assoc] using hkind

lemma isReadable_iff {f : Field} (hmessage : f.isMessage = false) (hmap : f.isMap = false) :
    isReadable f = true ↔ ∀ type, f.kind ≠ .wellKnown type := by
  unfold isReadable
  unfold Field.isMessage at hmessage
  cases hkind : f.kind with
  | scalar scalar => simp [hmap]
  | enum typeName placement => simp [hmap]
  | message target => simp [hkind] at hmessage
  | wellKnown type => simp

lemma verb_plain {method : String} {options : EndpointOptions} {endpoint : Endpoint}
    (h : Endpoint.ofOptions method options = .ok endpoint) : '\x7b' ∉ endpoint.verb.toList := by
  unfold Endpoint.ofOptions at h
  simp only at h
  split_ifs at h with hverb
  cases h
  have hplain : ∀ verb ∈ supportedVerbs, '\x7b' ∉ verb.toList := by decide
  exact hplain _ (by simpa using hverb)

/-- The endpoint of a method is one of its annotations. -/
lemma Method.endpoint_plain {index : Index} {service : String} {desc : MethodDesc} {method : Method}
    (h : Method.ofDesc index service desc = .ok method) {endpoint : Endpoint}
    (hendpoint : method.endpoint = some endpoint) : '\x7b' ∉ endpoint.verb.toList := by
  obtain ⟨options, -, h⟩ := bind_eq_ok.mp h
  dsimp only at h
  split at h
  · obtain ⟨made, hmade, h⟩ := bind_eq_ok.mp h
    cases pure_eq_ok.mp hmade
    split at h <;>
      · obtain ⟨auth, -, h⟩ := bind_eq_ok.mp h
        cases h
        cases hendpoint
  · obtain ⟨made, hmade, h⟩ := bind_eq_ok.mp h
    obtain ⟨made, hof, rfl⟩ := map_eq_ok.mp hmade
    split at h <;>
      · obtain ⟨auth, -, h⟩ := bind_eq_ok.mp h
        cases h
        cases hendpoint
        exact verb_plain hof

end Schema

/-! ### Bound methods -/

namespace Form

/-- What stands for a wildcard in a request is read into the field of the wildcard's name. -/
def BoundMethod.Reads (b : BoundMethod) (helpers : String) (request : Message) (name : String) :
    Prop :=
  name ≠ "" ∧ ∃ f, request.field? name = some f ∧ ⟨helpers, domainName f, .path name⟩ ∈ b.params

/-- A name is read from the path just where it is a parameter whose field text can be read into. -/
lemma reads_bound_iff {helpers service name : String} {method : Method} {endpoint : Endpoint}
    {request : Message} (hfault : Method.bindFault? request endpoint = none) :
    (Bindings.bound helpers service method endpoint request
        (request.fields.map fun f => (f.name, endpoint.locate f.name))).Reads helpers request name ↔
      name ∈ endpoint.parameters ∧
        ∀ f type, request.field? name = some f → f.kind ≠ .wellKnown type := by
  have hmade : ∀ {p : ParameterDecode}, p ∈ (Bindings.bound helpers service method endpoint request
        (request.fields.map fun f => (f.name, endpoint.locate f.name))).params ↔
      ∃ f ∈ request.fields, ∃ found, request.field? f.name = some found ∧
        parameterDecode? helpers found (FieldNames.of request found) (endpoint.locate f.name) =
          some p := by
    intro p
    simp [Bindings.bound, Option.bind_eq_some_iff]
  constructor
  · rintro ⟨-, f, hf, hp⟩
    obtain ⟨declared, -, found, hfound, hdecode⟩ := hmade.mp hp
    obtain ⟨hreadable, -, -, hsource⟩ := parameterDecode?_eq_some.mp hdecode
    have hname : found.name = declared.name := by simpa using List.find?_some hfound
    have hpath : endpoint.locate declared.name = .path ∧ found.name = name := by
      cases hlocation : endpoint.locate declared.name <;>
        simp only [hlocation, parameterSource?, Option.some.injEq, reduceCtorEq] at hsource
      · split_ifs at hsource
      · exact ⟨rfl, ParameterSource.path.inj hsource⟩
      · split_ifs at hsource
    obtain ⟨hpath, rfl⟩ := hpath
    rw [hname]
    refine ⟨Endpoint.locate_eq_path.mp hpath, ?_⟩
    intro other type hother hkind
    rw [hfound] at hother
    cases hother
    simp [isReadable, hkind] at hreadable
  · rintro ⟨hname, hkinds⟩
    obtain ⟨f, hf, hmessage, -, hmap⟩ := field_of_parameter hfault hname
    have hfname : f.name = name := by simpa using List.find?_some hf
    have hreadable := (isReadable_iff hmessage hmap).mpr fun type => hkinds f type hf
    refine ⟨?_, f, hf, hmade.mpr ⟨f, List.mem_of_find?_eq_some hf, f, by rw [hfname, hf], ?_⟩⟩
    · rintro rfl
      obtain ⟨piece, -, hpiece⟩ := List.mem_filterMap.mp hname
      cases piece with
      | plain text => cases hpiece
      | braced inner =>
        simp only [PathPiece.parameter?] at hpiece
        split_ifs at hpiece with hempty
        exact hempty (by simpa using hpiece)
    · rw [hfname, Endpoint.locate_eq_path.mpr hname]
      exact parameterDecode?_eq_some.mpr ⟨hreadable, rfl, rfl, by rw [← hfname]; rfl⟩

variable {request : Request} {settings : Settings} {index : Index} {home : FileDesc} {plan : Plan}

/-- The wildcards of a route and those that are read. A wildcard has no name, or it has that of a
path parameter, perhaps short of dots at the end; each parameter is a field that holds one value and
is no message of the user's own. The wildcard is read into that field just where it has its name in
full and the field is not of a well-known type. -/
theorem wildcard_read_iff (h : request.plan settings index home = .ok plan) {b : BoundMethod}
    (hb : b ∈ plan.methods) :
    ∃ schema endpoint message, FileSchema.load settings index request.files home = .ok schema ∧
      b.method.endpoint = some endpoint ∧ schema.message? b.method.input = some message ∧
      (∀ name ∈ endpoint.parameters, ∃ f, message.field? name = some f ∧ f.isMessage = false ∧
        f.isRepeated = false ∧ f.isMap = false) ∧
      ∀ name ∈ wildcards b.pattern,
        (name = "" ∨ name ∈ endpoint.parameters ∨ name ++ "..." ∈ endpoint.parameters) ∧
        (b.Reads plan.settings.converters.name message name ↔ name ∈ endpoint.parameters ∧
          ∀ f type, message.field? name = some f → f.kind ≠ .wellKnown type) := by
  obtain ⟨schema, hschema, hof⟩ := plan_ok h
  obtain ⟨entry, hentry, endpoint, message, hendpoint, hmessage, hfault, rfl⟩ :=
    Plan.exists_bound hof hb
  obtain ⟨service, hservice, hentry⟩ := List.mem_flatMap.mp hentry
  obtain ⟨method, hmethod, rfl⟩ := List.mem_map.mp hentry
  obtain ⟨desc, -, hdesc⟩ := exists_of_mem_forall₂ (FileSchema.services_of_load hschema) hservice
  obtain ⟨methods, hmethods, hmade⟩ := map_eq_ok.mp hdesc
  obtain rfl : methods = service.methods := congrArg Service.methods hmade
  obtain ⟨methodDesc, -, hmade⟩ := exists_of_mem_forall₂ (mapM_eq_ok.mp hmethods) hmethod
  refine ⟨schema, endpoint, message, hschema, hendpoint, hmessage,
    fun name hname => field_of_parameter hfault hname, ?_⟩
  intro name hname
  have hname : name ∈ wildcards (endpoint.verb ++ " " ++ routePath endpoint.path) := hname
  rw [wildcards_route (Method.endpoint_plain hmade hendpoint)] at hname
  exact ⟨parameter_of_wildcard hname, reads_bound_iff hfault⟩

theorem note_wildcard_read :
    ∃ plan b message, secretRequest.plan {} noteIndex secretRequest.files[0] = .ok plan ∧
      b ∈ plan.methods ∧ wildcards b.pattern = ["name"] ∧
      b.Reads plan.settings.converters.name message "name" := by
  have hkinds : (FileSchema.load {} noteIndex secretRequest.files
      secretRequest.files[0]).toOption.any (fun schema =>
        schema.messages.all fun m => m.fields.all fun f => decide (f.kind = .scalar .string)) =
      true := by
    decide +kernel
  obtain ⟨plan, b, hplan, hsingle, hpattern, hb, -⟩ := exists_note_plan
  have hmem : b ∈ plan.methods := by simp [hsingle]
  have hwildcards : wildcards b.pattern = ["name"] := by
    rw [hpattern]
    decide +kernel
  obtain ⟨schema, endpoint, message, hschema, hendpoint, hmessage, -, hread⟩ :=
    wildcard_read_iff hplan hmem
  rw [hendpoint] at hb
  cases hb
  rw [hschema] at hkinds
  have hfields := List.all_eq_true.mp (List.all_eq_true.mp hkinds message
    (List.mem_of_find?_eq_some hmessage))
  refine ⟨plan, b, message, hplan, hmem, hwildcards, (hread "name" (by simp [hwildcards])).2.mpr ?_⟩
  refine ⟨by decide +kernel, fun f type hf hkind => ?_⟩
  have hscalar := of_decide_eq_true (hfields f (List.mem_of_find?_eq_some hf))
  rw [hscalar] at hkind
  cases hkind

/-- A path with a point in time and with a wildcard that has no name. -/
def momentIndex : Index :=
  endpointIndex { method := "get", path := "/users/\x7bat\x7d/\x7b\x7d" }

def momentRequest : Request :=
  usersRequest
    { name := "UserRequest"
      fields := [{
        name := "at"
        number := 1
        type := .message
        typeName := ".google.protobuf.Timestamp" }] }

/-- Both wildcards are routed and neither is read. -/
theorem moment_unread :
    ∃ plan b, momentRequest.plan {} momentIndex momentRequest.files[0] = .ok plan ∧
      b ∈ plan.methods ∧ b.pattern = "GET /users/\x7bat\x7d/\x7b\x7d" ∧
      wildcards b.pattern = ["at", ""] ∧
      ∀ helpers message, ∀ name ∈ wildcards b.pattern, ¬ b.Reads helpers message name := by
  have hmethods : (momentRequest.plan {} momentIndex momentRequest.files[0]).toOption.any
      (fun plan => decide (plan.methods.map (fun b => (b.pattern, b.params)) =
        [("GET /users/\x7bat\x7d/\x7b\x7d", [])])) = true := by
    rw [Request.plan_eq_planOnePass]
    decide +kernel
  obtain ⟨plan, hplan, hmethods⟩ := exists_of_check hmethods
  obtain ⟨b, hsingle, hb⟩ := List.map_eq_singleton_iff.mp (of_decide_eq_true hmethods)
  obtain ⟨hpattern, hparams⟩ := Prod.mk.inj hb
  have hwildcards : wildcards b.pattern = ["at", ""] := by
    rw [hpattern]
    decide +kernel
  refine ⟨plan, b, hplan, by simp [hsingle], hpattern, hwildcards, ?_⟩
  rintro helpers message name - ⟨-, f, -, hread⟩
  rw [hparams] at hread
  cases hread

end Form

end Laminate
