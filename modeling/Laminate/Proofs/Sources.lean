import Laminate.Proofs.Aggregates
import Laminate.Proofs.Readings

/-! A run does not depend on where annotations come from.
An annotation that an index holds and the same one as an aggregate option of its descriptor make
for the same run: what a run reads of descriptors is their annotations and what is left of them
without options. -/
namespace Laminate

open Descriptor Annotation Schema

/-! ### Annotations from one source or the other -/

/-- A descriptor's annotation stays where it is, or it moves from an index to the options of the
descriptor, as an aggregate. -/
inductive Moves {κ α : Type} [BEq κ] (extension : String) (facets : List (Facet α)) (key : κ)
    (entries entries' : List (κ × α)) (written written' : List WrittenOption) : Prop
  | stays (index : entries.lookup key = entries'.lookup key) (options : written = written')
  | moves {a : α} (indexed : entries.lookup key = some a) (valid : IsValid facets a)
    (absent : entries'.lookup key = none)
    (aggregate : IsAggregateOf extension facets a written')

variable (i i' : Index)

structure FieldMoves (message : String) (f f' : FieldDesc) : Prop where
  bare : f.bare = f'.bare
  annotation : Moves fieldExtension fieldFacets (message, f.number) i.fields i'.fields
    f.options f'.options

/-- Messages that are the same but for the annotations of the message and of its fields. -/
structure MessageMoves (fullName : String) (d d' : MessageDesc) : Prop where
  bare : d.bare = d'.bare
  annotation : Moves messageExtension messageFacets fullName i.messages i'.messages
    d.options d'.options
  fields : List.Forall₂ (FieldMoves i i' fullName) d.fields d'.fields

inductive TreesMove : String → List MessageTree → List MessageTree → Prop
  | nil (outer : String) : TreesMove outer [] []
  | cons {outer : String} {d d' : MessageDesc} {nested nested' rest rest' : List MessageTree}
    (message : MessageMoves i i' (qualify outer d.name) d d')
    (inner : TreesMove (qualify outer d.name) nested nested')
    (more : TreesMove outer rest rest') :
    TreesMove outer (.node d nested :: rest) (.node d' nested' :: rest')

structure MethodMoves (service : String) (m m' : MethodDesc) : Prop where
  bare : { m with options := [], optionData := [] } = { m' with options := [], optionData := [] }
  annotation : Moves methodExtension methodFacets (qualify service m.name) i.methods i'.methods
    m.options m'.options

structure ServiceMoves (package : String) (s s' : ServiceDesc) : Prop where
  bare : { s with methods := [] } = { s' with methods := [] }
  methods : List.Forall₂ (MethodMoves i i' (qualify package s.name)) s.methods s'.methods

/-- Files that are the same but for annotations. -/
structure FileMoves (f f' : FileDesc) : Prop where
  bare : { f with messages := [], services := [] } = { f' with messages := [], services := [] }
  messages : TreesMove i i' f.package f.messages f'.messages
  services : List.Forall₂ (ServiceMoves i i' f.package) f.services f'.services

/-- Requests that are the same but for annotations. -/
structure RequestMoves (r r' : Request) : Prop where
  parameter : r.parameter = r'.parameter
  generate : r.generate = r'.generate
  files : List.Forall₂ (FileMoves i i') r.files r'.files

variable {i i'}

/-! ### Annotations are the same -/

lemma ofMessage_eq {name : String} {written written' : List WrittenOption}
    (h : Moves messageExtension messageFacets name i.messages i'.messages written written') :
    i.ofMessage name written = i'.ofMessage name written' := by
  unfold Index.ofMessage
  cases h with
  | stays index options => rw [index, options]
  | moves indexed valid absent aggregate =>
    rw [indexed, absent, readWritten_of_isAggregate message_isMadeOf valid aggregate]
    rfl

lemma ofMethod_eq {name : String} {written written' : List WrittenOption}
    (h : Moves methodExtension methodFacets name i.methods i'.methods written written') :
    i.ofMethod name written = i'.ofMethod name written' := by
  unfold Index.ofMethod
  cases h with
  | stays index options => rw [index, options]
  | moves indexed valid absent aggregate =>
    rw [indexed, absent, readWritten_of_isAggregate method_isMadeOf valid aggregate]
    rfl

lemma ofField_eq {message : String} {f f' : FieldDesc} (h : FieldMoves i i' message f f') :
    i.ofField message f = i'.ofField message f' := by
  obtain ⟨hname, hnumber, -, -⟩ := parts_of_bare h.bare
  unfold Index.ofField
  rw [← hname, ← hnumber]
  cases h.annotation with
  | stays index options => rw [index, options]
  | moves indexed valid absent aggregate =>
    rw [indexed, absent, readWritten_of_isAggregate field_isMadeOf valid aggregate]
    rfl

/-! ### Requests that move annotations read alike -/

lemma FieldMoves.alike {message : String} {f f' : FieldDesc} (h : FieldMoves i i' message f f') :
    FieldAlike (.read i i') message f f' :=
  ⟨h.bare, ofField_eq h⟩

lemma TreesMove.alike {outer : String} {trees trees' : List MessageTree}
    (h : TreesMove i i' outer trees trees') : TreesAlike (.read i i') outer trees trees' := by
  induction h with
  | nil outer => exact .nil outer
  | cons message _ _ ihinner ihmore =>
    refine .cons ⟨message.bare, ofMessage_eq message.annotation, ?_⟩ ihinner ihmore
    exact message.fields.imp fun _ _ h => h.alike

lemma ServiceMoves.alike {package : String} {s s' : ServiceDesc}
    (h : ServiceMoves i i' package s s') : ServiceAlike (.read i i') package s s' where
  bare := h.bare
  methods := h.methods.imp fun _ _ h => ⟨h.bare, ofMethod_eq h.annotation⟩

lemma RequestMoves.alike {r r' : Request} (h : RequestMoves i i' r r') :
    RequestAlike (.read i i') r r' where
  parameter := h.parameter
  generate := h.generate
  files := h.files.imp fun _ _ h =>
    ⟨h.bare, h.messages.alike, h.services.imp fun _ _ h => h.alike⟩

/-- Where annotations come from makes no difference to a run. -/
theorem run_eq {r r' : Request} (h : RequestMoves i i' r r') : r.run i = r'.run i' :=
  run_of_alike h.alike

/-! ### Either source -/

/-- Each annotation has an aggregate, any aggregate that lists it is read as just this annotation,
and a run is the same whether the annotation is in an index or an aggregate option of its
descriptor. -/
theorem sources_agree :
    (∀ o : FieldOptions, o.FitsBounds →
      (∃ text, IsAggregateOf fieldExtension fieldFacets o [aggregateOption fieldExtension text]) ∧
        ∀ written, IsAggregateOf fieldExtension fieldFacets o written →
          readWritten fieldTable fieldExtension written = .ok (some o)) ∧
      (∀ o : MessageOptions, o.DeclaresCasings →
        (∃ text, IsAggregateOf messageExtension messageFacets o
          [aggregateOption messageExtension text]) ∧
          ∀ written, IsAggregateOf messageExtension messageFacets o written →
            readWritten messageTable messageExtension written = .ok (some o)) ∧
      (∀ o : MethodOptions, o.DeclaresMode →
        (∃ text, IsAggregateOf methodExtension methodFacets o
          [aggregateOption methodExtension text]) ∧
          ∀ written, IsAggregateOf methodExtension methodFacets o written →
            readWritten methodTable methodExtension written = .ok (some o)) ∧
      ∀ (i i' : Index) (r r' : Request), RequestMoves i i' r r' → r.run i = r'.run i' := by
  refine ⟨fun o h => ?_, fun o h => ?_, fun o h => ?_, fun _ _ _ _ => run_eq⟩
  · have valid := isValid_field.mpr h
    exact ⟨exists_isAggregate field_isMadeOf _ valid,
      fun _ => readWritten_of_isAggregate field_isMadeOf valid⟩
  · have valid := isValid_message.mpr h
    exact ⟨exists_isAggregate message_isMadeOf _ valid,
      fun _ => readWritten_of_isAggregate message_isMadeOf valid⟩
  · have valid := isValid_method.mpr h
    exact ⟨exists_isAggregate method_isMadeOf _ valid,
      fun _ => readWritten_of_isAggregate method_isMadeOf valid⟩

/-! ### A request with an annotation of each kind -/

/-- An entry for a token within a message, written without blanks. -/
def nestedText (key inner token : String) : String :=
  key ++ "\x7b" ++ inner ++ ":" ++ token ++ "\x7d"

lemma isLayout_nestedText (key inner token : String) :
    IsLayout [(key, .message [(inner, .token token)])] (nestedText key inner token) := by
  have hends : EndsToken (.token token) ([] ++ ['\x7d']) := by
    intro _ c hc
    cases hc
    decide
  have hinner : Layout (.entries (some '\x7d') [(inner, .token token)])
      (inner.toList ++ (([] ++ ':' :: []) ++ (token.toList ++ ([] ++ ['\x7d'])))) :=
    .entry (.colon _ allBlank_nil allBlank_nil) (.token token) .nil hends (.close _)
  have houter := @Layout.entry none key _ [] _ _ _ _ (.omitted rfl allBlank_nil)
    (.braced .nil hinner) .nil nofun .ended
  exact ⟨[], _, by simp [nestedText], .nil, houter⟩

lemma isAggregateOf_nestedText {α : Type} {facets : List (Facet α)} {a : α}
    (extension : String) {key inner token : String}
    (lists : Lists facets a [(key, .message [(inner, .token token)])]) :
    IsAggregateOf extension facets a
      [aggregateOption extension (nestedText key inner token)] :=
  ⟨_, _, _, List.filter_eq_self.mpr (List.forall_mem_singleton.mpr
    (by simp [aggregateOption, isFor])), rfl, rfl, isLayout_nestedText key inner token, lists⟩

def hiddenField : FieldOptions := { outbound := some { hide := true } }
def camelMessage : MessageOptions := { domain := some { naming := 2 } }
def publicMethod : MethodOptions := { auth := some { mode := 1 } }

lemma isAggregateOf_hiddenField :
    IsAggregateOf fieldExtension fieldFacets hiddenField
      [aggregateOption fieldExtension (nestedText "outbound" "hide" "true")] := by
  have hinner : Lists outboundFacets { hide := true } [("hide", .token "true")] := by
    constructor
    · simp [outboundFacets, Facet.text, Facet.flag, Facet.part]
    · simp [outboundFacets, Facet.text, Facet.flag, Facet.part, valuesOf, Facet.flagToken]
  refine isAggregateOf_nestedText _ ⟨?_, ?_⟩
  · simp [fieldFacets, Facet.part, Facet.repeated]
  · simp [fieldFacets, Facet.part, Facet.repeated, valuesOf, hiddenField, hinner]

lemma isAggregateOf_camelMessage :
    IsAggregateOf messageExtension messageFacets camelMessage
      [aggregateOption messageExtension (nestedText "domain" "naming" "NAMING_CAMEL_CASE")] := by
  have hinner : Lists layerFacets { naming := 2 } [("naming", .token "NAMING_CAMEL_CASE")] := by
    constructor
    · simp [layerFacets, Facet.flag, Facet.choice]
    · simp [layerFacets, Facet.flag, Facet.choice, valuesOf, namingNames]
  refine isAggregateOf_nestedText _ ⟨?_, ?_⟩
  · simp [messageFacets, Facet.part, Facet.repeated]
  · simp [messageFacets, Facet.part, Facet.repeated, valuesOf, camelMessage, hinner]

lemma isAggregateOf_publicMethod :
    IsAggregateOf methodExtension methodFacets publicMethod
      [aggregateOption methodExtension (nestedText "auth" "mode" "AUTH_MODE_PUBLIC")] := by
  have hinner : Lists authFacets { mode := 1 } [("mode", .token "AUTH_MODE_PUBLIC")] := by
    constructor
    · simp [authFacets, Facet.text, Facet.choice]
    · simp [authFacets, Facet.text, Facet.choice, valuesOf, authModeNames]
  refine isAggregateOf_nestedText _ ⟨?_, ?_⟩
  · simp [methodFacets, Facet.part]
  · simp [methodFacets, Facet.part, valuesOf, publicMethod, hinner]

/-- A request with a field, a message and a method that carry some options. -/
def optionsRequest (field message method : List WrittenOption) : Request where
  files := [{
    name := "user.proto"
    package := "acme"
    goPackage := some "github.com/acme/user;user"
    messages := [.node
      { name := "UserWire"
        fields := [{ name := "id", number := 1, type := .string, options := field }]
        options := message } []]
    services := [{
      name := "Users"
      methods := [{
        name := "Get"
        input := ".acme.UserWire"
        output := ".acme.UserWire"
        options := method }] }] }]
  generate := ["user.proto"]

/-- The request with its annotations as aggregates. -/
def aggregateRequest : Request :=
  optionsRequest [aggregateOption fieldExtension (nestedText "outbound" "hide" "true")]
    [aggregateOption messageExtension (nestedText "domain" "naming" "NAMING_CAMEL_CASE")]
    [aggregateOption methodExtension (nestedText "auth" "mode" "AUTH_MODE_PUBLIC")]

/-- The same annotations in an index. -/
def optionsIndex : Index where
  messages := [("acme.UserWire", camelMessage)]
  fields := [(("acme.UserWire", 1), hiddenField)]
  methods := [("acme.Users.Get", publicMethod)]

lemma optionsRequest_moves :
    RequestMoves optionsIndex {} (optionsRequest [] [] []) aggregateRequest := by
  have hqualify : qualify "acme" "UserWire" = "acme.UserWire" := by decide
  have hservice : qualify (qualify "acme" "Users") "Get" = "acme.Users.Get" := by decide
  have hfield : FieldMoves optionsIndex {} "acme.UserWire"
      { name := "id", number := 1, type := .string }
      { name := "id", number := 1, type := .string,
        options := [aggregateOption fieldExtension (nestedText "outbound" "hide" "true")] } :=
    ⟨rfl, .moves rfl (isValid_field.mpr (by simp [hiddenField, FieldOptions.FitsBounds])) rfl
      isAggregateOf_hiddenField⟩
  refine ⟨rfl, rfl, .cons ⟨rfl, .cons ⟨rfl, ?_, ?_⟩ (.nil _) (.nil _), ?_⟩ .nil⟩
  · rw [hqualify]
    exact .moves rfl (isValid_message.mpr
      (by simp [camelMessage, MessageOptions.DeclaresCasings])) rfl isAggregateOf_camelMessage
  · rw [hqualify]
    exact .cons hfield .nil
  · refine .cons ⟨rfl, .cons ⟨rfl, ?_⟩ .nil⟩ .nil
    rw [hservice]
    exact .moves rfl (isValid_method.mpr
      (by simp [publicMethod, MethodOptions.DeclaresMode])) rfl isAggregateOf_publicMethod

/-- A field that is hidden, a message in camel case and a public method make for the same run from
either source. -/
theorem annotated_sources_agree :
    readWritten fieldTable fieldExtension
        [aggregateOption fieldExtension (nestedText "outbound" "hide" "true")] =
          .ok (some hiddenField) ∧
      readWritten messageTable messageExtension
        [aggregateOption messageExtension (nestedText "domain" "naming" "NAMING_CAMEL_CASE")] =
          .ok (some camelMessage) ∧
      readWritten methodTable methodExtension
        [aggregateOption methodExtension (nestedText "auth" "mode" "AUTH_MODE_PUBLIC")] =
          .ok (some publicMethod) ∧
      (optionsRequest [] [] []).run optionsIndex = aggregateRequest.run {} := by
  obtain ⟨hfield, hmessage, hmethod, hrun⟩ := sources_agree
  have hbounds : hiddenField.FitsBounds := by simp [hiddenField, FieldOptions.FitsBounds]
  have hcasings : camelMessage.DeclaresCasings := by
    simp [camelMessage, MessageOptions.DeclaresCasings]
  have hmode : publicMethod.DeclaresMode := by simp [publicMethod, MethodOptions.DeclaresMode]
  exact ⟨(hfield _ hbounds).2 _ isAggregateOf_hiddenField,
    (hmessage _ hcasings).2 _ isAggregateOf_camelMessage,
    (hmethod _ hmode).2 _ isAggregateOf_publicMethod,
    hrun _ _ _ _ optionsRequest_moves⟩

end Laminate
