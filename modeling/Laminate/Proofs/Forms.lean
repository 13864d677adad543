import Laminate.Generate
import Laminate.Proofs.Placement
import Laminate.Proofs.Planning
import Laminate.Proofs.Typing

/-! The forms of messages that fields of other messages rely on.
A field holds messages through their forms and converts them by their methods; both have to be
generated where the messages are declared. -/
namespace Laminate.Code

/-- What pointers, slices and maps hold in the end. -/
def TypeRef.innermost : TypeRef → TypeRef
  | pointer target => target.innermost
  | slice element => element.innermost
  | map _ value => value.innermost
  | other => other

/-- The struct that a declaration is of. -/
def Decl.struct? : Decl → Option String
  | struct _ name _ => some name
  | _ => none

/-- Owner and name of the method without parameters that a declaration is of. -/
def Decl.method? : Decl → Option (String × String)
  | function _ (some receiver) name [] _ _ => some (receiver.type, name)
  | _ => none

end Laminate.Code

namespace Laminate.Form

open Laminate.Schema Laminate.Code Laminate.Descriptor Laminate.Annotation

/-! ### What a plan generates -/

namespace Plan

variable (plan : Plan)

/-- The declarations of the files that are written. -/
def decls : List Decl := plan.written.flatMap (Template.decls plan)

/-- A written file declares a struct of this name. -/
def DeclaresStruct (name : String) : Prop := name ∈ plan.decls.filterMap Decl.struct?

/-- A written file declares a method of this name, without parameters, on pointers to a struct. -/
def DeclaresMethod (owner name : String) : Prop :=
  (owner, name) ∈ plan.decls.filterMap Decl.method?

instance (name : String) : Decidable (plan.DeclaresStruct name) :=
  inferInstanceAs (Decidable (_ ∈ _))

instance (owner name : String) : Decidable (plan.DeclaresMethod owner name) :=
  inferInstanceAs (Decidable (_ ∈ _))

variable {plan} {m : PlannedMessage}

lemma mem_written {t : Template} (haddon : t.addon = none) (hcontent : t.hasContent plan = true) :
    t ∈ plan.written := by
  unfold written Template.isWritten Template.isAvailable
  rw [List.mem_filter, haddon, hcontent]
  refine ⟨?_, rfl⟩
  cases t <;> decide

lemma declaresStruct_of_mem {t : Template} (hwritten : t ∈ plan.written) {doc name : String}
    {fields : List StructField} (h : Decl.struct doc name fields ∈ Template.decls plan t) :
    plan.DeclaresStruct name :=
  List.mem_filterMap.mpr ⟨_, List.mem_flatMap.mpr ⟨t, hwritten, h⟩, rfl⟩

lemma declaresMethod_of_mem {t : Template} (hwritten : t ∈ plan.written)
    {doc receiver owner name target : String} {entries : List (String × String)}
    (h : Template.conversionMethod doc receiver owner name target entries ∈
      Template.decls plan t) :
    plan.DeclaresMethod owner name :=
  List.mem_filterMap.mpr ⟨_, List.mem_flatMap.mpr ⟨t, hwritten, h⟩, rfl⟩

lemma domain_declared (hm : m ∈ plan.messages) (hdomain : m.message.hasDomain = true) :
    plan.DeclaresStruct m.message.names.domain ∧
      plan.DeclaresMethod m.message.names.wire "IntoDomain" ∧
      plan.DeclaresMethod m.message.names.domain "IntoWire" := by
  have hmem : m ∈ plan.domainMessages := List.mem_filter.mpr ⟨hm, hdomain⟩
  have hcontent : (!plan.domainMessages.isEmpty) = true := by
    simpa using List.ne_nil_of_mem hmem
  have hstruct : Template.domainStruct m ∈ Template.decls plan .domain :=
    List.mem_flatMap.mpr ⟨m, hmem, List.mem_cons_self⟩
  have hconvert : ∀ decl ∈ Template.domainConvertDecls m,
      decl ∈ Template.decls plan .domainConvert := by
    intro decl hdecl
    exact List.mem_flatMap.mpr ⟨m, hmem, hdecl⟩
  refine ⟨declaresStruct_of_mem (t := .domain) (mem_written rfl hcontent) hstruct, ?_, ?_⟩
  · exact declaresMethod_of_mem (t := .domainConvert) (mem_written rfl hcontent)
      (hconvert _ List.mem_cons_self)
  · exact declaresMethod_of_mem (t := .domainConvert) (mem_written rfl hcontent)
      (hconvert _ (List.mem_cons_of_mem _ List.mem_cons_self))

lemma outbound_declared (hm : m ∈ plan.messages) (houtbound : m.message.hasOutbound = true) :
    plan.DeclaresStruct m.message.names.outbound ∧
      plan.DeclaresMethod m.message.names.wire "IntoOutboundOrNil" := by
  have hmem : m ∈ plan.outboundMessages := List.mem_filter.mpr ⟨hm, houtbound⟩
  have hwritten : Template.outbound ∈ plan.written :=
    mem_written rfl (by simpa [Template.hasContent] using List.ne_nil_of_mem hmem)
  have hdecls : ∀ decl ∈ Template.outboundDecls m, decl ∈ Template.decls plan .outbound := by
    intro decl hdecl
    exact List.mem_flatMap.mpr ⟨m, hmem, hdecl⟩
  constructor
  · exact declaresStruct_of_mem hwritten (hdecls _ List.mem_cons_self)
  · exact declaresMethod_of_mem hwritten (hdecls _ (List.mem_cons_of_mem _ List.mem_cons_self))

lemma inbound_declared (hm : m ∈ plan.messages) (hinbound : m.message.hasInbound = true) :
    plan.DeclaresStruct m.message.names.inbound ∧
      plan.DeclaresMethod m.message.names.inbound "IntoWireInput" := by
  have hmem : m ∈ plan.inboundMessages := List.mem_filter.mpr ⟨hm, hinbound⟩
  have hwritten : Template.inbound ∈ plan.written :=
    mem_written rfl (by simpa [Template.hasContent] using List.ne_nil_of_mem hmem)
  have hdecls : ∀ decl ∈ Template.inboundDecls m, decl ∈ Template.decls plan .inbound := by
    intro decl hdecl
    exact List.mem_flatMap.mpr ⟨m, hmem, hdecl⟩
  constructor
  · exact declaresStruct_of_mem hwritten (hdecls _ List.mem_cons_self)
  · exact declaresMethod_of_mem hwritten
      (hdecls _ (List.mem_cons_of_mem _ (List.mem_cons_of_mem _ List.mem_cons_self)))

end Plan

section

variable {request : Request} {settings : Settings} {index : Index} {home : FileDesc} {plan : Plan}
variable {d : Declaration}

/-- A plan is made of a schema that is made of the file. -/
lemma plan_ok (h : request.plan settings index home = .ok plan) :
    ∃ schema, FileSchema.load settings index request.files home = .ok schema ∧
      Plan.of settings schema = .ok plan := by
  unfold Request.plan at h
  split at h
  · cases h
  · next schema hschema => exact ⟨schema, hschema, h⟩

/-- A message of a plan, with its declaration. -/
lemma exists_declaration (h : request.plan settings index home = .ok plan) {m : PlannedMessage}
    (hm : m ∈ plan.messages) :
    ∃ symbols, symbolsOf settings.suffixes index request.files [] = .ok symbols ∧
      (∃ d ∈ home.loaded,
        (FileSchema.scope settings index request.files symbols home).message d.outer d.stem
          d.desc = .ok m.message) ∧
      m.fields.map (·.field) = m.message.fields ∧
      ∃ locations, ∀ f ∈ m.fields, (plan.planning locations).IsPlanned m.message f := by
  obtain ⟨schema, hschema, hplan⟩ := plan_ok h
  obtain ⟨-, -, symbols, hsymbols, hloaded⟩ := FileSchema.load_ok hschema
  obtain ⟨-, -, -, -, -, ⟨locations, hplanned⟩, -⟩ := Plan.of_ok hplan
  obtain ⟨message, hmessage, hok⟩ := exists_of_mem_forall₂ hplanned hm
  obtain ⟨d, hd, hdeclared⟩ := exists_of_mem_forall₂ hloaded (List.mem_of_mem_filter hmessage)
  obtain ⟨rfl, hfields, hall⟩ := Planning.message_ok hok
  exact ⟨symbols, hsymbols, ⟨d, hd, hdeclared⟩, hfields, locations, hall⟩

/-- A planned field is one that the loader makes of a descriptor of its file. -/
lemma exists_made (h : request.plan settings index home = .ok plan) {m : PlannedMessage}
    (hm : m ∈ plan.messages) {f : PlannedField} (hf : f ∈ m.fields) :
    ∃ symbols, symbolsOf settings.suffixes index request.files [] = .ok symbols ∧
      ∃ message fullName desc,
        (FileSchema.scope settings index request.files symbols home).field message fullName desc =
          .ok f.field := by
  obtain ⟨symbols, hsymbols, ⟨d, -, hdeclared⟩, hfields, -⟩ := exists_declaration h hm
  obtain ⟨-, -, -, -, -, hmembers⟩ := message_of_declared hdeclared
  have hmem : f.field ∈ m.message.fields := hfields ▸ List.mem_map_of_mem hf
  obtain ⟨desc, -, -, hmade⟩ := Scope.exists_of_mem_members hmembers (Message.mem_fields.mp hmem)
  exact ⟨symbols, hsymbols, _, _, desc, hmade⟩

/-- A declared message that has a kind is planned with its file. -/
lemma exists_planned (h : request.plan settings index home = .ok plan) (hd : d ∈ home.loaded)
    (hkind : d.kind settings.suffixes ≠ .unknown) :
    ∃ m ∈ plan.messages, m.message.names = d.names settings.suffixes ∧
      m.message.hasDomain = d.generates settings.suffixes index .domain ∧
      m.message.hasInbound = d.generates settings.suffixes index .inbound ∧
      m.message.hasOutbound = d.generates settings.suffixes index .outbound := by
  obtain ⟨schema, hschema, hplan⟩ := plan_ok h
  obtain ⟨-, -, symbols, hsymbols, hloaded⟩ := FileSchema.load_ok hschema
  obtain ⟨-, -, -, -, -, ⟨locations, hplanned⟩, -⟩ := Plan.of_ok hplan
  obtain ⟨message, hmessage, hdeclared⟩ := exists_of_forall₂_mem hloaded hd
  obtain ⟨-, -, hmkind, hnames, -, -⟩ := message_of_declared hdeclared
  have hfilter : message ∈ schema.messages.filter (·.kind != .unknown) := by
    refine List.mem_filter.mpr ⟨hmessage, ?_⟩
    rw [hmkind]
    simpa [FileSchema.scope] using hkind
  obtain ⟨m, hm, hok⟩ := exists_of_forall₂_mem hplanned hfilter
  obtain ⟨rfl, -, -⟩ := Planning.message_ok hok
  exact ⟨m, hm, hnames, generates_of_declared hdeclared⟩

/-- A form that a declaration generates is in the plan of its file. -/
lemma declaresStruct_of_generates (h : request.plan settings index home = .ok plan)
    (hd : d ∈ home.loaded) {layer : Layer} (hlayer : layer ≠ .wire)
    (hgenerates : d.generates settings.suffixes index layer = true) :
    plan.DeclaresStruct ((d.names settings.suffixes).inLayer layer) := by
  have hkind : d.kind settings.suffixes ≠ .unknown := by
    intro hunknown
    cases layer <;> simp_all [Declaration.generates]
  obtain ⟨m, hm, hnames, hdomain, hinbound, houtbound⟩ := exists_planned h hd hkind
  rw [← hnames]
  cases layer with
  | wire => exact absurd rfl hlayer
  | domain => exact (Plan.domain_declared hm (hdomain.trans hgenerates)).1
  | inbound => exact (Plan.inbound_declared hm (hinbound.trans hgenerates)).1
  | outbound => exact (Plan.outbound_declared hm (houtbound.trans hgenerates)).1

variable {direction : Direction} {target : MessageTarget}

/-- A direction reaches a message that has the forms at both of its ends. -/
lemma generates_of_reaches (refers : RefersTo settings.suffixes index target d)
    (reaches : direction.reaches target = true) :
    d.generates settings.suffixes index (formLayer target.kind direction.source) = true ∧
      d.generates settings.suffixes index (formLayer target.kind direction.target) = true := by
  have hkind := refers.kind
  have hhidden := refers.hidden
  rw [hkind]
  cases direction with
  | wireToDomain => simp_all [Direction.reaches, Direction.source, Direction.target, formLayer,
      Declaration.generates]
  | domainToWire => simp_all [Direction.reaches, Direction.source, Direction.target, formLayer,
      Declaration.generates]
  | wireToOutbound => simp_all [Direction.reaches, Direction.source, Direction.target, formLayer,
      Declaration.generates]
  | inboundToWire =>
    simp only [Direction.reaches, hkind, Bool.or_eq_true, beq_iff_eq] at reaches
    rcases reaches with hwire | hrequest
    · simp [Direction.source, Direction.target, formLayer, Declaration.generates, hwire]
    · simp [Direction.source, Direction.target, formLayer, Declaration.generates, hrequest]

/-- The method that a direction calls is in the plan of the file that declares the message. -/
lemma declaresMethod_of_reaches (h : request.plan settings index home = .ok plan)
    (hd : d ∈ home.loaded) (refers : RefersTo settings.suffixes index target d)
    (reaches : direction.reaches target = true) :
    plan.DeclaresMethod
      ((d.names settings.suffixes).inLayer (formLayer target.kind direction.source))
      (direction.method target.kind) := by
  have hunknown : d.kind settings.suffixes ≠ .unknown := by
    intro hunknown
    rw [← refers.kind] at hunknown
    cases direction <;> simp [Direction.reaches, hunknown] at reaches
  obtain ⟨m, hm, hnames, hdomain, hinbound, houtbound⟩ := exists_planned h hd hunknown
  obtain ⟨hsource, htarget⟩ := generates_of_reaches refers reaches
  rw [← hnames]
  cases direction with
  | wireToDomain => exact (Plan.domain_declared hm (hdomain.trans htarget)).2.1
  | domainToWire => exact (Plan.domain_declared hm (hdomain.trans hsource)).2.2
  | wireToOutbound => exact (Plan.outbound_declared hm (houtbound.trans htarget)).2
  | inboundToWire =>
    by_cases hrequest : target.kind = .request
    · have hlayer : formLayer target.kind Direction.inboundToWire.source = .inbound := by
        simp [formLayer, hrequest, Direction.source]
      rw [hlayer] at hsource ⊢
      rw [Direction.method, if_pos hrequest]
      exact (Plan.inbound_declared hm (hinbound.trans hsource)).2
    · have hlayer : formLayer target.kind Direction.inboundToWire.source = .domain := by
        simp [formLayer, hrequest, Direction.source]
      rw [hlayer] at hsource ⊢
      rw [Direction.method, if_neg hrequest]
      exact (Plan.domain_declared hm (hdomain.trans hsource)).2.2

/-! ### What a field relies on -/

variable {field : Field} {m : Module}

lemma innermost_type (placement : Placement) (name : String) :
    (placement.type name).innermost = placement.type name := by
  unfold Placement.type
  split <;> rfl

/-- The type of a field that holds messages names one of their forms. -/
lemma innermost_plainType (hfield : field.kind = .message target)
    (named : target.names = .derive settings.suffixes target.placement.localName target.kind)
    (layer : Layer) :
    (Viewpoint.plainType ⟨m, false⟩ field layer).innermost =
      target.placement.type (target.names.inLayer (formLayer target.kind layer)) := by
  simp only [Viewpoint.plainType, hfield, isStructural, element_message named, formType, named]
  cases field.cardinality with
  | singular => simp [raise, TypeRef.innermost, innermost_type]
  | optional => simp [raise, TypeRef.toPointer, TypeRef.innermost, innermost_type]
  | repeated => simp [raise, TypeRef.innermost, innermost_type]
  | map key => simp [raise, TypeRef.innermost, innermost_type]

/-- Without a converter of its own, a field of messages is converted by their methods and keeps
their outbound form as its type. -/
lemma outboundStep_of_message {c : Converting} {step : Step} (hflag : field.bitflag? = none)
    (nobind : ∀ options, field.options.outbound = some options → options.customBind = "")
    (h : c.outboundStep field = .ok step) :
    c.kindStep field .wireToOutbound = .ok step ∧
      Viewpoint.typeOf ⟨m, false⟩ field .outbound =
        .ok (Viewpoint.plainType ⟨m, false⟩ field .outbound) := by
  have hbind : customBind field = .ok none := by
    unfold customBind
    cases houtbound : field.options.outbound with
    | none => rfl
    | some options => simp [said, nobind options houtbound]
  unfold Converting.outboundStep at h
  rw [hflag, hbind] at h
  unfold Viewpoint.typeOf
  simp only [hflag]
  cases htype : customType field with
  | error e => simp [htype] at h
  | ok custom =>
    cases custom with
    | some reference => simp [htype] at h
    | none =>
      simp only [htype] at h
      exact ⟨h, by simp⟩

lemma elementConverter_message (c : Converting) (hfield : field.kind = .message target)
    (direction : Direction) :
    c.elementConverter field direction =
      .method (Viewpoint.element ⟨c.module, false⟩ direction.source field.kind)
        (direction.method target.kind) := by
  unfold Converting.elementConverter
  rw [hfield]
  cases direction <;> rfl

/-- A direction that a planned field of messages takes part in reaches them by their method, and
the field has their forms for its types at both ends. -/
lemma conversion_of_message {p : Planning} {message : Message} {f : PlannedField}
    (planned : p.IsPlanned message f) (hfield : f.field.kind = .message target)
    (named : target.names = .derive settings.suffixes target.placement.localName target.kind)
    (hflag : f.field.bitflag? = none)
    (nobind : ∀ options, f.field.options.outbound = some options → options.customBind = "")
    {conversion : Conversion} (h : f.conversions.along direction = some conversion) :
    direction.reaches target = true ∧
      conversion.step = .convert (liftOf f.field)
        (.method (.pointer (target.placement.type
          (target.names.inLayer (formLayer target.kind direction.source))))
          (direction.method target.kind)) ∧
      ∀ layer, layer = direction.source ∨ layer = direction.target →
        f.typeIn layer = some (Viewpoint.plainType ⟨p.module, false⟩ f.field layer) := by
  have hmade := planned.conversions direction
  rw [h] at hmade
  obtain ⟨hwanted, hconversion⟩ := onlyIf_some hmade
  obtain ⟨-, -, hstep⟩ := conversion_ok hconversion
  have hkind : p.converting.kindStep f.field direction = .ok conversion.step ∧
      ∀ layer, layer = direction.source ∨ layer = direction.target →
        Viewpoint.typeOf ⟨p.module, false⟩ f.field layer =
          .ok (Viewpoint.plainType ⟨p.module, false⟩ f.field layer) := by
    by_cases hdirection : direction = .wireToOutbound
    · subst hdirection
      rw [if_pos rfl] at hstep
      obtain ⟨hkind, htype⟩ := outboundStep_of_message (m := p.module) hflag nobind hstep
      refine ⟨hkind, ?_⟩
      rintro layer (rfl | rfl)
      · exact typeOf_of_ne_outbound _ (by decide)
      · exact htype
    · rw [if_neg hdirection] at hstep
      refine ⟨hstep, ?_⟩
      rintro layer (rfl | rfl) <;> refine typeOf_of_ne_outbound _ ?_ <;>
        cases direction <;> simp_all [Direction.source, Direction.target]
  obtain ⟨hconvert, hreaches⟩ := kindStep_ok hkind.1
  refine ⟨hreaches target hfield, ?_, ?_⟩
  · rw [hconvert, elementConverter_message _ hfield, hfield, element_message named, formType, named]
  · intro layer hlayer
    have htype := planned.types layer
    rw [hkind.2 layer hlayer] at htype
    have hholds : holds message f.field layer = true := by
      by_cases hwire : layer = .wire
      · rw [hwire]
        rfl
      · rw [converts_eq_holds message f.field hlayer hwire, hwanted]
    rw [hholds] at htype
    simpa [onlyIf, Except.map, eq_comm] using htype

/-- A type in a layer other than the wire layer comes with a conversion to or from it. -/
lemma exists_conversion {p : Planning} {message : Message} {f : PlannedField}
    (planned : p.IsPlanned message f) {layer : Layer} (hlayer : layer ≠ .wire) {type : TypeRef}
    (htype : f.typeIn layer = some type) :
    ∃ direction conversion, f.conversions.along direction = some conversion ∧
      (layer = direction.source ∨ layer = direction.target) := by
  have hmade := planned.types layer
  rw [htype] at hmade
  obtain ⟨hholds, -⟩ := onlyIf_some hmade
  obtain ⟨direction, hdirection⟩ :
      ∃ direction : Direction, layer = direction.source ∨ layer = direction.target := by
    cases layer with
    | wire => exact absurd rfl hlayer
    | domain => exact ⟨.wireToDomain, .inr rfl⟩
    | inbound => exact ⟨.inboundToWire, .inl rfl⟩
    | outbound => exact ⟨.wireToOutbound, .inr rfl⟩
  have hconverted := planned.conversions direction
  rw [← converts_eq_holds message f.field hdirection hlayer, hholds] at hconverted
  rcases onlyIf_eq_ok.mp hconverted with ⟨-, conversion, -, hsome⟩ | ⟨hfalse, -⟩
  · exact ⟨direction, conversion, hsome, hdirection⟩
  · cases hfalse

/-- A field names messages by forms that are generated for their declaration, and converts them by
methods of such forms. -/
structure NamesForms (settings : Settings) (index : Index) (f : PlannedField)
    (target : MessageTarget) (d : Declaration) : Prop where
  kind : target.kind = d.kind settings.suffixes
  types (layer : Layer) (type : TypeRef) : f.typeIn layer = some type →
    type.innermost = target.placement.type (target.names.inLayer (formLayer target.kind layer)) ∧
      d.generates settings.suffixes index (formLayer target.kind layer) = true
  calls (direction : Direction) (conversion : Conversion) :
    f.conversions.along direction = some conversion →
      conversion.step = .convert (liftOf f.field)
        (.method (.pointer (target.placement.type
          (target.names.inLayer (formLayer target.kind direction.source))))
          (direction.method target.kind)) ∧
      d.generates settings.suffixes index (formLayer target.kind direction.source) = true

/-- A plan writes the forms that a field names, and the methods that it calls, under some names. -/
structure WritesForms (written : Plan) (f : PlannedField) (kind : MessageKind)
    (names : LayerNames) : Prop where
  structs (layer : Layer) (type : TypeRef) : f.typeIn layer = some type → layer ≠ .wire →
    written.DeclaresStruct (names.inLayer (formLayer kind layer))
  methods (direction : Direction) (conversion : Conversion) :
    f.conversions.along direction = some conversion →
      written.DeclaresMethod (names.inLayer (formLayer kind direction.source))
        (direction.method kind)

section

variable {p : Planning} {message : Message} {f : PlannedField}

/-- A field without a converter of its own names only forms that there are. -/
lemma namesForms (planned : p.IsPlanned message f) (hfield : f.field.kind = .message target)
    (refers : RefersTo settings.suffixes index target d) (hflag : f.field.bitflag? = none)
    (nobind : ∀ options, f.field.options.outbound = some options → options.customBind = "") :
    NamesForms settings index f target d := by
  refine ⟨refers.kind, ?_, ?_⟩
  · intro layer type htype
    by_cases hwire : layer = .wire
    · subst hwire
      have hplain := planned.types .wire
      rw [typeOf_of_ne_outbound _ (by decide)] at hplain
      obtain ⟨-, hmade⟩ := onlyIf_some (htype ▸ hplain)
      cases hmade
      exact ⟨innermost_plainType hfield refers.named .wire, rfl⟩
    · obtain ⟨direction, conversion, hconversion, hlayer⟩ := exists_conversion planned hwire htype
      obtain ⟨reaches, -, htypes⟩ :=
        conversion_of_message planned hfield refers.named hflag nobind hconversion
      obtain ⟨hsource, htarget⟩ := generates_of_reaches refers reaches
      rw [htypes layer hlayer] at htype
      cases htype
      refine ⟨innermost_plainType hfield refers.named layer, ?_⟩
      rcases hlayer with rfl | rfl
      · exact hsource
      · exact htarget
  · intro direction conversion hconversion
    obtain ⟨reaches, hstep, -⟩ :=
      conversion_of_message planned hfield refers.named hflag nobind hconversion
    exact ⟨hstep, (generates_of_reaches refers reaches).1⟩

/-- The plan of the declaring file writes what the field names and calls. -/
lemma writesForms (planned : p.IsPlanned message f) (hfield : f.field.kind = .message target)
    (refers : RefersTo settings.suffixes index target d) (hflag : f.field.bitflag? = none)
    (nobind : ∀ options, f.field.options.outbound = some options → options.customBind = "")
    {written : Plan} (hwritten : request.plan settings index home = .ok written)
    (hd : d ∈ home.loaded) :
    WritesForms written f target.kind (d.names settings.suffixes) := by
  have hnames := namesForms planned hfield refers hflag nobind
  refine ⟨?_, ?_⟩
  · intro layer type htype hlayer
    refine declaresStruct_of_generates hwritten hd ?_ (hnames.types layer type htype).2
    unfold formLayer
    split
    · simp
    · exact hlayer
  · intro direction conversion hconversion
    obtain ⟨reaches, -, -⟩ :=
      conversion_of_message planned hfield refers.named hflag nobind hconversion
    exact declaresMethod_of_reaches hwritten hd refers reaches

end

/-- The forms that a field of messages names, and the methods by which it converts them, are
generated for the messages and written with the file that declares them. They are named as they are
declared, in the module registered for their package, where the full name can be read back. -/
theorem forms_generated (hplan : request.plan settings index home = .ok plan)
    {m : PlannedMessage} (hm : m ∈ plan.messages) {f : PlannedField} (hf : f ∈ m.fields)
    (hfield : f.field.kind = .message target)
    (nobind : ∀ options, f.field.options.outbound = some options → options.customBind = "") :
    ∃ origin ∈ request.files, ∃ d ∈ origin.declarations, target.typeName = d.typeName ∧
      NamesForms settings index f target d ∧
      (d.inEntry = false → ∀ written, request.plan settings index origin = .ok written →
        WritesForms written f target.kind (d.names settings.suffixes)) ∧
      (d.IsAddressable request.files →
        target.names = d.names settings.suffixes ∧
        ∃ owner, plan.registry.find? d.package = some owner ∧
          target.placement =
            { module := d.package
              localName := d.wireName
              isLocal := d.package == plan.module.package || owner.goPath == plan.module.goPath
              goName := plan.registry.qualifier owner } ∧
          ((∀ other ∈ request.files, other.package = d.package →
            Module.ofFile other = Module.ofFile origin) → owner = Module.ofFile origin)) := by
  obtain ⟨-, -, -, -, locations, hplanned⟩ := exists_declaration hplan hm
  have planned := hplanned f hf
  -- the field is one of the file's, so its target is a symbol of the request
  obtain ⟨symbols, hsymbols, _, _, desc, hmade⟩ := exists_made hplan hm hf
  obtain ⟨⟨element, helement⟩, hfault⟩ := Scope.field_ok hmade
  rw [hfield] at helement
  obtain ⟨hplacement, origin, horigin, d, hd, refers⟩ := exists_refersTo hsymbols helement
  have hflag : f.field.bitflag? = none :=
    Field.bitflag?_of_fault?_eq_none hfault (by simp [hfield])
  refine ⟨origin, horigin, d, hd, refers.typeName,
    namesForms planned hfield refers hflag nobind, ?_, ?_⟩
  · intro hentry written hwritten
    exact writesForms planned hfield refers hflag nobind hwritten
      (List.mem_filter.mpr ⟨hd, by simp [hentry]⟩)
  · intro addressable
    obtain ⟨schema, hschema, hof⟩ := plan_ok hplan
    obtain ⟨hmodule, hregistry, -⟩ := FileSchema.load_ok hschema
    obtain ⟨-, hplanModule, hplanRegistry, -⟩ := Plan.of_ok hof
    have hpackage : d.package = origin.package := package_of_mem_declarations hd
    obtain ⟨owner, howner, hownerPackage, hfind⟩ := Registry.exists_registered horigin
    rw [← hpackage] at hownerPackage hfind
    have hplace := Registry.place_typeName addressable howner hownerPackage (Module.ofFile home)
    rw [refers.typeName] at hplacement
    have hplaced := hplacement.trans hplace
    refine ⟨?_, owner, ?_, ?_, ?_⟩
    · rw [refers.named, hplaced, refers.kind]
      rfl
    · rw [hplanRegistry, hregistry, hfind]
    · rw [hplanRegistry, hregistry, hplanModule, hmodule, hplaced, package_ofFile]
    · intro shared
      obtain ⟨other, hother, rfl⟩ := Registry.exists_file howner
      rw [package_ofFile] at hownerPackage
      exact shared other hother hownerPackage

end

/-! ### Requests -/

/-- A file whose generated package is called like the file. -/
def packageFile (name package : String) (messages : List MessageTree) : FileDesc where
  name := name ++ ".proto"
  package := package
  goPackage := some ("github.com/acme/" ++ name ++ ";" ++ name)
  messages := messages

/-- A message with a single field, which holds messages of a type. -/
def holder (name typeName : String) (nested : List MessageTree) : MessageTree :=
  .node { name := name, fields := [{ name := "home", type := .message, typeName := typeName }] }
    nested

/-- A plan has a field without annotations whose type in a layer is written so. -/
def Plan.hasType (plan : Plan) (layer : Layer) (text : String) : Bool :=
  plan.messages.any fun m => m.fields.any fun f =>
    decide (f.field.options = {}) && (f.typeIn layer).map TypeRef.text == some text

/-- A file of a package that uses another one, which goes on where the first one ends. -/
def nestedHome : FileDesc :=
  packageFile "user" "acme" [holder "UserResponse" ".acme.common.Directory.AddressWire" []]

/-- A message within a message. -/
def nestedOrigin : FileDesc :=
  packageFile "common" "acme.common"
    [.node { name := "Directory" } [.node { name := "AddressWire" } []]]

/-- The modules of two files, in their order. -/
lemma ofFiles_pair {files : List FileDesc} {m m' : Module}
    (h : Registry.distinct [] (files.map Module.ofFile) = [m, m']) :
    Registry.ofFiles files =
      let modules := if Registry.precedes m m' then [m, m'] else [m', m]
      ⟨modules, Registry.assignQualifiers modules⟩ := by
  have hsort : [m, m'].mergeSort Registry.precedes =
      if Registry.precedes m m' then [m, m'] else [m', m] := by
    rw [List.mergeSort]
    simp [List.merge]
  unfold Registry.ofFiles
  rw [h, hsort]

lemma registry_nested :
    Registry.ofFiles [nestedHome, nestedOrigin] =
      { modules := [⟨"acme.common", "common", "github.com/acme/common"⟩,
          ⟨"acme", "user", "github.com/acme/user"⟩]
        qualifiers := [("github.com/acme/user", "user"), ("github.com/acme/common", "common")] } :=
  (ofFiles_pair rfl).trans rfl

/-- The messages of files do not matter to their modules. -/
lemma ofFiles_eq_nested {files : List FileDesc}
    (h : files.map Module.ofFile = [Module.ofFile nestedHome, Module.ofFile nestedOrigin]) :
    Registry.ofFiles files =
      { modules := [⟨"acme.common", "common", "github.com/acme/common"⟩,
          ⟨"acme", "user", "github.com/acme/user"⟩]
        qualifiers :=
          [("github.com/acme/user", "user"), ("github.com/acme/common", "common")] } := by
  unfold Registry.ofFiles
  rw [h]
  exact registry_nested

def nestedRequest : Request := ⟨[nestedHome, nestedOrigin], none, []⟩

/-- The only message of its full name. -/
def nestedAddress : Declaration := ⟨"acme.common", ["Directory"], { name := "AddressWire" }, false⟩

lemma nestedAddress_isAddressable : nestedAddress.IsAddressable nestedRequest.files := by
  refine ⟨by decide, by decide +kernel, by decide +kernel, ?_⟩
  intro file hfile k hpos hle
  have hk : k = 1 := by
    have : nestedAddress.path.length = 1 := rfl
    omega
  subst hk
  revert file
  decide +kernel

lemma eq_nestedAddress {origin : FileDesc} (horigin : origin ∈ nestedRequest.files)
    {d : Declaration} (hd : d ∈ origin.declarations) (h : nestedAddress.typeName = d.typeName) :
    origin = nestedOrigin ∧ d = nestedAddress := by
  rcases List.mem_cons.mp horigin with rfl | horigin
  · have hd : d = ⟨"acme", [], nestedHome.messages[0].desc, false⟩ := List.mem_singleton.mp hd
    subst hd
    exact absurd h (by decide +kernel)
  · obtain rfl := List.mem_singleton.mp horigin
    refine ⟨rfl, ?_⟩
    rcases List.mem_cons.mp hd with rfl | hd
    · exact absurd h (by decide +kernel)
    · exact List.mem_singleton.mp hd

/-- The element of a field is the wire message of a full name. -/
def holdsWire (typeName : String) (f : Field) : Bool :=
  match f.kind with
  | .message target => target.typeName == typeName && target.kind == .wire
  | _ => false

/-- A nested message of another package is found under its own name, and its form is written. -/
theorem nested_forms_generated :
    ∃ plan written m f target, nestedRequest.plan {} {} nestedHome = .ok plan ∧
      nestedRequest.plan {} {} nestedOrigin = .ok written ∧
      m ∈ plan.messages ∧ f ∈ m.fields ∧ f.field.kind = .message target ∧
      (f.typeIn .outbound).map TypeRef.text = some "*common.Directory_AddressOutbound" ∧
      target.names = nestedAddress.names {} ∧ WritesForms written f .wire target.names := by
  have hhome : (nestedRequest.plan {} {} nestedHome).toOption.any (fun plan =>
      plan.messages.any fun m => m.fields.any fun f =>
        (f.typeIn .outbound).map TypeRef.text == some "*common.Directory_AddressOutbound" &&
        decide (f.field.options = {}) && holdsWire nestedAddress.typeName f.field) = true := by
    unfold Request.plan FileSchema.load nestedRequest
    rw [registry_nested]
    decide +kernel
  have horigin : (nestedRequest.plan {} {} nestedOrigin).toOption.any (fun _ => true) = true := by
    decide +kernel
  obtain ⟨plan, hplan, hcheck⟩ := exists_of_check hhome
  obtain ⟨written, hwritten, -⟩ := exists_of_check horigin
  obtain ⟨m, hm, hcheck⟩ := List.any_eq_true.mp hcheck
  obtain ⟨f, hf, hcheck⟩ := List.any_eq_true.mp hcheck
  cases hkind : f.field.kind with
  | message target =>
    simp only [holdsWire, hkind, Bool.and_eq_true, beq_iff_eq, decide_eq_true_eq] at hcheck
    obtain ⟨⟨htype, hoptions⟩, htypeName, htarget⟩ := hcheck
    obtain ⟨origin, horigin, d, hd, hname, -, hwrites, hnamed⟩ :=
      forms_generated hplan hm hf hkind (by simp [hoptions])
    obtain ⟨rfl, rfl⟩ := eq_nestedAddress horigin hd (htypeName ▸ hname)
    obtain ⟨hnames, -⟩ := hnamed nestedAddress_isAddressable
    refine ⟨plan, written, m, f, target, hplan, hwritten, hm, hf, hkind, htype, hnames, ?_⟩
    rw [hnames, ← htarget]
    exact hwrites rfl written hwritten
  | _ => simp [holdsWire, hkind] at hcheck

/-- Under distinct names, a plan writes an outbound type for the package of a file whose own plan
does not declare the struct. -/
def Dangles (request : Request) (home origin : FileDesc) (type struct : String) : Prop :=
  ((request.files.flatMap FileDesc.declarations).map Declaration.fullName).Nodup ∧
    ∃ plan written, request.plan {} {} home = .ok plan ∧ request.plan {} {} origin = .ok written ∧
      plan.hasType .outbound type = true ∧ ¬ written.DeclaresStruct struct

/-- A message without a package, which a package uses. -/
def unpackagedRequest : Request where
  files := [packageFile "user" "acme" [holder "UserResponse" ".AddressWire" []],
    packageFile "common" "" [.node { name := "AddressWire" } []]]
  generate := []

/-- A nested message whose full name another package goes on to. -/
def shadowedRequest : Request where
  files := [packageFile "user" "acme"
      [holder "UserResponse" ".acme.common.AddressWire" [],
        .node { name := "common" } [.node { name := "AddressWire" } []]],
    packageFile "common" "acme.common" []]
  generate := []

/-- A map entry that a field holds as a message. -/
def entryRequest : Request where
  files := [packageFile "user" "acme"
    [holder "UserResponse" ".acme.UserResponse.HomeWire"
      [.node { name := "HomeWire", isMapEntry := true } []]]]
  generate := []

lemma registry_unpackaged :
    Registry.ofFiles unpackagedRequest.files =
      { modules := [⟨"acme", "user", "github.com/acme/user"⟩,
          ⟨"", "common", "github.com/acme/common"⟩]
        qualifiers := [("github.com/acme/user", "user"), ("github.com/acme/common", "common")] } :=
  (ofFiles_pair rfl).trans rfl

/-- A message without a package is written as if it were the user's own, a shadowed one as if it
were the other package's, and a map entry as if it were a message. -/
theorem dangling_forms :
    Dangles unpackagedRequest unpackagedRequest.files[0] unpackagedRequest.files[0]
        "*AddressOutbound" "AddressOutbound" ∧
      Dangles shadowedRequest shadowedRequest.files[0] shadowedRequest.files[1]
        "*common.AddressOutbound" "AddressOutbound" ∧
      Dangles entryRequest entryRequest.files[0] entryRequest.files[0]
        "*UserResponse_HomeOutbound" "UserResponse_HomeOutbound" := by
  refine ⟨⟨by decide +kernel, ?_⟩, ⟨by decide +kernel, ?_⟩, ⟨by decide +kernel, ?_⟩⟩
  · have h : (unpackagedRequest.plan {} {} unpackagedRequest.files[0]).toOption.any (fun plan =>
        plan.hasType .outbound "*AddressOutbound" &&
          !decide (plan.DeclaresStruct "AddressOutbound")) = true := by
      unfold Request.plan FileSchema.load
      rw [registry_unpackaged]
      decide +kernel
    obtain ⟨plan, hplan, hcheck⟩ := exists_of_check h
    exact ⟨plan, plan, hplan, hplan, by simpa using hcheck⟩
  · have h : (shadowedRequest.plan {} {} shadowedRequest.files[0]).toOption.any
        (·.hasType .outbound "*common.AddressOutbound") = true := by
      unfold Request.plan FileSchema.load
      rw [ofFiles_eq_nested (by rfl)]
      decide +kernel
    have h' : (shadowedRequest.plan {} {} shadowedRequest.files[1]).toOption.any
        (fun plan => !decide (plan.DeclaresStruct "AddressOutbound")) = true := by
      decide +kernel
    obtain ⟨plan, hplan, hcheck⟩ := exists_of_check h
    obtain ⟨written, hwritten, hcheck'⟩ := exists_of_check h'
    exact ⟨plan, written, hplan, hwritten, hcheck, by simpa using hcheck'⟩
  · have h : (entryRequest.plan {} {} entryRequest.files[0]).toOption.any (fun plan =>
        plan.hasType .outbound "*UserResponse_HomeOutbound" &&
          !decide (plan.DeclaresStruct "UserResponse_HomeOutbound")) = true := by
      decide +kernel
    obtain ⟨plan, hplan, hcheck⟩ := exists_of_check h
    exact ⟨plan, plan, hplan, hplan, by simpa using hcheck⟩

end Laminate.Form
