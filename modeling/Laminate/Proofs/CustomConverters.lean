import Laminate.Proofs.Evaluation
import Laminate.Proofs.Forms

/-! Custom converters of outbound fields.
An annotation may name a function for the elements of a field, and a type for what it makes of them.
The function is applied as the cardinality of the field asks for. -/
namespace Laminate.Form

open Laminate.Schema Laminate.Code Laminate.Descriptor Laminate.Annotation

/-! ### One function -/

/-- Types of expressions over variables whose fields have the types `fields`, in which a function
from one type to another is applied. -/
inductive HasBoundType (helpers : String) (fields : String → String → Option TypeRef) (f : Expr)
    (source target : TypeRef) : Expr → TypeRef → Prop
  | select {receiver name : String} {type : TypeRef} (known : fields receiver name = some type) :
    HasBoundType helpers fields f source target (.select (.ident receiver) name) type
  | call {e : Expr} (argument : HasBoundType helpers fields f source target e source) :
    HasBoundType helpers fields f source target (.call f [e]) target
  | mapSlice {e : Expr} (argument : HasBoundType helpers fields f source target e (.slice source)) :
    HasBoundType helpers fields f source target (.call (.member helpers "MapSlice") [e, f])
      (.slice target)
  | mapValues {e : Expr} {key : TypeRef}
    (argument : HasBoundType helpers fields f source target e (.map key source)) :
    HasBoundType helpers fields f source target (.call (.member helpers "MapValues") [e, f])
      (.map key target)
  | mapPtr {e : Expr} (argument : HasBoundType helpers fields f source target e (.pointer source)) :
    HasBoundType helpers fields f source target (.call (.member helpers "MapPtr") [e, f])
      (.pointer target)

section

variable {helpers receiver name : String} {fields : String → String → Option TypeRef}
variable {source target given type : TypeRef}

lemma HasBoundType.of_select {f : Expr} (known : fields receiver name = some given)
    (h : HasBoundType helpers fields f source target (.select (.ident receiver) name) type) :
    given = type := by
  cases h with
  | select known' => exact Option.some.inj (known.symm.trans known')

lemma HasBoundType.of_helper {f e : Expr} {lift : Lift} {helper : String}
    (hhelper : lift.helper = some helper)
    (h : HasBoundType helpers fields f source target (.call (.member helpers helper) [e, f]) type) :
    ∃ key, HasBoundType helpers fields f source target e (lift.over key source) ∧
      type = lift.over key target := by
  cases h with
  | mapSlice argument =>
    obtain rfl : lift = .eachItem := by cases lift <;> simp_all [Lift.helper]
    exact ⟨.time, argument, rfl⟩
  | mapValues argument =>
    obtain rfl : lift = .eachValue := by cases lift <;> simp_all [Lift.helper]
    exact ⟨_, argument, rfl⟩
  | mapPtr argument =>
    obtain rfl : lift = .present := by cases lift <;> simp_all [Lift.helper]
    exact ⟨.time, argument, rfl⟩

/-- A function is applied through a lift to just as many of its elements as it makes. -/
lemma hasBoundType_lifted_iff {f : Expr} {lift : Lift} (known : fields receiver name = some given) :
    HasBoundType helpers fields f source target
        ((Converter.function f).lifted helpers lift (.select (.ident receiver) name)) type ↔
      ∃ key, given = lift.over key source ∧ type = lift.over key target := by
  constructor
  · intro h
    cases hhelper : lift.helper with
    | none =>
      obtain rfl : lift = .plain := by cases lift <;> simp_all [Lift.helper]
      cases h with
      | call argument => exact ⟨.time, argument.of_select known, rfl⟩
    | some helper =>
      simp only [Converter.lifted, hhelper] at h
      obtain ⟨key, argument, rfl⟩ := HasBoundType.of_helper hhelper h
      exact ⟨key, argument.of_select known, rfl⟩
  · rintro ⟨key, rfl, rfl⟩
    cases lift with
    | plain => exact .call (.select known)
    | eachItem => exact .mapSlice (.select known)
    | eachValue => exact .mapValues (.select known)
    | present => exact .mapPtr (.select known)

end

/-! ### Fields -/

/-- A type is given by annotation for the outbound layer. -/
def hasCustomType (field : Field) : Bool :=
  (field.options.outbound.bind fun o => said o.customType).isSome

/-- The type of an element in the outbound layer; an annotation comes before the field's kind. -/
def Viewpoint.outboundElement (view : Viewpoint) (field : Field) : Except GenError TypeRef :=
  (customType field).map fun custom =>
    match custom with
    | some custom => .qualified custom.package custom.name
    | none => view.element .outbound field.kind

/-- A custom converter fits a field that cannot be missing, an optional enum, and an optional field
without a type that is given whose elements need no pointer to be missing. -/
def fitsBind (field : Field) : Bool :=
  !field.isOptional || field.isEnum ||
    !hasCustomType field &&
      match field.kind with
      | .scalar _ | .wellKnown .timestamp => false
      | _ => true

/-- The outbound type of a field by that of its element. What is its own absence stays as it is. -/
def outboundRaised (field : Field) (element : TypeRef) : TypeRef :=
  if field.isOptional && isStructural field.kind && !hasCustomType field then element
  else raise element field.cardinality

section

variable {field : Field} {element : TypeRef} {m : Module}

/-- An element is of the type that is given, or else of the type that its kind has. -/
lemma outboundElement_cases {view : Viewpoint} (h : view.outboundElement field = .ok element) :
    (∃ custom, customType field = .ok (some custom) ∧ hasCustomType field = true ∧
      element = .qualified custom.package custom.name) ∨
    customType field = .ok none ∧ hasCustomType field = false ∧
      element = view.element .outbound field.kind := by
  obtain ⟨custom, hcustom, rfl⟩ := map_eq_ok.mp h
  have hcustom' := hcustom
  unfold customType at hcustom'
  unfold hasCustomType
  split at hcustom'
  · next hnone =>
    cases hcustom'
    exact .inr ⟨hcustom, by rw [hnone]; rfl, rfl⟩
  · next text hsome =>
    split at hcustom'
    · cases hcustom'
      exact .inl ⟨_, hcustom, by rw [hsome]; rfl, rfl⟩
    · cases hcustom'

lemma outboundRaised_plain {view : Viewpoint} (hcustom : hasCustomType field = false) :
    outboundRaised field (view.element .outbound field.kind) = view.plainType field .outbound := by
  simp [outboundRaised, Viewpoint.plainType, Field.isOptional, hcustom]

lemma typeOf_outbound {view : Viewpoint} (hflag : field.bitflag? = none)
    (h : view.outboundElement field = .ok element) :
    view.typeOf field .outbound = .ok (outboundRaised field element) := by
  unfold Viewpoint.typeOf
  rw [if_pos rfl, hflag]
  rcases outboundElement_cases h with ⟨custom, hcustom, hhas, rfl⟩ | ⟨hcustom, hhas, rfl⟩
  · simp [hcustom, hhas, outboundRaised]
  · simp [hcustom, outboundRaised_plain hhas]

/-- An optional field of another kind than enums keeps its converter as it is. A type that is given
is behind a pointer then, and so are scalars and points in time. -/
lemma plain_iff_fitsBind (h : Viewpoint.outboundElement ⟨m, false⟩ field = .ok element)
    (hcard : field.cardinality = .optional) (henum : field.isEnum = false) :
    (Viewpoint.plainType ⟨m, false⟩ field .wire = Viewpoint.element ⟨m, false⟩ .wire field.kind ∧
      outboundRaised field element = element) ↔ fitsBind field = true := by
  have hoptional : field.isOptional = true := by simp [Field.isOptional, hcard]
  rcases outboundElement_cases h with ⟨custom, -, hhas, rfl⟩ | ⟨-, hhas, rfl⟩
  · refine iff_of_false ?_ (by simp [fitsBind, hoptional, henum, hhas])
    rintro ⟨-, hraised⟩
    simp [outboundRaised, hhas, hcard, raise, TypeRef.toPointer] at hraised
  · rw [outboundRaised_plain hhas]
    cases hkind : field.kind with
    | enum typeName placement => simp [Field.isEnum, hkind] at henum
    | scalar scalar =>
      refine iff_of_false ?_ (by simp [fitsBind, hoptional, henum, hkind])
      rintro ⟨hwire, -⟩
      simp [Viewpoint.plainType, Viewpoint.element, hcard, hkind, raise, TypeRef.toPointer] at hwire
    | message target =>
      rw [← hkind]
      have hplain := plainType_optional (m := m) hcard (.inr ⟨target, hkind⟩)
      exact iff_of_true ⟨hplain _, hplain _⟩ (by simp [fitsBind, hhas, hkind])
    | wellKnown type =>
      by_cases htime : type = .timestamp
      · subst htime
        refine iff_of_false ?_ (by simp [fitsBind, hoptional, henum, hkind])
        rintro ⟨-, hraised⟩
        simp [Viewpoint.plainType, Viewpoint.element, wellKnownType, hcard, hkind, isStructural,
          raise, TypeRef.toPointer, TypeRef.time] at hraised
      · rw [← hkind]
        have hplain := plainType_optional (m := m) hcard (.inl ⟨type, hkind, htime⟩)
        refine iff_of_true ⟨hplain _, hplain _⟩ ?_
        cases type <;> simp_all [fitsBind]

/-- An enum has no pointer of its own, so that an optional one has just the pointer that is lifted
over. -/
lemma present_of_isEnum (h : Viewpoint.outboundElement ⟨m, false⟩ field = .ok element)
    (hcard : field.cardinality = .optional) (henum : field.isEnum = true) :
    Viewpoint.plainType ⟨m, false⟩ field .wire =
        .pointer (Viewpoint.element ⟨m, false⟩ .wire field.kind) ∧
      outboundRaised field element = .pointer element := by
  obtain ⟨typeName, placement, hkind⟩ :
      ∃ typeName placement, field.kind = .enum typeName placement := by
    cases hkind : field.kind <;> simp_all [Field.isEnum]
  refine ⟨plainType_optional_enum hcard hkind _, ?_⟩
  have hraised : outboundRaised field element = element.toPointer := by
    simp [outboundRaised, hcard, hkind, isStructural, raise]
  rw [hraised]
  rcases outboundElement_cases h with ⟨custom, -, -, rfl⟩ | ⟨-, -, rfl⟩
  · rfl
  · rw [hkind]
    rfl

/-- The types in the wire layer and in the outbound layer are of as many elements as the converter
is applied to. -/
lemma lifts_iff_fitsBind (h : Viewpoint.outboundElement ⟨m, false⟩ field = .ok element) :
    (∃ key, Viewpoint.plainType ⟨m, false⟩ field .wire =
        (liftOf field).over key (Viewpoint.element ⟨m, false⟩ .wire field.kind) ∧
      outboundRaised field element = (liftOf field).over key element) ↔
        fitsBind field = true := by
  cases hoptional : field.isOptional with
  | false =>
    refine iff_of_true ⟨keyType field, plainType_of_not_optional hoptional _ _, ?_⟩
      (by simp [fitsBind, hoptional])
    rw [outboundRaised, hoptional]
    exact raise_of_not_optional hoptional element
  | true =>
    have hcard : field.cardinality = .optional := by simpa [Field.isOptional] using hoptional
    cases henum : field.isEnum with
    | false =>
      have hlift : liftOf field = .plain := by simp [liftOf, hcard, henum]
      rw [← plain_iff_fitsBind h hcard henum, hlift]
      constructor
      · rintro ⟨_, hwire, hraised⟩
        exact ⟨hwire, hraised⟩
      · intro hplain
        exact ⟨.time, hplain⟩
    | true =>
      have hlift : liftOf field = .present := by simp [liftOf, hcard, henum]
      rw [hlift]
      exact iff_of_true ⟨.time, present_of_isEnum h hcard henum⟩ (by simp [fitsBind, henum])

lemma exists_outboundElement {view : Viewpoint} {type : TypeRef} (hflag : field.bitflag? = none)
    (h : view.typeOf field .outbound = .ok type) :
    ∃ element, view.outboundElement field = .ok element ∧ type = outboundRaised field element := by
  cases helement : view.outboundElement field with
  | ok element =>
    rw [typeOf_outbound hflag helement] at h
    exact ⟨element, rfl, (Except.ok.inj h).symm⟩
  | error e =>
    have hcustom : customType field = .error e := by
      unfold Viewpoint.outboundElement at helement
      cases hcustom : customType field <;> simp_all [Except.map]
    simp [Viewpoint.typeOf, hflag, hcustom] at h

/-- A custom converter goes before everything that the kind of the field asks for. -/
lemma outboundStep_of_bind {c : Converting} {step : Step} {options : OutboundField}
    (hoptions : field.options.outbound = some options) (hbind : options.customBind ≠ "")
    (hflag : field.bitflag? = none) (h : c.outboundStep field = .ok step) :
    ∃ bind, Reference.parse? options.customBind = some bind ∧
      step = .convert (liftOf field) (.function (.member bind.package bind.name)) := by
  have hsaid : (field.options.outbound.bind fun o => said o.customBind) =
      some options.customBind := by
    simp [hoptions, said, hbind]
  unfold Converting.outboundStep customBind at h
  rw [hflag, hsaid] at h
  cases hparse : Reference.parse? options.customBind with
  | none => simp [hparse] at h
  | some bind =>
    simp only [hparse, Except.ok.injEq] at h
    exact ⟨bind, rfl, h.symm⟩

/-- A type that is given is all that the outbound type names. -/
lemma innermost_outboundRaised {view : Viewpoint} (h : view.outboundElement field = .ok element)
    (hcustom : hasCustomType field = true) :
    (outboundRaised field element).innermost = element := by
  rcases outboundElement_cases h with ⟨custom, -, -, rfl⟩ | ⟨-, hhas, -⟩
  · unfold outboundRaised
    simp only [hcustom, Bool.not_true, Bool.and_false, Bool.false_eq_true, if_false]
    cases field.cardinality <;> rfl
  · simp [hhas] at hcustom

/-! ### Plans -/

/-- The outbound type of a planned field with a custom converter, and the conversion that it comes
with. -/
lemma boundConversion {p : Planning} {message : Message} {f : PlannedField}
    (planned : p.IsPlanned message f) {options : OutboundField}
    (hoptions : f.field.options.outbound = some options) (hbind : options.customBind ≠ "")
    (hflag : f.field.bitflag? = none) {type : TypeRef} (htype : f.outbound = some type) :
    ∃ bind element conversion, Reference.parse? options.customBind = some bind ∧
      Viewpoint.outboundElement ⟨p.module, false⟩ f.field = .ok element ∧
      type = outboundRaised f.field element ∧ f.conversions.intoOutbound = some conversion ∧
      ∀ fields : String → String → Option TypeRef, fields "w" f.field.goName = some f.wire →
        (HasBoundType p.settings.converters.name fields (.member bind.package bind.name)
            (Viewpoint.element ⟨p.module, false⟩ .wire f.field.kind) element conversion.expr
            type ↔ fitsBind f.field = true) := by
  have hin : f.typeIn .outbound = some type := htype
  obtain ⟨-, hmade⟩ := onlyIf_some (hin ▸ planned.types .outbound)
  obtain ⟨element, helement, rfl⟩ := exists_outboundElement hflag hmade
  obtain ⟨direction, conversion, hconversion, hlayer⟩ :=
    exists_conversion planned (by decide) hin
  obtain rfl : direction = .wireToOutbound := by
    cases direction <;> simp_all [Direction.source, Direction.target]
  obtain ⟨-, hconverted⟩ := onlyIf_some (hconversion ▸ planned.conversions .wireToOutbound)
  obtain ⟨hhelpers, hsource, hstep⟩ := conversion_ok hconverted
  obtain ⟨bind, hparse, happlied⟩ := outboundStep_of_bind hoptions hbind hflag hstep
  have hwire : f.wire = Viewpoint.plainType ⟨p.module, false⟩ f.field .wire := by
    have hplain := planned.types .wire
    rw [typeOf_of_ne_outbound _ (by decide)] at hplain
    exact (Option.some.inj (Except.ok.inj hplain)).symm
  refine ⟨bind, element, conversion, hparse, helement, rfl, hconversion, fun fields hfields => ?_⟩
  have hexpr : conversion.expr =
      (Converter.function (.member bind.package bind.name)).lifted p.settings.converters.name
        (liftOf f.field) (.select (.ident "w") f.field.goName) := by
    simp only [Conversion.expr, happlied, hhelpers, hsource]
    rfl
  rw [hexpr, hasBoundType_lifted_iff hfields, hwire]
  exact lifts_iff_fitsBind helement

end

/-- A message has the outbound form just where its kind lets the outbound direction reach it. -/
lemma generates_eq_reaches {suffixes : Suffixes} {index : Index} {target : MessageTarget}
    {d : Declaration} (refers : RefersTo suffixes index target d) :
    d.generates suffixes index .outbound = Direction.wireToOutbound.reaches target := by
  rw [Declaration.generates, Direction.reaches, refers.kind, refers.hidden]

section

variable {request : Request} {settings : Settings} {index : Index} {home : FileDesc} {plan : Plan}

/-- A custom converter is a function from the type of a wire element to a type that is given, or
else to the type that the element has in the outbound layer. That element is raised to the
cardinality. The conversion has the outbound type just where the converter fits the field. A type
that is given is all that the field names. Without one a field of messages names their outbound
form, which is generated just where a conversion by the messages' own method would be let
through. -/
theorem custom_converter_fits_iff (hplan : request.plan settings index home = .ok plan)
    {m : PlannedMessage} (hm : m ∈ plan.messages) {f : PlannedField} (hf : f ∈ m.fields)
    {options : OutboundField} (hoptions : f.field.options.outbound = some options)
    (hbind : options.customBind ≠ "") (hflag : f.field.bitflag? = none) {type : TypeRef}
    (htype : f.outbound = some type) :
    ∃ bind element conversion, Reference.parse? options.customBind = some bind ∧
      Viewpoint.outboundElement ⟨plan.module, false⟩ f.field = .ok element ∧
      type = outboundRaised f.field element ∧ f.conversions.intoOutbound = some conversion ∧
      (∀ fields : String → String → Option TypeRef, fields "w" f.field.goName = some f.wire →
        (HasBoundType settings.converters.name fields (.member bind.package bind.name)
            (Viewpoint.element ⟨plan.module, false⟩ .wire f.field.kind) element conversion.expr
            type ↔ fitsBind f.field = true)) ∧
      (hasCustomType f.field = true → type.innermost = element) ∧
      ∀ target, f.field.kind = .message target → hasCustomType f.field = false →
        ∃ origin ∈ request.files, ∃ d ∈ origin.declarations, target.typeName = d.typeName ∧
          type.innermost = target.placement.type target.names.outbound ∧
          d.generates settings.suffixes index .outbound =
            Direction.wireToOutbound.reaches target := by
  obtain ⟨-, -, -, -, locations, hplanned⟩ := exists_declaration hplan hm
  obtain ⟨bind, element, conversion, hparse, helement, rfl, hconversion, htyped⟩ :=
    boundConversion (hplanned f hf) hoptions hbind hflag htype
  have hsettings : plan.settings = settings := by
    obtain ⟨schema, -, hof⟩ := plan_ok hplan
    exact (Plan.of_ok hof).1
  refine ⟨bind, element, conversion, hparse, helement, rfl, hconversion, hsettings ▸ htyped,
    innermost_outboundRaised helement, fun target hfield hcustom => ?_⟩
  obtain ⟨symbols, hsymbols, _, _, desc, hmade⟩ := exists_made hplan hm hf
  obtain ⟨⟨_, hkind⟩, -⟩ := Scope.field_ok hmade
  rw [hfield] at hkind
  obtain ⟨-, origin, horigin, d, hd, refers⟩ := exists_refersTo hsymbols hkind
  refine ⟨origin, horigin, d, hd, refers.typeName, ?_, generates_eq_reaches refers⟩
  rcases outboundElement_cases helement with ⟨_, -, hhas, -⟩ | ⟨-, -, rfl⟩
  · simp [hcustom] at hhas
  · rw [outboundRaised_plain hcustom]
    exact innermost_plainType hfield refers.named .outbound

end

/-! ### Requests -/

/-- A message whose fields have converters of their own. One of them may be missing, and the others
hold messages that are hidden from the outbound layer. -/
def walletHome : FileDesc :=
  packageFile "user" "acme"
    [.node
      { name := "UserWire"
        fields :=
          [{ name := "secrets", number := 1, label := .repeated, type := .message,
             typeName := ".acme.SecretWire" },
            { name := "total", number := 2, type := .int64, proto3Optional := true,
              oneofIndex := some 0 },
            { name := "secret", number := 3, type := .message, typeName := ".acme.SecretWire" }] }
      [],
    .node { name := "SecretWire" } []]

def walletRequest : Request := ⟨[walletHome], none, []⟩

/-- Annotations with a converter, and perhaps a type. -/
def boundOptions (type function : String) : FieldOptions where
  outbound := some { customType := type, customBind := function }

def walletIndex : Index where
  messages := [("acme.SecretWire", { outbound := some { hide := true } })]
  fields :=
    [(("acme.UserWire", 1), boundOptions "github.com/acme/money.Mask" "github.com/acme/money.Hide"),
      (("acme.UserWire", 2),
        boundOptions "github.com/acme/money.Amount" "github.com/acme/money.FromCents"),
      (("acme.UserWire", 3), boundOptions "" "github.com/acme/money.Hide")]

/-- A field with these annotations is planned, its converter fits it or does not, and its types and
its outbound conversion are written so. -/
def Plan.HasBound (plan : Plan) (options : FieldOptions) (fits : Bool)
    (wire outbound text : String) : Prop :=
  ∃ m ∈ plan.messages, ∃ f ∈ m.fields, f.field.options = options ∧ fitsBind f.field = fits ∧
    f.wire.text = wire ∧ f.outbound.map TypeRef.text = some outbound ∧
    f.conversions.intoOutbound.map (fun conversion => conversion.expr.render) = some text

instance (plan : Plan) (options : FieldOptions) (fits : Bool) (wire outbound text : String) :
    Decidable (plan.HasBound options fits wire outbound text) :=
  inferInstanceAs (Decidable (∃ m ∈ _, ∃ f ∈ _, _))

/-- All three fields are planned, and the outbound form of the message that two of them hold is not
written. -/
lemma wallet_planned :
    ∃ plan, walletRequest.plan {} walletIndex walletHome = .ok plan ∧
      plan.HasBound (boundOptions "github.com/acme/money.Mask" "github.com/acme/money.Hide") true
        "[]*SecretWire" "[]money.Mask" "convert.MapSlice(w.Secrets, money.Hide)" ∧
      plan.HasBound (boundOptions "github.com/acme/money.Amount" "github.com/acme/money.FromCents")
        false "*int64" "*money.Amount" "money.FromCents(w.Total)" ∧
      plan.HasBound (boundOptions "" "github.com/acme/money.Hide") true
        "*SecretWire" "*SecretOutbound" "money.Hide(w.Secret)" ∧
      ¬ plan.DeclaresStruct "SecretOutbound" := by
  have h : (walletRequest.plan {} walletIndex walletHome).toOption.any (fun plan => decide (
      plan.HasBound (boundOptions "github.com/acme/money.Mask" "github.com/acme/money.Hide") true
        "[]*SecretWire" "[]money.Mask" "convert.MapSlice(w.Secrets, money.Hide)" ∧
      plan.HasBound (boundOptions "github.com/acme/money.Amount" "github.com/acme/money.FromCents")
        false "*int64" "*money.Amount" "money.FromCents(w.Total)" ∧
      plan.HasBound (boundOptions "" "github.com/acme/money.Hide") true
        "*SecretWire" "*SecretOutbound" "money.Hide(w.Secret)" ∧
      ¬ plan.DeclaresStruct "SecretOutbound")) = true := by
    rw [Request.plan_eq_planOnePass]
    decide +kernel
  obtain ⟨plan, hplan, hcheck⟩ := exists_of_check h
  exact ⟨plan, hplan, of_decide_eq_true hcheck⟩

/-- Hidden messages in a list are masked one by one. -/
theorem hidden_secrets_masked :
    ∃ plan, walletRequest.plan {} walletIndex walletHome = .ok plan ∧
      ∃ m ∈ plan.messages, ∃ f ∈ m.fields, ∃ type element conversion, f.outbound = some type ∧
        type.text = "[]money.Mask" ∧ type.innermost = element ∧
        f.conversions.intoOutbound = some conversion ∧
        conversion.expr.render = "convert.MapSlice(w.Secrets, money.Hide)" ∧
        ∀ fields : String → String → Option TypeRef, fields "w" f.field.goName = some f.wire →
          HasBoundType "convert" fields (.member "money" "Hide")
            (Viewpoint.element ⟨plan.module, false⟩ .wire f.field.kind) element conversion.expr
            type := by
  obtain ⟨plan, hplan, ⟨m, hm, f, hf, hoptions, hfits, -, htype, hconversion⟩, -⟩ := wallet_planned
  obtain ⟨type, htype, htext⟩ := Option.map_eq_some_iff.mp htype
  obtain ⟨conversion, hconversion, hrender⟩ := Option.map_eq_some_iff.mp hconversion
  have hflag : f.field.bitflag? = none := by simp [Field.bitflag?, hoptions, boundOptions]
  obtain ⟨bind, element, _, hparse, -, -, hsame, htyped, hinner, -⟩ :=
    custom_converter_fits_iff hplan hm hf (congrArg (·.outbound) hoptions) (by decide) hflag htype
  cases hconversion.symm.trans hsame
  have hbind : bind = ⟨"github.com/acme/money", "money", "Hide"⟩ :=
    Option.some.inj (hparse.symm.trans (by decide +kernel))
  subst hbind
  have hcustom : hasCustomType f.field = true := by
    simp [hasCustomType, hoptions, boundOptions, said]
  exact ⟨plan, hplan, m, hm, f, hf, type, element, conversion, htype, htext, hinner hcustom,
    hconversion, hrender, fun fields hfields => (htyped fields hfields).mpr hfits⟩

/-- An optional number goes to its converter behind its pointer, and a single message that is hidden
keeps the outbound form that it does not have. -/
theorem optional_total_misfits :
    ∃ plan, walletRequest.plan {} walletIndex walletHome = .ok plan ∧
      (∃ m ∈ plan.messages, ∃ f ∈ m.fields, ∃ type conversion, f.wire.text = "*int64" ∧
        f.outbound = some type ∧ type.text = "*money.Amount" ∧
        f.conversions.intoOutbound = some conversion ∧
        conversion.expr.render = "money.FromCents(w.Total)" ∧
        ∀ fields : String → String → Option TypeRef, fields "w" f.field.goName = some f.wire →
          ¬ HasBoundType "convert" fields (.member "money" "FromCents")
            (Viewpoint.element ⟨plan.module, false⟩ .wire f.field.kind)
            (.qualified "money" "Amount") conversion.expr type) ∧
      plan.HasBound (boundOptions "" "github.com/acme/money.Hide") true
        "*SecretWire" "*SecretOutbound" "money.Hide(w.Secret)" ∧
      ¬ plan.DeclaresStruct "SecretOutbound" := by
  obtain ⟨plan, hplan, -, ⟨m, hm, f, hf, hoptions, hfits, hwire, htype, hconversion⟩, hsecret⟩ :=
    wallet_planned
  obtain ⟨type, htype, htext⟩ := Option.map_eq_some_iff.mp htype
  obtain ⟨conversion, hconversion, hrender⟩ := Option.map_eq_some_iff.mp hconversion
  obtain ⟨-, -, -, -, locations, hplanned⟩ := exists_declaration hplan hm
  have hflag : f.field.bitflag? = none := by simp [Field.bitflag?, hoptions, boundOptions]
  obtain ⟨bind, element, _, hparse, helement, -, hsame, htyped⟩ :=
    boundConversion (hplanned f hf) (congrArg (·.outbound) hoptions) (by decide) hflag htype
  cases hconversion.symm.trans hsame
  have hbind : bind = ⟨"github.com/acme/money", "money", "FromCents"⟩ :=
    Option.some.inj (hparse.symm.trans (by decide +kernel))
  subst hbind
  have hgiven : element = .qualified "money" "Amount" := by
    have hamount : Reference.parse? "github.com/acme/money.Amount" =
        some ⟨"github.com/acme/money", "money", "Amount"⟩ := by
      decide +kernel
    have hcustom : customType f.field =
        .ok (some ⟨"github.com/acme/money", "money", "Amount"⟩) := by
      simp [customType, hoptions, boundOptions, said, hamount]
    rw [Viewpoint.outboundElement, hcustom] at helement
    exact (Except.ok.inj helement).symm
  have hsettings : plan.settings = {} := by
    obtain ⟨schema, -, hof⟩ := plan_ok hplan
    exact (Plan.of_ok hof).1
  subst hgiven
  refine ⟨plan, hplan, ⟨m, hm, f, hf, type, conversion, hwire, htype, htext, hconversion, hrender,
    fun fields hfields typed => ?_⟩, hsecret⟩
  have hfit := (htyped fields hfields).mp
  simp only [Plan.planning, hsettings, hfits] at hfit
  exact absurd (hfit typed) (by decide)

end Laminate.Form
