import Laminate.Proofs.Loading

/-! The types of generated expressions.
A conversion takes the type that a field has in one layer to the type that it has in another. The
rules name the helpers by their signatures and know nothing of how conversions are chosen. -/
namespace Laminate.Schema

open Laminate.Code

/-- A type of some module as the package being generated writes it. -/
def Placement.type (placement : Placement) (name : String) : TypeRef :=
  if placement.isLocal then .named name else .qualified placement.goName name

/-- The name in a layer. -/
def LayerNames.inLayer (names : LayerNames) : Layer → String
  | .wire => names.wire
  | .domain => names.domain
  | .inbound => names.inbound
  | .outbound => names.outbound

end Laminate.Schema

namespace Laminate.Form

open Laminate.Schema Laminate.Code Laminate.Annotation Laminate.Descriptor

/-- A pointer to the form in a layer of a message of some kind. -/
def formType (suffixes : Suffixes) (kind : MessageKind) (placement : Placement) (layer : Layer) :
    TypeRef :=
  .pointer (placement.type ((LayerNames.derive suffixes placement.localName kind).inLayer layer))

/-- The methods that generated code declares on the forms of messages. -/
inductive HasMethod (suffixes : Suffixes) : TypeRef → String → TypeRef → Prop
  | intoDomain (place : Placement) :
    HasMethod suffixes (formType suffixes .wire place .wire) "IntoDomain"
      (formType suffixes .wire place .domain)
  | intoWire (place : Placement) :
    HasMethod suffixes (formType suffixes .wire place .domain) "IntoWire"
      (formType suffixes .wire place .wire)
  | intoOutboundOrNil {kind : MessageKind} (place : Placement)
    (sent : kind = .wire ∨ kind = .response) :
    HasMethod suffixes (formType suffixes kind place .wire) "IntoOutboundOrNil"
      (formType suffixes kind place .outbound)
  | intoWireInput (place : Placement) :
    HasMethod suffixes (formType suffixes .request place .inbound) "IntoWireInput"
      (formType suffixes .request place .wire)

/-- A pointer to a type of the standard schema's generated packages. -/
def standardType (package name : String) : TypeRef := .pointer (.qualified package name)

/-- The functions of one argument, with the types that they take and give. -/
inductive Takes (helpers : String) (suffixes : Suffixes) : Expr → TypeRef → TypeRef → Prop
  | enumToText (place : Placement) :
    Takes helpers suffixes (.inPackage place.qualifier (place.localName ++ "ToString"))
      (place.type place.localName) (.builtin .string)
  | textToEnum (place : Placement) :
    Takes helpers suffixes (.inPackage place.qualifier (place.localName ++ "FromString"))
      (.builtin .string) (place.type place.localName)
  | timestampToTime :
    Takes helpers suffixes (.member helpers "TimestampToTime")
      (standardType "timestamppb" "Timestamp") .time
  | timestampToTimePtr :
    Takes helpers suffixes (.member helpers "TimestampToTimePtr")
      (standardType "timestamppb" "Timestamp") (.pointer .time)
  | timeToTimestamp :
    Takes helpers suffixes (.member helpers "TimeToTimestamp")
      .time (standardType "timestamppb" "Timestamp")
  | timePtrToTimestamp :
    Takes helpers suffixes (.member helpers "TimePtrToTimestamp")
      (.pointer .time) (standardType "timestamppb" "Timestamp")
  | structToMap :
    Takes helpers suffixes (.member helpers "StructToMap")
      (standardType "structpb" "Struct") .genericMap
  | mapToStruct :
    Takes helpers suffixes (.member helpers "MapToStruct")
      .genericMap (standardType "structpb" "Struct")
  | valueToAny :
    Takes helpers suffixes (.member helpers "ValueToAny")
      (standardType "structpb" "Value") (.builtin .any)
  | anyToValue :
    Takes helpers suffixes (.member helpers "AnyToValue")
      (.builtin .any) (standardType "structpb" "Value")
  | fromWrapper {scalar : Builtin} (wrapped : scalar ∈ wrappedScalars) :
    Takes helpers suffixes (.member helpers ("From" ++ wrapperName scalar))
      (standardType "wrapperspb" (wrapperName scalar)) (.pointer (.builtin scalar))
  | toWrapper {scalar : Builtin} (wrapped : scalar ∈ wrappedScalars) :
    Takes helpers suffixes (.member helpers ("To" ++ wrapperName scalar))
      (.pointer (.builtin scalar)) (standardType "wrapperspb" (wrapperName scalar))
  | method {owner result : TypeRef} {name : String}
    (declared : HasMethod suffixes owner name result) :
    Takes helpers suffixes (.methodOf owner name) owner result

/-- Types of expressions over variables whose fields have the types `fields`. -/
inductive HasType (helpers : String) (suffixes : Suffixes)
    (fields : String → String → Option TypeRef) : Expr → TypeRef → Prop
  | select {receiver name : String} {type : TypeRef} (known : fields receiver name = some type) :
    HasType helpers suffixes fields (.select (.ident receiver) name) type
  | call {f e : Expr} {source target : TypeRef} (function : Takes helpers suffixes f source target)
    (argument : HasType helpers suffixes fields e source) :
    HasType helpers suffixes fields (.call f [e]) target
  | invoke {e : Expr} {owner result : TypeRef} {name : String}
    (declared : HasMethod suffixes owner name result)
    (receiver : HasType helpers suffixes fields e owner) :
    HasType helpers suffixes fields (.call (.select e name) []) result
  | mapSlice {f e : Expr} {source target : TypeRef}
    (function : Takes helpers suffixes f source target)
    (argument : HasType helpers suffixes fields e (.slice source)) :
    HasType helpers suffixes fields (.call (.member helpers "MapSlice") [e, f]) (.slice target)
  | mapValues {f e : Expr} {key source target : TypeRef}
    (function : Takes helpers suffixes f source target)
    (argument : HasType helpers suffixes fields e (.map key source)) :
    HasType helpers suffixes fields (.call (.member helpers "MapValues") [e, f]) (.map key target)
  | mapPtr {f e : Expr} {source target : TypeRef}
    (function : Takes helpers suffixes f source target)
    (argument : HasType helpers suffixes fields e (.pointer source)) :
    HasType helpers suffixes fields (.call (.member helpers "MapPtr") [e, f]) (.pointer target)

/-! ### Elements -/

/-- A converter from one type to another. -/
inductive Converts (helpers : String) (suffixes : Suffixes) :
    Converter → TypeRef → TypeRef → Prop
  | identity (type : TypeRef) : Converts helpers suffixes .identity type type
  | function {f : Expr} {source target : TypeRef} (takes : Takes helpers suffixes f source target) :
    Converts helpers suffixes (.function f) source target
  | method {owner result : TypeRef} {name : String}
    (declared : HasMethod suffixes owner name result) :
    Converts helpers suffixes (.method owner name) owner result

section

variable {helpers : String} {suffixes : Suffixes} {fields : String → String → Option TypeRef}
variable {converter : Converter} {source target : TypeRef} {e : Expr}

lemma Converts.apply (h : Converts helpers suffixes converter source target)
    (he : HasType helpers suffixes fields e source) :
    HasType helpers suffixes fields (converter.apply e) target := by
  cases h with
  | identity => exact he
  | function takes => exact .call takes he
  | method declared => exact .invoke declared he

/-- Passed on, a converter is the identity between equal types or a function. -/
lemma Converts.asFunction (h : Converts helpers suffixes converter source target) :
    (converter.asFunction = none ∧ source = target) ∨
      ∃ f, converter.asFunction = some f ∧ Takes helpers suffixes f source target := by
  cases h with
  | identity => exact .inl ⟨rfl, rfl⟩
  | function takes => exact .inr ⟨_, rfl, takes⟩
  | method declared => exact .inr ⟨_, rfl, .method declared⟩

/-- The type of as many elements as a lift reaches, under keys of a type where it is a map. -/
def Lift.over (key : TypeRef) : Lift → TypeRef → TypeRef
  | .plain, element => element
  | .eachItem, element => .slice element
  | .eachValue, element => .map key element
  | .present, element => .pointer element

lemma Takes.lifted {f : Expr} {lift : Lift} {helper : String} {key : TypeRef}
    (takes : Takes helpers suffixes f source target) (hhelper : lift.helper = some helper)
    (he : HasType helpers suffixes fields e (lift.over key source)) :
    HasType helpers suffixes fields (.call (.member helpers helper) [e, f])
      (lift.over key target) := by
  cases lift with
  | plain => cases hhelper
  | eachItem => cases hhelper; exact .mapSlice takes he
  | eachValue => cases hhelper; exact .mapValues takes he
  | present => cases hhelper; exact .mapPtr takes he

lemma Converts.lifted {lift : Lift} {key : TypeRef}
    (h : Converts helpers suffixes converter source target)
    (he : HasType helpers suffixes fields e (lift.over key source)) :
    HasType helpers suffixes fields (converter.lifted helpers lift e) (lift.over key target) := by
  unfold Converter.lifted
  cases hhelper : lift.helper with
  | none =>
    cases lift with
    | plain => exact h.apply he
    | _ => cases hhelper
  | some helper =>
    rcases h.asFunction with ⟨hnone, rfl⟩ | ⟨f, hf, takes⟩
    · simpa only [hnone] using he
    · simpa only [hf] using takes.lifted hhelper he

end

/-! ### Fields -/

section

variable {suffixes : Suffixes} {m : Module} {field : Field} {direction : Direction}

lemma toPointer_typeAt (placement : Placement) (name : String) :
    (Viewpoint.typeAt ⟨m, false⟩ placement name).toPointer = .pointer (placement.type name) := by
  unfold Viewpoint.typeAt Placement.type
  split <;> rfl

/-- The layer whose form of a message stands for it in a layer. -/
def formLayer (kind : MessageKind) (layer : Layer) : Layer :=
  if layer = .inbound ∧ kind ≠ .request then .domain else layer

lemma element_message {target : MessageTarget}
    (named : target.names = .derive suffixes target.placement.localName target.kind)
    (layer : Layer) :
    Viewpoint.element ⟨m, false⟩ layer (.message target) =
      formType suffixes target.kind target.placement (formLayer target.kind layer) := by
  have hname : targetName target layer =
      (LayerNames.derive suffixes target.placement.localName target.kind).inLayer
        (formLayer target.kind layer) := by
    rw [← named]
    cases layer with
    | inbound =>
      by_cases h : target.kind = .request <;> simp [targetName, formLayer, LayerNames.inLayer, h]
    | _ => rfl
  simp only [Viewpoint.element, toPointer_typeAt, hname, formType]

/-- The method that a direction calls on messages of a kind. -/
def Direction.method (kind : MessageKind) : Direction → String
  | .wireToDomain => "IntoDomain"
  | .domainToWire => "IntoWire"
  | .wireToOutbound => "IntoOutboundOrNil"
  | .inboundToWire => if kind = .request then "IntoWireInput" else "IntoWire"

/-- A message that a direction reaches declares the method that the direction calls. -/
lemma hasMethod_of_reaches {target : MessageTarget}
    (named : target.names = .derive suffixes target.placement.localName target.kind)
    (reaches : direction.reaches target = true) :
    HasMethod suffixes (Viewpoint.element ⟨m, false⟩ direction.source (.message target))
      (direction.method target.kind)
      (Viewpoint.element ⟨m, false⟩ direction.target (.message target)) := by
  rw [element_message named, element_message named]
  cases direction with
  | wireToDomain =>
    have hkind : target.kind = .wire := by simpa [Direction.reaches] using reaches
    rw [hkind]
    exact .intoDomain target.placement
  | domainToWire =>
    have hkind : target.kind = .wire := by simpa [Direction.reaches] using reaches
    rw [hkind]
    exact .intoWire target.placement
  | wireToOutbound =>
    have hkind : target.kind = .wire ∨ target.kind = .response := by
      simp only [Direction.reaches, Bool.and_eq_true, Bool.or_eq_true, beq_iff_eq] at reaches
      exact reaches.1
    exact .intoOutboundOrNil target.placement hkind
  | inboundToWire =>
    have hkind : target.kind = .wire ∨ target.kind = .request := by
      simpa [Direction.reaches] using reaches
    rcases hkind with hkind | hkind
    · rw [hkind]
      exact .intoWire target.placement
    · rw [hkind]
      exact .intoWireInput target.placement

/-- Every direction has the wire form at one of its ends and another form at the other. -/
lemma Direction.ends (direction : Direction) :
    (direction.leavesWire = true ∧ direction.source = .wire ∧ direction.target ≠ .wire) ∨
      (direction.leavesWire = false ∧ direction.source ≠ .wire ∧ direction.target = .wire) := by
  cases direction <;> decide

/-- Element by element; the helpers for optional timestamps are the only ones that know more. -/
lemma elementConverter_converts (c : Converting) (resolved : field.kind.Resolved suffixes)
    (reaches : ∀ target, field.kind = .message target → direction.reaches target = true)
    (single : field.kind = .wellKnown .timestamp → field.isOptional = false) :
    Converts c.helpers suffixes (c.elementConverter field direction)
      (Viewpoint.element ⟨c.module, false⟩ direction.source field.kind)
      (Viewpoint.element ⟨c.module, false⟩ direction.target field.kind) := by
  unfold Converting.elementConverter
  generalize field.kind = kind at *
  cases resolved with
  | scalar scalar => exact .identity _
  | enum typeName placement =>
    simp only [Viewpoint.element]
    rcases direction.ends with ⟨out, hs, ht⟩ | ⟨out, hs, ht⟩
    · rw [out, if_pos hs, if_neg ht]
      exact .function (.enumToText placement)
    · rw [out, if_neg hs, if_pos ht]
      exact .function (.textToEnum placement)
  | timestamp =>
    simp only [Viewpoint.element, wellKnownType, single rfl]
    rcases direction.ends with ⟨out, hs, ht⟩ | ⟨out, hs, ht⟩
    · rw [out, if_pos hs, if_neg ht]
      exact .function .timestampToTime
    · rw [out, if_neg hs, if_pos ht]
      exact .function .timeToTimestamp
  | struct =>
    simp only [Viewpoint.element, wellKnownType]
    rcases direction.ends with ⟨out, hs, ht⟩ | ⟨out, hs, ht⟩
    · rw [out, if_pos hs, if_neg ht]
      exact .function .structToMap
    · rw [out, if_neg hs, if_pos ht]
      exact .function .mapToStruct
  | value =>
    simp only [Viewpoint.element, wellKnownType]
    rcases direction.ends with ⟨out, hs, ht⟩ | ⟨out, hs, ht⟩
    · rw [out, if_pos hs, if_neg ht]
      exact .function .valueToAny
    · rw [out, if_neg hs, if_pos ht]
      exact .function .anyToValue
  | wrapper wrapped =>
    simp only [Viewpoint.element, wellKnownType]
    rcases direction.ends with ⟨out, hs, ht⟩ | ⟨out, hs, ht⟩
    · rw [out, if_pos hs, if_neg ht]
      exact .function (.fromWrapper wrapped)
    · rw [out, if_neg hs, if_pos ht]
      exact .function (.toWrapper wrapped)
  | message named =>
    have method := hasMethod_of_reaches (m := c.module) named (reaches _ rfl)
    cases direction <;> exact .method method

/-- The type of the keys of a map; what other fields would be keyed by does not matter. -/
def keyType (field : Field) : TypeRef :=
  match field.cardinality with
  | .map key => .builtin key
  | _ => .builtin .string

lemma raise_of_not_optional (hcard : field.isOptional = false) (element : TypeRef) :
    raise element field.cardinality = (liftOf field).over (keyType field) element := by
  unfold liftOf keyType
  unfold Field.isOptional at hcard
  cases hc : field.cardinality with
  | optional => simp [hc] at hcard
  | singular => rfl
  | repeated => rfl
  | map key => rfl

lemma plainType_of_not_optional (hcard : field.isOptional = false) (view : Viewpoint)
    (layer : Layer) :
    view.plainType field layer =
      (liftOf field).over (keyType field) (view.element layer field.kind) := by
  rw [← raise_of_not_optional hcard, Viewpoint.plainType, if_neg]
  rintro ⟨hoptional, -⟩
  simp [Field.isOptional, hoptional] at hcard

/-- Standard messages and messages of the user's own are pointers already, or need none. -/
lemma plainType_optional (hcard : field.cardinality = .optional)
    (hkind : (∃ type, field.kind = .wellKnown type ∧ type ≠ .timestamp) ∨
      ∃ target, field.kind = .message target) (layer : Layer) :
    Viewpoint.plainType ⟨m, false⟩ field layer = Viewpoint.element ⟨m, false⟩ layer field.kind := by
  rcases hkind with ⟨type, hkind, htype⟩ | ⟨target, hkind⟩
  · simp only [Viewpoint.plainType, hcard, hkind, Viewpoint.element]
    cases type with
    | timestamp => exact absurd rfl htype
    | struct => cases layer <;> rfl
    | value => cases layer <;> rfl
    | wrapper scalar => cases layer <;> rfl
  · simp [Viewpoint.plainType, hcard, hkind, Viewpoint.element, raise, isStructural]

lemma plainType_optional_enum (hcard : field.cardinality = .optional) {typeName : String}
    {placement : Placement} (hkind : field.kind = .enum typeName placement) (layer : Layer) :
    Viewpoint.plainType ⟨m, false⟩ field layer =
      .pointer (Viewpoint.element ⟨m, false⟩ layer field.kind) := by
  simp only [Viewpoint.plainType, hcard, hkind, Viewpoint.element, Viewpoint.typeAt]
  cases layer with
  | wire => cases placement.isLocal <;> rfl
  | _ => rfl

/-- An optional element; where it is a pointer already, there is nothing more to lift. -/
lemma elementConverter_converts_optional (c : Converting)
    (resolved : field.kind.Resolved suffixes) (hcard : field.cardinality = .optional)
    (reaches : ∀ target, field.kind = .message target → direction.reaches target = true) :
    ∃ source target,
      Viewpoint.plainType ⟨c.module, false⟩ field direction.source =
        (liftOf field).over (keyType field) source ∧
      Viewpoint.plainType ⟨c.module, false⟩ field direction.target =
        (liftOf field).over (keyType field) target ∧
      Converts c.helpers suffixes (c.elementConverter field direction) source target := by
  by_cases htime : field.kind = .wellKnown .timestamp
  · have hlift : liftOf field = .plain := by simp [liftOf, hcard, Field.isEnum, htime]
    rw [hlift]
    refine ⟨_, _, rfl, rfl, ?_⟩
    simp only [Converting.elementConverter, Field.isOptional, hcard, htime]
    cases direction with
    | wireToDomain => exact .function .timestampToTimePtr
    | wireToOutbound => exact .function .timestampToTimePtr
    | domainToWire => exact .function .timePtrToTimestamp
    | inboundToWire => exact .function .timePtrToTimestamp
  · have converts := elementConverter_converts c resolved reaches fun h => absurd h htime
    cases hkind : field.kind with
    | scalar scalar =>
      have hlift : liftOf field = .plain := by simp [liftOf, hcard, Field.isEnum, hkind]
      rw [hlift]
      refine ⟨_, _, rfl, rfl, ?_⟩
      simpa [Viewpoint.plainType, Converting.elementConverter, Viewpoint.element, isStructural,
        hcard, hkind] using .identity _
    | enum typeName placement =>
      have hlift : liftOf field = .present := by simp [liftOf, hcard, Field.isEnum, hkind]
      rw [hlift]
      have hpointer := plainType_optional_enum (m := c.module) hcard hkind
      exact ⟨_, _, hpointer _, hpointer _, converts⟩
    | wellKnown type =>
      have hlift : liftOf field = .plain := by simp [liftOf, hcard, Field.isEnum, hkind]
      have htype : type ≠ .timestamp := fun h => htime (by rw [hkind, h])
      rw [hlift]
      have hplain := plainType_optional (m := c.module) hcard (.inl ⟨type, hkind, htype⟩)
      exact ⟨_, _, hplain _, hplain _, converts⟩
    | message target =>
      have hlift : liftOf field = .plain := by simp [liftOf, hcard, Field.isEnum, hkind]
      rw [hlift]
      have hplain := plainType_optional (m := c.module) hcard (.inr ⟨target, hkind⟩)
      exact ⟨_, _, hplain _, hplain _, converts⟩

/-- What is done to a field by its kind takes its type in one layer to its type in another. -/
theorem kindConversion_hasType (c : Converting) {fields : String → String → Option TypeRef}
    {e : Expr} (resolved : field.kind.Resolved suffixes)
    (reaches : ∀ target, field.kind = .message target → direction.reaches target = true)
    (he : HasType c.helpers suffixes fields e
      (Viewpoint.plainType ⟨c.module, false⟩ field direction.source)) :
    HasType c.helpers suffixes fields
      ((c.elementConverter field direction).lifted c.helpers (liftOf field) e)
      (Viewpoint.plainType ⟨c.module, false⟩ field direction.target) := by
  by_cases hcard : field.cardinality = .optional
  · obtain ⟨source, target, hsource, htarget, converts⟩ :=
      elementConverter_converts_optional c resolved hcard reaches
    rw [hsource] at he
    rw [htarget]
    exact converts.lifted he
  · have hopt : field.isOptional = false := by simpa [Field.isOptional] using hcard
    rw [plainType_of_not_optional hopt] at he ⊢
    exact (elementConverter_converts c resolved reaches fun _ => hopt).lifted he

/-- No annotation decides the outbound form of the field. -/
def Field.IsUnannotated (field : Field) : Prop :=
  ∀ options, field.options.outbound = some options →
    options.bitflag = none ∧ options.customType = "" ∧ options.customBind = ""

lemma outboundStep_of_unannotated (c : Converting) (plain : Field.IsUnannotated field) :
    c.outboundStep field = c.kindStep field .wireToOutbound ∧
      Viewpoint.typeOf ⟨m, false⟩ field .outbound =
        .ok (Viewpoint.plainType ⟨m, false⟩ field .outbound) := by
  unfold Converting.outboundStep Viewpoint.typeOf customBind customType Field.bitflag?
  cases houtbound : field.options.outbound with
  | none => exact ⟨rfl, rfl⟩
  | some options =>
    obtain ⟨hflag, htype, hbind⟩ := plain options houtbound
    simp [hflag, htype, hbind, said]

lemma kindStep_ok {c : Converting} {step : Step} (h : c.kindStep field direction = .ok step) :
    step = .convert (liftOf field) (c.elementConverter field direction) ∧
      ∀ target, field.kind = .message target → direction.reaches target = true := by
  unfold Converting.kindStep at h
  simp only at h
  split at h
  · next target hkind =>
    split at h
    · next reaches =>
      cases h
      refine ⟨rfl, ?_⟩
      intro other hother
      rw [hkind] at hother
      cases hother
      exact reaches
    · simp at h
  · next hkind =>
    cases h
    exact ⟨rfl, fun target htarget => absurd htarget (hkind target)⟩

lemma typeOf_of_ne_outbound (view : Viewpoint) {layer : Layer} (hlayer : layer ≠ .outbound) :
    view.typeOf field layer = .ok (view.plainType field layer) := by
  simp [Viewpoint.typeOf, hlayer]

lemma conversion_ok {c : Converting} {names : FieldNames} {conversion : Conversion}
    (h : c.conversion field names direction = .ok conversion) :
    conversion.helpers = c.helpers ∧
      conversion.source = .select (.ident direction.receiver)
        (if direction.source = .wire then field.goName else names.domain) ∧
      (if direction = .wireToOutbound then c.outboundStep field
        else c.kindStep field direction) = .ok conversion.step := by
  unfold Converting.conversion at h
  obtain ⟨step, hstep, rfl⟩ := map_eq_ok.mp h
  exact ⟨rfl, rfl, hstep⟩

/-- A conversion that is made has the type that its field has in the layer it leads to. -/
theorem conversion_hasType {scope : Scope} {message fullName : String} {desc : FieldDesc}
    (loaded : scope.field message fullName desc = .ok field) {c : Converting} {names : FieldNames}
    {conversion : Conversion} (plain : direction = .wireToOutbound → Field.IsUnannotated field)
    (converted : c.conversion field names direction = .ok conversion) :
    ∃ source target,
      Viewpoint.typeOf ⟨c.module, false⟩ field direction.source = .ok source ∧
      Viewpoint.typeOf ⟨c.module, false⟩ field direction.target = .ok target ∧
      ∀ fields : String → String → Option TypeRef,
        fields direction.receiver
            (if direction.source = .wire then field.goName else names.domain) = some source →
          HasType c.helpers scope.settings.suffixes fields conversion.expr target := by
  obtain ⟨hhelpers, hsource, hstep⟩ := conversion_ok converted
  have hkind : c.kindStep field direction = .ok conversion.step ∧
      Viewpoint.typeOf ⟨c.module, false⟩ field direction.target =
        .ok (Viewpoint.plainType ⟨c.module, false⟩ field direction.target) := by
    by_cases hdirection : direction = .wireToOutbound
    · subst hdirection
      obtain ⟨houtbound, htype⟩ := outboundStep_of_unannotated (m := c.module) c (plain rfl)
      rw [if_pos rfl, houtbound] at hstep
      exact ⟨hstep, htype⟩
    · rw [if_neg hdirection] at hstep
      refine ⟨hstep, typeOf_of_ne_outbound _ ?_⟩
      cases direction <;> simp_all [Direction.target]
  have hne : direction.source ≠ .outbound := by cases direction <;> decide
  obtain ⟨hconvert, reaches⟩ := kindStep_ok hkind.1
  refine ⟨_, _, typeOf_of_ne_outbound _ hne, hkind.2, ?_⟩
  intro fields hfields
  unfold Conversion.expr
  simp only [hconvert, hhelpers, hsource]
  exact kindConversion_hasType c (Scope.field_resolved loaded) reaches (.select hfields)

/-- The scope of a module that uses the messages of another one. -/
def homesScope : Scope where
  module := ⟨"acme.user", "user", "acme/user"⟩
  registry := .mk [⟨"acme.common", "common", "acme/common"⟩, ⟨"acme.user", "user", "acme/user"⟩]
    [("acme/common", "common"), ("acme/user", "user")]
  symbols := [(".acme.common.AddressWire", ⟨{ name := "AddressWire" }, .wire, false⟩)]
  index := {}
  settings := {}
  isProto2 := false

/-- A field of that module which holds any number of them. -/
def homesField : Field where
  name := "homes"
  number := 1
  goName := "Homes"
  kind := .message {
    typeName := ".acme.common.AddressWire"
    placement := ⟨"acme.common", "AddressWire", false, "common"⟩
    kind := .wire
    names := .derive {} "AddressWire" .wire
    outboundHidden := false }
  cardinality := .repeated
  message := "UserWire"
  module := "acme.user"
  options := {}

theorem homes_hasType :
    ∃ source target conversion,
      Converting.conversion ⟨"convert", homesScope.module, homesScope.registry⟩ homesField
        ⟨"Homes", "Homes", "homes"⟩ .wireToOutbound = .ok conversion ∧
      conversion.expr.render =
        "convert.MapSlice(w.Homes, (*common.AddressWire).IntoOutboundOrNil)" ∧
      source.text = "[]*common.AddressWire" ∧ target.text = "[]*common.AddressOutbound" ∧
      ∀ fields : String → String → Option TypeRef, fields "w" "Homes" = some source →
        HasType "convert" {} fields conversion.expr target := by
  have loaded : homesScope.field "UserWire" "acme.user.UserWire"
      { name := "homes", number := 1, label := .repeated, type := .message,
        typeName := ".acme.common.AddressWire" } = .ok homesField := rfl
  have converted : Converting.conversion ⟨"convert", homesScope.module, homesScope.registry⟩
      homesField ⟨"Homes", "Homes", "homes"⟩ .wireToOutbound = .ok _ := rfl
  obtain ⟨source, target, hsource, htarget, typed⟩ :=
    conversion_hasType loaded (fun _ options h => by simp [homesField] at h) converted
  cases hsource
  cases htarget
  exact ⟨_, _, _, rfl, by decide +kernel, by decide +kernel, by decide +kernel, typed⟩

end

end Laminate.Form
