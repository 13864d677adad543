import Laminate.Proofs.Forms

/-! The two ways between wire and domain forms, side by side.
What leads back differs from what leads out by the variable it reads from and by the partner of each
helper; its shape is the same. -/
namespace Laminate.Form

open Laminate.Schema Laminate.Code Laminate.Descriptor Laminate.Annotation

/-- A function out of the wire form, and the one that leads back. -/
inductive Partners (helpers : String) : Expr → Expr → Prop
  | enum (place : Placement) :
    Partners helpers (.inPackage place.qualifier (place.localName ++ "ToString"))
      (.inPackage place.qualifier (place.localName ++ "FromString"))
  | timestamp :
    Partners helpers (.member helpers "TimestampToTime") (.member helpers "TimeToTimestamp")
  | timestampPtr :
    Partners helpers (.member helpers "TimestampToTimePtr") (.member helpers "TimePtrToTimestamp")
  | struct : Partners helpers (.member helpers "StructToMap") (.member helpers "MapToStruct")
  | value : Partners helpers (.member helpers "ValueToAny") (.member helpers "AnyToValue")
  | wrapper (scalar : Builtin) :
    Partners helpers (.member helpers ("From" ++ wrapperName scalar))
      (.member helpers ("To" ++ wrapperName scalar))

/-- Functions that may be passed on: helpers, or the methods of a message's two forms. -/
inductive Undoes (helpers : String) (suffixes : Suffixes) : Expr → Expr → Prop
  | helper {f g : Expr} (partners : Partners helpers f g) : Undoes helpers suffixes f g
  | method (place : Placement) :
    Undoes helpers suffixes (.methodOf (formType suffixes .wire place .wire) "IntoDomain")
      (.methodOf (formType suffixes .wire place .domain) "IntoWire")

/-- The helpers that apply a function to what a value holds. -/
def lifters : List String := ["MapSlice", "MapValues", "MapPtr"]

/-- An expression and the one of the same shape that leads back, over their two sources. -/
inductive Mirrors (helpers : String) (suffixes : Suffixes) (source source' : Expr) :
    Expr → Expr → Prop
  | source : Mirrors helpers suffixes source source' source source'
  | call {f g e e' : Expr} (partners : Partners helpers f g)
    (arguments : Mirrors helpers suffixes source source' e e') :
    Mirrors helpers suffixes source source' (.call f [e]) (.call g [e'])
  | invoke {e e' : Expr} (receivers : Mirrors helpers suffixes source source' e e') :
    Mirrors helpers suffixes source source' (.call (.select e "IntoDomain") [])
      (.call (.select e' "IntoWire") [])
  | lift {helper : String} {f g e e' : Expr} (lifter : helper ∈ lifters)
    (undoes : Undoes helpers suffixes f g)
    (arguments : Mirrors helpers suffixes source source' e e') :
    Mirrors helpers suffixes source source' (.call (.member helpers helper) [e, f])
      (.call (.member helpers helper) [e', g])

/-- The converters of one kind of element in the two directions. -/
inductive Paired (helpers : String) (suffixes : Suffixes) :
    FieldKind → Converter → Converter → Prop
  | identity (scalar : Builtin) : Paired helpers suffixes (.scalar scalar) .identity .identity
  | function {kind : FieldKind} {f g : Expr} (single : ∀ target, kind ≠ .message target)
    (partners : Partners helpers f g) : Paired helpers suffixes kind (.function f) (.function g)
  | method (target : MessageTarget) :
    Paired helpers suffixes (.message target)
      (.method (formType suffixes .wire target.placement .wire) "IntoDomain")
      (.method (formType suffixes .wire target.placement .domain) "IntoWire")

section

variable {helpers : String} {suffixes : Suffixes}

lemma helper_mem_lifters {lift : Lift} {helper : String} (h : lift.helper = some helper) :
    helper ∈ lifters := by
  cases lift with
  | plain => cases h
  | eachItem => cases h; decide
  | eachValue => cases h; decide
  | present => cases h; decide

/-- Converters that are paired make expressions that mirror each other, whatever they reach. -/
lemma Paired.mirrors {kind : FieldKind} {converter converter' : Converter}
    (h : Paired helpers suffixes kind converter converter') (lift : Lift)
    (source source' : Expr) :
    Mirrors helpers suffixes source source' (converter.lifted helpers lift source)
      (converter'.lifted helpers lift source') := by
  unfold Converter.lifted
  cases hhelper : lift.helper with
  | none =>
    cases h with
    | identity => exact .source
    | function single partners => exact .call partners .source
    | method target => exact .invoke .source
  | some helper =>
    have hlifter := helper_mem_lifters hhelper
    cases h with
    | identity => exact .source
    | function single partners => exact .lift hlifter (.helper partners) .source
    | method target => exact .lift hlifter (.method target.placement) .source

/-- Both directions treat an element alike: by partners, or by the methods of its two forms. -/
lemma elementConverter_paired (c : Converting) {field : Field}
    (resolved : field.kind.Resolved suffixes)
    (reaches : ∀ target, field.kind = .message target → target.kind = .wire) :
    Paired c.helpers suffixes field.kind (c.elementConverter field .wireToDomain)
      (c.elementConverter field .domainToWire) := by
  unfold Converting.elementConverter
  generalize field.kind = kind at *
  cases resolved with
  | scalar scalar => exact .identity scalar
  | enum typeName placement => exact .function (by simp) (.enum placement)
  | timestamp =>
    cases field.isOptional with
    | true => exact .function (by simp) .timestampPtr
    | false => exact .function (by simp) .timestamp
  | struct => exact .function (by simp) .struct
  | value => exact .function (by simp) .value
  | @wrapper scalar wrapped => exact .function (by simp) (.wrapper scalar)
  | @message target named =>
    have hkind := reaches target rfl
    simp only [element_message named, hkind]
    exact .method target

end

section

variable {p : Planning} {message : Message} {f : PlannedField} {suffixes : Suffixes}

/-- A field of a message with a domain form is converted both ways, by converters that are paired
and that reach the same elements. -/
lemma domain_conversions (planned : p.IsPlanned message f) (hdomain : message.hasDomain = true)
    (resolved : f.field.kind.Resolved suffixes) :
    ∃ converter converter', Paired p.converting.helpers suffixes f.field.kind converter converter' ∧
      f.conversions.along .wireToDomain =
        some ⟨p.converting.helpers, .select (.ident "w") f.field.goName,
          .convert (liftOf f.field) converter⟩ ∧
      f.conversions.along .domainToWire =
        some ⟨p.converting.helpers, .select (.ident "d") f.names.domain,
          .convert (liftOf f.field) converter'⟩ := by
  have hmade : ∀ direction, direction = .wireToDomain ∨ direction = .domainToWire →
      f.conversions.along direction =
          some ⟨p.converting.helpers, .select (.ident direction.receiver)
            (if direction.source = .wire then f.field.goName else f.names.domain),
            .convert (liftOf f.field) (p.converting.elementConverter f.field direction)⟩ ∧
        ∀ target, f.field.kind = .message target → target.kind = .wire := by
    intro direction hdirection
    have hplanned := planned.conversions direction
    have hwanted : converts message f.field direction = true := by
      rcases hdirection with rfl | rfl <;> exact hdomain
    rw [hwanted] at hplanned
    rcases onlyIf_eq_ok.mp hplanned with ⟨-, conversion, hconversion, hsome⟩ | ⟨hfalse, -⟩
    · obtain ⟨hhelpers, hsource, hstep⟩ := conversion_ok hconversion
      have hne : direction ≠ .wireToOutbound := by
        rcases hdirection with rfl | rfl <;> decide
      rw [if_neg hne] at hstep
      obtain ⟨hconvert, hreaches⟩ := kindStep_ok hstep
      refine ⟨?_, ?_⟩
      · rw [hsome, ← hhelpers, ← hsource, ← hconvert]
      · intro target htarget
        have := hreaches target htarget
        rcases hdirection with rfl | rfl <;> simpa [Direction.reaches] using this
    · cases hfalse
  obtain ⟨hout, hreaches⟩ := hmade .wireToDomain (.inl rfl)
  obtain ⟨hback, -⟩ := hmade .domainToWire (.inr rfl)
  exact ⟨_, _, elementConverter_paired p.converting resolved hreaches, hout, hback⟩

end

end Laminate.Form
