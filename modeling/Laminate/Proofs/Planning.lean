import Laminate.Proofs.Declarations
import Laminate.Template.Render

/-! What a plan holds once it has been made. Every layer and every direction is treated alike: a
message either has the form in question or nothing is made for it. -/
namespace Laminate.Form

open Laminate.Schema Laminate.Code Laminate.Descriptor Laminate.Annotation

theorem onlyIf_eq_ok {α : Type} {wanted : Bool} {make : Except GenError α} {result : Option α} :
    onlyIf wanted make = .ok result ↔
      (wanted = true ∧ ∃ a, make = .ok a ∧ result = some a) ∨ (wanted = false ∧ result = none) := by
  cases wanted with
  | false => simp [onlyIf, eq_comm]
  | true =>
    simp only [onlyIf, if_true, map_eq_ok, true_and, Bool.true_eq_false, false_and, or_false]
    exact exists_congr fun a => and_congr_right fun _ => eq_comm

/-- What is made has been wanted. -/
lemma onlyIf_some {α : Type} {wanted : Bool} {make : Except GenError α} {a : α}
    (h : onlyIf wanted make = .ok (some a)) : wanted = true ∧ make = .ok a := by
  rcases onlyIf_eq_ok.mp h with ⟨hwanted, b, hmake, hb⟩ | ⟨-, hnone⟩
  · cases hb
    exact ⟨hwanted, hmake⟩
  · cases hnone

lemma onlyIf_isSome {α : Type} {wanted : Bool} {make : Except GenError α} {result : Option α}
    (h : onlyIf wanted make = .ok result) : result.isSome = wanted := by
  rcases onlyIf_eq_ok.mp h with ⟨rfl, a, -, rfl⟩ | ⟨rfl, rfl⟩ <;> rfl

/-- Whether a field of a message has a type in a layer. -/
def holds (message : Message) (field : Field) : Layer → Bool
  | .wire => true
  | .domain => message.hasDomain
  | .inbound => message.hasInbound
  | .outbound => message.hasOutbound && !field.isOutboundHidden

/-- Whether a field of a message takes part in a direction. -/
def converts (message : Message) (field : Field) : Direction → Bool
  | .wireToDomain | .domainToWire => message.hasDomain
  | .wireToOutbound => message.hasOutbound && !field.isOutboundHidden
  | .inboundToWire => message.hasInbound

/-- The type that is planned for a layer. -/
def PlannedField.typeIn (f : PlannedField) : Layer → Option TypeRef
  | .wire => some f.wire
  | .domain => f.domain
  | .inbound => f.inbound
  | .outbound => f.outbound

/-- The conversion in a direction. -/
def Conversions.along (c : Conversions) : Direction → Option Conversion
  | .wireToDomain => c.intoDomain
  | .domainToWire => c.intoWire
  | .wireToOutbound => c.intoOutbound
  | .inboundToWire => c.intoWireInput

/-- A layer that a direction touches is one that the field has a type in. -/
lemma converts_eq_holds (message : Message) (field : Field) {direction : Direction} {layer : Layer}
    (hlayer : layer = direction.source ∨ layer = direction.target) (hne : layer ≠ .wire) :
    holds message field layer = converts message field direction := by
  rcases hlayer with rfl | rfl
  · cases direction with
    | wireToDomain => exact absurd rfl hne
    | wireToOutbound => exact absurd rfl hne
    | domainToWire => rfl
    | inboundToWire => rfl
  · cases direction with
    | wireToDomain => rfl
    | wireToOutbound => rfl
    | domainToWire => exact absurd rfl hne
    | inboundToWire => exact absurd rfl hne

theorem Converting.conversions_ok {c : Converting} {message : Message} {field : Field}
    {names : FieldNames} {conversions : Conversions}
    (h : c.conversions message field names = .ok conversions) (direction : Direction) :
    onlyIf (converts message field direction) (c.conversion field names direction) =
      .ok (conversions.along direction) := by
  unfold Converting.conversions at h
  simp only [bind_eq_ok, pure_eq_ok] at h
  obtain ⟨intoDomain, h₁, intoWire, h₂, intoOutbound, h₃, intoWireInput, h₄, rfl⟩ := h
  cases direction with
  | wireToDomain => exact h₁
  | domainToWire => exact h₂
  | wireToOutbound => exact h₃
  | inboundToWire => exact h₄

namespace Planning

/-- What the conversions of a module's fields are written against. -/
def converting (p : Planning) : Converting := ⟨p.settings.converters.name, p.module, p.registry⟩

/-- A field as it is planned for its message. -/
structure IsPlanned (p : Planning) (message : Message) (f : PlannedField) : Prop where
  names : f.names = .of message f.field
  keys : f.keys = .of message f.field f.names
  types (layer : Layer) :
    onlyIf (holds message f.field layer) (Viewpoint.typeOf ⟨p.module, false⟩ f.field layer) =
      .ok (f.typeIn layer)
  fixture :
    onlyIf message.hasDomain (Viewpoint.typeOf ⟨p.module, true⟩ f.field .domain) = .ok f.fixture
  conversions (direction : Direction) :
    onlyIf (converts message f.field direction)
      (p.converting.conversion f.field f.names direction) = .ok (f.conversions.along direction)
  validation :
    (if message.hasInbound then Validation.of p.settings message f.field f.names else .ok none) =
      .ok f.validation

theorem field_ok {p : Planning} {message : Message} {field : Field} {f : PlannedField}
    (h : p.field message field = .ok f) : f.field = field ∧ p.IsPlanned message f := by
  unfold Planning.field at h
  simp only [bind_eq_ok, pure_eq_ok, ite_bind_eq_ok] at h
  obtain ⟨domain, hdomain, fixture, hfixture, validation, hvalidation, wire, hwire, inbound,
    hinbound, outbound, houtbound, conversions, hconversions, rfl⟩ := h
  refine ⟨rfl, rfl, rfl, ?_, hfixture, Converting.conversions_ok hconversions, hvalidation⟩
  intro layer
  cases layer with
  | wire => exact onlyIf_eq_ok.mpr (.inl ⟨rfl, wire, hwire, rfl⟩)
  | domain => exact hdomain
  | inbound => exact hinbound
  | outbound => exact houtbound

/-- A message is planned field by field. -/
theorem message_ok {p : Planning} {message : Message} {m : PlannedMessage}
    (h : p.message message = .ok m) :
    m.message = message ∧ m.fields.map (·.field) = message.fields ∧
      ∀ f ∈ m.fields, p.IsPlanned message f := by
  unfold Planning.message at h
  obtain ⟨fields, hfields, rfl⟩ := map_eq_ok.mp h
  rw [mapM_eq_ok] at hfields
  refine ⟨rfl, ?_, ?_⟩
  · have hsame := map_eq_of_forall₂ (f := id) hfields fun _ _ h => (field_ok h).1
    rwa [List.map_id] at hsame
  · intro f hf
    obtain ⟨field, -, hfield⟩ := exists_of_mem_forall₂ hfields hf
    exact (field_ok hfield).2

end Planning

namespace Plan

/-- How the fields of a plan have been planned. -/
def planning (plan : Plan) (locations : Locations) : Planning :=
  ⟨plan.settings, plan.module, plan.registry, locations⟩

/-- The messages of a plan are those of the schema that have a kind, in order. -/
theorem of_ok {settings : Settings} {schema : FileSchema} {plan : Plan}
    (h : Plan.of settings schema = .ok plan) :
    plan.settings = settings ∧ plan.module = schema.module ∧ plan.registry = schema.registry ∧
      plan.fileName = schema.fileName ∧ plan.enums = schema.enums ∧
      (∃ locations, List.Forall₂
        (fun message m => (plan.planning locations).message message = .ok m)
        (schema.messages.filter (·.kind != .unknown)) plan.messages) ∧
      plan.resolveImports = .ok plan.imports := by
  unfold Plan.of at h
  simp only [bind_eq_ok, pure_eq_ok] at h
  obtain ⟨bindings, -, messages, hmessages, imports, himports, rfl⟩ := h
  exact ⟨rfl, rfl, rfl, rfl, rfl, ⟨bindings.locations, mapM_eq_ok.mp hmessages⟩, himports⟩

theorem messages_of_ok {settings : Settings} {schema : FileSchema} {plan : Plan}
    (h : Plan.of settings schema = .ok plan) :
    plan.messages.map (·.message) = schema.messages.filter (·.kind != .unknown) := by
  obtain ⟨-, -, -, -, -, ⟨locations, hplanned⟩, -⟩ := of_ok h
  have hsame := map_eq_of_forall₂ (f := id) hplanned fun _ _ h => (Planning.message_ok h).1
  rwa [List.map_id] at hsame

end Plan

end Laminate.Form
