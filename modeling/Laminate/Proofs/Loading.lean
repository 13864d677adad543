import Laminate.Form.Plan
import Laminate.Proofs.Outcome

/-! What the loader says of the fields it lets through. -/
namespace Laminate.Schema

open Laminate.Code Laminate.Descriptor Laminate.Annotation

theorem WellKnown.ofTypeName?_wrapper {typeName : String} {scalar : Builtin}
    (h : ofTypeName? typeName = some (.wrapper scalar)) : scalar ∈ wrappedScalars := by
  unfold ofTypeName? at h
  split at h
  · simp at h
  · split at h
    · simp at h
    · split at h
      · simp at h
      · obtain ⟨s, hs, heq⟩ := Option.map_eq_some_iff.mp h
        cases heq
        exact List.mem_of_find?_eq_some hs

/-- The kinds that the loader makes: a wrapper is of a scalar that has one, and a message is
called what its place and its kind give. -/
inductive FieldKind.Resolved (suffixes : Suffixes) : FieldKind → Prop
  | scalar (scalar : Builtin) : Resolved suffixes (.scalar scalar)
  | enum (typeName : String) (placement : Placement) : Resolved suffixes (.enum typeName placement)
  | timestamp : Resolved suffixes (.wellKnown .timestamp)
  | struct : Resolved suffixes (.wellKnown .struct)
  | value : Resolved suffixes (.wellKnown .value)
  | wrapper {scalar : Builtin} (wrapped : scalar ∈ wrappedScalars) :
    Resolved suffixes (.wellKnown (.wrapper scalar))
  | message {target : MessageTarget}
    (named : target.names = .derive suffixes target.placement.localName target.kind) :
    Resolved suffixes (.message target)

namespace Scope

variable {scope : Scope} {path message fullName : String} {desc : FieldDesc}

/-- A kind that is a message is one of the request, under the names of its place and kind. -/
theorem kindOf_message {target : MessageTarget}
    (h : scope.kindOf path desc = .ok (.message target)) :
    ∃ symbol, scope.symbols.lookup desc.typeName = some symbol ∧
      target =
        { typeName := desc.typeName
          placement := scope.registry.place scope.module desc.typeName
          kind := symbol.kind
          names := .derive scope.settings.suffixes
            (scope.registry.place scope.module desc.typeName).localName symbol.kind
          outboundHidden := symbol.outboundHidden } := by
  unfold kindOf at h
  split at h
  · simp at h
  · split at h
    · simp at h
    · split at h
      · simp at h
      · split at h
        · simp at h
        · next symbol hsymbol =>
          refine ⟨symbol, hsymbol, ?_⟩
          simpa using h.symm

theorem kindOf_wrapper {scalar : Builtin}
    (h : scope.kindOf path desc = .ok (.wellKnown (.wrapper scalar))) :
    scalar ∈ wrappedScalars := by
  unfold kindOf at h
  split at h
  · simp at h
  · split at h
    · simp at h
    · split at h
      · next type htype =>
        simp only [Except.ok.injEq, FieldKind.wellKnown.injEq] at h
        subst h
        exact WellKnown.ofTypeName?_wrapper htype
      · split at h <;> simp at h

theorem kindOf_resolved {kind : FieldKind} (h : scope.kindOf path desc = .ok kind) :
    kind.Resolved scope.settings.suffixes := by
  cases kind with
  | scalar scalar => exact .scalar scalar
  | enum typeName placement => exact .enum typeName placement
  | message target =>
    obtain ⟨symbol, -, rfl⟩ := kindOf_message h
    exact .message rfl
  | wellKnown type =>
    cases type with
    | timestamp => exact .timestamp
    | struct => exact .struct
    | value => exact .value
    | wrapper scalar => exact .wrapper (kindOf_wrapper h)

/-- The kind of a field is that of its own descriptor, or of a map entry's value. -/
theorem shapeOf_kind {kind : FieldKind} {cardinality : Cardinality}
    (h : scope.shapeOf path desc = .ok (kind, cardinality)) :
    ∃ element, scope.kindOf path element = .ok kind := by
  unfold shapeOf at h
  split at h
  · split at h
    · simp at h
    · next key value _ =>
      obtain ⟨kind, hkind, hpair⟩ := map_eq_ok.mp h
      cases hpair
      exact ⟨value, hkind⟩
  · obtain ⟨kind, hkind, hpair⟩ := map_eq_ok.mp h
    cases hpair
    exact ⟨desc, hkind⟩

/-- A field comes with a kind and with annotations that nothing is wrong with. -/
theorem field_ok {field : Field} (h : scope.field message fullName desc = .ok field) :
    (∃ element, scope.kindOf (message ++ "." ++ desc.name) element = .ok field.kind) ∧
      field.fault? = none := by
  unfold Scope.field at h
  simp only at h
  split at h
  · simp at h
  · split at h
    · simp at h
    · next kind cardinality hshape =>
      split at h
      · simp at h
      · next hfault =>
        cases h
        exact ⟨shapeOf_kind hshape, hfault⟩

/-- The identifier of a field is read off its name. -/
theorem field_goName {field : Field} (h : scope.field message fullName desc = .ok field) :
    field.goName = exportedName field.name := by
  unfold Scope.field at h
  simp only at h
  split at h
  · simp at h
  · split at h
    · simp at h
    · split at h
      · simp at h
      · cases h
        rfl

theorem field_resolved {field : Field} (h : scope.field message fullName desc = .ok field) :
    field.kind.Resolved scope.settings.suffixes := by
  obtain ⟨⟨element, helement⟩, -⟩ := field_ok h
  exact kindOf_resolved helement

/-- A surfaced field is made of a descriptor that belongs to no oneof. -/
theorem exists_of_mem_members {descs : List FieldDesc} {members : List Member} {field : Field}
    (h : scope.members message fullName descs = .ok members)
    (hfield : .surfaced field ∈ members) :
    ∃ desc ∈ descs, isOneofMember desc = false ∧
      scope.field message fullName desc = .ok field := by
  induction descs generalizing members with
  | nil =>
    rw [Scope.members] at h
    cases h
    cases hfield
  | cons desc rest ih =>
    rw [Scope.members] at h
    split at h
    · obtain ⟨more, hmore, rfl⟩ := map_eq_ok.mp h
      rcases List.mem_cons.mp hfield with heq | hfield
      · cases heq
      · obtain ⟨desc', hdesc', hok⟩ := ih hmore hfield
        exact ⟨desc', List.mem_cons_of_mem _ hdesc', hok⟩
    · next honeof =>
      split at h
      · cases h
      · next made hmade =>
        obtain ⟨more, hmore, rfl⟩ := map_eq_ok.mp h
        rcases List.mem_cons.mp hfield with heq | hfield
        · cases heq
          exact ⟨desc, List.mem_cons_self, by simpa using honeof, hmade⟩
        · obtain ⟨desc', hdesc', hok⟩ := ih hmore hfield
          exact ⟨desc', List.mem_cons_of_mem _ hdesc', hok⟩

end Scope

lemma Message.mem_fields {message : Message} {field : Field} :
    field ∈ message.fields ↔ .surfaced field ∈ message.members := by
  unfold Message.fields
  rw [List.mem_filterMap]
  constructor
  · rintro ⟨member, hmember, hfield⟩
    cases member with
    | skipped name => cases hfield
    | surfaced other =>
      cases hfield
      exact hmember
  · intro h
    exact ⟨_, h, rfl⟩

/-- A bitflag is let through on unsigned numbers of 64 bits alone. -/
theorem Field.bitflag?_of_fault?_eq_none {field : Field} (h : field.fault? = none)
    (hkind : field.kind ≠ .scalar .uint64) : field.bitflag? = none := by
  unfold fault? at h
  cases hflag : field.bitflag? with
  | none => rfl
  | some bitflag => simp [hflag, bitflagFault?, hkind] at h

end Laminate.Schema
