import Laminate.Proofs.Forms

/-! Where pointers, slices and maps stand in the types of loaded fields. A pointer stands for
absence, so it is written where a zero value would not say as much, and never twice. -/
namespace Laminate.Code.TypeRef

/-- A type and the types within it. -/
def nodes : TypeRef → List TypeRef
  | builtin scalar => [builtin scalar]
  | named name => [named name]
  | qualified package name => [qualified package name]
  | pointer target => pointer target :: target.nodes
  | slice element => slice element :: element.nodes
  | map key value => map key value :: (key.nodes ++ value.nodes)

/-- A pointer stands somewhere in a type. -/
def HasPointer (t : TypeRef) : Prop := ∃ target, pointer target ∈ t.nodes

/-- A pointer that points to a pointer stands somewhere in a type. -/
def HasDouble (t : TypeRef) : Prop := ∃ target, pointer (pointer target) ∈ t.nodes

/-- Neither a pointer nor made of other types. -/
def isLeaf : TypeRef → Bool
  | builtin _ | named _ | qualified _ _ => true
  | _ => false

variable {t : TypeRef}

lemma nodes_of_isLeaf (h : t.isLeaf = true) : t.nodes = [t] := by
  cases t <;> first | rfl | cases h

lemma not_hasPointer_of_isLeaf (h : t.isLeaf = true) : ¬ t.HasPointer := by
  rintro ⟨target, hmem⟩
  rw [nodes_of_isLeaf h, List.mem_singleton] at hmem
  subst hmem
  cases h

lemma not_hasPointer_genericMap : ¬ genericMap.HasPointer := by
  simp [HasPointer, genericMap, nodes]

lemma HasDouble.hasPointer (h : t.HasDouble) : t.HasPointer :=
  h.elim fun target hmem => ⟨pointer target, hmem⟩

lemma not_hasDouble_toPointer (h : ¬ t.HasDouble) : ¬ t.toPointer.HasDouble := by
  cases t with
  | pointer target => exact h
  | builtin scalar => simp [HasDouble, toPointer, nodes]
  | named name => simp [HasDouble, toPointer, nodes]
  | qualified package name => simp [HasDouble, toPointer, nodes]
  | slice element => simpa [HasDouble, toPointer, nodes] using h
  | map key value => simpa [HasDouble, toPointer, nodes] using h

end Laminate.Code.TypeRef

namespace Laminate.Form

open Laminate.Schema Laminate.Code Laminate.Descriptor

/-! ### Pointers -/

/-- An element in the container of a cardinality, with no pointer where there may be none. -/
def contained (element : TypeRef) : Cardinality → TypeRef
  | .singular | .optional => element
  | .repeated => .slice element
  | .map key => .map (.builtin key) element

/-- Where pointers, slices and maps stand in the type of a field. -/
structure FollowsPolicy (field : Field) (layer : Layer) (type : TypeRef) : Prop where
  undoubled : ¬ type.HasDouble
  slice : (∃ element, type = .slice element) ↔ field.cardinality = .repeated
  map : ∀ key, field.cardinality = .map key → ∃ value, type = .map (.builtin key) value
  held : field.cardinality = .singular ∨ field.cardinality = .optional →
    field.isMessage = true ∨ field.isWrapper = true → type.isPointer = true
  absent : field.cardinality = .optional →
    (∃ scalar, field.kind = .scalar scalar) ∨ field.isEnum = true ∨ field.isTimestamp = true →
      type.isPointer = true
  struct : layer ≠ .wire → field.isStruct = true →
    type = contained .genericMap field.cardinality ∧ ¬ type.HasPointer
  value : layer ≠ .wire → field.isValue = true →
    type = contained (.builtin .any) field.cardinality ∧ ¬ type.HasPointer

variable {view : Viewpoint} {layer : Layer} {kind : FieldKind} {element : TypeRef}
  {cardinality : Cardinality} {field : Field}

lemma isLeaf_typeAt (placement : Placement) (name : String) :
    (view.typeAt placement name).isLeaf = true := by
  unfold Viewpoint.typeAt
  split
  · split <;> rfl
  · rfl

/-- An element is a leaf, a pointer to one, or the map of a structural value. -/
lemma element_cases (view : Viewpoint) (layer : Layer) (kind : FieldKind) :
    (∃ leaf : TypeRef, leaf.isLeaf = true ∧
        (view.element layer kind = leaf ∨ view.element layer kind = leaf.toPointer)) ∨
      view.element layer kind = .genericMap := by
  cases kind with
  | scalar scalar => exact .inl ⟨_, rfl, .inl rfl⟩
  | enum typeName placement =>
    by_cases hwire : layer = .wire
    · exact .inl ⟨_, isLeaf_typeAt placement _, .inl (if_pos hwire)⟩
    · exact .inl ⟨.builtin .string, rfl, .inl (if_neg hwire)⟩
  | message target => exact .inl ⟨_, isLeaf_typeAt target.placement _, .inr rfl⟩
  | wellKnown type =>
    by_cases hwire : layer = .wire
    · cases type <;> exact .inl ⟨.qualified _ _, rfl, .inr (if_pos hwire)⟩
    · cases type with
      | timestamp => exact .inl ⟨.time, rfl, .inl (if_neg hwire)⟩
      | struct => exact .inr (if_neg hwire)
      | value => exact .inl ⟨.builtin .any, rfl, .inl (if_neg hwire)⟩
      | wrapper scalar => exact .inl ⟨.builtin scalar, rfl, .inr (if_neg hwire)⟩

lemma not_hasDouble_element (view : Viewpoint) (layer : Layer) (kind : FieldKind) :
    ¬ (view.element layer kind).HasDouble := by
  rcases element_cases view layer kind with ⟨leaf, hleaf, helement | helement⟩ | helement
  · rw [helement]
    exact fun h => TypeRef.not_hasPointer_of_isLeaf hleaf h.hasPointer
  · rw [helement]
    exact TypeRef.not_hasDouble_toPointer
      fun h => TypeRef.not_hasPointer_of_isLeaf hleaf h.hasPointer
  · rw [helement]
    exact fun h => TypeRef.not_hasPointer_genericMap h.hasPointer

lemma not_slice_element (view : Viewpoint) (layer : Layer) (kind : FieldKind) (e : TypeRef) :
    view.element layer kind ≠ .slice e := by
  intro h
  rcases element_cases view layer kind with ⟨leaf, hleaf, helement | helement⟩ | helement
  · rw [← helement, h] at hleaf
    cases hleaf
  · have hpointer := TypeRef.isPointer_toPointer leaf
    rw [← helement, h] at hpointer
    cases hpointer
  · rw [h] at helement
    cases helement

lemma not_hasDouble_raise (h : ¬ element.HasDouble) : ¬ (raise element cardinality).HasDouble := by
  cases cardinality with
  | singular => exact h
  | optional => exact TypeRef.not_hasDouble_toPointer h
  | repeated => simpa [raise, TypeRef.HasDouble, TypeRef.nodes] using h
  | map key => simpa [raise, TypeRef.HasDouble, TypeRef.nodes] using h

lemma contained_eq_slice (h : ∀ e, element ≠ .slice e) :
    (∃ e, contained element cardinality = .slice e) ↔ cardinality = .repeated := by
  cases cardinality with
  | singular => simpa [contained] using h
  | optional => simpa [contained] using h
  | repeated => simp [contained]
  | map key => simp [contained]

/-- What is not optional is its element in a container. -/
lemma raise_eq_contained (h : cardinality ≠ .optional) :
    raise element cardinality = contained element cardinality := by
  cases cardinality with
  | optional => exact absurd rfl h
  | singular => rfl
  | repeated => rfl
  | map key => rfl

lemma raise_eq_slice (h : ∀ e, element ≠ .slice e) :
    (∃ e, raise element cardinality = .slice e) ↔ cardinality = .repeated := by
  by_cases hoptional : cardinality = .optional
  · subst hoptional
    refine iff_of_false ?_ (by simp)
    rintro ⟨e, heq⟩
    have hpointer : element.toPointer.isPointer = true := TypeRef.isPointer_toPointer element
    rw [show element.toPointer = .slice e from heq] at hpointer
    cases hpointer
  · rw [raise_eq_contained hoptional]
    exact contained_eq_slice h

lemma not_hasPointer_contained (h : ¬ element.HasPointer) :
    ¬ (contained element cardinality).HasPointer := by
  cases cardinality with
  | singular => exact h
  | optional => exact h
  | repeated => simpa [contained, TypeRef.HasPointer, TypeRef.nodes] using h
  | map key => simpa [contained, TypeRef.HasPointer, TypeRef.nodes] using h

/-- Structural values stand in their container as they are, except in the wire layer. -/
lemma plainType_structural (hwire : layer ≠ .wire) (hkind : isStructural field.kind = true) :
    view.plainType field layer = contained (view.element layer field.kind) field.cardinality := by
  unfold Viewpoint.plainType
  by_cases hoptional : field.cardinality = .optional
  · simp [hoptional, hwire, hkind, contained]
  · simp only [hoptional, false_and, if_false]
    exact raise_eq_contained hoptional

/-- Every other type is its element raised to its cardinality. -/
lemma plainType_raised (h : ¬ (layer ≠ .wire ∧ isStructural field.kind = true)) :
    view.plainType field layer = raise (view.element layer field.kind) field.cardinality :=
  if_neg fun hboth => h hboth.2

/-- Elements that are pointers whatever the cardinality. -/
lemma isPointer_element (hkind : field.isMessage = true ∨ field.isWrapper = true) :
    (view.element layer field.kind).isPointer = true := by
  unfold Field.isMessage Field.isWrapper at hkind
  cases hfield : field.kind with
  | scalar scalar => simp [hfield] at hkind
  | enum typeName placement => simp [hfield] at hkind
  | message target => exact TypeRef.isPointer_toPointer _
  | wellKnown type =>
    cases type with
    | timestamp => simp [hfield] at hkind
    | struct => simp [hfield] at hkind
    | value => simp [hfield] at hkind
    | wrapper scalar =>
      simp only [Viewpoint.element, wellKnownType]
      split <;> rfl

lemma raise_isPointer (h : cardinality = .optional ∨
    cardinality = .singular ∧ element.isPointer = true) :
    (raise element cardinality).isPointer = true := by
  rcases h with rfl | ⟨rfl, h⟩
  · exact TypeRef.isPointer_toPointer element
  · exact h

lemma isStructural_iff :
    isStructural kind = true ↔ kind = .wellKnown .struct ∨ kind = .wellKnown .value := by
  unfold isStructural
  split <;> simp_all

/-- A structural value is a map or anything, in the container of its cardinality. -/
lemma contained_followsPolicy (hwire : layer ≠ .wire)
    (hkind : field.kind = .wellKnown .struct ∨ field.kind = .wellKnown .value) :
    FollowsPolicy field layer
      (contained (view.element layer field.kind) field.cardinality) := by
  have helement : (field.isStruct = true → view.element layer field.kind = .genericMap) ∧
      (field.isValue = true → view.element layer field.kind = .builtin .any) := by
    rcases hkind with hkind | hkind <;>
      simp [Field.isStruct, Field.isValue, hkind, Viewpoint.element, wellKnownType, hwire]
  have hpointer : ¬ (view.element layer field.kind).HasPointer := by
    rcases hkind with hkind | hkind
    · rw [helement.1 (by simp [Field.isStruct, hkind])]
      exact TypeRef.not_hasPointer_genericMap
    · rw [helement.2 (by simp [Field.isValue, hkind])]
      exact TypeRef.not_hasPointer_of_isLeaf rfl
  have hbare : ¬ (contained (view.element layer field.kind) field.cardinality).HasPointer :=
    not_hasPointer_contained hpointer
  constructor
  · exact fun h => hbare h.hasPointer
  · exact contained_eq_slice (not_slice_element view layer field.kind)
  · intro key hkey
    exact ⟨_, by rw [hkey]; rfl⟩
  · rcases hkind with hkind | hkind <;> simp [Field.isMessage, Field.isWrapper, hkind]
  · rcases hkind with hkind | hkind <;> simp [Field.isEnum, Field.isTimestamp, hkind]
  · intro _ hstruct
    exact ⟨by rw [helement.1 hstruct], hbare⟩
  · intro _ hvalue
    exact ⟨by rw [helement.2 hvalue], hbare⟩

/-- The type that element and cardinality make. -/
lemma plainType_followsPolicy (view : Viewpoint) (field : Field) (layer : Layer) :
    FollowsPolicy field layer (view.plainType field layer) := by
  have hundoubled := not_hasDouble_element view layer field.kind
  by_cases h : layer ≠ .wire ∧ isStructural field.kind = true
  · obtain ⟨hwire, hkind⟩ := h
    rw [plainType_structural hwire hkind]
    exact contained_followsPolicy hwire (isStructural_iff.mp hkind)
  · rw [plainType_raised h]
    constructor
    · exact not_hasDouble_raise hundoubled
    · exact raise_eq_slice (not_slice_element view layer field.kind)
    · intro key hkey
      exact ⟨_, by rw [hkey]; rfl⟩
    · intro hcardinality hkind
      exact raise_isPointer
        (hcardinality.symm.imp_right fun hone => ⟨hone, isPointer_element hkind⟩)
    · intro hoptional _
      exact raise_isPointer (.inl hoptional)
    · intro hwire hkind
      exact absurd ⟨hwire, isStructural_iff.mpr (.inl (beq_iff_eq.mp hkind))⟩ h
    · intro hwire hkind
      exact absurd ⟨hwire, isStructural_iff.mpr (.inr (beq_iff_eq.mp hkind))⟩ h

/-- A bitflag is let through on single unsigned numbers of 64 bits alone. -/
lemma bitflag_ok (h : field.fault? = none) {flag : Annotation.Bitflag}
    (hflag : field.bitflag? = some flag) :
    field.kind = .scalar .uint64 ∧ field.cardinality = .singular := by
  have hkind : field.kind = .scalar .uint64 := by
    by_contra hkind
    rw [Field.bitflag?_of_fault?_eq_none h hkind] at hflag
    cases hflag
  refine ⟨hkind, ?_⟩
  by_contra hcardinality
  simp [Field.fault?, hflag, bitflagFault?, hkind, hcardinality] at h

variable {settings : Settings} {index : Annotation.Index} {files : List FileDesc} {file : FileDesc}
  {schema : FileSchema} {message : Message}

/-- The type of a loaded field in a layer, and what it is of a field with a bitflag. A pointer
stands for absence, so it is written where the zero value does not say as much, and never twice. -/
theorem typeOf_followsPolicy (h : FileSchema.load settings index files file = .ok schema)
    (hmessage : message ∈ schema.messages) (hfield : field ∈ message.fields) (view : Viewpoint) :
    (∀ layer, (layer = .outbound → field.bitflag? = none ∧
        ∀ options, field.options.outbound = some options → options.customType = "") →
      ∃ type, view.typeOf field layer = .ok type ∧ FollowsPolicy field layer type) ∧
    ∀ flag, field.bitflag? = some flag →
      field.kind = .scalar .uint64 ∧ field.cardinality = .singular ∧
        view.typeOf field .outbound = .ok (.slice (.builtin .string)) := by
  constructor
  · intro layer houtbound
    refine ⟨view.plainType field layer, ?_, plainType_followsPolicy view field layer⟩
    unfold Viewpoint.typeOf
    by_cases hlayer : layer = .outbound
    · obtain ⟨hflag, hcustom⟩ := houtbound hlayer
      have hnone : customType field = .ok none := by
        unfold customType
        cases hoptions : field.options.outbound with
        | none => rfl
        | some options => simp [said, hcustom options hoptions]
      simp [hlayer, hflag, hnone]
    · simp [hlayer]
  · intro flag hflag
    obtain ⟨scope, name, fullName, desc, hmade⟩ := FileSchema.field_made h hmessage hfield
    obtain ⟨hkind, hcardinality⟩ := bitflag_ok (Scope.field_ok hmade).2 hflag
    exact ⟨hkind, hcardinality, by simp [Viewpoint.typeOf, hflag]⟩

/-- A message with flags, with messages of its own kind and with structural values. -/
def rosterFile : FileDesc :=
  packageFile "user" "acme"
    [.node
      { name := "UserWire"
        fields := [
          { name := "roles", number := 1, type := .uint64 },
          { name := "boss", type := .message, typeName := ".acme.UserWire" },
          { name := "friends", label := .repeated, type := .message, typeName := ".acme.UserWire" },
          { name := "nick", type := .string, proto3Optional := true },
          { name := "extra", type := .message, typeName := ".google.protobuf.Struct",
            proto3Optional := true },
          { name := "notes", label := .repeated, type := .message,
            typeName := ".acme.UserWire.NotesEntry" }] }
      [.node
        { name := "NotesEntry"
          isMapEntry := true
          fields := [{ name := "key", number := 1, type := .int32 },
            { name := "value", number := 2, type := .message,
              typeName := ".google.protobuf.Value" }] } []]]

def rosterIndex : Annotation.Index where
  fields := [(("acme.UserWire", 1), { outbound := some { bitflag := some { enum := "Role" } } })]

theorem roster_followsPolicy :
    ∃ schema, FileSchema.load {} rosterIndex [rosterFile] rosterFile = .ok schema ∧
      ∃ message ∈ schema.messages,
        message.fields.map (fun field =>
          (Viewpoint.typeOf ⟨schema.module, false⟩ field .domain).toOption.map TypeRef.text) =
            ["uint64", "*UserDomain", "[]*UserDomain", "*string", "map[string]any",
              "map[int32]any"].map some ∧
        (∃ field ∈ message.fields, ∃ flag, field.bitflag? = some flag ∧
          Viewpoint.typeOf ⟨schema.module, false⟩ field .outbound =
            .ok (.slice (.builtin .string))) ∧
        ∀ field ∈ message.fields, ∀ view : Viewpoint, ∀ layer, layer ≠ .outbound →
          ∃ type, view.typeOf field layer = .ok type ∧ FollowsPolicy field layer type := by
  have h : (FileSchema.load {} rosterIndex [rosterFile] rosterFile).toOption.any (fun schema =>
      decide (∃ message ∈ schema.messages,
        message.fields.map (fun field =>
          (Viewpoint.typeOf ⟨schema.module, false⟩ field .domain).toOption.map TypeRef.text) =
            ["uint64", "*UserDomain", "[]*UserDomain", "*string", "map[string]any",
              "map[int32]any"].map some ∧
        ∃ field ∈ message.fields, field.bitflag?.isSome = true)) = true := by
    decide +kernel
  obtain ⟨schema, hload, hcheck⟩ := exists_of_check h
  obtain ⟨message, hmessage, htypes, field, hfield, hflag⟩ := of_decide_eq_true hcheck
  obtain ⟨flag, hflag⟩ := Option.isSome_iff_exists.mp hflag
  refine ⟨schema, hload, message, hmessage, htypes, ⟨field, hfield, flag, hflag, ?_⟩, ?_⟩
  · exact ((typeOf_followsPolicy hload hmessage hfield _).2 flag hflag).2.2
  · intro field hfield view layer hlayer
    exact (typeOf_followsPolicy hload hmessage hfield view).1 layer fun h => absurd h hlayer

end Laminate.Form
