import Laminate.Proofs.Aliases
import Laminate.Proofs.PointerPolicy

/-! Types in tests outside the package. They are the types of the package with its own names
qualified, and what they name of other packages is qualified already. -/
namespace Laminate.Code.TypeRef

/-- A type as it is written outside the package whose own names it has. -/
def qualifyOwn (package : String) : TypeRef → TypeRef
  | builtin scalar => builtin scalar
  | named name => qualified package name
  | qualified other name => qualified other name
  | pointer target => pointer (target.qualifyOwn package)
  | slice element => slice (element.qualifyOwn package)
  | map key value => map (key.qualifyOwn package) (value.qualifyOwn package)

/-- A name of another package stands somewhere in a type without that package. -/
def HasUnnamedPackage (t : TypeRef) : Prop := ∃ name, qualified "" name ∈ t.nodes

lemma qualifyOwn_toPointer (package : String) (t : TypeRef) :
    t.toPointer.qualifyOwn package = (t.qualifyOwn package).toPointer := by
  cases t <;> rfl

lemma named_not_mem_qualifyOwn (package name : String) (t : TypeRef) :
    named name ∉ (t.qualifyOwn package).nodes := by
  induction t with
  | builtin scalar => simp [qualifyOwn, nodes]
  | named own => simp [qualifyOwn, nodes]
  | qualified other own => simp [qualifyOwn, nodes]
  | pointer target ih => simpa [qualifyOwn, nodes] using ih
  | slice element ih => simpa [qualifyOwn, nodes] using ih
  | map key value ihkey ihvalue => simp [qualifyOwn, nodes, ihkey, ihvalue]

lemma hasUnnamedPackage_toPointer {t : TypeRef} :
    t.toPointer.HasUnnamedPackage ↔ t.HasUnnamedPackage := by
  cases t <;> simp [HasUnnamedPackage, toPointer, nodes]

end Laminate.Code.TypeRef

namespace Laminate.Schema.Registry

open Laminate.Text Laminate.Descriptor

variable {files : List FileDesc}

/-- Where every module has a name, what is neither local nor qualified is in no module. -/
theorem place_unqualified_iff (named : ∀ file ∈ files, (Module.ofFile file).goName ≠ "")
    (current : Module) (typeName : String) :
    ((ofFiles files).place current typeName).isLocal = false ∧
        ((ofFiles files).place current typeName).goName = "" ↔ isUnplaced typeName = true := by
  cases hunplaced : isUnplaced typeName with
  | true => simp [place_of_isUnplaced hunplaced]
  | false =>
    refine iff_of_false (fun h => ?_) (by simp)
    rcases goName_place (ofFiles files) current hunplaced with ⟨m, hm, hgoName⟩ | hgoName
    · exact qualifier_ne_empty named hm (hgoName.symm.trans h.2)
    · exact lastPiece_ne_empty hunplaced (hgoName.symm.trans h.2)

end Laminate.Schema.Registry

namespace Laminate.FileSchema

open Laminate.Schema Laminate.Descriptor Laminate.Annotation

variable {settings : Settings} {index : Index} {files : List FileDesc} {file : FileDesc}
  {schema : FileSchema} {message : Message} {field : Field}

/-- A message that a field holds lies where the registry says. -/
lemma placement_of_load (h : load settings index files file = .ok schema)
    (hmessage : message ∈ schema.messages) (hfield : field ∈ message.fields)
    {target : MessageTarget} (hkind : field.kind = .message target) :
    target.placement = (Registry.ofFiles files).place schema.module target.typeName := by
  obtain ⟨symbols, name, fullName, desc, hmade⟩ := field_scoped h hmessage hfield
  obtain ⟨⟨element, helement⟩, -⟩ := Scope.field_ok hmade
  rw [hkind] at helement
  obtain ⟨symbol, -, rfl⟩ := Scope.kindOf_message helement
  simp only [scope, (load_ok h).1]

end Laminate.FileSchema

namespace Laminate.Form

open Laminate.Schema Laminate.Code Laminate.Descriptor Laminate.Annotation

variable {m : Module}

lemma typeAt_test (m : Module) (placement : Placement) (name : String) :
    Viewpoint.typeAt ⟨m, true⟩ placement name =
      (Viewpoint.typeAt ⟨m, false⟩ placement name).qualifyOwn m.goName := by
  unfold Viewpoint.typeAt
  split <;> rfl

lemma element_test (m : Module) (layer : Layer) (kind : FieldKind) :
    Viewpoint.element ⟨m, true⟩ layer kind =
      (Viewpoint.element ⟨m, false⟩ layer kind).qualifyOwn m.goName := by
  cases kind with
  | scalar scalar => rfl
  | enum typeName placement =>
    simp only [Viewpoint.element]
    split
    · exact typeAt_test m placement _
    · rfl
  | wellKnown type =>
    simp only [Viewpoint.element]
    cases type <;> simp only [wellKnownType] <;> split <;> rfl
  | message target =>
    rw [Viewpoint.element, Viewpoint.element, TypeRef.qualifyOwn_toPointer, typeAt_test]

lemma qualifyOwn_raise (package : String) (element : TypeRef) (cardinality : Cardinality) :
    (raise element cardinality).qualifyOwn package =
      raise (element.qualifyOwn package) cardinality := by
  cases cardinality with
  | singular => rfl
  | optional => exact TypeRef.qualifyOwn_toPointer package element
  | repeated => rfl
  | map key => rfl

/-- Tests write the type that the package has with its names qualified, whatever it is made of. -/
lemma plainType_test (m : Module) (field : Field) (layer : Layer) :
    Viewpoint.plainType ⟨m, true⟩ field layer =
      (Viewpoint.plainType ⟨m, false⟩ field layer).qualifyOwn m.goName := by
  simp only [Viewpoint.plainType, element_test]
  split
  · rfl
  · rw [qualifyOwn_raise]

lemma hasUnnamedPackage_plainType {view : Viewpoint} {field : Field} {layer : Layer} :
    (view.plainType field layer).HasUnnamedPackage ↔
      (view.element layer field.kind).HasUnnamedPackage := by
  unfold Viewpoint.plainType
  simp only
  split
  · rfl
  · cases field.cardinality with
    | singular => rfl
    | optional => exact TypeRef.hasUnnamedPackage_toPointer
    | repeated => simp [raise, TypeRef.HasUnnamedPackage, TypeRef.nodes]
    | map key => simp [raise, TypeRef.HasUnnamedPackage, TypeRef.nodes]

/-- In a test, a domain form is without its package where it is of no package that has a name. -/
lemma hasUnnamedPackage_typeAt (hname : m.goName ≠ "") (placement : Placement) (name : String) :
    (Viewpoint.typeAt ⟨m, true⟩ placement name).HasUnnamedPackage ↔
      placement.isLocal = false ∧ placement.goName = "" := by
  unfold Viewpoint.typeAt
  cases hlocal : placement.isLocal with
  | true => simp [TypeRef.HasUnnamedPackage, TypeRef.nodes, hname.symm]
  | false =>
    simp only [TypeRef.HasUnnamedPackage, TypeRef.nodes, Bool.false_eq_true, if_false,
      List.mem_singleton, TypeRef.qualified.injEq, exists_and_left, exists_eq, and_true, true_and]
    exact eq_comm

lemma hasUnnamedPackage_element (hname : m.goName ≠ "") (kind : FieldKind) :
    (Viewpoint.element ⟨m, true⟩ .domain kind).HasUnnamedPackage ↔
      ∃ target, kind = .message target ∧ target.placement.isLocal = false ∧
        target.placement.goName = "" := by
  cases kind with
  | scalar scalar => simp [Viewpoint.element, TypeRef.HasUnnamedPackage, TypeRef.nodes]
  | enum typeName placement => simp [Viewpoint.element, TypeRef.HasUnnamedPackage, TypeRef.nodes]
  | wellKnown type =>
    cases type <;>
      simp [Viewpoint.element, wellKnownType, TypeRef.HasUnnamedPackage, TypeRef.nodes,
        TypeRef.time, TypeRef.genericMap, TypeRef.toPointer]
  | message target =>
    rw [Viewpoint.element, TypeRef.hasUnnamedPackage_toPointer, hasUnnamedPackage_typeAt hname]
    simp

variable {settings : Settings} {index : Index} {files : List FileDesc} {file : FileDesc}
  {schema : FileSchema} {message : Message} {field : Field}

/-- Tests outside the package write the domain type of a field with the package's own names
qualified. Where every module has a name, all other names are qualified too, but for those of
messages whose full name is in no module. -/
theorem typeOf_test (h : FileSchema.load settings index files file = .ok schema)
    (hmessage : message ∈ schema.messages) (hfield : field ∈ message.fields) :
    ∃ own test, Viewpoint.typeOf ⟨schema.module, false⟩ field .domain = .ok own ∧
      Viewpoint.typeOf ⟨schema.module, true⟩ field .domain = .ok test ∧
      test = own.qualifyOwn schema.module.goName ∧
      (∀ name, .named name ∉ test.nodes) ∧
      ((∀ other ∈ files, (Module.ofFile other).goName ≠ "") →
        (test.HasUnnamedPackage ↔
          ∃ target, field.kind = .message target ∧
            Registry.isUnplaced target.typeName = true)) := by
  refine ⟨_, _, rfl, rfl, plainType_test schema.module field .domain, fun name => ?_, ?_⟩
  · rw [plainType_test]
    exact TypeRef.named_not_mem_qualifyOwn _ name _
  · intro named
    rw [hasUnnamedPackage_plainType, hasUnnamedPackage_element (FileSchema.goName_of_load h)]
    refine exists_congr fun target => and_congr_right fun hkind => ?_
    rw [FileSchema.placement_of_load h hmessage hfield hkind]
    exact Registry.place_unqualified_iff named schema.module target.typeName

theorem roster_typeOf_test :
    ∃ schema, FileSchema.load {} rosterIndex [rosterFile] rosterFile = .ok schema ∧
      ∃ message ∈ schema.messages,
        message.fields.map (fun field =>
          (Viewpoint.typeOf ⟨schema.module, true⟩ field .domain).toOption.map TypeRef.text) =
            ["uint64", "*user.UserDomain", "[]*user.UserDomain", "*string", "map[string]any",
              "map[int32]any"].map some ∧
        ∀ field ∈ message.fields,
          ∃ own test, Viewpoint.typeOf ⟨schema.module, false⟩ field .domain = .ok own ∧
            Viewpoint.typeOf ⟨schema.module, true⟩ field .domain = .ok test ∧
            test = own.qualifyOwn schema.module.goName ∧ (∀ name, .named name ∉ test.nodes) ∧
            ¬ test.HasUnnamedPackage := by
  have h : (FileSchema.load {} rosterIndex [rosterFile] rosterFile).toOption.any (fun schema =>
      decide (∃ message ∈ schema.messages,
        message.fields.map (fun field =>
          (Viewpoint.typeOf ⟨schema.module, true⟩ field .domain).toOption.map TypeRef.text) =
            ["uint64", "*user.UserDomain", "[]*user.UserDomain", "*string", "map[string]any",
              "map[int32]any"].map some ∧
        ∀ field ∈ message.fields, field.isMessage = true →
          holdsWire ".acme.UserWire" field = true)) = true := by
    decide +kernel
  obtain ⟨schema, hload, hcheck⟩ := exists_of_check h
  obtain ⟨message, hmessage, htypes, hholds⟩ := of_decide_eq_true hcheck
  refine ⟨schema, hload, message, hmessage, htypes, fun field hfield => ?_⟩
  obtain ⟨own, test, hown, htest, hqualified, hnamed, hunnamed⟩ :=
    typeOf_test hload hmessage hfield
  refine ⟨own, test, hown, htest, hqualified, hnamed, fun hpackage => ?_⟩
  obtain ⟨target, hkind, htarget⟩ := (hunnamed (by decide +kernel)).mp hpackage
  have hwire := hholds field hfield (by simp [Field.isMessage, hkind])
  simp only [holdsWire, hkind, Bool.and_eq_true, beq_iff_eq] at hwire
  rw [hwire.1] at htarget
  exact absurd htarget (by decide +kernel)

/-- A file without a package, whose messages hold one another. -/
def looseFile : FileDesc :=
  packageFile "user" "" [holder "UserWire" ".AddressWire" [], .node { name := "AddressWire" } []]

/-- A message of a package that has no name. -/
def namelessFiles : List FileDesc :=
  [packageFile "user" "acme" [holder "UserWire" ".acme.common.AddressWire" []],
    { packageFile "common" "acme.common" [.node { name := "AddressWire" } []] with
      goPackage := some "github.com/acme/common;" }]

lemma registry_nameless :
    Registry.ofFiles namelessFiles =
      { modules := [⟨"acme.common", "", "github.com/acme/common"⟩,
          ⟨"acme", "user", "github.com/acme/user"⟩]
        qualifiers := [("github.com/acme/user", "user"), ("github.com/acme/common", "")] } :=
  (ofFiles_pair rfl).trans rfl

/-- A loaded domain message has a field whose type in tests is a name of no package. -/
def WritesBare (files : List FileDesc) (file : FileDesc) (name : String) : Prop :=
  ∃ schema, FileSchema.load {} {} files file = .ok schema ∧
    ∃ message ∈ schema.messages, message.hasDomain = true ∧ ∃ field ∈ message.fields,
      Viewpoint.typeOf ⟨schema.module, true⟩ field .domain =
        .ok (.pointer (.qualified "" name))

lemma writesBare_of_check {name : String}
    (h : (FileSchema.load {} {} files file).toOption.any (fun schema =>
      decide (∃ message ∈ schema.messages, message.hasDomain = true ∧ ∃ field ∈ message.fields,
        Viewpoint.plainType ⟨schema.module, true⟩ field .domain =
          .pointer (.qualified "" name))) = true) :
    WritesBare files file name := by
  obtain ⟨schema, hload, hcheck⟩ := exists_of_check h
  obtain ⟨message, hmessage, hdomain, field, hfield, htype⟩ := of_decide_eq_true hcheck
  exact ⟨schema, hload, message, hmessage, hdomain, field, hfield, congrArg _ htype⟩

theorem bare_test_types :
    WritesBare [looseFile] looseFile "AddressDomain" ∧
      WritesBare namelessFiles namelessFiles[0] "AddressDomain" := by
  constructor
  · exact writesBare_of_check (by decide +kernel)
  · refine writesBare_of_check ?_
    unfold FileSchema.load
    rw [registry_nameless]
    decide +kernel

end Laminate.Form
