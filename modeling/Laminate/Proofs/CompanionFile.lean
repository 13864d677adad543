import Laminate.Proofs.CompanionLiterals
import Laminate.Proofs.CompanionOutcome
import Laminate.Proofs.CompanionShapes
import Laminate.Proofs.Evaluation
import Laminate.Proofs.Placement
import Laminate.Proofs.Planning
import Laminate.Proofs.StructTags
import Laminate.Template.Layers

/-! The companion file next to the domain file of the main language: the same structs in the same
order, whose fields have the same keys, leave out the same values and have types of one shape. -/
namespace Laminate.Companion

open Laminate.Text Laminate.Code Laminate.Form Laminate.Schema Laminate.Annotation
  Laminate.Descriptor

/-! ### What the fields of both languages say -/

/-- What a struct tag says of the serialized form: a field's key, and whether it is left out when it
is empty. -/
def TagSays (tag key : String) (omits : Bool) : Prop :=
  ∃ value, lookupTag "json" tag.toList = some (encode value) ∧
    pieces (· == ',') value = key :: if omits then ["omitempty"] else []

/-- The items of an attribute for the serialized form. -/
def serdeItems : Doc → List String
  | .bracketed "#[serde(" items ")]" _ => items.filterMap fun
    | .text item => some item
    | _ => none
  | _ => []

/-- The key that a field has by its attribute. -/
def renamed? (serde : Doc) : Option String :=
  (serdeItems serde).findSome? fun item => (dropHead? "rename = " item).bind readString?

/-- Whether a field is left out by its attribute when there is no value. -/
def leavesNoneOut (serde : Doc) : Bool :=
  (serdeItems serde).contains "skip_serializing_if = \"Option::is_none\""

/-- Two fields that describe one member of the serialized form. -/
structure SameMember (main : Code.StructField) (companion : StructField) : Prop where
  name : fieldName? main.name = some companion.name
  key : ∃ key omits, TagSays main.tag key omits ∧ renamed? companion.attribute = some key ∧
    (leavesNoneOut companion.attribute = true ↔ Shape.ofText main.type = .optional ∧ omits = true)
  shape : '>' ∉ main.type.toList → Shape.ofLayout companion.layout = Shape.ofText main.type

/-- The structs that some declarations define. -/
def structsIn (decls : List Decl) : List (String × List Code.StructField) :=
  decls.filterMap fun
    | .struct _ name fields => some (name, fields)
    | _ => none

/-! ### Tags and attributes -/

section

variable {key : String} {allowEmpty : Bool} {rest : List TagPart}

lemma comma_notMem_serializedKey (name : String) (naming : Naming) :
    ',' ∉ (serializedKey name naming).toList := by
  have hcomma : isWordChar ',' = false := by decide +kernel
  cases naming with
  | snake =>
    intro h
    rcases of_mem_snakeCase ',' h with hscore | hword
    · cases hscore
    · simp [hcomma] at hword
  | camel =>
    intro h
    have hword := of_mem_lowerCamelCase ',' h
    simp [hcomma] at hword

lemma isPlain_jsonTag (h : isTagText key = true) : (jsonTag key allowEmpty).IsPlain :=
  (isClosed_of_mem (by decide)
    (by rw [isTagText_append, h, isTagText_omitEmpty]; rfl)).toIsPlain

lemma tagSays_jsonTag (h : isTagText key = true) (hcomma : ',' ∉ key.toList) :
    TagSays (tagText (jsonTag key allowEmpty :: rest)) key !allowEmpty := by
  have hplain : (jsonTag key allowEmpty).IsPlain := isPlain_jsonTag h
  have hcut : ∀ c ∈ key.toList, (c == ',') = false := fun c hc =>
    beq_false_of_ne fun heq => hcomma (heq ▸ hc)
  refine ⟨key ++ omitEmpty allowEmpty, ?_, ?_⟩
  · rw [toList_tagText_cons, lookupTag_eq, dropWhile_text hplain, scanPair_text hplain]
    exact unquote_value hplain
  · cases allowEmpty with
    | true =>
      simp [pieces, omitEmpty, splitAt_of_not_mem hcut]
    | false =>
      have homit : ",omitempty".toList = ',' :: "omitempty".toList := by decide
      have hword : splitAt (· == ',') "omitempty".toList = ["omitempty".toList] := by decide
      rw [pieces, omitEmpty, if_neg (by decide), String.toList_append, homit,
        splitAt_append rfl, splitAt_of_not_mem hcut, hword]
      simp

lemma renamed?_attribute (field : StructField) : renamed? field.attribute = some field.key := by
  have hdrop : dropHead? "rename = " ("rename = " ++ stringLiteral field.key) =
      some (stringLiteral field.key) :=
    Registry.dropHead?_eq_some.mpr (String.toList_append ..).symm
  cases hskips : field.skipsNone <;>
    simp [renamed?, serdeItems, StructField.attribute, hskips, hdrop, readString?_stringLiteral]

lemma leavesNoneOut_attribute (field : StructField) :
    leavesNoneOut field.attribute = field.skipsNone := by
  have hrename : "skip_serializing_if = \"Option::is_none\"" ≠
      "rename = " ++ stringLiteral field.key := by
    intro heq
    have hhead := congrArg (fun text => text.toList.head?) heq
    simp [String.toList_append] at hhead
  cases hskips : field.skipsNone <;>
    simp [leavesNoneOut, serdeItems, StructField.attribute, hskips, hrename]

end

/-! ### Fields -/

section

variable {settings : Settings} {schema : FileSchema} {plan : Plan}

/-- How a planned field has been made. -/
lemma exists_planned (h : Plan.of settings schema = .ok plan) {m : PlannedMessage}
    (hm : m ∈ plan.messages) {f : PlannedField} (hf : f ∈ m.fields) :
    ∃ p : Planning, p.field m.message f.field = .ok f := by
  obtain ⟨-, -, -, -, -, ⟨locations, hplanned⟩, -⟩ := Plan.of_ok h
  obtain ⟨message, -, hok⟩ := exists_of_mem_forall₂ hplanned hm
  unfold Planning.message at hok
  obtain ⟨fields, hfields, rfl⟩ := map_eq_ok.mp hok
  obtain ⟨field, -, hfield⟩ := exists_of_mem_forall₂ (mapM_eq_ok.mp hfields) hf
  exact ⟨_, by rw [(Planning.field_ok hfield).1]; exact hfield⟩

lemma tags_of_field_ok {p : Planning} {message : Message} {field : Field} {f : PlannedField}
    (h : p.field message field = .ok f) :
    f.tags = FieldTags.of p.settings.database field f.names f.keys := by
  unfold Planning.field at h
  simp only [bind_eq_ok, pure_eq_ok, ite_bind_eq_ok] at h
  obtain ⟨_, -, _, -, _, -, _, -, _, -, _, -, _, -, rfl⟩ := h
  rfl

/-- Pointers are the types that are optional in the main language. -/
lemma ofText_optional_iff (view : Viewpoint) (field : Field) :
    Shape.ofText (view.plainType field .domain).text = .optional ↔
      (view.plainType field .domain).isPointer = true := by
  obtain ⟨element, helement, htype | htype | ⟨key, htype⟩⟩ := plainType_cases view field
  · rw [htype]
    cases helement with
    | builtin scalar => cases scalar <;> decide
    | time => decide
    | genericMap => decide
    | pointer htarget => exact iff_of_true (ofText_pointer _) rfl
  · rw [htype]
    have hbrackets : "[]".toList = ['[', ']'] := by decide
    refine iff_of_false ?_ Bool.false_ne_true
    simp only [Shape.ofText, TypeRef.text, String.toList_append, hbrackets, List.cons_append,
      List.nil_append]
    split <;> decide
  · rw [htype, ofText_map]
    exact iff_of_false (by decide) Bool.false_ne_true

/-- The fields that both languages make of a planned field. -/
lemma sameMember_of_ok {p : Planning} {message : Message} {f : PlannedField} {domain : TypeRef}
    {companion : StructField} (hfield : p.field message f.field = .ok f)
    (hdomain : f.domain = some domain)
    (h : StructField.of typeLayout? f domain = .ok companion) :
    SameMember (Template.structField f.names.domain domain f.tags.domain) companion := by
  obtain ⟨-, planned⟩ := Planning.field_ok hfield
  have htype : domain = Viewpoint.plainType ⟨p.module, false⟩ f.field .domain := by
    have hmade := planned.types .domain
    rw [PlannedField.typeIn, hdomain] at hmade
    obtain ⟨-, hof⟩ := onlyIf_some hmade
    simpa [Viewpoint.typeOf] using hof.symm
  unfold StructField.of at h
  split at h
  · cases h
  · next name hname =>
    dsimp only at h
    split at h
    · cases h
    · next layout hlayout =>
      cases h
      have hkey : f.keys.domain = serializedKey f.names.domain (message.naming .domain) := by
        rw [planned.keys]
        rfl
      refine ⟨hname, ⟨f.keys.domain, !f.field.options.domain.any (·.allowEmpty), ?_,
        renamed?_attribute _, ?_⟩, fun hmark => ?_⟩
      · show TagSays (tagText f.tags.domain) _ _
        rw [tags_of_field_ok hfield]
        refine tagSays_jsonTag ?_ ?_
        · rw [hkey]
          exact isTagText_serializedKey _ _
        · rw [hkey]
          exact comma_notMem_serializedKey _ _
      · rw [leavesNoneOut_attribute, Bool.and_eq_true]
        subst htype
        rw [← ofText_optional_iff]
        rfl
      · subst htype
        exact ofLayout_plainType hmark hlayout

/-! ### Structs -/

lemma structsIn_append (decls more : List Decl) :
    structsIn (decls ++ more) = structsIn decls ++ structsIn more :=
  List.filterMap_append

lemma structsIn_domainDecls (m : PlannedMessage) :
    structsIn (Template.domainDecls m) =
      [(m.message.names.domain, Template.domainFields m)] := by
  have hcustom : structsIn (m.message.options.customCode.map fun block =>
      .verbatim (Template.customLines block)) = [] := by
    simp [structsIn]
  have hstruct : structsIn [Template.domainStruct m] =
      [(m.message.names.domain, Template.domainFields m)] := rfl
  rw [Template.domainDecls, ← List.singleton_append, structsIn_append, hcustom, hstruct]
  rfl

/-- The domain file defines one struct for each domain message. -/
lemma structsIn_domain (plan : Plan) : structsIn (Template.decls plan .domain) =
    plan.domainMessages.map fun m => (m.message.names.domain, Template.domainFields m) := by
  have hall : ∀ messages : List PlannedMessage,
      structsIn (messages.flatMap Template.domainDecls) =
        messages.map fun m => (m.message.names.domain, Template.domainFields m) := by
    intro messages
    induction messages with
    | nil => rfl
    | cons m rest ih =>
      rw [List.flatMap_cons, structsIn_append, ih, structsIn_domainDecls]
      rfl
  exact hall plan.domainMessages

/-- Two structs that describe one object of the serialized form. -/
def SameObject (main : String × List Code.StructField) (companion : Struct) : Prop :=
  companion.name = main.1 ∧ List.Forall₂ SameMember main.2 companion.fields

lemma sameObject_of_ok (hplan : Plan.of settings schema = .ok plan) {m : PlannedMessage}
    (hm : m ∈ plan.messages) {s : Struct} (h : Struct.of typeLayout? m = .ok s) :
    SameObject (m.message.names.domain, Template.domainFields m) s ∧
      s.wire = m.message.names.wire := by
  unfold Struct.of at h
  dsimp only at h
  split at h
  · cases h
  · next name hname =>
    obtain ⟨fields, hfields, rfl⟩ := map_eq_ok.mp h
    refine ⟨⟨?_, ?_⟩, rfl⟩
    · unfold typeName? at hname
      split at hname <;> cases hname
      rfl
    · have hfields' : Template.domainFields m =
          (m.fields.filterMap fun f => f.domain.map (f, ·)).map fun (f, domain) =>
            Template.structField f.names.domain domain f.tags.domain := by
        rw [Template.domainFields, List.map_filterMap]
        congr 1
        funext f
        cases f.domain <;> rfl
      rw [hfields', List.forall₂_map_left_iff]
      have htyped : ∀ typed ∈ m.fields.filterMap fun f => f.domain.map (f, ·),
          typed.1 ∈ m.fields ∧ typed.1.domain = some typed.2 := fun _ => mem_typed.mp
      refine List.Forall₂.imp ?_
        ((List.forall₂_and_left _ _).mpr ⟨htyped, mapM_eq_ok.mp hfields⟩)
      rintro ⟨f, domain⟩ companion ⟨⟨hf, hdomain⟩, hof⟩
      obtain ⟨p, hfield⟩ := exists_planned hplan hm hf
      exact sameMember_of_ok hfield hdomain hof

end

/-- The types of some structs as they are written, with their shapes. -/
def shapesOf (structs : List Struct) : List (List (String × Shape)) :=
  structs.map fun s => s.fields.map fun f => (f.layout.flat, Shape.ofLayout f.layout)

/-- A check of the companion structs of a file that is written, with what they are made from. -/
def checkStructs (request : Request) (file : FileDesc) (check : Plan → List Struct → Bool) : Bool :=
  (request.plan {} {} file).toOption.any fun plan =>
    (structsOf plan).toOption.any fun structs =>
      structs.all Struct.isPrintable && check plan structs

lemma exists_of_checkStructs {request : Request} {file : FileDesc}
    {check : Plan → List Struct → Bool} (h : checkStructs request file check = true) :
    ∃ plan text structs, request.plan {} {} file = .ok plan ∧ fileText plan = .ok text ∧
      structsOf plan = .ok structs ∧ check plan structs = true := by
  obtain ⟨plan, hplan, hcheck⟩ := exists_of_check h
  obtain ⟨structs, hstructs, hcheck⟩ := exists_of_check hcheck
  obtain ⟨hprintable, hcheck⟩ := Bool.and_eq_true_iff.mp hcheck
  exact ⟨plan, _, structs, hplan, fileTextBy_eq_ok.mpr ⟨structs, hstructs, hprintable, rfl⟩,
    hstructs, hcheck⟩

/-- A message that refers to itself, once and many times. -/
def branchRequest : Request where
  files := [packageFile "user" "acme"
    [.node
      { name := "UserWire"
        fields := [{ name := "boss", number := 1, type := .message, typeName := ".acme.UserWire" },
          { name := "team", label := .repeated, number := 2, type := .message,
            typeName := ".acme.UserWire" },
          { name := "seal", number := 3, type := .bytes }] } []]]
  generate := []

/-- A package whose name closes two angle brackets and opens two others. -/
def unclosedRequest : Request where
  files := [packageFile "user" "acme" [holder "UserWire" ".acme.common.AddressWire" []],
    { packageFile "common" "acme.common" [.node { name := "AddressWire" } []] with
      goPackage := some "github.com/acme/common;a>> + b<c<d" }]
  generate := []

lemma registry_unclosed : Registry.ofFiles unclosedRequest.files =
    { modules := [⟨"acme.common", "a>> + b<c<d", "github.com/acme/common"⟩,
        ⟨"acme", "user", "github.com/acme/user"⟩]
      qualifiers := [("github.com/acme/user", "user"),
        ("github.com/acme/common", "a>> + b<c<d")] } :=
  (ofFiles_pair rfl).trans rfl

end Laminate.Companion
