import Laminate.Proofs.References

/-! What loading takes from a file, and what it says of the rest.
Every message that is no map entry is loaded with its enums, each once. A field of it is surfaced or
is reported as skipped, and what else is reported is read off the descriptors as well. -/
namespace Laminate.Descriptor

open Laminate.Schema Laminate.Annotation

/-! ### Names -/

lemma foldl_qualify (names : List String) (scope : String) :
    names.foldl qualify scope = ".".intercalate ((scope :: names).dropWhile String.isEmpty) := by
  induction names generalizing scope with
  | nil =>
    cases hempty : scope.isEmpty with
    | true => simp [String.isEmpty_iff.mp hempty]
    | false => simp [hempty]
  | cons name rest ih =>
    rw [List.foldl_cons, ih, qualify]
    cases hempty : scope.isEmpty with
    | true => simp [hempty]
    | false =>
      have hjoined : (scope ++ "." ++ name).isEmpty = false := by
        rw [String.isEmpty_eq_false_iff]
        intro heq
        simpa using congrArg String.toList heq
      rw [if_neg (by simp), List.dropWhile_cons_of_neg (by simp [hjoined]),
        List.dropWhile_cons_of_neg (by simp [hempty])]
      cases rest with
      | nil => simp [String.intercalate_cons_cons, String.intercalate_singleton]
      | cons next rest => simp only [String.intercalate_cons_cons, String.append_assoc]

lemma foldl_stem (names : List String) (stem name : String) :
    names.foldl (fun stem name => stem ++ name ++ "_") stem ++ name =
      stem ++ "_".intercalate (names ++ [name]) := by
  induction names generalizing stem with
  | nil => simp [String.intercalate_singleton]
  | cons first rest ih =>
    rw [List.foldl_cons, ih, List.cons_append]
    cases hrest : rest ++ [name] with
    | nil => simp at hrest
    | cons next more => simp only [String.intercalate_cons_cons, String.append_assoc]

namespace Declaration

variable (d : Declaration)

/-- A full name is the names on the way to a message between dots; what is empty at the front has
no dot after it. -/
lemma fullName_eq : d.fullName =
    ".".intercalate ((d.package :: (d.path ++ [d.desc.name])).dropWhile String.isEmpty) := by
  rw [← foldl_qualify, List.foldl_append]
  rfl

/-- A wire name is the names on the way to a message between underscores. -/
lemma wireName_eq : d.wireName = "_".intercalate (d.path ++ [d.desc.name]) := by
  rw [wireName, stem, foldl_stem, String.empty_append]

/-- The enums in a message, but not those in the messages in it. -/
def enums : List Enum := d.desc.enums.map (Enum.ofDesc d.fullName (d.wireName ++ "_"))

end Declaration

/-! ### Enums -/

section

variable {package : String}

lemma map_enum (d : Declaration) :
    (d.desc.enums.map (EnumDeclaration.mk d.package (d.path ++ [d.desc.name]))).map
      EnumDeclaration.enum = d.enums := by
  rw [List.map_map]
  refine List.map_congr_left fun desc _ => ?_
  simp [EnumDeclaration.enum, EnumDeclaration.site, Declaration.outer, Declaration.stem,
    Declaration.fullName, Declaration.wireName]

mutual

theorem MessageTree.enums_perm (path : List String) (tree : MessageTree) :
    ((tree.enumDeclarations package path).map EnumDeclaration.enum).Perm
      (((tree.declarations package path false).filter (!·.inEntry)).flatMap Declaration.enums) := by
  match tree with
  | .node desc nested =>
    rw [MessageTree.enumDeclarations, MessageTree.declarations]
    cases hentry : desc.isMapEntry with
    | true =>
      rw [if_pos rfl, List.filter_eq_nil_iff.mpr]
      · exact .nil
      · intro d hd
        rcases List.mem_cons.mp hd with rfl | hd
        · simp
        · simp [inEntry_of_mem_allDeclarations hd]
    | false =>
      have hown := map_enum ⟨package, path, desc, false⟩
      rw [if_neg (by simp), List.map_append, hown, List.filter_cons_of_pos (by simp),
        List.flatMap_cons]
      exact List.perm_append_comm.trans ((allEnums_perm (path ++ [desc.name]) nested).append_left _)

/-- The enums of trees are those of the messages in them that are no map entries. -/
theorem allEnums_perm (path : List String) (trees : List MessageTree) :
    ((allEnumDeclarations package path trees).map EnumDeclaration.enum).Perm
      (((allDeclarations package path false trees).filter (!·.inEntry)).flatMap
        Declaration.enums) := by
  match trees with
  | [] => exact .nil
  | tree :: rest =>
    rw [allEnumDeclarations, allDeclarations, List.map_append, List.filter_append,
      List.flatMap_append]
    exact (tree.enums_perm path).append (allEnums_perm path rest)

end

end

end Laminate.Descriptor

namespace Laminate.Schema

open Laminate.Descriptor Laminate.Annotation

namespace Scope

variable {scope : Scope} {path message fullName : String} {desc : FieldDesc}

/-! ### Members -/

/-- The descriptor of one element of a field; of a map, that of a value. -/
def element (scope : Scope) (desc : FieldDesc) : FieldDesc :=
  match scope.mapEntry? desc with
  | some entry => (entry.fields.find? (·.number == 2)).getD desc
  | none => desc

/-- Whether an element is a message without a kind, and not a standard one. -/
def isUnsuffixed (scope : Scope) (element : FieldDesc) : Bool :=
  (element.type == .message || element.type == .group) &&
    (WellKnown.ofTypeName? element.typeName).isNone &&
      (scope.symbols.lookup element.typeName).any (·.kind == .unknown)

/-- What loading has to say of a field of the message with this wire name and this full name. -/
def warning? (scope : Scope) (message fullName : String) (desc : FieldDesc) : Option Warning :=
  if isOneofMember desc then some (.skippedOneofMember fullName desc.name)
  else if scope.isUnsuffixed (scope.element desc) then
    some (.unsuffixedTarget (message ++ "." ++ desc.name) (scope.element desc).typeName)
  else none

lemma shapeOf_element {kind : FieldKind} {cardinality : Cardinality}
    (h : scope.shapeOf path desc = .ok (kind, cardinality)) :
    scope.kindOf path (scope.element desc) = .ok kind := by
  unfold shapeOf at h
  unfold element
  split at h
  · next entry hentry =>
    split at h
    · cases h
    · next key value htypes =>
      obtain ⟨made, hmade, hpair⟩ := map_eq_ok.mp h
      cases hpair
      have hvalue : entry.fields.find? (·.number == 2) = some value := by
        unfold mapTypes at htypes
        split at htypes
        · split at htypes
          · next hvalue _ _ _ =>
            cases htypes
            exact hvalue
          · cases htypes
        · cases htypes
      simpa only [hentry, hvalue, Option.getD_some] using hmade
  · next hentry =>
    obtain ⟨made, hmade, hpair⟩ := map_eq_ok.mp h
    cases hpair
    simpa only [hentry] using hmade

/-- A field of a kind that is a message without a suffix is told by its element. -/
lemma unsuffixed_of_kindOf {kind : FieldKind} (h : scope.kindOf path desc = .ok kind) :
    scope.isUnsuffixed desc = true ↔
      ∃ target, kind = .message target ∧ target.kind = .unknown := by
  unfold isUnsuffixed
  unfold kindOf at h
  cases hscalar : scalarOf? desc.type with
  | some scalar =>
    simp only [hscalar, Except.ok.injEq] at h
    subst h
    cases htype : desc.type <;> simp_all [scalarOf?]
  | none =>
    simp only [hscalar] at h
    split at h
    · next henum =>
      cases h
      simp [henum]
    · next henum =>
      have htype : (desc.type == .message || desc.type == .group) = true := by
        cases htype : desc.type <;> simp_all [scalarOf?]
      split at h
      · next type hstandard =>
        cases h
        simp [hstandard]
      · next hstandard =>
        split at h
        · cases h
        · next symbol hsymbol =>
          cases h
          simp [htype, hstandard, hsymbol]

lemma field_element {field : Field} (h : scope.field message fullName desc = .ok field) :
    field.name = desc.name ∧ field.number = desc.number ∧ field.message = message ∧
      scope.kindOf (message ++ "." ++ desc.name) (scope.element desc) = .ok field.kind := by
  unfold Scope.field at h
  simp only at h
  split at h
  · cases h
  · split at h
    · cases h
    · next kind cardinality hshape =>
      split at h
      · cases h
      · cases h
        exact ⟨rfl, rfl, rfl, shapeOf_element hshape⟩

lemma warning?_surfaced {field : Field} (h : scope.field message fullName desc = .ok field)
    (honeof : isOneofMember desc = false) :
    Member.warning? fullName (.surfaced field) = scope.warning? message fullName desc := by
  obtain ⟨hname, -, hmessage, hkind⟩ := field_element h
  have hpath : field.path = message ++ "." ++ desc.name := by rw [Field.path, hmessage, hname]
  have htarget := unsuffixed_of_kindOf hkind
  unfold warning?
  rw [if_neg (by simp [honeof])]
  split
  · next hunsuffixed =>
    obtain ⟨target, heq, hunknown⟩ := htarget.mp hunsuffixed
    obtain ⟨symbol, -, hmade⟩ := kindOf_message (heq ▸ hkind)
    simp [Member.warning?, heq, hunknown, hpath, congrArg MessageTarget.typeName hmade]
  · next hunsuffixed =>
    unfold Member.warning?
    dsimp only
    split
    · next target heq =>
      rw [if_neg fun hunknown => hunsuffixed (htarget.mpr ⟨target, heq, hunknown⟩)]
    · rfl

/-- The members of a message are its fields in order: some are surfaced, the others are skipped, and
what is said of them is what there is to say of the fields. -/
lemma members_ok {descs : List FieldDesc} {members : List Member}
    (h : scope.members message fullName descs = .ok members) :
    List.Forall₂ (fun desc field => scope.field message fullName desc = .ok field)
        (descs.filter (!isOneofMember ·)) (members.filterMap Member.field?) ∧
      members.filterMap (Member.warning? fullName) =
        descs.filterMap (scope.warning? message fullName) := by
  induction descs generalizing members with
  | nil =>
    rw [Scope.members] at h
    cases h
    exact ⟨.nil, rfl⟩
  | cons desc rest ih =>
    rw [Scope.members] at h
    split at h
    · next honeof =>
      obtain ⟨more, hmore, rfl⟩ := map_eq_ok.mp h
      obtain ⟨hfields, hwarnings⟩ := ih hmore
      constructor
      · rwa [List.filter_cons_of_neg (by simp [honeof]), List.filterMap_cons_none rfl]
      · have hskipped : scope.warning? message fullName desc =
            Member.warning? fullName (.skipped desc.name) := by rw [warning?, if_pos honeof]; rfl
        rw [List.filterMap_cons, List.filterMap_cons, hskipped, hwarnings]
    · next honeof =>
      split at h
      · cases h
      · next field hfield =>
        obtain ⟨more, hmore, rfl⟩ := map_eq_ok.mp h
        obtain ⟨hfields, hwarnings⟩ := ih hmore
        have hnone : isOneofMember desc = false := by simpa using honeof
        constructor
        · rw [List.filter_cons_of_pos (by simp [hnone])]
          exact .cons hfield hfields
        · rw [List.filterMap_cons, List.filterMap_cons, warning?_surfaced hfield hnone, hwarnings]

end Scope

end Laminate.Schema

namespace Laminate.FileSchema

open Laminate.Schema Laminate.Descriptor Laminate.Annotation

variable {settings : Settings} {index : Index} {files : List FileDesc} {file : FileDesc}
  {schema : FileSchema}

/-- The enums of a file that loads are those of its messages and its own ones. -/
lemma enums_perm (h : load settings index files file = .ok schema) :
    schema.enums.Perm (file.loaded.flatMap Declaration.enums ++
      file.enums.map (Enum.ofDesc file.package "")) := by
  rw [enums_of_load h, FileDesc.enumDeclarations, List.map_append, List.map_map]
  exact (allEnums_perm [] file.messages).append_right _

/-- Loading loses nothing silently. The messages are those that are no map entries and lie in none,
in order and under the names on the way to them; the enums are theirs and those of the file. Of each
message the fields outside oneofs are surfaced, in order. The others are reported as skipped, and
besides that exactly the surfaced fields are reported whose element is a message without a kind. -/
theorem load_inventory (h : load settings index files file = .ok schema) :
    (schema.messages.map fun m => (m.fullName, m.name)) = file.loaded.map (fun d =>
        (".".intercalate ((file.package :: (d.path ++ [d.desc.name])).dropWhile String.isEmpty),
          "_".intercalate (d.path ++ [d.desc.name]))) ∧
      schema.enums.Perm (file.loaded.flatMap Declaration.enums ++
        file.enums.map (Enum.ofDesc file.package "")) ∧
      ∃ symbols, symbolsOf settings.suffixes index files [] = .ok symbols ∧
        List.Forall₂ (fun d m => List.Forall₂ (fun desc field =>
            (scope settings index files symbols file).field d.wireName d.fullName desc =
              .ok field ∧ field.name = desc.name ∧ field.number = desc.number)
          (d.desc.fields.filter (!isOneofMember ·)) m.fields) file.loaded schema.messages ∧
        schema.warnings = file.loaded.flatMap fun d => d.desc.fields.filterMap
          ((scope settings index files symbols file).warning? d.wireName d.fullName) := by
  obtain ⟨-, -, symbols, hsymbols, hloaded⟩ := load_ok h
  refine ⟨?_, enums_perm h, symbols, hsymbols, hloaded.imp fun d m hm => ?_, ?_⟩
  · have hnames : (schema.messages.map fun m => (m.fullName, m.name)) =
        file.loaded.map fun d => (d.fullName, d.wireName) :=
      map_eq_of_forall₂ hloaded fun d m hm => by
        obtain ⟨hname, hfull, -⟩ := message_of_declared hm
        rw [hname, hfull]
    rw [hnames]
    refine List.map_congr_left fun d hd => ?_
    rw [d.fullName_eq, d.wireName_eq, package_of_mem_declarations (List.mem_filter.mp hd).1]
  · obtain ⟨-, -, -, -, -, hmembers⟩ := message_of_declared hm
    refine (Scope.members_ok hmembers).1.imp fun desc field hfield => ⟨hfield, ?_⟩
    obtain ⟨hname, hnumber, -⟩ := Scope.field_element hfield
    exact ⟨hname, hnumber⟩
  · rw [warnings, List.flatMap_def, List.flatMap_def]
    refine congrArg List.flatten (map_eq_of_forall₂ hloaded fun d m hm => ?_)
    obtain ⟨-, hfull, -, -, -, hmembers⟩ := message_of_declared hm
    rw [Message.warnings, hfull, (Scope.members_ok hmembers).2]

/-- A message with a map, a message and an enum in it, a member of a oneof and an optional field. -/
def surveyFile : FileDesc where
  name := "user.proto"
  package := "acme"
  messages := [
    .node
      { name := "UserWire"
        fields := [
          { name := "mail", number := 1, type := .string, oneofIndex := some 0 },
          { name := "nick", number := 2, type := .string, oneofIndex := some 1,
            proto3Optional := true },
          { name := "notes", number := 3, label := .repeated, type := .message,
            typeName := ".acme.UserWire.NotesEntry" },
          { name := "home", number := 4, type := .message, typeName := ".acme.UserWire.HomeWire" }]
        enums := [{ name := "Role" }] }
      [.node
        { name := "NotesEntry"
          isMapEntry := true
          fields := [
            { name := "key", number := 1, type := .string },
            { name := "value", number := 2, type := .message, typeName := ".acme.Note" }] } [],
       .node { name := "HomeWire", enums := [{ name := "Kind" }] } []],
    .node { name := "Note" } []]
  enums := [{ name := "State" }]

theorem load_inventory_survey :
    ∃ schema, load {} {} [surveyFile] surveyFile = .ok schema ∧
      (schema.messages.map fun m => (m.fullName, m.name)) =
        [("acme.UserWire", "UserWire"), ("acme.UserWire.HomeWire", "UserWire_HomeWire"),
          ("acme.Note", "Note")] ∧
      (schema.enums.map (·.name)).Perm ["UserWire_Role", "UserWire_HomeWire_Kind", "State"] ∧
      (schema.messages.map fun m => m.fields.map (·.name)) = [["nick", "notes", "home"], [], []] ∧
      schema.warnings = [.skippedOneofMember "acme.UserWire" "mail",
        .unsuffixedTarget "UserWire.notes" ".acme.Note"] := by
  have hloads : (load {} {} [surveyFile] surveyFile).toOption.any (fun _ => true) = true := by
    decide +kernel
  have hsaid : (symbolsOf ({} : Settings).suffixes {} [surveyFile] []).toOption.any (fun symbols =>
      decide ((surveyFile.loaded.flatMap fun d => d.desc.fields.filterMap
        ((scope {} {} [surveyFile] symbols surveyFile).warning? d.wireName d.fullName)) =
          [.skippedOneofMember "acme.UserWire" "mail",
            .unsuffixedTarget "UserWire.notes" ".acme.Note"])) = true := by
    decide +kernel
  obtain ⟨schema, hload, -⟩ := exists_of_check hloads
  obtain ⟨hnames, henums, symbols, hsymbols, hfields, hwarnings⟩ := load_inventory hload
  rw [hsymbols] at hsaid
  have hsurfaced : (schema.messages.map fun m => m.fields.map (·.name)) =
      surveyFile.loaded.map fun d => (d.desc.fields.filter (!isOneofMember ·)).map (·.name) :=
    map_eq_of_forall₂ hfields fun d m hm =>
      map_eq_of_forall₂ hm fun desc field hfield => hfield.2.1
  exact ⟨schema, hload, hnames.trans (by decide +kernel),
    (henums.map _).trans (.of_eq (by decide +kernel)), hsurfaced.trans (by decide +kernel),
    hwarnings.trans (of_decide_eq_true hsaid)⟩

end Laminate.FileSchema
