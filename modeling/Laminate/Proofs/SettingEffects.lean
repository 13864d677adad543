import Laminate.Proofs.Identifiers
import Laminate.Proofs.FileOrder

/-! What settings have an effect on.
Addons add the files of their templates and leave the others as they are; the database is seen in
the domain file alone. -/
namespace Laminate

open Descriptor Annotation Schema Code Form

/-- Settings that differ in the database, the addons and the messages for debugging at most. -/
structure Settings.AgreesWith (s t : Settings) : Prop where
  suffixes : t.suffixes = s.suffixes
  converters : t.converters = s.converters
  rules : t.rules = s.rules
  strict : t.strict = s.strict

lemma Settings.AgreesWith.symm {s t : Settings} (h : s.AgreesWith t) : t.AgreesWith s :=
  ⟨h.suffixes.symm, h.converters.symm, h.rules.symm, h.strict.symm⟩

lemma Template.isAvailable_of_addons {s t : Settings} (h : ∀ a ∈ t.addons, a ∈ s.addons)
    {x : Template} (hx : x.isAvailable t = true) : x.isAvailable s = true := by
  unfold isAvailable at hx ⊢
  split at hx
  · next addon _ =>
    simp only [Settings.hasAddon, List.contains_iff_mem] at hx ⊢
    exact h addon hx
  · rfl

/-! ### Loading -/

namespace Schema.Scope

variable {scope : Scope} {t : Settings}

lemma field_of_suffixes (h : t.suffixes = scope.settings.suffixes) (message fullName : String)
    (desc : FieldDesc) :
    Scope.field { scope with settings := t } message fullName desc =
      scope.field message fullName desc := by
  have hkind : ∀ path element,
      Scope.kindOf { scope with settings := t } path element = scope.kindOf path element := by
    intro path element
    unfold Scope.kindOf
    simp only [h]
  have hshape : ∀ path,
      Scope.shapeOf { scope with settings := t } path desc = scope.shapeOf path desc := by
    intro path
    unfold Scope.shapeOf
    simp only [hkind]
    rfl
  unfold Scope.field
  simp only [hshape]

lemma message_of_suffixes (h : t.suffixes = scope.settings.suffixes) (outer stem : String)
    (desc : MessageDesc) :
    Scope.message { scope with settings := t } outer stem desc = scope.message outer stem desc := by
  have hmembers : ∀ (message fullName : String) (descs : List FieldDesc),
      Scope.members { scope with settings := t } message fullName descs =
        scope.members message fullName descs := by
    intro message fullName descs
    induction descs with
    | nil => rfl
    | cons desc rest ih => simp only [Scope.members, field_of_suffixes h, ih]
  unfold Scope.message
  simp only [h, hmembers]

mutual

lemma tree_of_suffixes (h : t.suffixes = scope.settings.suffixes) (outer stem : String)
    (tree : MessageTree) :
    Scope.tree { scope with settings := t } outer stem tree = scope.tree outer stem tree := by
  match tree with
  | .node desc nested =>
    simp only [Scope.tree, message_of_suffixes h, trees_of_suffixes h _ _ nested]

lemma trees_of_suffixes (h : t.suffixes = scope.settings.suffixes) (outer stem : String)
    (trees : List MessageTree) :
    Scope.trees { scope with settings := t } outer stem trees = scope.trees outer stem trees := by
  match trees with
  | [] => rfl
  | tree :: rest =>
    simp only [Scope.trees, tree_of_suffixes h outer stem tree,
      trees_of_suffixes h outer stem rest]

end

end Schema.Scope

/-- Of the settings, loading looks at suffixes alone. -/
lemma FileSchema.load_of_suffixes {s t : Settings} (h : t.suffixes = s.suffixes) (index : Index)
    (files : List FileDesc) (file : FileDesc) :
    load t index files file = load s index files file := by
  have htrees : ∀ symbols, Scope.trees
      ⟨Module.ofFile file, Registry.ofFiles files, symbols, index, t, file.isProto2⟩ file.package ""
        file.messages =
      Scope.trees ⟨Module.ofFile file, Registry.ofFiles files, symbols, index, s, file.isProto2⟩
        file.package "" file.messages :=
    fun symbols => @Scope.trees_of_suffixes ⟨_, _, symbols, index, s, _⟩ t h _ _ _
  unfold load
  simp only [h, htrees]

/-! ### Plans -/

namespace Form

/-- A planned field with the column of another database. -/
def PlannedField.retag (database : Database) (f : PlannedField) : PlannedField :=
  { f with tags := { f.tags with domain := (FieldTags.of database f.field f.names f.keys).domain } }

def PlannedMessage.retag (database : Database) (m : PlannedMessage) : PlannedMessage :=
  { m with fields := m.fields.map (.retag database) }

/-- A plan under other settings, with the imports of the templates that are available then. -/
def Plan.under (t : Settings) (plan : Plan) : Plan :=
  { plan with
    settings := t
    messages := plan.messages.map (.retag t.database)
    imports := plan.imports.filter fun entry => entry.1.isAvailable t }

variable {s t : Settings}

lemma Validation.of_agrees (agrees : s.AgreesWith t) (message : Message) (field : Field)
    (names : FieldNames) :
    Validation.of t message field names = Validation.of s message field names := by
  have hrule : namedRule t field = namedRule s field := by
    funext named
    unfold namedRule Settings.rule?
    rw [agrees.rules]
  unfold Validation.of
  simp only [hrule]

namespace Planning

variable {p : Planning}

/-- A field is planned the same but for the column of its tag. -/
lemma field_agrees (agrees : p.settings.AgreesWith t) {message : Message} {field : Field}
    {f : PlannedField} (h : p.field message field = .ok f) :
    Planning.field { p with settings := t } message field = .ok (f.retag t.database) ∧
      f.retag p.settings.database = f := by
  unfold Planning.field at h ⊢
  simp only [bind_eq_ok, pure_eq_ok, ite_bind_eq_ok, Validation.of_agrees agrees,
    agrees.converters] at h ⊢
  obtain ⟨domain, hdomain, fixture, hfixture, validation, hvalidation, wire, hwire, inbound,
    hinbound, outbound, houtbound, conversions, hconversions, rfl⟩ := h
  exact ⟨⟨domain, hdomain, fixture, hfixture, validation, hvalidation, wire, hwire, inbound,
    hinbound, outbound, houtbound, conversions, hconversions, rfl⟩, rfl⟩

lemma message_agrees (agrees : p.settings.AgreesWith t) {message : Message} {m : PlannedMessage}
    (h : p.message message = .ok m) :
    Planning.message { p with settings := t } message = .ok (m.retag t.database) ∧
      m.retag p.settings.database = m := by
  unfold Planning.message at h ⊢
  obtain ⟨fields, hfields, rfl⟩ := map_eq_ok.mp h
  rw [mapM_eq_ok] at hfields
  constructor
  · refine map_eq_ok.mpr ⟨_, mapM_eq_ok.mpr ?_, rfl⟩
    rw [List.forall₂_map_right_iff]
    exact hfields.imp fun _ _ h => (field_agrees agrees h).1
  · have hsame : fields.map (.retag p.settings.database) = fields := by
      refine (List.map_congr_left fun f hf => ?_).trans (List.map_id _)
      obtain ⟨field, -, hfield⟩ := exists_of_mem_forall₂ hfields hf
      exact (field_agrees agrees hfield).2
    simp only [PlannedMessage.retag, hsame]

end Planning

namespace Plan

variable (plan : Plan) (t : Settings)

@[simp] lemma domainMessages_under :
    (plan.under t).domainMessages = plan.domainMessages.map (.retag t.database) := by
  simp only [domainMessages, Plan.under, List.filter_map]
  rfl

@[simp] lemma outboundMessages_under :
    (plan.under t).outboundMessages = plan.outboundMessages.map (.retag t.database) := by
  simp only [outboundMessages, Plan.under, List.filter_map]
  rfl

@[simp] lemma inboundMessages_under :
    (plan.under t).inboundMessages = plan.inboundMessages.map (.retag t.database) := by
  simp only [inboundMessages, Plan.under, List.filter_map]
  rfl

@[simp] lemma methods_under : (plan.under t).methods = plan.methods := rfl

@[simp] lemma outboundFields_retag (database : Database) (m : PlannedMessage) :
    (m.retag database).outboundFields = m.outboundFields.map (.retag database) := by
  simp only [PlannedMessage.outboundFields, PlannedMessage.retag, List.filter_map]
  rfl

@[simp] lemma validations_retag (database : Database) (m : PlannedMessage) :
    (m.retag database).validations = m.validations := by
  simp only [PlannedMessage.validations, PlannedMessage.retag, List.filterMap_map]
  rfl

/-- Nothing that counts for imports is a tag. -/
lemma mentions_under (scope : ImportScope) :
    (plan.under t).mentions scope = plan.mentions scope := by
  cases scope with
  | none => rfl
  | domain =>
    simp only [mentions, domainMessages_under, PlannedMessage.retag, List.flatMap_map]
    rfl
  | domainConvert =>
    simp only [mentions, domainMessages_under, PlannedMessage.retag, List.flatMap_map]
    rfl
  | outbound =>
    simp only [mentions, outboundMessages_under, outboundFields_retag, List.flatMap_map]
    rfl
  | inbound =>
    simp only [mentions, inboundMessages_under, validations_retag, List.flatMap_map]
    simp only [PlannedMessage.retag, List.flatMap_map]
    rfl
  | http => rfl
  | fixtures =>
    simp only [mentions, domainMessages_under, PlannedMessage.retag, List.flatMap_map]
    rfl

variable {plan t}

lemma qualifiers_under (agrees : plan.settings.AgreesWith t) :
    (plan.under t).sourceQualifiers = plan.sourceQualifiers ∧
      (plan.under t).testQualifiers = plan.testQualifiers := by
  have hbase : ∀ isTest, baseQualifiers plan.module plan.registry t isTest =
      baseQualifiers plan.module plan.registry plan.settings isTest := by
    intro isTest
    unfold baseQualifiers
    rw [agrees.converters]
  have hfields : (plan.under t).messages.flatMap (·.fields) =
      (plan.messages.flatMap (·.fields)).map (.retag t.database) := by
    simp only [Plan.under, List.flatMap_map, List.map_flatMap]
    rfl
  constructor
  · unfold sourceQualifiers
    rw [hfields, List.foldl_map]
    change List.foldl _ (baseQualifiers plan.module plan.registry t false) _ = _
    rw [hbase]
    rfl
  · unfold testQualifiers
    rw [hfields, List.foldl_map]
    change List.foldl _ (baseQualifiers plan.module plan.registry t true) _ = _
    rw [hbase]
    rfl

/-- Imports are found for fewer templates and stay what they are. -/
lemma resolveImports_under {imports : List (Template × List Import)}
    (h : plan.resolveImports = .ok imports) (agrees : plan.settings.AgreesWith t)
    (haddons : ∀ a ∈ t.addons, a ∈ plan.settings.addons) :
    (plan.under t).resolveImports = .ok (imports.filter fun entry => entry.1.isAvailable t) := by
  obtain ⟨hsource, htest⟩ := qualifiers_under agrees
  have himports : ∀ x, (plan.under t).templateImports plan.sourceQualifiers plan.testQualifiers x =
      plan.templateImports plan.sourceQualifiers plan.testQualifiers x := by
    intro x
    unfold templateImports
    rw [mentions_under]
  have hfilter : Template.all.filter (·.isAvailable t) =
      (Template.all.filter (·.isAvailable plan.settings)).filter (·.isAvailable t) := by
    rw [List.filter_filter]
    refine List.filter_congr fun x _ => ?_
    rw [eq_comm, Bool.and_eq_left_iff_imp]
    exact Template.isAvailable_of_addons haddons
  unfold resolveImports at h ⊢
  dsimp only at h ⊢
  change (Template.all.filter (·.isAvailable t)).mapM _ = _
  rw [hsource, htest, hfilter]
  simp only [himports]
  rw [mapM_eq_ok] at h ⊢
  refine List.rel_filter (fun x entry hentry => ?_) h
  obtain ⟨lines, -, rfl⟩ := map_eq_ok.mp hentry
  exact Iff.rfl

/-- A schema that can be planned can be planned under other settings with no more addons. -/
lemma of_agrees (agrees : s.AgreesWith t) (haddons : ∀ a ∈ t.addons, a ∈ s.addons)
    {schema : FileSchema} (h : Plan.of s schema = .ok plan) :
    Plan.of t schema = .ok (plan.under t) ∧
      (t.database = s.database → plan.messages.map (.retag t.database) = plan.messages) := by
  have hbindings : Bindings.of t schema = Bindings.of s schema := by
    unfold Bindings.of
    rw [agrees.converters]
  unfold Plan.of at h ⊢
  simp only [bind_eq_ok, pure_eq_ok, hbindings] at h ⊢
  obtain ⟨bindings, hbound, messages, hmessages, imports, himports, rfl⟩ := h
  have hresolved := resolveImports_under himports agrees haddons
  rw [mapM_eq_ok] at hmessages
  have hplanned : ∀ {message m}, Planning.message ⟨s, schema.module, schema.registry,
      bindings.locations⟩ message = .ok m → _ :=
    fun h => Planning.message_agrees agrees h
  constructor
  · refine ⟨bindings, hbound, messages.map (PlannedMessage.retag t.database), ?_, _, hresolved, rfl⟩
    rw [mapM_eq_ok, List.forall₂_map_right_iff]
    exact hmessages.imp fun _ _ h => (hplanned h).1
  · intro hdatabase
    refine (List.map_congr_left fun m hm => ?_).trans (List.map_id _)
    obtain ⟨message, -, hmessage⟩ := exists_of_mem_forall₂ hmessages hm
    rw [hdatabase]
    exact (hplanned hmessage).2

lemma importsOf_under {x : Template} (hx : x.isAvailable t = true) :
    (plan.under t).importsOf x = plan.importsOf x := by
  have hlookup : ∀ entries : List (Template × List Import),
      (entries.filter fun entry => entry.1.isAvailable t).lookup x = entries.lookup x := by
    intro entries
    induction entries with
    | nil => rfl
    | cons entry rest ih =>
      obtain ⟨y, lines⟩ := entry
      cases hy : y.isAvailable t with
      | true => rw [List.filter_cons_of_pos (by exact hy), List.lookup_cons, List.lookup_cons, ih]
      | false =>
        have hne : (x == y) = false := by
          rw [beq_eq_false_iff_ne]
          rintro rfl
          rw [hx] at hy
          cases hy
        rw [List.filter_cons_of_neg (by simp [hy]), List.lookup_cons, hne, ih]
  exact congrArg (·.getD []) (hlookup plan.imports)

end Plan

/-! ### Files -/

variable {plan : Plan}

lemma companion_retag (read : String → Option Companion.Doc) (database : Database)
    (m : PlannedMessage) :
    Companion.Struct.of read (m.retag database) = Companion.Struct.of read m := by
  have htyped : (m.retag database).fields.filterMap (fun f => f.domain.map (f, ·)) =
      (m.fields.filterMap fun f => f.domain.map (f, ·)).map fun typed =>
        (typed.1.retag database, typed.2) := by
    rw [PlannedMessage.retag, List.filterMap_map, List.map_filterMap]
    refine List.filterMap_congr fun f _ => ?_
    simp only [Function.comp_apply, Option.map_map]
    rfl
  have hfield : ∀ f type, Companion.StructField.of read (f.retag database) type =
      Companion.StructField.of read f type := by
    intro f type
    simp only [Companion.StructField.of, PlannedField.retag]
  have hmessage : (m.retag database).message = m.message := rfl
  unfold Companion.Struct.of
  simp only [htyped, hmessage, List.mapM_map, Function.comp_def, hfield]

lemma decls_under {x : Template} (hx : x.isAvailable t = true)
    (hsame : x = .domain → plan.messages.map (.retag t.database) = plan.messages) :
    Template.decls (plan.under t) x = Template.decls plan x := by
  cases x with
  | enums => rfl
  | domain =>
    have hmessages : (plan.under t).domainMessages = plan.domainMessages :=
      congrArg (List.filter fun m : PlannedMessage => m.message.hasDomain) (hsame rfl)
    simp only [Template.decls, hmessages]
  | domainConvert =>
    have hdecls : ∀ m : PlannedMessage, Template.domainConvertDecls (m.retag t.database) =
        Template.domainConvertDecls m := by
      intro m
      simp only [Template.domainConvertDecls, Template.intoDomainEntries, Template.intoWireEntries,
        PlannedMessage.retag, List.filterMap_map]
      rfl
    simp only [Template.decls, Plan.domainMessages_under, List.flatMap_map, hdecls]
  | outbound =>
    have hdecls : ∀ m : PlannedMessage, Template.outboundDecls (m.retag t.database) =
        Template.outboundDecls m := by
      intro m
      simp only [Template.outboundDecls, Template.outboundFields, Template.intoOutboundEntries,
        PlannedMessage.retag, List.filterMap_map]
      rfl
    simp only [Template.decls, Plan.outboundMessages_under, List.flatMap_map, hdecls]
  | inbound =>
    have hdecls : ∀ m : PlannedMessage, Template.inboundDecls (m.retag t.database) =
        Template.inboundDecls m := by
      intro m
      simp only [Template.inboundDecls, Template.inboundFields, Template.intoWireInputEntries,
        Template.validateBody, Plan.validations_retag]
      simp only [PlannedMessage.retag, List.filterMap_map]
      rfl
    simp only [Template.decls, Plan.inboundMessages_under, List.flatMap_map, hdecls]
  | http => rfl
  | companion => rfl
  | fixtures =>
    have hdecl : ∀ package taken (m : PlannedMessage),
        Template.fixtureDecl package taken (m.retag t.database) =
          Template.fixtureDecl package taken m := by
      intro package taken m
      simp only [Template.fixtureDecl, PlannedMessage.retag, List.filterMap_map]
      rfl
    simp only [Template.decls, Plan.domainMessages_under, List.map_map, Function.comp_def, hdecl,
      Plan.importsOf_under hx]
    rfl

/-- The domain file is the only one that a database can be told from. -/
lemma text_under {x : Template} (hx : x.isAvailable t = true)
    (hsame : x = .domain → plan.messages.map (.retag t.database) = plan.messages) :
    x.text (plan.under t) = x.text plan := by
  have hfile : Template.sourceFile (plan.under t) x = Template.sourceFile plan x := by
    simp only [Template.sourceFile, Plan.importsOf_under hx, decls_under hx hsame]
    rfl
  cases x <;> simp only [Template.text, hfile]
  case companion =>
    simp only [Companion.fileText, Companion.fileTextBy, Companion.structsBy,
      Plan.domainMessages_under, List.mapM_map, Function.comp_def, companion_retag]
    rfl

lemma hasContent_under (agrees : plan.settings.AgreesWith t) (x : Template) :
    x.hasContent (plan.under t) = x.hasContent plan := by
  cases x with
  | enums => rfl
  | domain | domainConvert | companion => simp [Template.hasContent]
  | outbound => simp [Template.hasContent]
  | inbound => simp [Template.hasContent]
  | http => rfl
  | fixtures => exact congrArg Bool.not agrees.strict

lemma written_under (agrees : plan.settings.AgreesWith t)
    (haddons : ∀ a ∈ t.addons, a ∈ plan.settings.addons) :
    (plan.under t).written = plan.written.filter (·.isAvailable t) := by
  unfold Plan.written
  rw [List.filter_filter]
  refine List.filter_congr fun x _ => ?_
  simp only [Template.isWritten, hasContent_under agrees]
  cases havailable : x.isAvailable t with
  | false => simp [Plan.under, havailable]
  | true => simp [Plan.under, havailable, Template.isAvailable_of_addons haddons havailable]

end Form

/-- What a template puts after the stem of a schema file. -/
def Template.ending : Template → String
  | companion => "_domain.rs"
  | fixtures => ".fixtures.strata_test.go"
  | t => "." ++ t.name ++ ".strata.go"

lemma Template.exists_outputName (t : Template) (file : String) :
    ∃ stem, t.outputName file = stem ++ t.ending := by
  refine ⟨(Text.dropTail? ".proto" file).getD file, ?_⟩
  cases t <;> simp [outputName, ending, name, String.append_assoc]

lemma Template.endings_apart {t t' : Template} (h : t ≠ t') :
    Text.EndApart t.ending t'.ending := by
  revert h
  cases t <;> cases t' <;> decide

namespace OutputFile

/-- Whether a file is that of a template; no two templates name theirs alike. -/
def isOf (file : OutputFile) (t : Template) : Bool :=
  decide (t.ending.toList <:+ file.name.toList)

lemma isOf_outputName (t x : Template) (origin content : String) :
    isOf ⟨x.outputName origin, content⟩ t = decide (t = x) := by
  obtain ⟨stem, hstem⟩ := x.exists_outputName origin
  unfold isOf
  rw [hstem, decide_eq_decide]
  constructor
  · rintro ⟨front, hfront⟩
    by_contra hne
    refine Text.append_ne_of_endApart (Template.endings_apart hne) (String.ofList front) stem ?_
    rw [← String.toList_inj]
    simpa using hfront
  · rintro rfl
    exact ⟨stem.toList, by simp⟩

/-- Whether a file is that of a template which the addons of one of two settings alone make
available. -/
def isAdded (s t : Settings) (file : OutputFile) : Bool :=
  s.addons.any fun a => !t.addons.contains a && a.templates.any (file.isOf ·)

lemma isAdded_outputName {s t : Settings} {x : Template} (hx : x.isAvailable s = true)
    (origin content : String) :
    (!isAdded s t ⟨x.outputName origin, content⟩) = x.isAvailable t := by
  have hall : x ∈ Template.all := by cases x <;> decide
  have htemplates : ∀ a : Addon,
      (a.templates.any fun y => isOf ⟨x.outputName origin, content⟩ y) =
        decide (x.addon = some a) := by
    intro a
    rw [Bool.eq_iff_iff]
    simp [Addon.templates, isOf_outputName, hall]
  unfold isAdded
  simp only [htemplates]
  unfold Template.isAvailable at hx ⊢
  cases haddon : x.addon with
  | none => simp
  | some addon =>
    rw [haddon] at hx
    simp only [Settings.hasAddon, List.contains_iff_mem] at hx
    rw [Bool.eq_iff_iff, Bool.not_eq_true', List.any_eq_false]
    simp only [Settings.hasAddon, List.contains_iff_mem]
    constructor
    · intro h
      by_contra hmem
      exact h addon hx (by simp [hmem])
    · intro hmem a _ hadded
      simp only [Bool.and_eq_true, Bool.not_eq_true', decide_eq_true_eq,
        Option.some.injEq] at hadded
      obtain ⟨hnot, rfl⟩ := hadded
      simp [hmem] at hnot

lemma isAdded_of_addons_eq {s t : Settings} (h : t.addons = s.addons) (file : OutputFile) :
    file.isAdded s t = false := by
  unfold isAdded
  rw [h, List.any_eq_false]
  intro a ha
  simp [ha]

end OutputFile

/-- How the file of one run corresponds to the file of another one under other settings. -/
def OutputFile.Corresponds (s t : Settings) (file file' : OutputFile) : Prop :=
  file'.name = file.name ∧
    (t.database = s.database ∨ file.isOf .domain = false → file'.content = file.content)

/-- Files that correspond under settings with the same database are equal. -/
lemma eq_of_corresponds {s t : Settings} (hdatabase : t.database = s.database)
    {files files' : List OutputFile} (h : List.Forall₂ (OutputFile.Corresponds s t) files files') :
    files' = files := by
  rw [eq_comm, ← List.forall₂_eq_eq_eq]
  refine h.imp fun ⟨name, content⟩ ⟨name', content'⟩ h => ?_
  obtain rfl : name' = name := h.1
  obtain rfl : content' = content := h.2 (.inl hdatabase)
  rfl

/-- The file of a template that is still available corresponds to the one that it had. -/
lemma file_agrees {t : Settings} {plan : Plan}
    (hsame : t.database = plan.settings.database →
      plan.messages.map (.retag t.database) = plan.messages)
    {x : Template} (hx : x.isAvailable t = true) {file : OutputFile}
    (hfile : (x.text plan).map (OutputFile.mk (x.outputName plan.fileName)) = .ok file) :
    ∃ file', (x.text (plan.under t)).map (OutputFile.mk (x.outputName plan.fileName)) = .ok file' ∧
      OutputFile.Corresponds plan.settings t file file' := by
  obtain ⟨content, hcontent, rfl⟩ := map_eq_ok.mp hfile
  by_cases hdomain : x = .domain ∧ t.database ≠ plan.settings.database
  · obtain ⟨rfl, hdatabase⟩ := hdomain
    refine ⟨_, rfl, rfl, ?_⟩
    rw [OutputFile.isOf_outputName]
    simp [hdatabase]
  · have htext : x.text (plan.under t) = x.text plan := by
      refine text_under hx fun hx => hsame ?_
      by_contra hdatabase
      exact hdomain ⟨hx, hdatabase⟩
    exact ⟨_, by rw [htext, hcontent]; rfl, rfl, fun _ => rfl⟩

section

variable {s t : Settings} (agrees : s.AgreesWith t) (haddons : ∀ a ∈ t.addons, a ∈ s.addons)

include agrees haddons

lemma files_agree {schema : FileSchema} {plan : Plan} (h : Plan.of s schema = .ok plan)
    {files : List OutputFile} (hfiles : plan.files = .ok files) :
    ∃ files', (plan.under t).files = .ok files' ∧
      List.Forall₂ (OutputFile.Corresponds s t) (files.filter fun file => !file.isAdded s t)
        files' := by
  obtain ⟨rfl, -⟩ := Plan.of_ok h
  obtain ⟨-, hsame⟩ := Plan.of_agrees agrees haddons h
  have havailable : ∀ x ∈ plan.written, x.isAvailable plan.settings = true := by
    intro x hx
    exact (Bool.and_eq_true_iff.mp (List.mem_filter.mp hx).2).1
  have hmade : List.Forall₂ (fun x file => x.isAvailable plan.settings = true ∧
      (x.text plan).map (OutputFile.mk (x.outputName plan.fileName)) = .ok file)
      plan.written files :=
    (List.forall₂_and_left _ _).mpr ⟨havailable, mapM_eq_ok.mp hfiles⟩
  have hkeep : ∀ (x : Template) (file : OutputFile), x.isAvailable plan.settings = true ∧
      (x.text plan).map (OutputFile.mk (x.outputName plan.fileName)) = .ok file →
      (x.isAvailable t = true ↔ (!file.isAdded plan.settings t) = true) := by
    rintro x file ⟨hx, hfile⟩
    obtain ⟨content, -, rfl⟩ := map_eq_ok.mp hfile
    simp only [OutputFile.isAdded_outputName hx]
  have hkept := List.rel_filter (fun x file => hkeep x file) hmade
  have hpartner : ∀ (x : Template) (file : OutputFile), x.isAvailable t = true ∧
      x.isAvailable plan.settings = true ∧
      (x.text plan).map (OutputFile.mk (x.outputName plan.fileName)) = .ok file → _ :=
    fun _ _ h => file_agrees hsame h.1 h.2.2
  obtain ⟨files', hfiles', hall⟩ := exists_forall₂ hpartner ((List.forall₂_and_left _ _).mpr
    ⟨fun x hx => (List.mem_filter.mp hx).2, hkept⟩)
  refine ⟨files', ?_, hall⟩
  unfold Plan.files
  rw [written_under agrees haddons]
  exact mapM_eq_ok.mpr hfiles'

/-- A run succeeds under other settings with no more addons. Its files are those of the first run
without the files that addons added; they have the same contents, the domain files perhaps
excepted. -/
lemma outputs_agree {request : Request} {index : Index} {name : String} {files : List OutputFile}
    (h : request.outputs s index name = .ok files) :
    ∃ files', request.outputs t index name = .ok files' ∧
      List.Forall₂ (OutputFile.Corresponds s t) (files.filter fun file => !file.isAdded s t)
        files' := by
  unfold Request.outputs Request.plan at h ⊢
  split at h
  · cases h
  · next file hfile =>
    split at h
    · cases h
    · next plan hplan =>
      split at hplan
      · cases hplan
      · next schema hschema =>
        simp only [FileSchema.load_of_suffixes agrees.suffixes, hschema,
          (Plan.of_agrees agrees haddons hplan).1]
        exact files_agree agrees haddons hplan h

lemma run_agrees {request : Request} {index : Index} {p p' : Option String}
    (hp : Settings.ofParameter p = .ok s) (hp' : Settings.ofParameter p' = .ok t)
    {response : Response} (h : Request.run { request with parameter := p } index = .ok response) :
    ∃ response', Request.run { request with parameter := p' } index = .ok response' ∧
      List.Forall₂ (OutputFile.Corresponds s t)
        (response.files.filter fun file => !file.isAdded s t) response'.files := by
  unfold Request.run at h ⊢
  simp only [hp, hp'] at h ⊢
  split at h
  · cases h
  · next hgenerate =>
    rw [if_neg hgenerate]
    obtain ⟨outputs, houtputs, rfl⟩ := map_eq_ok.mp h
    obtain ⟨outputs', houtputs', hall⟩ :=
      exists_forall₂ (fun _ _ h => outputs_agree agrees haddons h) (mapM_eq_ok.mp houtputs)
    refine ⟨⟨outputs'.flatten⟩, map_eq_ok.mpr ⟨outputs', mapM_eq_ok.mpr houtputs', rfl⟩, ?_⟩
    rw [List.filter_flatten]
    exact List.rel_flatten (List.forall₂_map_left_iff.mpr hall)

end

/-- Settings that differ in the addons, with fewer of them, make for a run with the files of the
first one less those of the addons that are left out. Settings that differ in the database make for
runs that both succeed or both fail, with files of the same names, and of the same contents except
for the domain file. -/
theorem settings_effects (request : Request) (index : Index) {p p' : Option String}
    {s t : Settings} (hp : Settings.ofParameter p = .ok s) (hp' : Settings.ofParameter p' = .ok t) :
    (t = { s with addons := t.addons } → (∀ a ∈ t.addons, a ∈ s.addons) →
      ∀ response, Request.run { request with parameter := p } index = .ok response →
        Request.run { request with parameter := p' } index =
          .ok ⟨response.files.filter fun file => !file.isAdded s t⟩) ∧
    (t = { s with database := t.database } →
      ((∃ response, Request.run { request with parameter := p } index = .ok response) ↔
        ∃ response, Request.run { request with parameter := p' } index = .ok response) ∧
      ∀ response response', Request.run { request with parameter := p } index = .ok response →
        Request.run { request with parameter := p' } index = .ok response' →
        List.Forall₂ (fun file file' => file'.name = file.name ∧
          (file.isOf .domain = false → file'.content = file.content))
          response.files response'.files) := by
  constructor
  · intro heq haddons response hresponse
    have agrees : s.AgreesWith t := by
      rw [heq]
      exact ⟨rfl, rfl, rfl, rfl⟩
    have hdatabase : t.database = s.database := by rw [heq]
    obtain ⟨response', hresponse', hall⟩ := run_agrees agrees haddons hp hp' hresponse
    rw [hresponse', ← eq_of_corresponds hdatabase hall]
  · intro heq
    have agrees : s.AgreesWith t := by
      rw [heq]
      exact ⟨rfl, rfl, rfl, rfl⟩
    have haddons : t.addons = s.addons := by rw [heq]
    refine ⟨⟨?_, ?_⟩, ?_⟩
    · rintro ⟨response, hresponse⟩
      obtain ⟨response', hresponse', -⟩ :=
        run_agrees agrees (by simp [haddons]) hp hp' hresponse
      exact ⟨response', hresponse'⟩
    · rintro ⟨response, hresponse⟩
      obtain ⟨response', hresponse', -⟩ :=
        run_agrees agrees.symm (by simp [haddons]) hp' hp hresponse
      exact ⟨response', hresponse'⟩
    · intro response response' hresponse hresponse'
      obtain ⟨other, hother, hall⟩ := run_agrees agrees (by simp [haddons]) hp hp' hresponse
      rw [hresponse'] at hother
      cases hother
      simp only [OutputFile.isAdded_of_addons_eq haddons, Bool.not_false,
        List.filter_true] at hall
      exact hall.imp fun file file' h => ⟨h.1, fun hdomain => h.2 (.inr hdomain)⟩

/-- A message with a field of text. -/
def userRequest : Request where
  files := [packageFile "user" "acme"
    [.node { name := "UserWire", fields := [{ name := "name", number := 1, type := .string }] } []]]
  generate := ["user.proto"]

/-- Two addons against one of them, and a database against none. -/
theorem user_settings_effects :
    (∃ response, Request.run
        { userRequest with parameter := some "strict=false,addons=fixtures+rust" } {} =
          .ok response ∧
      response.files.map (·.name) = ["user.domain.strata.go", "user.domain_convert.strata.go",
        "user.outbound.strata.go", "user_domain.rs", "user.fixtures.strata_test.go"] ∧
      Request.run { userRequest with parameter := some "strict=false,addons=rust" } {} =
        .ok ⟨response.files.filter fun file => !file.isAdded
          { strict := false, addons := [.fixtures, .rust] }
          { strict := false, addons := [.rust] }⟩) ∧
    ∃ response response', userRequest.run {} = .ok response ∧
      response.files.map (·.name) = ["user.domain.strata.go", "user.domain_convert.strata.go",
        "user.outbound.strata.go"] ∧
      Request.run { userRequest with parameter := some "db=gorm" } {} = .ok response' ∧
      List.Forall₂ (fun file file' => file'.name = file.name ∧
        (file.isOf .domain = false → file'.content = file.content))
        response.files response'.files := by
  constructor
  · have h : (Request.run
        { userRequest with parameter := some "strict=false,addons=fixtures+rust" } {}).toOption.any
        (fun response => decide (response.files.map (·.name) = ["user.domain.strata.go",
          "user.domain_convert.strata.go", "user.outbound.strata.go", "user_domain.rs",
          "user.fixtures.strata_test.go"])) = true := by
      decide +kernel
    obtain ⟨response, hresponse, hnames⟩ := exists_of_check h
    have hfewer := (@settings_effects userRequest {} (some "strict=false,addons=fixtures+rust")
      (some "strict=false,addons=rust") { strict := false, addons := [.fixtures, .rust] }
      { strict := false, addons := [.rust] } rfl rfl).1
    exact ⟨response, hresponse, of_decide_eq_true hnames,
      hfewer rfl (by decide) response hresponse⟩
  · have h : (userRequest.run {}).toOption.any (fun response =>
        decide (response.files.map (·.name) = ["user.domain.strata.go",
          "user.domain_convert.strata.go", "user.outbound.strata.go"])) = true := by
      decide +kernel
    obtain ⟨response, hresponse, hnames⟩ := exists_of_check h
    obtain ⟨hsucceed, hfiles⟩ := (@settings_effects userRequest {} none (some "db=gorm")
      {} { database := .relational } rfl rfl).2 rfl
    obtain ⟨response', hresponse'⟩ := hsucceed.mp ⟨response, hresponse⟩
    exact ⟨response, response', hresponse, of_decide_eq_true hnames, hresponse',
      hfiles response response' hresponse hresponse'⟩

end Laminate
