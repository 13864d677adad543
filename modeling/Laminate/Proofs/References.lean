import Laminate.Proofs.Placement

/-! References lead to what declarations generate.
Wherever a field stands, its messages and enums have the names, kinds and places under which the
file that declares them is loaded. -/
namespace Laminate.Descriptor

open Laminate.Schema Laminate.Annotation

/-! ### Enums -/

/-- An enum with its place in the file that declares it. -/
structure EnumDeclaration where
  /-- Schema package of the file. -/
  package : String
  /-- Names of the messages around it, outermost first. -/
  path : List String
  desc : EnumDesc
  deriving Repr, Inhabited

namespace EnumDeclaration

variable (e : EnumDeclaration)

/-- A message of its name would stand where the enum does. -/
def site : Declaration := ⟨e.package, e.path, { name := e.desc.name }, false⟩

/-- The enum as it is loaded. -/
def enum : Enum := Enum.ofDesc e.site.outer e.site.stem e.desc

end EnumDeclaration

mutual

/-- The enums of a message that is no map entry, after those of the messages in it. -/
def MessageTree.enumDeclarations (package : String) (path : List String) :
    MessageTree → List EnumDeclaration
  | .node desc nested =>
    if desc.isMapEntry then []
    else
      allEnumDeclarations package (path ++ [desc.name]) nested ++
        desc.enums.map (⟨package, path ++ [desc.name], ·⟩)

def allEnumDeclarations (package : String) (path : List String) :
    List MessageTree → List EnumDeclaration
  | [] => []
  | tree :: rest => tree.enumDeclarations package path ++ allEnumDeclarations package path rest

end

/-- The enums that a file declares, its own ones last. -/
def FileDesc.enumDeclarations (file : FileDesc) : List EnumDeclaration :=
  allEnumDeclarations file.package [] file.messages ++ file.enums.map (⟨file.package, [], ·⟩)

section

variable {package : String} {scope : Scope}

mutual

theorem enums_of_tree (path : List String) {tree : MessageTree} {messages : List Message}
    {enums : List Enum}
    (h : scope.tree (path.foldl qualify package)
      (path.foldl (fun stem name => stem ++ name ++ "_") "") tree = .ok (messages, enums)) :
    enums = (tree.enumDeclarations package path).map EnumDeclaration.enum := by
  match tree, h with
  | .node desc nested, h =>
    rw [Scope.tree] at h
    rw [MessageTree.enumDeclarations]
    split at h
    · next hentry =>
      cases h
      rw [if_pos hentry, List.map_nil]
    · next hentry =>
      rw [if_neg hentry]
      split at h
      · cases h
      · next message hmessage =>
        split at h
        · cases h
        · next inner innerEnums hinner =>
          cases h
          obtain ⟨hname, hfull, -⟩ :=
            message_of_declared (d := ⟨package, path, desc, false⟩) hmessage
          have hpath : message.fullName = (path ++ [desc.name]).foldl qualify package := by
            rw [hfull, Declaration.fullName, Declaration.outer, List.foldl_append]
            rfl
          have hstem : message.name ++ "_" =
              (path ++ [desc.name]).foldl (fun stem name => stem ++ name ++ "_") "" := by
            rw [hname, Declaration.wireName, Declaration.stem, List.foldl_append]
            rfl
          rw [hpath, hstem] at hinner ⊢
          rw [enums_of_trees _ hinner, List.map_append, List.map_map]
          rfl

/-- The enums that are loaded are the declared ones, in order. -/
theorem enums_of_trees (path : List String) {trees : List MessageTree} {messages : List Message}
    {enums : List Enum}
    (h : scope.trees (path.foldl qualify package)
      (path.foldl (fun stem name => stem ++ name ++ "_") "") trees = .ok (messages, enums)) :
    enums = (allEnumDeclarations package path trees).map EnumDeclaration.enum := by
  match trees, h with
  | [], h =>
    rw [Scope.trees] at h
    cases h
    rfl
  | tree :: rest, h =>
    rw [Scope.trees] at h
    split at h
    · cases h
    · next here hereEnums hhere =>
      obtain ⟨⟨more, moreEnums⟩, hmore, hpair⟩ := map_eq_ok.mp h
      cases hpair
      rw [enums_of_tree path hhere, enums_of_trees path hmore, allEnumDeclarations,
        List.map_append]

end

end

mutual

theorem MessageTree.package_of_mem_enums {package : String} {path : List String}
    {tree : MessageTree} {e : EnumDeclaration} (h : e ∈ tree.enumDeclarations package path) :
    e.package = package := by
  match tree, h with
  | .node desc nested, h =>
    rw [MessageTree.enumDeclarations] at h
    split at h
    · cases h
    · rcases List.mem_append.mp h with h | h
      · exact package_of_mem_allEnumDeclarations h
      · obtain ⟨_, -, rfl⟩ := List.mem_map.mp h
        rfl

theorem package_of_mem_allEnumDeclarations {package : String} {path : List String}
    {trees : List MessageTree} {e : EnumDeclaration}
    (h : e ∈ allEnumDeclarations package path trees) : e.package = package := by
  match trees, h with
  | tree :: rest, h =>
    rw [allEnumDeclarations] at h
    rcases List.mem_append.mp h with h | h
    · exact MessageTree.package_of_mem_enums h
    · exact package_of_mem_allEnumDeclarations h

end

lemma package_of_mem_enumDeclarations {file : FileDesc} {e : EnumDeclaration}
    (h : e ∈ file.enumDeclarations) : e.package = file.package := by
  rcases List.mem_append.mp h with h | h
  · exact package_of_mem_allEnumDeclarations h
  · obtain ⟨_, -, rfl⟩ := List.mem_map.mp h
    rfl

mutual

theorem MessageTree.inEntry_of_isMapEntry {package : String} {path : List String} {inEntry : Bool}
    {tree : MessageTree} {d : Declaration} (h : d ∈ tree.declarations package path inEntry)
    (hentry : d.desc.isMapEntry = true) : d.inEntry = true := by
  match tree, h with
  | .node desc nested, h =>
    rw [MessageTree.declarations] at h
    rcases List.mem_cons.mp h with rfl | h
    · exact Bool.or_eq_true_iff.mpr (.inr hentry)
    · exact inEntry_of_isMapEntry h hentry

/-- A map entry is in one. -/
theorem inEntry_of_isMapEntry {package : String} {path : List String} {inEntry : Bool}
    {trees : List MessageTree} {d : Declaration}
    (h : d ∈ allDeclarations package path inEntry trees) (hentry : d.desc.isMapEntry = true) :
    d.inEntry = true := by
  match trees, h with
  | tree :: rest, h =>
    rw [allDeclarations] at h
    rcases List.mem_append.mp h with h | h
    · exact MessageTree.inEntry_of_isMapEntry h hentry
    · exact inEntry_of_isMapEntry h hentry

end

lemma isMapEntry_of_mem_loaded {file : FileDesc} {d : Declaration} (h : d ∈ file.loaded) :
    d.desc.isMapEntry = false := by
  obtain ⟨hd, hloaded⟩ := List.mem_filter.mp h
  cases hentry : d.desc.isMapEntry with
  | false => rfl
  | true => simp [inEntry_of_isMapEntry hd hentry] at hloaded

end Laminate.Descriptor

/-! ### Elements of fields -/

namespace Laminate.Schema

open Laminate.Code Laminate.Descriptor Laminate.Annotation

namespace Scope

variable {scope : Scope}

/-- What the element of a field is declared as: the field itself, or the value of its map entry. -/
def Holds (scope : Scope) (field element : FieldDesc) : Prop :=
  (scope.mapEntry? field = none ∧ element = field) ∨
    ∃ entry path key, scope.mapEntry? field = some entry ∧ mapTypes path entry = .ok (key, element)

/-- The types of a map do not depend on how messages name the field. -/
lemma mapTypes_path {path : String} {entry : MessageDesc} {types : Builtin × FieldDesc}
    (h : mapTypes path entry = .ok types) (path' : String) : mapTypes path' entry = .ok types := by
  unfold mapTypes at h ⊢
  split at h
  · split at h
    · exact h
    · cases h
  · cases h

/-- The kind of a field is that of its element. -/
lemma field_kind {message fullName : String} {desc element : FieldDesc} {field : Field}
    {kind : FieldKind} (h : scope.field message fullName desc = .ok field)
    (holds : scope.Holds desc element)
    (hkind : scope.kindOf (message ++ "." ++ desc.name) element = .ok kind) :
    field.name = desc.name ∧ field.kind = kind := by
  have hshape : ∃ cardinality, scope.shapeOf (message ++ "." ++ desc.name) desc =
      .ok (kind, cardinality) := by
    unfold shapeOf
    rcases holds with ⟨hplain, rfl⟩ | ⟨entry, path, key, hentry, htypes⟩
    · exact ⟨_, by simp only [hplain, hkind]; rfl⟩
    · exact ⟨_, by simp only [hentry, mapTypes_path htypes, hkind]; rfl⟩
  obtain ⟨cardinality, hshape⟩ := hshape
  unfold Scope.field at h
  simp only [hshape] at h
  split at h
  · cases h
  · split at h
    · cases h
    · cases h
      exact ⟨rfl, rfl⟩

/-- Outside oneofs every descriptor makes a field. -/
lemma exists_field_of_mem {message fullName : String} {descs : List FieldDesc}
    {members : List Member} (h : scope.members message fullName descs = .ok members)
    {desc : FieldDesc} (hdesc : desc ∈ descs) (honeof : isOneofMember desc = false) :
    ∃ field, scope.field message fullName desc = .ok field ∧ .surfaced field ∈ members := by
  induction descs generalizing members with
  | nil => cases hdesc
  | cons first rest ih =>
    rw [Scope.members] at h
    split at h
    · next hfirst =>
      obtain ⟨more, hmore, rfl⟩ := map_eq_ok.mp h
      rcases List.mem_cons.mp hdesc with rfl | hdesc
      · rw [hfirst] at honeof
        cases honeof
      · obtain ⟨field, hfield, hmem⟩ := ih hmore hdesc
        exact ⟨field, hfield, List.mem_cons_of_mem _ hmem⟩
    · split at h
      · cases h
      · next made hmade =>
        obtain ⟨more, hmore, rfl⟩ := map_eq_ok.mp h
        rcases List.mem_cons.mp hdesc with rfl | hdesc
        · exact ⟨made, hmade, List.mem_cons_self⟩
        · obtain ⟨field, hfield, hmem⟩ := ih hmore hdesc
          exact ⟨field, hfield, List.mem_cons_of_mem _ hmem⟩

/-- Elements that are messages and go by a type name. -/
def IsMessageOf (typeName : String) (desc : FieldDesc) : Prop :=
  (desc.type = .message ∨ desc.type = .group) ∧ desc.typeName = typeName

/-- Elements that are enums and go by a type name. -/
def IsEnumOf (typeName : String) (desc : FieldDesc) : Prop :=
  desc.type = .enum ∧ desc.typeName = typeName

/-- What a field refers to by the type name of a symbol. -/
def target (scope : Scope) (typeName : String) (symbol : Symbol) : MessageTarget where
  typeName := typeName
  placement := scope.registry.place scope.module typeName
  kind := symbol.kind
  names := .derive scope.settings.suffixes
    (scope.registry.place scope.module typeName).localName symbol.kind
  outboundHidden := symbol.outboundHidden

lemma kindOf_of_isMessageOf {typeName : String} {desc : FieldDesc} {symbol : Symbol}
    (h : IsMessageOf typeName desc) (standard : WellKnown.ofTypeName? typeName = none)
    (hlookup : scope.symbols.lookup typeName = some symbol) (path : String) :
    scope.kindOf path desc = .ok (.message (scope.target typeName symbol)) := by
  obtain ⟨htype, rfl⟩ := h
  have hscalar : scalarOf? desc.type = none := by rcases htype with h | h <;> rw [h] <;> rfl
  have henum : desc.type ≠ .enum := by rcases htype with h | h <;> rw [h] <;> decide
  unfold kindOf
  simp only [hscalar, henum, standard, hlookup, if_false, target]

lemma kindOf_of_isEnumOf {typeName : String} {desc : FieldDesc} (h : IsEnumOf typeName desc)
    (path : String) :
    scope.kindOf path desc =
      .ok (.enum typeName (scope.registry.place scope.module typeName)) := by
  obtain ⟨htype, rfl⟩ := h
  unfold kindOf
  simp only [htype, scalarOf?, if_true]

/-- A field whose own type is no map entry is the element itself. -/
lemma holds_self {desc : FieldDesc}
    (h : ∀ symbol, scope.symbols.lookup desc.typeName = some symbol →
      desc.type = .message → symbol.desc.isMapEntry = false) : scope.Holds desc desc := by
  refine .inl ⟨?_, rfl⟩
  unfold mapEntry?
  split
  · next hrepeated =>
    cases hlookup : scope.symbols.lookup desc.typeName with
    | none => rfl
    | some symbol =>
      rw [Option.map_some, Option.filter_some, h symbol hlookup hrepeated.2]
      rfl
  · rfl

end Scope

/-- Seen from one file, a type of another one has this name there and lies in the module that is
registered for its package. -/
structure Placement.LeadsTo (placement : Placement) (files : List FileDesc)
    (home origin : FileDesc) (name : String) : Prop where
  module : placement.module = origin.package
  localName : placement.localName = name
  owner : ∃ owner, (Registry.ofFiles files).find? origin.package = some owner ∧
    (placement.isLocal = true ↔
      origin.package = home.package ∨ owner.goPath = (Module.ofFile home).goPath) ∧
    (placement.isLocal = false → placement.goName = (Registry.ofFiles files).qualifier owner)

lemma leadsTo_typeName {files : List FileDesc} {d : Declaration} (h : d.IsAddressable files)
    {origin : FileDesc} (horigin : origin ∈ files) (hpackage : d.package = origin.package)
    (home : FileDesc) :
    ((Registry.ofFiles files).place (Module.ofFile home) d.typeName).LeadsTo files home origin
      d.wireName := by
  obtain ⟨owner, howner, hownerPackage, hfind⟩ := Registry.exists_registered horigin
  rw [Registry.place_typeName h howner (hownerPackage.trans hpackage.symm)]
  refine ⟨hpackage, rfl, owner, hfind, ?_, fun _ => rfl⟩
  simp only [hpackage, package_ofFile, Bool.or_eq_true, beq_iff_eq]

end Laminate.Schema

/-! ### Loading -/

namespace Laminate.FileSchema

open Laminate.Schema Laminate.Descriptor Laminate.Annotation

variable {settings : Settings} {index : Index} {files : List FileDesc} {file : FileDesc}
  {schema : FileSchema}

/-- A file that loads gives one enum for each declaration, in order. -/
theorem enums_of_load (h : load settings index files file = .ok schema) :
    schema.enums = file.enumDeclarations.map EnumDeclaration.enum := by
  unfold load at h
  by_cases hname : (Module.ofFile file).goName.isEmpty
  · simp [hname] at h
  · simp only [hname, bind_eq_ok, pure_eq_ok, Bool.false_eq_true, if_false] at h
    obtain ⟨symbols, hsymbols, ⟨messages, enums⟩, htrees, services, -, rfl⟩ := h
    have henums := enums_of_trees [] htrees
    rw [FileDesc.enumDeclarations, List.map_append, List.map_map, ← henums]
    rfl

/-- How a file reads the elements that refer to something, in any of its fields. -/
structure Reads (settings : Settings) (index : Index) (files : List FileDesc)
    (symbols : SymbolTable) (file : FileDesc) (refers : FieldDesc → Prop) (kind : FieldKind) :
    Prop where
  element : ∀ path desc, refers desc →
    (scope settings index files symbols file).kindOf path desc = .ok kind
  /-- A field that refers to it is no map. -/
  self : ∀ desc, refers desc → (scope settings index files symbols file).Holds desc desc
  field : ∀ schema, load settings index files file = .ok schema → ∀ d ∈ file.loaded,
    ∃ message ∈ schema.messages, message.fullName = d.fullName ∧
      ∀ desc ∈ d.desc.fields, isOneofMember desc = false →
        ∀ element, (scope settings index files symbols file).Holds desc element → refers element →
          ∃ field ∈ message.fields, field.name = desc.name ∧ field.kind = kind

/-- Each declaration outside map entries is loaded. -/
lemma exists_message {schema : FileSchema} {R : Declaration → Message → Prop}
    {ds : List Declaration} (h : List.Forall₂ R ds schema.messages) {d : Declaration}
    (hd : d ∈ ds) : ∃ message ∈ schema.messages, R d message := by
  obtain ⟨k, hk, rfl⟩ := List.mem_iff_getElem.mp hd
  exact ⟨_, List.getElem_mem (h.length_eq ▸ hk), h.get hk _⟩

lemma reads_of_kindOf {symbols : SymbolTable}
    (hsymbols : symbolsOf settings.suffixes index files [] = .ok symbols)
    {refers : FieldDesc → Prop} {kind : FieldKind}
    (element : ∀ path desc, refers desc →
      (scope settings index files symbols file).kindOf path desc = .ok kind)
    (self : ∀ desc, refers desc → (scope settings index files symbols file).Holds desc desc) :
    Reads settings index files symbols file refers kind := by
  refine ⟨element, self, fun schema hload d hd => ?_⟩
  obtain ⟨-, -, symbols', hsymbols', hmessages⟩ := load_ok hload
  obtain rfl : symbols' = symbols := Except.ok.inj (hsymbols'.symm.trans hsymbols)
  obtain ⟨message, hmessage, hmade⟩ := exists_message hmessages hd
  obtain ⟨-, hfull, -, -, -, hmembers⟩ := message_of_declared hmade
  refine ⟨message, hmessage, hfull, fun desc hdesc honeof elem holds hrefers => ?_⟩
  obtain ⟨field, hfield, hmem⟩ := Scope.exists_field_of_mem hmembers hdesc honeof
  obtain ⟨hname, hkind⟩ := Scope.field_kind hfield holds (element _ _ hrefers)
  exact ⟨field, Message.mem_fields.mpr hmem, hname, hkind⟩

/-- The message of a full name that nothing else has is found by it. -/
lemma message?_of_forall₂ {R : Declaration → Message → Prop} {ds : List Declaration}
    {messages : List Message} (h : List.Forall₂ R ds messages)
    (hfull : ∀ d message, R d message → message.fullName = d.fullName) {d : Declaration}
    (hd : d ∈ ds) (unique : ∀ d' ∈ ds, d'.fullName = d.fullName → d' = d) :
    ∃ message, messages.find? (·.fullName == d.fullName) = some message ∧ R d message := by
  induction h with
  | nil => cases hd
  | @cons first message ds messages hfirst _ ih =>
    by_cases heq : first.fullName = d.fullName
    · obtain rfl := unique first List.mem_cons_self heq
      exact ⟨message, by simp [hfull _ _ hfirst], hfirst⟩
    · have hd : d ∈ ds := (List.mem_cons.mp hd).resolve_left fun h => heq (h ▸ rfl)
      obtain ⟨found, hfind, hfound⟩ :=
        ih hd fun d' hd' => unique d' (List.mem_cons_of_mem _ hd')
      exact ⟨found, by simpa [hfull _ _ hfirst, heq] using hfind, hfound⟩

/-- A reference to a message or an enum, from any file, leads to what is loaded of it where it is
declared. -/
theorem references_resolve
    (distinct : ((files.flatMap FileDesc.declarations).map Declaration.fullName).Nodup)
    {origin : FileDesc} (horigin : origin ∈ files)
    (hload : load settings index files origin = .ok schema) :
    ∃ symbols, symbolsOf settings.suffixes index files [] = .ok symbols ∧ ∀ home : FileDesc,
      (∀ d ∈ origin.loaded, d.IsAddressable files → WellKnown.ofTypeName? d.typeName = none →
        ∃ message target, schema.message? d.typeName = some message ∧
          message.fullName = d.fullName ∧
          Reads settings index files symbols home (Scope.IsMessageOf d.typeName)
            (.message target) ∧
          target.typeName = d.typeName ∧ target.names = message.names ∧
          target.kind = message.kind ∧ target.outboundHidden = message.isOutboundHidden ∧
          target.placement.LeadsTo files home origin message.name) ∧
      ∀ e ∈ origin.enumDeclarations, e.site.IsAddressable files →
        e.enum ∈ schema.enums ∧ ∃ placement,
          Reads settings index files symbols home (Scope.IsEnumOf e.site.typeName)
            (.enum e.site.typeName placement) ∧
          placement.LeadsTo files home origin e.enum.name := by
  obtain ⟨-, -, symbols, hsymbols, hmessages⟩ := load_ok hload
  refine ⟨symbols, hsymbols, fun home => ⟨fun d hd addressable standard => ?_,
    fun e he addressable => ?_⟩⟩
  · have hdeclared : d ∈ origin.declarations := (List.mem_filter.mp hd).1
    have hlookup := lookup_symbolsOf distinct hsymbols horigin hdeclared
    have hpackage := package_of_mem_declarations hdeclared
    have unique : ∀ d' ∈ origin.loaded, d'.fullName = d.fullName → d' = d := fun d' hd' heq =>
      List.inj_on_of_nodup_map distinct
        (List.mem_flatMap.mpr ⟨origin, horigin, (List.mem_filter.mp hd').1⟩)
        (List.mem_flatMap.mpr ⟨origin, horigin, hdeclared⟩) heq
    obtain ⟨message, hfind, hmade⟩ :=
      message?_of_forall₂ hmessages (fun _ _ h => (message_of_declared h).2.1) hd unique
    obtain ⟨hname, hfull, hkind, hnames, hhidden, -⟩ := message_of_declared hmade
    have leads := leadsTo_typeName addressable horigin hpackage home
    rw [← hname] at leads
    refine ⟨message, (scope settings index files symbols home).target d.typeName
      (d.symbol settings.suffixes index), ?_, hfull, reads_of_kindOf hsymbols
      (fun path desc h => Scope.kindOf_of_isMessageOf h standard hlookup path)
      (fun desc h => Scope.holds_self ?_), rfl, ?_, hkind.symm, hhidden.symm, ?_⟩
    · rw [message?, addressable.dropLeading_typeName]
      exact hfind
    · intro symbol hsymbol _
      rw [h.2] at hsymbol
      obtain rfl : d.symbol settings.suffixes index = symbol :=
        Option.some.inj (hlookup.symm.trans hsymbol)
      exact isMapEntry_of_mem_loaded hd
    · rw [hnames, Declaration.names, ← hname, ← leads.localName]
      rfl
    · dsimp only [Scope.target, scope]
      exact leads
  · have hpackage : e.site.package = origin.package := package_of_mem_enumDeclarations he
    refine ⟨?_, _, reads_of_kindOf hsymbols (fun path desc h => Scope.kindOf_of_isEnumOf h path)
      (fun desc h => Scope.holds_self ?_), leadsTo_typeName addressable horigin hpackage home⟩
    · rw [enums_of_load hload]
      exact List.mem_map_of_mem he
    · intro _ _ htype
      rw [h.1] at htype
      cases htype

/-! ### A message and an enum within messages -/

/-- A package that another one goes on to, with the name of its message. -/
def outerFile : FileDesc where
  name := "user.proto"
  package := "acme"
  goPackage := some "github.com/acme/user;user"

def innerFile : FileDesc where
  name := "common.proto"
  package := "acme.common"
  goPackage := some "github.com/acme/common;common"
  messages := [.node { name := "Directory" }
    [.node { name := "AddressWire", enums := [{ name := "Kind" }] } []]]

def innerMessage : Declaration :=
  ⟨"acme.common", ["Directory"], { name := "AddressWire", enums := [{ name := "Kind" }] }, false⟩

def innerEnum : EnumDeclaration := ⟨"acme.common", ["Directory", "AddressWire"], { name := "Kind" }⟩

lemma isAddressable_inner {path : List String} {desc : MessageDesc}
    (names : ∀ name ∈ path ++ [desc.name], name ≠ "" ∧ '.' ∉ name.toList)
    (unshadowed : ∀ k < path.length,
      (path.take (k + 1)).foldl qualify "acme.common" ∉ ["acme", "acme.common"]) :
    Declaration.IsAddressable [outerFile, innerFile] ⟨"acme.common", path, desc, false⟩ := by
  have hpackage : ("acme.common" : String) ≠ "" ∧
      ∀ segment ∈ Text.splitAt (· == '.') "acme.common".toList, segment ≠ [] := by decide
  refine ⟨hpackage.1, hpackage.2, names, fun file hfile k hpos hle heq => ?_⟩
  obtain ⟨k, rfl⟩ := Nat.exists_eq_add_of_le' hpos
  refine unshadowed k hle ?_
  rw [← heq]
  exact List.mem_map_of_mem (f := FileDesc.package) hfile

/-- From another package, a message and an enum within messages are what they are loaded as. -/
theorem nested_references_resolve :
    ∃ schema message symbols target placement,
      load {} {} [outerFile, innerFile] innerFile = .ok schema ∧
      schema.message? ".acme.common.Directory.AddressWire" = some message ∧
      message.name = "Directory_AddressWire" ∧
      (scope {} {} [outerFile, innerFile] symbols outerFile).kindOf "home"
        { type := .message, typeName := ".acme.common.Directory.AddressWire" } =
          .ok (.message target) ∧
      target.names = message.names ∧
      target.placement.LeadsTo [outerFile, innerFile] outerFile innerFile message.name ∧
      innerEnum.enum ∈ schema.enums ∧ innerEnum.enum.name = "Directory_AddressWire_Kind" ∧
      (scope {} {} [outerFile, innerFile] symbols outerFile).kindOf "kind"
        { type := .enum, typeName := ".acme.common.Directory.AddressWire.Kind" } =
          .ok (.enum ".acme.common.Directory.AddressWire.Kind" placement) ∧
      placement.LeadsTo [outerFile, innerFile] outerFile innerFile innerEnum.enum.name := by
  have hcheck : (load {} {} [outerFile, innerFile] innerFile).toOption.any (fun schema =>
      (schema.message? ".acme.common.Directory.AddressWire").any
        (·.name == "Directory_AddressWire")) = true := by
    decide +kernel
  have hmessage : innerMessage.IsAddressable [outerFile, innerFile] :=
    isAddressable_inner (by decide) (by decide)
  have henum : innerEnum.site.IsAddressable [outerFile, innerFile] :=
    isAddressable_inner (by decide) (by decide)
  obtain ⟨schema, hload, hcheck⟩ := exists_of_check hcheck
  obtain ⟨symbols, -, hresolve⟩ := references_resolve (by decide) (by simp) hload
  obtain ⟨hmessages, henums⟩ := hresolve outerFile
  obtain ⟨message, target, hfind, -, reads, -, hnames, -, -, leads⟩ :=
    hmessages innerMessage (.tail _ (.head _)) hmessage (by decide)
  obtain ⟨hmem, placement, enumReads, enumLeads⟩ := henums innerEnum (.head _) henum
  refine ⟨schema, message, symbols, target, placement, hload, hfind, ?_,
    reads.element _ _ ⟨.inl rfl, rfl⟩, hnames, leads, hmem, rfl,
    enumReads.element _ _ ⟨rfl, rfl⟩, enumLeads⟩
  rw [show ".acme.common.Directory.AddressWire" = innerMessage.typeName from rfl, hfind] at hcheck
  simpa using hcheck

end Laminate.FileSchema
