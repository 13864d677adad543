import Laminate.Proofs.Loading
import Mathlib.Data.List.Nodup

/-! The messages that files declare, at any depth, and what the symbol table and the loader make of
them. -/
namespace Laminate.Descriptor

open Laminate.Schema Laminate.Annotation

/-- A message with its place in the file that declares it. -/
structure Declaration where
  /-- Schema package of the file. -/
  package : String
  /-- Names of the messages around it, outermost first. -/
  path : List String
  desc : MessageDesc
  /-- Whether it is a map entry or lies in one. -/
  inEntry : Bool
  deriving Repr, Inhabited

namespace Declaration

variable (d : Declaration)

/-- Full name of what the message is declared in. -/
def outer : String := d.path.foldl qualify d.package

/-- Full name without a leading dot. -/
def fullName : String := qualify d.outer d.desc.name

/-- The part of the wire name that the messages around it give. -/
def stem : String := d.path.foldl (fun stem name => stem ++ name ++ "_") ""

def wireName : String := d.stem ++ d.desc.name

def kind (suffixes : Suffixes) : MessageKind := MessageKind.ofName suffixes d.desc.name

def names (suffixes : Suffixes) : LayerNames := .derive suffixes d.wireName (d.kind suffixes)

/-- Whether annotations hide the message from the outbound layer. -/
def isHidden (index : Index) : Bool :=
  match index.ofMessage d.fullName d.desc.options with
  | .ok options => options.any hidesOutbound
  | .error _ => false

/-- The forms that are generated for the message. -/
def generates (suffixes : Suffixes) (index : Index) : Layer → Bool
  | .wire => true
  | .domain => d.kind suffixes == .wire
  | .inbound => d.kind suffixes == .request
  | .outbound =>
    (d.kind suffixes == .wire || d.kind suffixes == .response) && !d.isHidden index

/-- What the symbol table holds of the message. -/
def symbol (suffixes : Suffixes) (index : Index) : Symbol :=
  ⟨d.desc, d.kind suffixes, d.isHidden index⟩

/-- Under which name the symbol table holds it. -/
def typeName : String := "." ++ d.fullName

end Declaration

mutual

/-- A message of a package and the messages in it, a message before the ones in it. -/
def MessageTree.declarations (package : String) (path : List String) (inEntry : Bool) :
    MessageTree → List Declaration
  | .node desc nested =>
    let inEntry := inEntry || desc.isMapEntry
    ⟨package, path, desc, inEntry⟩ :: allDeclarations package (path ++ [desc.name]) inEntry nested

def allDeclarations (package : String) (path : List String) (inEntry : Bool) :
    List MessageTree → List Declaration
  | [] => []
  | tree :: rest =>
    tree.declarations package path inEntry ++ allDeclarations package path inEntry rest

end

/-- The messages that a file declares. -/
def FileDesc.declarations (file : FileDesc) : List Declaration :=
  allDeclarations file.package [] false file.messages

/-- Those of them that are messages of their own. -/
def FileDesc.loaded (file : FileDesc) : List Declaration :=
  file.declarations.filter (!·.inEntry)

section

variable {package : String} {suffixes : Suffixes} {index : Index}

mutual

theorem MessageTree.inEntry_of_mem {path : List String} {tree : MessageTree} {d : Declaration}
    (h : d ∈ tree.declarations package path true) : d.inEntry = true := by
  match tree, h with
  | .node desc nested, h =>
    rw [MessageTree.declarations] at h
    rcases List.mem_cons.mp h with rfl | h
    · rfl
    · exact inEntry_of_mem_allDeclarations h

/-- Everything in a map entry is in one. -/
theorem inEntry_of_mem_allDeclarations {path : List String} {trees : List MessageTree}
    {d : Declaration} (h : d ∈ allDeclarations package path true trees) : d.inEntry = true := by
  match trees, h with
  | tree :: rest, h =>
    rw [allDeclarations] at h
    rcases List.mem_append.mp h with h | h
    · exact MessageTree.inEntry_of_mem h
    · exact inEntry_of_mem_allDeclarations h

end

mutual

theorem MessageTree.package_of_mem {path : List String} {inEntry : Bool} {tree : MessageTree}
    {d : Declaration} (h : d ∈ tree.declarations package path inEntry) : d.package = package := by
  match tree, h with
  | .node desc nested, h =>
    rw [MessageTree.declarations] at h
    rcases List.mem_cons.mp h with rfl | h
    · rfl
    · exact package_of_mem_allDeclarations h

theorem package_of_mem_allDeclarations {path : List String} {inEntry : Bool}
    {trees : List MessageTree} {d : Declaration}
    (h : d ∈ allDeclarations package path inEntry trees) : d.package = package := by
  match trees, h with
  | tree :: rest, h =>
    rw [allDeclarations] at h
    rcases List.mem_append.mp h with h | h
    · exact MessageTree.package_of_mem h
    · exact package_of_mem_allDeclarations h

end

lemma package_of_mem_declarations {file : FileDesc} {d : Declaration} (h : d ∈ file.declarations) :
    d.package = file.package :=
  package_of_mem_allDeclarations h

/-! ### Symbols -/

mutual

theorem mem_addSymbols (path : List String) (inEntry : Bool) {tree : MessageTree}
    {table table' : SymbolTable}
    (h : addSymbols suffixes index (path.foldl qualify package) tree table = .ok table')
    (entry : String × Symbol) :
    entry ∈ table' ↔
      (∃ d ∈ tree.declarations package path inEntry,
        entry = (d.typeName, d.symbol suffixes index)) ∨ entry ∈ table := by
  match tree, h with
  | .node desc nested, h =>
    rw [addSymbols] at h
    split at h
    · cases h
    · next options hoptions =>
      split at h
      · cases h
      · next inner hinner =>
        have hpath : qualify (path.foldl qualify package) desc.name =
            (path ++ [desc.name]).foldl qualify package := by simp
        rw [hpath] at hinner
        have ih := mem_addAllSymbols _ (inEntry || desc.isMapEntry) hinner entry
        have hidden : Declaration.isHidden ⟨package, path, desc, inEntry || desc.isMapEntry⟩ index =
            options.any hidesOutbound := by
          simp only [Declaration.isHidden, Declaration.fullName, Declaration.outer, hoptions]
        cases h
        rw [MessageTree.declarations, List.mem_cons, ih]
        simp only [List.exists_mem_cons_iff, Declaration.symbol, Declaration.typeName, hidden,
          Declaration.kind, Declaration.fullName, Declaration.outer, or_assoc]

/-- What trees add to a table is what they declare. -/
theorem mem_addAllSymbols (path : List String) (inEntry : Bool) {trees : List MessageTree}
    {table table' : SymbolTable}
    (h : addAllSymbols suffixes index (path.foldl qualify package) trees table = .ok table')
    (entry : String × Symbol) :
    entry ∈ table' ↔
      (∃ d ∈ allDeclarations package path inEntry trees,
        entry = (d.typeName, d.symbol suffixes index)) ∨ entry ∈ table := by
  match trees, h with
  | [], h =>
    rw [addAllSymbols] at h
    cases h
    simp [allDeclarations]
  | tree :: rest, h =>
    rw [addAllSymbols] at h
    split at h
    · cases h
    · next middle hmiddle =>
      rw [mem_addAllSymbols path inEntry h entry, mem_addSymbols path inEntry hmiddle entry,
        allDeclarations]
      simp only [List.mem_append, or_and_right, exists_or, or_assoc]
      exact or_left_comm

end

/-- The symbols of files are the messages that they declare, and no others. -/
theorem mem_symbolsOf {files : List FileDesc} {table table' : SymbolTable}
    (h : symbolsOf suffixes index files table = .ok table') (entry : String × Symbol) :
    entry ∈ table' ↔
      (∃ file ∈ files, ∃ d ∈ file.declarations,
        entry = (d.typeName, d.symbol suffixes index)) ∨ entry ∈ table := by
  induction files generalizing table with
  | nil =>
    rw [symbolsOf] at h
    cases h
    simp
  | cons file rest ih =>
    rw [symbolsOf] at h
    split at h
    · cases h
    · next middle hmiddle =>
      rw [ih h, mem_addAllSymbols [] false hmiddle entry]
      simp only [List.exists_mem_cons_iff, FileDesc.declarations, or_assoc]
      exact or_left_comm

theorem declared_of_lookup {files : List FileDesc} {table : SymbolTable}
    (h : symbolsOf suffixes index files [] = .ok table) {typeName : String} {symbol : Symbol}
    (hlookup : table.lookup typeName = some symbol) :
    ∃ file ∈ files, ∃ d ∈ file.declarations,
      typeName = d.typeName ∧ symbol = d.symbol suffixes index := by
  obtain ⟨before, after, rfl, -⟩ := List.lookup_eq_some_iff.mp hlookup
  have hmem := (mem_symbolsOf h (typeName, symbol)).mp (by simp)
  simpa using hmem

/-- Where full names are distinct, a name stands for the one message that is declared under it. -/
theorem lookup_symbolsOf {files : List FileDesc} {table : SymbolTable}
    (distinct : ((files.flatMap FileDesc.declarations).map Declaration.fullName).Nodup)
    (h : symbolsOf suffixes index files [] = .ok table) {file : FileDesc} (hfile : file ∈ files)
    {d : Declaration} (hd : d ∈ file.declarations) :
    table.lookup d.typeName = some (d.symbol suffixes index) := by
  have hmem : (d.typeName, d.symbol suffixes index) ∈ table :=
    (mem_symbolsOf h _).mpr (.inl ⟨file, hfile, d, hd, rfl⟩)
  cases hlookup : table.lookup d.typeName with
  | none =>
    have := List.lookup_eq_none_iff.mp hlookup _ hmem
    simp at this
  | some symbol =>
    obtain ⟨file', hfile', d', hd', hname, rfl⟩ := declared_of_lookup h hlookup
    have heq : d.fullName = d'.fullName := by
      simpa [Declaration.typeName] using hname
    have := List.inj_on_of_nodup_map distinct
      (List.mem_flatMap.mpr ⟨file, hfile, hd⟩) (List.mem_flatMap.mpr ⟨file', hfile', hd'⟩) heq
    rw [this]

/-- A field's target stands for a declaration, though perhaps under other names. -/
structure RefersTo (suffixes : Suffixes) (index : Index) (target : MessageTarget)
    (d : Declaration) : Prop where
  typeName : target.typeName = d.typeName
  kind : target.kind = d.kind suffixes
  hidden : target.outboundHidden = d.isHidden index
  named : target.names = .derive suffixes target.placement.localName target.kind

/-- Whatever a field refers to is declared somewhere, and lies where the registry says. -/
theorem exists_refersTo {scope : Scope} {files : List FileDesc} {path : String} {desc : FieldDesc}
    {target : MessageTarget}
    (hsymbols : symbolsOf scope.settings.suffixes scope.index files [] = .ok scope.symbols)
    (h : scope.kindOf path desc = .ok (.message target)) :
    target.placement = scope.registry.place scope.module target.typeName ∧
      ∃ file ∈ files, ∃ d ∈ file.declarations,
        RefersTo scope.settings.suffixes scope.index target d := by
  obtain ⟨symbol, hlookup, htarget⟩ := Scope.kindOf_message h
  obtain ⟨file, hfile, d, hd, htypeName, rfl⟩ := declared_of_lookup hsymbols hlookup
  refine ⟨by rw [htarget], file, hfile, d, hd, ?_, ?_, ?_, by rw [htarget]⟩
  · rw [htarget, htypeName]
  · rw [htarget, Declaration.symbol]
  · rw [htarget, Declaration.symbol]

/-! ### Loading -/

/-- A message is what its declaration says, with the members that its fields make. -/
lemma message_of_declared {scope : Scope} {d : Declaration} {message : Message}
    (h : scope.message d.outer d.stem d.desc = .ok message) :
    message.name = d.wireName ∧ message.fullName = d.fullName ∧
      message.kind = d.kind scope.settings.suffixes ∧
      message.names = d.names scope.settings.suffixes ∧
      message.isOutboundHidden = d.isHidden scope.index ∧
      scope.members d.wireName d.fullName d.desc.fields = .ok message.members := by
  unfold Scope.message at h
  simp only at h
  split at h
  · cases h
  · next options hoptions =>
    obtain ⟨members, hmembers, rfl⟩ := map_eq_ok.mp h
    refine ⟨rfl, rfl, rfl, rfl, ?_, hmembers⟩
    rw [← Declaration.fullName] at hoptions
    simp only [Declaration.isHidden, hoptions, Message.isOutboundHidden]
    cases options <;> rfl

/-- The forms of a message are those of its declaration. -/
lemma generates_of_declared {scope : Scope} {d : Declaration} {message : Message}
    (h : scope.message d.outer d.stem d.desc = .ok message) :
    message.hasDomain = d.generates scope.settings.suffixes scope.index .domain ∧
      message.hasInbound = d.generates scope.settings.suffixes scope.index .inbound ∧
      message.hasOutbound = d.generates scope.settings.suffixes scope.index .outbound := by
  obtain ⟨-, -, hkind, -, hhidden, -⟩ := message_of_declared h
  simp [Message.hasDomain, Message.hasInbound, Message.hasOutbound, Declaration.generates, hkind,
    hhidden]

mutual

theorem Scope.tree_loaded {scope : Scope} (path : List String) {tree : MessageTree}
    {messages : List Message} {enums : List Enum}
    (h : scope.tree (path.foldl qualify package)
      (path.foldl (fun stem name => stem ++ name ++ "_") "") tree = .ok (messages, enums)) :
    List.Forall₂ (fun d message => scope.message d.outer d.stem d.desc = .ok message)
      ((tree.declarations package path false).filter (!·.inEntry)) messages := by
  match tree, h with
  | .node desc nested, h =>
    rw [Scope.tree] at h
    rw [MessageTree.declarations]
    cases hentry : desc.isMapEntry with
    | true =>
      rw [hentry, if_pos rfl] at h
      cases h
      rw [List.filter_eq_nil_iff.mpr]
      · exact .nil
      · intro d hd
        rcases List.mem_cons.mp hd with rfl | hd
        · simp
        · simp [inEntry_of_mem_allDeclarations hd]
    | false =>
      rw [hentry, if_neg (by simp)] at h
      split at h
      · cases h
      · next message hmessage =>
        split at h
        · cases h
        · next inner innerEnums hinner =>
          cases h
          obtain ⟨hname, hfull, -⟩ :=
            message_of_declared (d := ⟨package, path, desc, false⟩) hmessage
          rw [hname, hfull] at hinner
          have hpath : Declaration.fullName ⟨package, path, desc, false⟩ =
              (path ++ [desc.name]).foldl qualify package := by
            simp [Declaration.fullName, Declaration.outer]
          have hstem : Declaration.wireName ⟨package, path, desc, false⟩ ++ "_" =
              (path ++ [desc.name]).foldl (fun stem name => stem ++ name ++ "_") "" := by
            simp [Declaration.wireName, Declaration.stem]
          rw [hpath, hstem] at hinner
          rw [List.filter_cons_of_pos (by simp)]
          exact .cons hmessage (Scope.trees_loaded _ hinner)

/-- The messages that are loaded are the declared ones outside map entries, in order. -/
theorem Scope.trees_loaded {scope : Scope} (path : List String) {trees : List MessageTree}
    {messages : List Message} {enums : List Enum}
    (h : scope.trees (path.foldl qualify package)
      (path.foldl (fun stem name => stem ++ name ++ "_") "") trees = .ok (messages, enums)) :
    List.Forall₂ (fun d message => scope.message d.outer d.stem d.desc = .ok message)
      ((allDeclarations package path false trees).filter (!·.inEntry)) messages := by
  match trees, h with
  | [], h =>
    rw [Scope.trees] at h
    cases h
    exact .nil
  | tree :: rest, h =>
    rw [Scope.trees] at h
    split at h
    · cases h
    · next here hereEnums hhere =>
      obtain ⟨⟨more, moreEnums⟩, hmore, hmessages⟩ := map_eq_ok.mp h
      cases hmessages
      rw [allDeclarations, List.filter_append]
      exact List.rel_append (Scope.tree_loaded path hhere) (Scope.trees_loaded path hmore)

end

end

end Laminate.Descriptor

namespace Laminate.FileSchema

open Laminate.Schema Laminate.Descriptor Laminate.Annotation

/-- What the fields of a file are read against once its symbols are known. -/
def scope (settings : Settings) (index : Index) (files : List FileDesc) (symbols : SymbolTable)
    (file : FileDesc) : Scope :=
  ⟨Module.ofFile file, Registry.ofFiles files, symbols, index, settings, file.isProto2⟩

/-- A file that loads gives one message for each declaration outside map entries, in order. -/
theorem load_ok {settings : Settings} {index : Index} {files : List FileDesc} {file : FileDesc}
    {schema : FileSchema} (h : load settings index files file = .ok schema) :
    schema.module = Module.ofFile file ∧ schema.registry = Registry.ofFiles files ∧
      ∃ symbols, symbolsOf settings.suffixes index files [] = .ok symbols ∧
        List.Forall₂ (fun d message =>
            (scope settings index files symbols file).message d.outer d.stem d.desc = .ok message)
          file.loaded schema.messages := by
  unfold load at h
  by_cases hname : (Module.ofFile file).goName.isEmpty
  · simp [hname] at h
  · simp only [hname, bind_eq_ok, pure_eq_ok, Bool.false_eq_true, if_false] at h
    obtain ⟨symbols, hsymbols, trees, htrees, services, -, rfl⟩ := h
    exact ⟨rfl, rfl, symbols, hsymbols, Scope.trees_loaded [] htrees⟩

theorem goName_of_load {settings : Settings} {index : Index} {files : List FileDesc}
    {file : FileDesc} {schema : FileSchema} (h : load settings index files file = .ok schema) :
    schema.module.goName ≠ "" := by
  intro hempty
  rw [(load_ok h).1] at hempty
  unfold load at h
  simp [hempty] at h

/-- A field of a file that loads is made of a descriptor, against the modules of the request. -/
theorem field_scoped {settings : Settings} {index : Index} {files : List FileDesc} {file : FileDesc}
    {schema : FileSchema} (h : load settings index files file = .ok schema) {message : Message}
    (hmessage : message ∈ schema.messages) {field : Field} (hfield : field ∈ message.fields) :
    ∃ symbols name fullName desc,
      (scope settings index files symbols file).field name fullName desc = .ok field := by
  obtain ⟨-, -, symbols, -, hloaded⟩ := load_ok h
  obtain ⟨d, -, hdeclared⟩ := exists_of_mem_forall₂ hloaded hmessage
  obtain ⟨-, -, -, -, -, hmembers⟩ := message_of_declared hdeclared
  obtain ⟨desc, -, -, hmade⟩ := Scope.exists_of_mem_members hmembers (Message.mem_fields.mp hfield)
  exact ⟨symbols, _, _, desc, hmade⟩

/-- A field of a file that loads is made of a descriptor. -/
theorem field_made {settings : Settings} {index : Index} {files : List FileDesc} {file : FileDesc}
    {schema : FileSchema} (h : load settings index files file = .ok schema) {message : Message}
    (hmessage : message ∈ schema.messages) {field : Field} (hfield : field ∈ message.fields) :
    ∃ scope : Scope, ∃ name fullName desc, scope.field name fullName desc = .ok field :=
  ⟨_, (field_scoped h hmessage hfield).choose_spec⟩

/-- The services of a file that loads are read one by one. -/
theorem services_of_load {settings : Settings} {index : Index} {files : List FileDesc}
    {file : FileDesc} {schema : FileSchema} (h : load settings index files file = .ok schema) :
    List.Forall₂ (fun desc service => Service.ofDesc index file.package desc = .ok service)
      file.services schema.services := by
  unfold load at h
  by_cases hname : (Module.ofFile file).goName.isEmpty
  · simp [hname] at h
  · simp only [hname, bind_eq_ok, pure_eq_ok, Bool.false_eq_true, if_false] at h
    obtain ⟨symbols, -, trees, -, services, hservices, rfl⟩ := h
    exact mapM_eq_ok.mp hservices

end Laminate.FileSchema
