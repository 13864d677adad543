import Laminate.Generate
import Laminate.Proofs.Outcome

/-! What a run reads of descriptors: their annotations, and what is left of them without options.
Requests that read alike, each against an index of its own, make for the same run. -/
namespace Laminate

open Descriptor Annotation Schema

/-! ### Descriptors without options -/

namespace Descriptor

def FieldDesc.bare (f : FieldDesc) : FieldDesc := { f with options := [], optionData := [] }

def MessageDesc.bare (d : MessageDesc) : MessageDesc :=
  { d with fields := d.fields.map FieldDesc.bare, options := [], optionData := [] }

end Descriptor

/-! ### Descriptors that are alike -/

/-- When the options of two descriptors come to the same: those of fields by the full name of their
message, those of messages and methods by their full name. -/
structure Likeness where
  field : String → FieldDesc → FieldDesc → Prop
  message : String → List WrittenOption → List WrittenOption → Prop
  method : String → List WrittenOption → List WrittenOption → Prop

section

variable (like : Likeness)

/-- Fields that are the same but for their options, which come to the same. -/
structure FieldAlike (message : String) (f f' : FieldDesc) : Prop where
  bare : f.bare = f'.bare
  options : like.field message f f'

structure MessageAlike (fullName : String) (d d' : MessageDesc) : Prop where
  bare : d.bare = d'.bare
  options : like.message fullName d.options d'.options
  fields : List.Forall₂ (FieldAlike like fullName) d.fields d'.fields

inductive TreesAlike : String → List MessageTree → List MessageTree → Prop
  | nil (outer : String) : TreesAlike outer [] []
  | cons {outer : String} {d d' : MessageDesc} {nested nested' rest rest' : List MessageTree}
    (message : MessageAlike like (qualify outer d.name) d d')
    (inner : TreesAlike (qualify outer d.name) nested nested')
    (more : TreesAlike outer rest rest') :
    TreesAlike outer (.node d nested :: rest) (.node d' nested' :: rest')

structure MethodAlike (service : String) (m m' : MethodDesc) : Prop where
  bare : { m with options := [], optionData := [] } = { m' with options := [], optionData := [] }
  options : like.method (qualify service m.name) m.options m'.options

structure ServiceAlike (package : String) (s s' : ServiceDesc) : Prop where
  bare : { s with methods := [] } = { s' with methods := [] }
  methods : List.Forall₂ (MethodAlike like (qualify package s.name)) s.methods s'.methods

/-- Files that are the same but for options of fields, messages and methods. -/
structure FileAlike (f f' : FileDesc) : Prop where
  bare : { f with messages := [], services := [] } = { f' with messages := [], services := [] }
  messages : TreesAlike like f.package f.messages f'.messages
  services : List.Forall₂ (ServiceAlike like f.package) f.services f'.services

/-- Requests that are the same but for options of fields, messages and methods, which come to the
same. -/
structure RequestAlike (r r' : Request) : Prop where
  parameter : r.parameter = r'.parameter
  generate : r.generate = r'.generate
  files : List.Forall₂ (FileAlike like) r.files r'.files

end

/-! ### Kinds of likeness -/

/-- One kind of likeness goes for another. -/
structure Likeness.Implies (like like' : Likeness) : Prop where
  field : ∀ {message f f'}, f.bare = f'.bare → like.field message f f' → like'.field message f f'
  message : ∀ {name o o'}, like.message name o o' → like'.message name o o'
  method : ∀ {name o o'}, like.method name o o' → like'.method name o o'

section

variable {like like' : Likeness} (implies : like.Implies like')

include implies

lemma TreesAlike.mono {outer : String} {trees trees' : List MessageTree}
    (h : TreesAlike like outer trees trees') : TreesAlike like' outer trees trees' := by
  induction h with
  | nil outer => exact .nil outer
  | cons message _ _ ihinner ihmore =>
    refine .cons ⟨message.bare, implies.message message.options, ?_⟩ ihinner ihmore
    exact message.fields.imp fun _ _ h => ⟨h.bare, implies.field h.bare h.options⟩

lemma ServiceAlike.mono {package : String} {s s' : ServiceDesc}
    (h : ServiceAlike like package s s') : ServiceAlike like' package s s' where
  bare := h.bare
  methods := h.methods.imp fun _ _ h => ⟨h.bare, implies.method h.options⟩

lemma RequestAlike.mono {r r' : Request} (h : RequestAlike like r r') :
    RequestAlike like' r r' where
  parameter := h.parameter
  generate := h.generate
  files := h.files.imp fun _ _ h =>
    ⟨h.bare, h.messages.mono implies, h.services.imp fun _ _ h => h.mono implies⟩

end

section

variable {like : Likeness} (field : ∀ message f, like.field message f f)
variable (message : ∀ name o, like.message name o o)

include field message

lemma TreesAlike.refl (outer : String) :
    ∀ trees : List MessageTree, TreesAlike like outer trees trees
  | [] => .nil outer
  | .node d nested :: rest =>
    .cons ⟨rfl, message _ _, List.forall₂_same.mpr fun f _ => ⟨rfl, field _ f⟩⟩
      (TreesAlike.refl (qualify outer d.name) nested) (TreesAlike.refl outer rest)

end

/-- Options that make up the same annotations, each beside an index of its own. -/
def Likeness.read (i i' : Index) : Likeness where
  field message f f' := i.ofField message f = i'.ofField message f'
  message name written written' := i.ofMessage name written = i'.ofMessage name written'
  method name written written' := i.ofMethod name written = i'.ofMethod name written'

variable {i i' : Index}

lemma FieldAlike.read {message : String} {f f' : FieldDesc}
    (h : FieldAlike (.read i i') message f f') : i.ofField message f = i'.ofField message f' :=
  h.options

lemma MessageAlike.read {name : String} {d d' : MessageDesc}
    (h : MessageAlike (.read i i') name d d') :
    i.ofMessage name d.options = i'.ofMessage name d'.options :=
  h.options

lemma MethodAlike.read {service : String} {m m' : MethodDesc}
    (h : MethodAlike (.read i i') service m m') :
    i.ofMethod (qualify service m.name) m.options =
      i'.ofMethod (qualify service m.name) m'.options :=
  h.options

/-- What is read of a field, its options apart, is read of the field without options. -/
lemma parts_of_bare {f f' : FieldDesc} (h : f.bare = f'.bare) :
    f.name = f'.name ∧ f.number = f'.number ∧ f.oneofIndex = f'.oneofIndex ∧
      f.proto3Optional = f'.proto3Optional :=
  ⟨congrArg (·.name) h, congrArg (·.number) h, congrArg (·.oneofIndex) h,
    congrArg (·.proto3Optional) h⟩

/-! ### Symbols -/

def Schema.Symbol.bare (symbol : Symbol) : Symbol := { symbol with desc := symbol.desc.bare }

/-- A table without the options of its messages and fields. -/
def bareTable (table : SymbolTable) : SymbolTable := table.map fun e => (e.1, e.2.bare)

lemma lookup_bareTable (table : SymbolTable) (name : String) :
    (bareTable table).lookup name = (table.lookup name).map Symbol.bare := by
  induction table with
  | nil => rfl
  | cons e table ih =>
    obtain ⟨key, symbol⟩ := e
    simp only [bareTable, List.map_cons, List.lookup_cons]
    cases name == key with
    | true => rfl
    | false => exact ih

/-- Results that agree after a map are the same fault, or are both there and agree. -/
lemma map_eq_map {α β : Type} {f : α → β} {r r' : Except GenError α} (h : r.map f = r'.map f) :
    (∃ e, r = .error e ∧ r' = .error e) ∨ ∃ a a', r = .ok a ∧ r' = .ok a' ∧ f a = f a' := by
  cases r with
  | error e =>
    cases r' with
    | error e' => exact .inl ⟨e, rfl, (congrArg Except.error (Except.error.inj h)).symm⟩
    | ok a' => cases h
  | ok a =>
    cases r' with
    | error e' => cases h
    | ok a' => exact .inr ⟨a, a', rfl, rfl, Except.ok.inj h⟩

lemma addAllSymbols_eq (suffixes : Suffixes) {outer : String} {trees trees' : List MessageTree}
    (h : TreesAlike (.read i i') outer trees trees') {table table' : SymbolTable}
    (htable : bareTable table = bareTable table') :
    (addAllSymbols suffixes i outer trees table).map bareTable =
      (addAllSymbols suffixes i' outer trees' table').map bareTable := by
  induction h generalizing table table' with
  | nil outer => simpa [addAllSymbols, Except.map] using htable
  | @cons outer d d' nested nested' rest rest' message inner more ihinner ihmore =>
    have hname : d.name = d'.name := congrArg (·.name) message.bare
    simp only [addAllSymbols, addSymbols]
    rw [← hname, ← message.read]
    cases i.ofMessage (qualify outer d.name) d.options with
    | error e => rfl
    | ok options =>
      rcases map_eq_map (ihinner htable) with ⟨e, hr, hr'⟩ | ⟨table, table', hr, hr', heq⟩
      · simp only [hr, hr']
      · simp only [hr, hr']
        refine ihmore ?_
        simp only [bareTable, List.map_cons, Symbol.bare, message.bare] at heq ⊢
        rw [heq]

lemma symbolsOf_eq (suffixes : Suffixes) {files files' : List FileDesc}
    (h : List.Forall₂ (FileAlike (.read i i')) files files') {table table' : SymbolTable}
    (htable : bareTable table = bareTable table') :
    (symbolsOf suffixes i files table).map bareTable =
      (symbolsOf suffixes i' files' table').map bareTable := by
  induction h generalizing table table' with
  | nil => simpa [symbolsOf, Except.map] using htable
  | @cons f f' files files' hf _ ih =>
    have hpackage : f.package = f'.package := congrArg (·.package) hf.bare
    simp only [symbolsOf]
    rw [← hpackage]
    rcases map_eq_map (addAllSymbols_eq suffixes hf.messages htable) with
      ⟨e, hr, hr'⟩ | ⟨table, table', hr, hr', heq⟩
    · simp only [hr, hr']
    · simp only [hr, hr']
      exact ih heq

/-! ### Fields and messages -/

/-- Scopes that are the same but for annotations; what is looked up in them is the same but for the
options of messages. -/
structure ScopeMoves (i i' : Index) (s s' : Scope) : Prop where
  bare : { s with symbols := [], index := {} } = { s' with symbols := [], index := {} }
  symbols (name : String) :
    (s.symbols.lookup name).map Symbol.bare = (s'.symbols.lookup name).map Symbol.bare
  index : s.index = i
  index' : s'.index = i'

variable {s s' : Scope}

lemma kindOf_eq (h : ScopeMoves i i' s s') (path : String) {f f' : FieldDesc}
    (hf : f.bare = f'.bare) : s.kindOf path f = s'.kindOf path f' := by
  have hmodule : s.module = s'.module := congrArg (·.module) h.bare
  have hregistry : s.registry = s'.registry := congrArg (·.registry) h.bare
  have hsettings : s.settings = s'.settings := congrArg (·.settings) h.bare
  have htype : f.type = f'.type := congrArg (·.type) hf
  have htypeName : f.typeName = f'.typeName := congrArg (·.typeName) hf
  have hlookup := h.symbols f'.typeName
  unfold Scope.kindOf
  rw [hmodule, hregistry, hsettings, htype, htypeName]
  cases hs : s.symbols.lookup f'.typeName with
  | none =>
    rw [hs] at hlookup
    rw [Option.map_eq_none_iff.mp hlookup.symm]
  | some symbol =>
    rw [hs] at hlookup
    obtain ⟨symbol', hs', hbare⟩ := Option.map_eq_some_iff.mp hlookup.symm
    have hkind : symbol'.kind = symbol.kind := congrArg (·.kind) hbare
    have hhidden : symbol'.outboundHidden = symbol.outboundHidden :=
      congrArg (·.outboundHidden) hbare
    rw [hs']
    simp only [hkind, hhidden]

lemma mapEntry?_eq (h : ScopeMoves i i' s s') {f f' : FieldDesc} (hf : f.bare = f'.bare) :
    (s.mapEntry? f).map MessageDesc.bare = (s'.mapEntry? f').map MessageDesc.bare := by
  have hlabel : f.label = f'.label := congrArg (·.label) hf
  have htype : f.type = f'.type := congrArg (·.type) hf
  have htypeName : f.typeName = f'.typeName := congrArg (·.typeName) hf
  have hfilter : ∀ found : Option Symbol,
      ((found.map (·.desc)).filter (·.isMapEntry)).map MessageDesc.bare =
        ((found.map Symbol.bare).map (·.desc)).filter (·.isMapEntry) := by
    rintro (_ | symbol)
    · rfl
    · simp only [Option.map_some, Option.filter_some]
      change _ = if symbol.desc.isMapEntry = true then some symbol.desc.bare else none
      split <;> rfl
  unfold Scope.mapEntry?
  rw [hlabel, htype, htypeName]
  split
  · rw [hfilter, hfilter, h.symbols]
  · rfl

/-- The types of a map are read off its entry without options. -/
lemma mapTypes_bare (path : String) (entry : MessageDesc) :
    (Scope.mapTypes path entry).map (fun types => (types.1, types.2.bare)) =
      Scope.mapTypes path entry.bare := by
  have hfind : ∀ number : Int, entry.bare.fields.find? (·.number == number) =
      (entry.fields.find? (·.number == number)).map FieldDesc.bare :=
    fun number => List.find?_map ..
  unfold Scope.mapTypes
  rw [hfind, hfind]
  cases entry.fields.find? (·.number == 1) with
  | none => rfl
  | some key =>
    cases entry.fields.find? (·.number == 2) with
    | none => rfl
    | some value =>
      dsimp only [Option.map_some, FieldDesc.bare]
      cases scalarOf? key.type <;> rfl

lemma shapeOf_eq (h : ScopeMoves i i' s s') (path : String) {f f' : FieldDesc}
    (hf : f.bare = f'.bare) : s.shapeOf path f = s'.shapeOf path f' := by
  have hentry := mapEntry?_eq h hf
  unfold Scope.shapeOf
  cases he : s.mapEntry? f with
  | none =>
    rw [he] at hentry
    rw [Option.map_eq_none_iff.mp hentry.symm]
    have hcardinality : s.plainCardinality f = s'.plainCardinality f' := by
      have hproto2 : s.isProto2 = s'.isProto2 := congrArg (·.isProto2) h.bare
      have hlabel : f.label = f'.label := congrArg (·.label) hf
      have htype : f.type = f'.type := congrArg (·.type) hf
      have hoptional : f.proto3Optional = f'.proto3Optional := congrArg (·.proto3Optional) hf
      unfold Scope.plainCardinality
      rw [hproto2, hlabel, htype, hoptional]
    simp only [kindOf_eq h path hf, hcardinality]
  | some entry =>
    rw [he] at hentry
    obtain ⟨entry', he', hbare⟩ := Option.map_eq_some_iff.mp hentry.symm
    have htypes : (Scope.mapTypes path entry).map (fun types => (types.1, types.2.bare)) =
        (Scope.mapTypes path entry').map (fun types => (types.1, types.2.bare)) := by
      rw [mapTypes_bare, mapTypes_bare, hbare]
    rw [he']
    rcases map_eq_map htypes with ⟨e, hr, hr'⟩ | ⟨types, types', hr, hr', heq⟩
    · simp only [hr, hr']
    · obtain ⟨hkey, hvalue⟩ := Prod.mk.inj heq
      simp only [hr, hr', kindOf_eq h path hvalue, hkey]

lemma field_eq (h : ScopeMoves i i' s s') (message : String) {fullName : String}
    {f f' : FieldDesc} (hf : FieldAlike (.read i i') fullName f f') :
    s.field message fullName f = s'.field message fullName f' := by
  have hmodule : s.module = s'.module := congrArg (·.module) h.bare
  obtain ⟨hname, hnumber, -, -⟩ := parts_of_bare hf.bare
  unfold Scope.field
  simp only [h.index, h.index', hf.read, shapeOf_eq h _ hf.bare, hmodule, hname, hnumber]

lemma members_eq (h : ScopeMoves i i' s s') (message : String) {fullName : String}
    {fs fs' : List FieldDesc} (hfs : List.Forall₂ (FieldAlike (.read i i') fullName) fs fs') :
    s.members message fullName fs = s'.members message fullName fs' := by
  induction hfs with
  | nil => rfl
  | @cons f f' fs fs' hf _ ih =>
    obtain ⟨hname, -, honeof, hoptional⟩ := parts_of_bare hf.bare
    have hmember : isOneofMember f = isOneofMember f' := by
      unfold isOneofMember
      rw [honeof, hoptional]
    simp only [Scope.members, hmember, field_eq h message hf, hname, ih]

lemma message_eq (h : ScopeMoves i i' s s') {outer : String} (stem : String) {d d' : MessageDesc}
    (hd : MessageAlike (.read i i') (qualify outer d.name) d d') :
    s.message outer stem d = s'.message outer stem d' := by
  have hsettings : s.settings = s'.settings := congrArg (·.settings) h.bare
  have hname : d.name = d'.name := congrArg (·.name) hd.bare
  unfold Scope.message
  simp only [h.index, h.index', ← hname, hd.read, members_eq h _ hd.fields,
    hsettings]

/-- A message that is read has its full name. -/
lemma fullName_of_message {outer stem : String} {d : MessageDesc} {message : Message}
    (h : s.message outer stem d = .ok message) : message.fullName = qualify outer d.name := by
  unfold Scope.message at h
  dsimp only at h
  split at h
  · cases h
  · obtain ⟨members, -, rfl⟩ := map_eq_ok.mp h
    rfl

lemma trees_eq (h : ScopeMoves i i' s s') {outer : String} {trees trees' : List MessageTree}
    (htrees : TreesAlike (.read i i') outer trees trees') (stem : String) :
    s.trees outer stem trees = s'.trees outer stem trees' := by
  induction htrees generalizing stem with
  | nil outer => rfl
  | @cons outer d d' nested nested' rest rest' message inner more ihinner ihmore =>
    have hentry : d.isMapEntry = d'.isMapEntry := congrArg (·.isMapEntry) message.bare
    have henums : d.enums = d'.enums := congrArg (·.enums) message.bare
    have htree : s.tree outer stem (.node d nested) = s'.tree outer stem (.node d' nested') := by
      simp only [Scope.tree, ← hentry, ← henums, ← message_eq h stem message]
      split
      · rfl
      · cases hm : s.message outer stem d with
        | error e => rfl
        | ok m =>
          have hname := fullName_of_message hm
          simp only [hname, ihinner (m.name ++ "_")]
    simp only [Scope.trees, htree, ihmore stem]

lemma method_eq {service : String} {m m' : MethodDesc} (h : MethodAlike (.read i i') service m m') :
    Method.ofDesc i service m = Method.ofDesc i' service m' := by
  have hname : m.name = m'.name := congrArg (·.name) h.bare
  have hinput : m.input = m'.input := congrArg (·.input) h.bare
  have houtput : m.output = m'.output := congrArg (·.output) h.bare
  unfold Method.ofDesc
  simp only [← hname, ← hinput, ← houtput, h.read]

lemma service_eq {package : String} {d d' : ServiceDesc}
    (h : ServiceAlike (.read i i') package d d') :
    Service.ofDesc i package d = Service.ofDesc i' package d' := by
  have hname : d.name = d'.name := congrArg (·.name) h.bare
  have hmethods : ∀ {ms ms' : List MethodDesc},
      List.Forall₂ (MethodAlike (.read i i') (qualify package d.name)) ms ms' →
      ms.mapM (Method.ofDesc i (qualify package d.name)) =
        ms'.mapM (Method.ofDesc i' (qualify package d.name)) := by
    intro ms ms' h
    induction h with
    | nil => rfl
    | cons hm _ ih => rw [List.mapM_cons, List.mapM_cons, method_eq hm, ih]
  unfold Service.ofDesc
  rw [← hname, hmethods h.methods]

/-! ### Runs -/

lemma module_eq {f f' : FileDesc} (h : FileAlike (.read i i') f f') :
    Module.ofFile f = Module.ofFile f' := by
  have hbare := congrArg Module.ofFile h.bare
  exact hbare

lemma registry_eq {files files' : List FileDesc}
    (h : List.Forall₂ (FileAlike (.read i i')) files files') :
    Registry.ofFiles files = Registry.ofFiles files' := by
  have hmodules : files.map Module.ofFile = files'.map Module.ofFile :=
    (map_eq_of_forall₂ h fun _ _ hf => (module_eq hf).symm).symm
  unfold Registry.ofFiles
  rw [hmodules]

lemma services_eq {package : String} {ds ds' : List ServiceDesc}
    (h : List.Forall₂ (ServiceAlike (.read i i') package) ds ds') :
    ds.mapM (Service.ofDesc i package) = ds'.mapM (Service.ofDesc i' package) := by
  induction h with
  | nil => rfl
  | cons hd _ ih => rw [List.mapM_cons, List.mapM_cons, service_eq hd, ih]

lemma load_eq (settings : Settings) {files files' : List FileDesc}
    (hfiles : List.Forall₂ (FileAlike (.read i i')) files files') {f f' : FileDesc}
    (hf : FileAlike (.read i i') f f') :
    FileSchema.load settings i files f = FileSchema.load settings i' files' f' := by
  have hname : f.name = f'.name := congrArg (·.name) hf.bare
  have hpackage : f.package = f'.package := congrArg (·.package) hf.bare
  have hproto2 : f.isProto2 = f'.isProto2 := congrArg (·.version == some "proto2") hf.bare
  have henums : f.enums = f'.enums := congrArg (·.enums) hf.bare
  unfold FileSchema.load
  simp only [← module_eq hf, ← registry_eq hfiles, ← hname, ← hpackage, ← hproto2, ← henums,
    ← services_eq hf.services]
  rcases map_eq_map (symbolsOf_eq settings.suffixes hfiles (rfl : bareTable [] = bareTable [])) with
    ⟨e, hr, hr'⟩ | ⟨table, table', hr, hr', htable⟩
  · rw [hr, hr']
    rfl
  · have hscope : ScopeMoves i i'
        ⟨Module.ofFile f, Registry.ofFiles files, table, i, settings, f.isProto2⟩
        ⟨Module.ofFile f, Registry.ofFiles files, table', i', settings, f.isProto2⟩ :=
      ⟨rfl, fun name => by rw [← lookup_bareTable, ← lookup_bareTable, htable], rfl, rfl⟩
    have htrees := trees_eq hscope hf.messages ""
    rw [hr, hr']
    simp only [bind, Except.bind, htrees]

lemma file?_eq {r r' : Request} (h : RequestAlike (.read i i') r r') (name : String) :
    Option.Rel (FileAlike (.read i i')) (r.file? name) (r'.file? name) := by
  have hfind : ∀ {files files' : List FileDesc},
      List.Forall₂ (FileAlike (.read i i')) files files' →
        Option.Rel (FileAlike (.read i i')) (files.find? (·.name == name))
          (files'.find? (·.name == name)) := by
    intro files files' h
    induction h with
    | nil => exact .none
    | @cons f f' files files' hf _ ih =>
      have hname : f.name = f'.name := congrArg (·.name) hf.bare
      rw [List.find?_cons, List.find?_cons, ← hname]
      cases f.name == name with
      | true => exact .some hf
      | false => exact ih
  exact hfind h.files

lemma outputs_eq {r r' : Request} (h : RequestAlike (.read i i') r r') (settings : Settings)
    (name : String) : r.outputs settings i name = r'.outputs settings i' name := by
  have hfile := file?_eq h name
  unfold Request.outputs
  generalize r.file? name = found at hfile ⊢
  generalize r'.file? name = found' at hfile ⊢
  cases hfile with
  | none => rfl
  | some hf => simp only [Request.plan, load_eq settings h.files hf]

/-- Requests that read alike make for the same run. -/
theorem run_of_alike {r r' : Request} (h : RequestAlike (.read i i') r r') :
    r.run i = r'.run i' := by
  unfold Request.run
  rw [← h.parameter, ← h.generate]
  simp only [funext (outputs_eq h _)]

end Laminate
