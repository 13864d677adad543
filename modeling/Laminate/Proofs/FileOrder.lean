import Laminate.Proofs.Aliases
import Laminate.Proofs.Forms
import Laminate.Proofs.Sources

/-! The order of files in a request does not matter, and neither does what else is generated.
What a run takes from all files are the modules, in an order of their own, and the symbols, one for
each name. -/
namespace Laminate

open Descriptor Annotation Schema Form

/-! ### Modules -/

namespace Schema.Registry

variable {files files' : List FileDesc}

/-- Modules have one order, by package. -/
lemma modules_eq_of_perm (hperm : files'.Perm files)
    (hagree : ∀ f ∈ files, ∀ g ∈ files, f.package = g.package → Module.ofFile f = Module.ofFile g) :
    (ofFiles files').modules = (ofFiles files).modules := by
  have hagree' : ∀ f ∈ files', ∀ g ∈ files', f.package = g.package →
      Module.ofFile f = Module.ofFile g :=
    fun f hf g hg => hagree f (hperm.subset hf) g (hperm.subset hg)
  have hnodup : ∀ files, (ofFiles files).modules.Nodup := fun files =>
    (List.mergeSort_perm _ _).nodup_iff.mpr (.of_map _ (nodup_distinct (by simp)))
  have hmodules : (ofFiles files').modules.Perm (ofFiles files).modules := by
    rw [List.perm_ext_iff_of_nodup (hnodup files') (hnodup files)]
    intro m
    rw [mem_modules_ofFile hagree', mem_modules_ofFile hagree]
    simp only [hperm.mem_iff]
  refine hmodules.eq_of_pairwise ?_ (pairwise_modules files') (pairwise_modules files)
  intro a b ha hb hab hba
  refine eq_of_package_eq (hmodules.subset ha) hb ?_
  have hab' := octets_le_of_precedes hab
  have hba' := octets_le_of_precedes hba
  simp only [precedes, Bool.or_eq_true, Bool.and_eq_true, decide_eq_true_eq, beq_iff_eq] at hab hba
  exact String.le_antisymm (hab.resolve_left (by omega)).2 (hba.resolve_left (by omega)).2

lemma ofFiles_eq_of_perm (hperm : files'.Perm files)
    (hagree : ∀ f ∈ files, ∀ g ∈ files, f.package = g.package → Module.ofFile f = Module.ofFile g) :
    ofFiles files' = ofFiles files := by
  have hmodules := modules_eq_of_perm hperm hagree
  have hqualifiers : ∀ files,
      (ofFiles files).qualifiers = assignQualifiers (ofFiles files).modules := fun _ => rfl
  rw [show ofFiles files' = ⟨(ofFiles files').modules, (ofFiles files').qualifiers⟩ from rfl,
    hqualifiers, hmodules]
  rfl

end Schema.Registry

/-! ### Symbols -/

section

variable {package : String} {suffixes : Suffixes} {index : Index}

/-- The annotations of a message can be read. -/
def Descriptor.Declaration.IsReadable (index : Index) (d : Declaration) : Prop :=
  ∃ options, index.ofMessage d.fullName d.desc.options = .ok options

mutual

theorem addSymbols_isOk (path : List String) (inEntry : Bool) (tree : MessageTree)
    (table : SymbolTable) :
    (∃ table', addSymbols suffixes index (path.foldl qualify package) tree table = .ok table') ↔
      ∀ d ∈ tree.declarations package path inEntry, d.IsReadable index := by
  match tree with
  | .node desc nested =>
    have hpath : qualify (path.foldl qualify package) desc.name =
        (path ++ [desc.name]).foldl qualify package := by simp
    have ih := addAllSymbols_isOk (path ++ [desc.name]) (inEntry || desc.isMapEntry) nested table
    rw [MessageTree.declarations, List.forall_mem_cons, ← ih, addSymbols, hpath]
    have hhere : Declaration.IsReadable index ⟨package, path, desc, inEntry || desc.isMapEntry⟩ ↔
        ∃ options, index.ofMessage ((path ++ [desc.name]).foldl qualify package) desc.options =
          .ok options := by
      rw [← hpath]
      rfl
    rw [hhere]
    cases index.ofMessage ((path ++ [desc.name]).foldl qualify package) desc.options with
    | error e => simp
    | ok options =>
      cases addAllSymbols suffixes index ((path ++ [desc.name]).foldl qualify package) nested table
        with
      | error e => simp
      | ok inner => simp

/-- Trees have symbols just where all their messages can be read. -/
theorem addAllSymbols_isOk (path : List String) (inEntry : Bool) (trees : List MessageTree)
    (table : SymbolTable) :
    (∃ table', addAllSymbols suffixes index (path.foldl qualify package) trees table =
        .ok table') ↔
      ∀ d ∈ allDeclarations package path inEntry trees, d.IsReadable index := by
  match trees with
  | [] => simp [addAllSymbols, allDeclarations]
  | tree :: rest =>
    have ih := addSymbols_isOk path inEntry tree table
    rw [allDeclarations, List.forall_mem_append, ← ih, addAllSymbols]
    cases addSymbols suffixes index (path.foldl qualify package) tree table with
    | error e => simp
    | ok middle =>
      rw [addAllSymbols_isOk path inEntry rest middle]
      simp

end

lemma symbolsOf_isOk (files : List FileDesc) (table : SymbolTable) :
    (∃ table', symbolsOf suffixes index files table = .ok table') ↔
      ∀ file ∈ files, ∀ d ∈ file.declarations, d.IsReadable index := by
  induction files generalizing table with
  | nil => simp [symbolsOf]
  | cons file rest ih =>
    have hhere : (∃ table', addAllSymbols suffixes index file.package file.messages table =
        .ok table') ↔ ∀ d ∈ file.declarations, d.IsReadable index :=
      addAllSymbols_isOk [] false file.messages table
    rw [List.forall_mem_cons, ← hhere, symbolsOf]
    cases addAllSymbols suffixes index file.package file.messages table with
    | error e => simp
    | ok middle =>
      rw [ih middle]
      simp

variable {files files' : List FileDesc} {table table' : SymbolTable}

/-- Where full names are distinct, whatever is found in one order is found in another. -/
lemma lookup_of_perm (hperm : files'.Perm files)
    (distinct : ((files.flatMap FileDesc.declarations).map Declaration.fullName).Nodup)
    (h : symbolsOf suffixes index files [] = .ok table)
    (h' : symbolsOf suffixes index files' [] = .ok table') {name : String} {symbol : Symbol}
    (hlookup : table'.lookup name = some symbol) : table.lookup name = some symbol := by
  obtain ⟨file, hfile, d, hd, rfl, rfl⟩ := declared_of_lookup h' hlookup
  exact lookup_symbolsOf distinct h (hperm.subset hfile) hd

lemma lookup_eq_of_perm (hperm : files'.Perm files)
    (distinct : ((files.flatMap FileDesc.declarations).map Declaration.fullName).Nodup)
    (h : symbolsOf suffixes index files [] = .ok table)
    (h' : symbolsOf suffixes index files' [] = .ok table') (name : String) :
    table'.lookup name = table.lookup name := by
  have distinct' : ((files'.flatMap FileDesc.declarations).map Declaration.fullName).Nodup :=
    ((hperm.flatMap_right _).map _).nodup_iff.mpr distinct
  refine Option.ext fun symbol => ⟨lookup_of_perm hperm distinct h h', ?_⟩
  exact lookup_of_perm hperm.symm distinct' h' h

end

/-! ### What is read against the symbols -/

variable {settings : Settings} {index : Index} {files files' : List FileDesc}

/-- A file loads as it does in any other order of the files. -/
lemma load_of_perm (hperm : files'.Perm files)
    (distinct : ((files.flatMap FileDesc.declarations).map Declaration.fullName).Nodup)
    (hagree : ∀ f ∈ files, ∀ g ∈ files, f.package = g.package → Module.ofFile f = Module.ofFile g)
    {file : FileDesc} {schema : FileSchema}
    (h : FileSchema.load settings index files file = .ok schema) :
    FileSchema.load settings index files' file = .ok schema := by
  unfold FileSchema.load at h ⊢
  by_cases hname : (Module.ofFile file).goName.isEmpty
  · simp [hname] at h
  · simp only [hname, bind_eq_ok, pure_eq_ok, Bool.false_eq_true, if_false] at h ⊢
    obtain ⟨table, htable, trees, htrees, services, hservices, rfl⟩ := h
    have hreadable := (symbolsOf_isOk files []).mp ⟨table, htable⟩
    obtain ⟨table', htable'⟩ : ∃ table', symbolsOf settings.suffixes index files' [] = .ok table' :=
      (symbolsOf_isOk files' []).mpr fun f hf => hreadable f (hperm.subset hf)
    have hregistry := Registry.ofFiles_eq_of_perm hperm hagree
    have hscope : ScopeMoves index index
        ⟨Module.ofFile file, Registry.ofFiles files', table', index, settings, file.isProto2⟩
        ⟨Module.ofFile file, Registry.ofFiles files, table, index, settings, file.isProto2⟩ := by
      refine ⟨by rw [hregistry], fun name => ?_, rfl, rfl⟩
      rw [lookup_eq_of_perm hperm distinct htable htable']
    rw [← trees_eq hscope (.refl (fun _ _ => rfl) (fun _ _ => rfl) _ _)] at htrees
    rw [hregistry] at htrees ⊢
    exact ⟨table', htable', trees, htrees, services, hservices, rfl⟩

/-! ### Runs -/

/-- Where names are distinct, the first file of a name is the only one. -/
lemma find?_of_perm (hperm : files'.Perm files) (names : (files.map (·.name)).Nodup) {name : String}
    {file : FileDesc} (h : files.find? (·.name == name) = some file) :
    files'.find? (·.name == name) = some file := by
  have hmem := List.mem_of_find?_eq_some h
  have hname := List.find?_some h
  cases h' : files'.find? (·.name == name) with
  | none =>
    have := List.find?_eq_none.mp h' file (hperm.symm.subset hmem)
    exact absurd hname this
  | some other =>
    have hother := List.find?_some h'
    have hmem' := hperm.subset (List.mem_of_find?_eq_some h')
    rw [beq_iff_eq] at hname hother
    rw [List.inj_on_of_nodup_map names hmem' hmem (hother.trans hname.symm)]

namespace Request

/-- Files have distinct names, messages distinct full names, and the files of a package agree on the
generated package. -/
structure IsCoherent (request : Request) : Prop where
  names : (request.files.map (·.name)).Nodup
  distinct : ((request.files.flatMap FileDesc.declarations).map Declaration.fullName).Nodup
  agree : ∀ f ∈ request.files, ∀ g ∈ request.files, f.package = g.package →
    Module.ofFile f = Module.ofFile g

variable {request : Request}

lemma IsCoherent.of_perm (coherent : request.IsCoherent) (hperm : files'.Perm request.files) :
    IsCoherent { request with files := files' } where
  names := (hperm.map _).nodup_iff.mpr coherent.names
  distinct := ((hperm.flatMap_right _).map _).nodup_iff.mpr coherent.distinct
  agree := fun f hf g hg => coherent.agree f (hperm.subset hf) g (hperm.subset hg)

lemma outputs_of_perm (coherent : request.IsCoherent) (hperm : files'.Perm request.files)
    {name : String} {outputs : List OutputFile}
    (h : request.outputs settings index name = .ok outputs) :
    Request.outputs { request with files := files' } settings index name = .ok outputs := by
  unfold Request.outputs at h ⊢
  split at h
  · cases h
  · next file hfile =>
    have hfile' : Request.file? { request with files := files' } name = some file :=
      find?_of_perm hperm coherent.names hfile
    rw [hfile']
    unfold Request.plan at h ⊢
    cases hload : FileSchema.load settings index request.files file with
    | error e => simp [hload] at h
    | ok schema =>
      simp only [hload] at h
      simp only [load_of_perm hperm coherent.distinct coherent.agree hload]
      exact h

/-- A run that succeeds does so in any other order of the files. -/
lemma run_of_perm (coherent : request.IsCoherent) (hperm : files'.Perm request.files)
    {response : Response} (h : request.run index = .ok response) :
    Request.run { request with files := files' } index = .ok response := by
  unfold Request.run at h ⊢
  dsimp only at h ⊢
  cases hsettings : Settings.ofParameter request.parameter with
  | error e => simp [hsettings] at h
  | ok settings =>
    simp only [hsettings] at h ⊢
    split at h
    · cases h
    · next hgenerate =>
      rw [if_neg hgenerate]
      obtain ⟨outputs, houtputs, rfl⟩ := map_eq_ok.mp h
      rw [mapM_eq_ok] at houtputs
      refine map_eq_ok.mpr ⟨outputs, ?_, rfl⟩
      exact mapM_eq_ok.mpr (houtputs.imp fun _ _ => outputs_of_perm coherent hperm)

/-- What a run does once its settings are known. -/
lemma run_eq_mapM (hsettings : Settings.ofParameter request.parameter = .ok settings)
    {names : List String} (hnames : names ≠ []) :
    Request.run { request with generate := names } index =
      (names.mapM (request.outputs settings index)).map fun files => ⟨files.flatten⟩ := by
  have hempty : names.isEmpty = false := by simpa using hnames
  unfold Request.run
  simp only [hsettings, hempty]
  rfl

lemma run_of_rejected {e : GenError} (hsettings : Settings.ofParameter request.parameter = .error e)
    (names : List String) :
    Request.run { request with generate := names } index = .error e := by
  unfold Request.run
  simp only [hsettings]

/-- A run is that of each part of the names, one after the other. -/
lemma run_append {first second : List String} (hfirst : first ≠ []) (hsecond : second ≠ [])
    (response : Response) :
    Request.run { request with generate := first ++ second } index = .ok response ↔
      ∃ r r', Request.run { request with generate := first } index = .ok r ∧
        Request.run { request with generate := second } index = .ok r' ∧
        response.files = r.files ++ r'.files := by
  cases hsettings : Settings.ofParameter request.parameter with
  | error e => simp [run_of_rejected hsettings]
  | ok settings =>
    have hboth : first ++ second ≠ [] := by simp [hfirst]
    rw [run_eq_mapM hsettings hboth, run_eq_mapM hsettings hfirst, run_eq_mapM hsettings hsecond,
      List.mapM_append]
    simp only [map_eq_ok, bind_eq_ok, pure_eq_ok]
    constructor
    · rintro ⟨_, ⟨outputs, houtputs, outputs', houtputs', rfl⟩, rfl⟩
      exact ⟨_, _, ⟨outputs, houtputs, rfl⟩, ⟨outputs', houtputs', rfl⟩, List.flatten_append⟩
    · rintro ⟨_, _, ⟨outputs, houtputs, rfl⟩, ⟨outputs', houtputs', rfl⟩, hfiles⟩
      refine ⟨_, ⟨outputs, houtputs, outputs', houtputs', rfl⟩, ?_⟩
      cases response
      rw [List.flatten_append]
      exact congrArg Response.mk hfiles.symm

/-- A run that fails does so with the fault of the first name whose own run fails. -/
lemma run_eq_error {names : List String} (hnames : names ≠ []) (e : GenError) :
    Request.run { request with generate := names } index = .error e ↔
      ∃ before name after, names = before ++ name :: after ∧
        (∀ earlier ∈ before, ∃ r,
          Request.run { request with generate := [earlier] } index = .ok r) ∧
        Request.run { request with generate := [name] } index = .error e := by
  cases hsettings : Settings.ofParameter request.parameter with
  | error fault =>
    simp only [run_of_rejected hsettings]
    constructor
    · intro h
      obtain ⟨name, after, rfl⟩ := List.exists_cons_of_ne_nil hnames
      exact ⟨[], name, after, rfl, by simp, h⟩
    · rintro ⟨-, -, -, -, -, h⟩
      exact h
  | ok settings =>
    have hsingle : ∀ name, Request.run { request with generate := [name] } index =
        (request.outputs settings index name).map fun files => ⟨files⟩ := by
      intro name
      rw [run_eq_mapM hsettings (by simp), List.mapM_cons, List.mapM_nil]
      cases request.outputs settings index name <;> simp [Except.map, pure, Except.pure, bind,
        Except.bind]
    have hmap : ∀ {α β : Type} {x : Except GenError α} {f : α → β},
        x.map f = .error e ↔ x = .error e := by
      intro α β x f
      cases x <;> simp [Except.map]
    rw [run_eq_mapM hsettings hnames, hmap, mapM_eq_error]
    simp only [hsingle, hmap, map_eq_ok]
    have hok : ∀ name, (∃ r : Response, ∃ files, request.outputs settings index name = .ok files ∧
        (⟨files⟩ : Response) = r) ↔ ∃ files, request.outputs settings index name = .ok files := by
      intro name
      constructor
      · rintro ⟨_, files, hfiles, -⟩
        exact ⟨files, hfiles⟩
      · rintro ⟨files, hfiles⟩
        exact ⟨_, files, hfiles, rfl⟩
    simp only [hok]

/-- Files may come in any order: the response is the same, or there is none either way. A run for
some names and then for others succeeds where both runs do, with the files of one after those of the
other, and fails with the fault of the first name that fails on its own. -/
theorem runs_independent (coherent : request.IsCoherent) (index : Index) :
    (∀ files' : List FileDesc, files'.Perm request.files →
      (Request.run { request with files := files' } index).toOption =
        (request.run index).toOption) ∧
    ∀ first second, first ≠ [] → second ≠ [] → request.generate = first ++ second →
      (∀ response, request.run index = .ok response ↔
        ∃ r r', Request.run { request with generate := first } index = .ok r ∧
          Request.run { request with generate := second } index = .ok r' ∧
          response.files = r.files ++ r'.files) ∧
      ∀ e, request.run index = .error e ↔
        ∃ before name after, request.generate = before ++ name :: after ∧
          (∀ earlier ∈ before, ∃ r,
            Request.run { request with generate := [earlier] } index = .ok r) ∧
          Request.run { request with generate := [name] } index = .error e := by
  constructor
  · intro files' hperm
    have hforward : ∀ response, request.run index = .ok response →
        Request.run { request with files := files' } index = .ok response :=
      fun _ h => run_of_perm coherent hperm h
    have hback : ∀ response, Request.run { request with files := files' } index = .ok response →
        request.run index = .ok response :=
      fun _ h => run_of_perm (coherent.of_perm hperm) hperm.symm h
    cases h : request.run index with
    | ok response => rw [hforward response h]
    | error e =>
      cases h' : Request.run { request with files := files' } index with
      | ok response =>
        rw [hback response h'] at h
        cases h
      | error e' => rfl
  · intro first second hfirst hsecond hgenerate
    have hrun : request.run index =
        Request.run { request with generate := first ++ second } index := by
      rw [← hgenerate]
    constructor
    · intro response
      rw [hrun]
      exact run_append hfirst hsecond response
    · intro e
      rw [hrun, hgenerate]
      exact run_eq_error (by simp [hfirst]) e

end Request

/-- A file that uses another one, both of which are generated. -/
def bothRequest : Request := { nestedRequest with generate := ["user.proto", "common.proto"] }

lemma bothRequest_isCoherent : bothRequest.IsCoherent where
  names := by decide +kernel
  distinct := by decide +kernel
  agree := by decide +kernel

theorem bothRequest_runs_independent :
    bothRequest.IsCoherent ∧ ∃ response r r', bothRequest.run {} = .ok response ∧
      response.files.map (·.name) = ["user.outbound.strata.go", "common.domain.strata.go",
        "common.domain_convert.strata.go", "common.outbound.strata.go"] ∧
      Request.run { bothRequest with files := bothRequest.files.reverse } {} = .ok response ∧
      Request.run { bothRequest with generate := ["user.proto"] } {} = .ok r ∧
      Request.run { bothRequest with generate := ["common.proto"] } {} = .ok r' ∧
      response.files = r.files ++ r'.files := by
  have h : (bothRequest.run {}).toOption.any (fun response =>
      decide (response.files.map (·.name) = ["user.outbound.strata.go", "common.domain.strata.go",
        "common.domain_convert.strata.go", "common.outbound.strata.go"])) = true := by
    unfold Request.run Request.outputs Request.plan FileSchema.load bothRequest nestedRequest
    simp only
    rw [registry_nested]
    decide +kernel
  obtain ⟨response, hresponse, hnames⟩ := exists_of_check h
  obtain ⟨hperm, hsplit⟩ := Request.runs_independent bothRequest_isCoherent {}
  have hreverse := hperm bothRequest.files.reverse (List.reverse_perm _)
  obtain ⟨r, r', hr, hr', hfiles⟩ :=
    ((hsplit ["user.proto"] ["common.proto"] (by simp) (by simp) rfl).1 response).mp hresponse
  refine ⟨bothRequest_isCoherent, response, r, r', hresponse, of_decide_eq_true hnames, ?_, hr, hr',
    hfiles⟩
  rw [hresponse] at hreverse
  cases hrun : Request.run { bothRequest with files := bothRequest.files.reverse } {} with
  | error e =>
    rw [hrun] at hreverse
    cases hreverse
  | ok other =>
    rw [hrun] at hreverse
    exact congrArg _ (Option.some.inj hreverse)

end Laminate
