import Laminate.Proofs.Placement
import Mathlib.Data.List.Nodup
import Mathlib.Data.List.Perm.Subperm

/-! Qualifiers of generated packages. No two import paths of a request share one, and none is the
package name of another path. -/
namespace Laminate.Schema

open Laminate.Text Laminate.Code Laminate.Descriptor

namespace Registry

/-! ### Free names -/

/-- More numbered names are tried than can be taken. -/
lemma numberedAlias_not_mem (name : String) (taken : List String) :
    numberedAlias name taken ∉ taken := by
  have hinjective : Function.Injective fun k : ℕ => name ++ toString (k + 2) := by
    intro k l hkl
    have hrepr : (k + 2).repr = (l + 2).repr := (String.append_right_inj name).mp hkl
    have hvalue := congrArg (fun text => Nat.ofDigitChars 10 text.toList 0) hrepr
    simp only [Nat.toList_repr, Nat.ofDigitChars_ten_toDigits] at hvalue
    omega
  have hnodup := List.nodup_range (n := taken.length + 1) |>.map hinjective
  unfold numberedAlias
  cases hfind : ((List.range (taken.length + 1)).map fun k => name ++ toString (k + 2)).find?
      fun candidate => !taken.contains candidate with
  | some found => simpa using List.find?_some hfind
  | none =>
    rw [List.find?_eq_none] at hfind
    have hsubset := hnodup.length_le_of_subset fun candidate hmem => by simpa using hfind _ hmem
    rw [List.length_map, List.length_range] at hsubset
    omega

lemma pathAlias_not_mem (path name : String) (taken : List String) :
    pathAlias path name taken ∉ taken := by
  unfold pathAlias
  cases hfind : (aliasCandidates path).find? fun candidate => !taken.contains candidate with
  | some found => simpa using List.find?_some hfind
  | none => exact numberedAlias_not_mem name taken

/-! ### One assignment -/

lemma mem_pathsOf {modules : List Module} {name path : String} :
    path ∈ pathsOf modules name ↔ ∃ m ∈ modules, m.goName = name ∧ m.goPath = path := by
  simp [pathsOf, mem_sortedNames, and_assoc]

lemma mem_putQualifier {path name : String} {qualifiers : List (String × String)}
    {entry : String × String} :
    entry ∈ putQualifier path name qualifiers ↔
      entry = (path, name) ∨ entry ∈ qualifiers ∧ entry.1 ≠ path := by
  simp [putQualifier]

/-- What is known of the names in use and the qualifiers once some paths have theirs. `own` is what
lets a path keep its package name: the name has no other path. -/
structure Assigned (modules : List Module) (names : List String)
    (state : List String × List (String × String)) : Prop where
  names_taken : ∀ name ∈ names, name ∈ state.1
  taken : ∀ path name, (path, name) ∈ state.2 → name ∈ state.1
  own : ∀ path name, (path, name) ∈ state.2 → name ∈ names → pathsOf modules name = [path]
  path_unique : ∀ name path path', (path, name) ∈ state.2 → (path', name) ∈ state.2 → path = path'

variable {modules : List Module} {names : List String}
  {state : List String × List (String × String)}

namespace Assigned

lemma start : Assigned modules names (names, []) where
  names_taken := fun _ hname => hname
  taken := by simp
  own := by simp
  path_unique := by simp

/-- A package name with one path goes to that path. -/
lemma put_name (h : Assigned modules names state) {name path : String} (hname : name ∈ names)
    (hpath : pathsOf modules name = [path]) :
    Assigned modules names (state.1, putQualifier path name state.2) where
  names_taken := h.names_taken
  taken := by
    intro p n hp
    rcases mem_putQualifier.mp hp with heq | ⟨hp, -⟩
    · cases heq
      exact h.names_taken name hname
    · exact h.taken p n hp
  own := by
    intro p n hp hn
    rcases mem_putQualifier.mp hp with heq | ⟨hp, -⟩
    · cases heq
      exact hpath
    · exact h.own p n hp hn
  path_unique := by
    -- an older entry with this name is for a path of the name, so for the only one
    have hold : ∀ p, (p, name) ∈ state.2 → p = path := fun p hp => by
      simpa [hpath] using (h.own p name hp hname).symm
    intro n p p' hp hp'
    rcases mem_putQualifier.mp hp with heq | ⟨hp, -⟩ <;>
      rcases mem_putQualifier.mp hp' with heq' | ⟨hp', -⟩
    · cases heq
      cases heq'
      rfl
    · cases heq
      exact (hold p' hp').symm
    · cases heq'
      exact hold p hp
    · exact h.path_unique n p p' hp hp'

/-- A name in use by nothing goes to any path. -/
lemma put_alias (h : Assigned modules names state) {found : String} (hfound : found ∉ state.1)
    (path : String) :
    Assigned modules names (found :: state.1, putQualifier path found state.2) where
  names_taken := fun n hn => List.mem_cons_of_mem _ (h.names_taken n hn)
  taken := by
    intro p n hp
    rcases mem_putQualifier.mp hp with heq | ⟨hp, -⟩
    · cases heq
      exact List.mem_cons_self
    · exact List.mem_cons_of_mem _ (h.taken p n hp)
  own := by
    intro p n hp hn
    rcases mem_putQualifier.mp hp with heq | ⟨hp, -⟩
    · cases heq
      exact absurd (h.names_taken _ hn) hfound
    · exact h.own p n hp hn
  path_unique := by
    intro n p p' hp hp'
    rcases mem_putQualifier.mp hp with heq | ⟨hp, -⟩ <;>
      rcases mem_putQualifier.mp hp' with heq' | ⟨hp', -⟩
    · cases heq
      cases heq'
      rfl
    · cases heq
      exact absurd (h.taken p' _ hp') hfound
    · cases heq'
      exact absurd (h.taken p _ hp) hfound
    · exact h.path_unique n p p' hp hp'

lemma aliasPaths (h : Assigned modules names state) (name : String) (paths : List String) :
    Assigned modules names (aliasPaths name paths state) := by
  induction paths generalizing state with
  | nil => exact h
  | cons path rest ih => exact ih (h.put_alias (pathAlias_not_mem path name state.1) path)

end Assigned

/-! ### Every assignment -/

/-- The qualifiers of the paths under one package name. -/
def assignName (modules : List Module) (state : List String × List (String × String))
    (name : String) : List String × List (String × String) :=
  match pathsOf modules name with
  | [path] => (state.1, putQualifier path name state.2)
  | paths => aliasPaths name paths state

lemma Assigned.assignName (h : Assigned modules names state) {name : String}
    (hname : name ∈ names) : Assigned modules names (assignName modules state name) := by
  unfold Registry.assignName
  split
  · next path hpath => exact h.put_name hname hpath
  · exact h.aliasPaths name _

lemma Assigned.foldl (h : Assigned modules names state) {rest : List String}
    (hrest : rest ⊆ names) :
    Assigned modules names (rest.foldl (Registry.assignName modules) state) := by
  induction rest generalizing state with
  | nil => exact h
  | cons name rest ih =>
    rw [List.cons_subset] at hrest
    exact ih (h.assignName hrest.1) hrest.2

/-- Paths with a qualifier. -/
def assignedPaths (qualifiers : List (String × String)) : List String :=
  qualifiers.map (·.1)

lemma mem_assignedPaths_put {path name p : String} {qualifiers : List (String × String)} :
    p ∈ assignedPaths (putQualifier path name qualifiers) ↔
      p = path ∨ p ∈ assignedPaths qualifiers := by
  simp only [assignedPaths, List.mem_map, mem_putQualifier]
  grind

lemma mem_assignedPaths_aliasPaths {name p : String} {paths : List String} :
    p ∈ assignedPaths (aliasPaths name paths state).2 ↔
      p ∈ paths ∨ p ∈ assignedPaths state.2 := by
  induction paths generalizing state with
  | nil => simp [aliasPaths]
  | cons path rest ih =>
    rw [aliasPaths, ih, mem_assignedPaths_put, List.mem_cons]
    exact or_left_comm.trans or_assoc.symm

lemma mem_assignedPaths_assignName {name p : String} :
    p ∈ assignedPaths (assignName modules state name).2 ↔
      p ∈ pathsOf modules name ∨ p ∈ assignedPaths state.2 := by
  unfold assignName
  split
  · next path hpath => rw [mem_assignedPaths_put, hpath, List.mem_singleton]
  · exact mem_assignedPaths_aliasPaths

lemma mem_assignedPaths_foldl {p : String} :
    p ∈ assignedPaths (names.foldl (assignName modules) state).2 ↔
      (∃ name ∈ names, p ∈ pathsOf modules name) ∨ p ∈ assignedPaths state.2 := by
  induction names generalizing state with
  | nil => simp
  | cons name rest ih =>
    rw [List.foldl_cons, ih, mem_assignedPaths_assignName]
    simp only [List.mem_cons, exists_eq_or_imp]
    exact or_left_comm.trans or_assoc.symm

/-! ### Names that can be written -/

section

variable {name : String}

lemma numberedAlias_ne_empty (hname : name ≠ "") (taken : List String) :
    numberedAlias name taken ≠ "" := by
  unfold numberedAlias
  cases hfind : ((List.range (taken.length + 1)).map fun k => name ++ toString (k + 2)).find?
      fun candidate => !taken.contains candidate with
  | none => exact hname
  | some found =>
    obtain ⟨k, -, rfl⟩ := List.mem_map.mp (List.mem_of_find?_eq_some hfind)
    exact fun h => hname (String.append_eq_empty_iff.mp h).1

lemma pathAlias_ne_empty (hname : name ≠ "") (path : String) (taken : List String) :
    pathAlias path name taken ≠ "" := by
  unfold pathAlias
  cases hfind : (aliasCandidates path).find? fun candidate => !taken.contains candidate with
  | none => exact numberedAlias_ne_empty hname taken
  | some found =>
    have hhead := (List.mem_filter.mp (List.mem_of_find?_eq_some hfind)).2
    rintro rfl
    cases hhead

/-- Every path has a qualifier that can be written. -/
def AreNamed (qualifiers : List (String × String)) : Prop := ∀ entry ∈ qualifiers, entry.2 ≠ ""

lemma AreNamed.put {qualifiers : List (String × String)} (h : AreNamed qualifiers)
    (hname : name ≠ "") (path : String) : AreNamed (putQualifier path name qualifiers) := by
  intro entry hentry
  rcases mem_putQualifier.mp hentry with rfl | ⟨hentry, -⟩
  · exact hname
  · exact h entry hentry

lemma AreNamed.aliasPaths (h : AreNamed state.2) (hname : name ≠ "") (paths : List String) :
    AreNamed (aliasPaths name paths state).2 := by
  induction paths generalizing state with
  | nil => exact h
  | cons path rest ih => exact ih (h.put (pathAlias_ne_empty hname path state.1) path)

lemma AreNamed.assignName (h : AreNamed state.2) (hname : name ≠ "") :
    AreNamed (assignName modules state name).2 := by
  unfold Registry.assignName
  split
  · next path _ => exact h.put hname path
  · exact h.aliasPaths hname _

lemma AreNamed.foldl {names : List String} (hnames : ∀ name ∈ names, name ≠ "")
    (state : List String × List (String × String)) (h : AreNamed state.2) :
    AreNamed (names.foldl (Registry.assignName modules) state).2 := by
  induction names generalizing state with
  | nil => exact h
  | cons name rest ih =>
    rw [List.forall_mem_cons] at hnames
    exact ih hnames.2 _ (h.assignName hnames.1)

end

/-! ### The qualifiers of a request -/

section

variable {files : List FileDesc} {m : Module}

/-- The invariant of a request's qualifiers. -/
lemma assigned_ofFiles (files : List FileDesc) :
    ∃ taken, Assigned (ofFiles files).modules
      (sortedNames ((ofFiles files).modules.map (·.goName)))
      (taken, (ofFiles files).qualifiers) :=
  ⟨_, Assigned.start.foldl (List.Subset.refl _)⟩

/-- A registered module's qualifier is the one recorded for its path. -/
lemma mem_qualifiers (hm : m ∈ (ofFiles files).modules) :
    (m.goPath, (ofFiles files).qualifier m) ∈ (ofFiles files).qualifiers := by
  have hpath : m.goPath ∈ (ofFiles files).qualifiers.map (·.1) := by
    refine mem_assignedPaths_foldl.mpr (.inl ⟨m.goName, ?_, mem_pathsOf.mpr ⟨m, hm, rfl, rfl⟩⟩)
    exact mem_sortedNames.mpr (List.mem_map_of_mem hm)
  cases hlookup : (ofFiles files).qualifiers.lookup m.goPath with
  | none =>
    obtain ⟨entry, hentry, heq⟩ := List.mem_map.mp hpath
    have := List.lookup_eq_none_iff.mp hlookup entry hentry
    simp [heq] at this
  | some found =>
    obtain ⟨before, after, hsplit, -⟩ := List.lookup_eq_some_iff.mp hlookup
    rw [qualifier, hlookup, Option.getD_some, hsplit]
    simp

lemma qualifier_ne_empty (named : ∀ file ∈ files, (Module.ofFile file).goName ≠ "") {m : Module}
    (hm : m ∈ (ofFiles files).modules) : (ofFiles files).qualifier m ≠ "" := by
  have hnames : ∀ name ∈ sortedNames ((ofFiles files).modules.map (·.goName)), name ≠ "" := by
    intro name hname
    obtain ⟨n, hn, rfl⟩ := List.mem_map.mp (mem_sortedNames.mp hname)
    obtain ⟨file, hfile, rfl⟩ := exists_file hn
    exact named file hfile
  have hall : AreNamed (ofFiles files).qualifiers :=
    AreNamed.foldl hnames (_, []) (by simp [AreNamed])
  exact hall _ (mem_qualifiers hm)

/-- Where the files of a package agree, every file's module is registered. -/
lemma mem_modules_ofFile
    (hagree : ∀ f ∈ files, ∀ g ∈ files, f.package = g.package → Module.ofFile f = Module.ofFile g) :
    m ∈ (ofFiles files).modules ↔ ∃ file ∈ files, Module.ofFile file = m := by
  constructor
  · intro hm
    obtain ⟨file, hfile, rfl⟩ := exists_file hm
    exact ⟨file, hfile, rfl⟩
  · rintro ⟨file, hfile, rfl⟩
    obtain ⟨kept, hkept, hpackage, -⟩ := exists_registered hfile
    obtain ⟨other, hother, rfl⟩ := exists_file hkept
    rw [package_ofFile] at hpackage
    rwa [hagree file hfile other hother hpackage.symm]

/-- Where the files of a package agree on its import path and name, the registered modules are
those of the files; two with different import paths differ in qualifier, and neither one's
qualifier is the other's package name. -/
theorem qualifiers_unambiguous
    (hagree : ∀ f ∈ files, ∀ g ∈ files, f.package = g.package → Module.ofFile f = Module.ofFile g) :
    (∀ m, m ∈ (ofFiles files).modules ↔ ∃ file ∈ files, Module.ofFile file = m) ∧
      ∀ m ∈ (ofFiles files).modules, ∀ n ∈ (ofFiles files).modules, m.goPath ≠ n.goPath →
        (ofFiles files).qualifier m ≠ (ofFiles files).qualifier n ∧
          (ofFiles files).qualifier n ≠ m.goName := by
  refine ⟨fun m => mem_modules_ofFile hagree, fun m hm n hn hne => ?_⟩
  obtain ⟨taken, hassigned⟩ := assigned_ofFiles files
  constructor
  · intro heq
    have hentry := mem_qualifiers hm
    rw [heq] at hentry
    exact hne (hassigned.path_unique _ _ _ hentry (mem_qualifiers hn))
  · intro heq
    have hname : m.goName ∈ sortedNames ((ofFiles files).modules.map (·.goName)) :=
      mem_sortedNames.mpr (List.mem_map_of_mem hm)
    have hentry := mem_qualifiers hn
    rw [heq] at hentry
    have hown := hassigned.own _ _ hentry hname
    have hpath : m.goPath ∈ pathsOf (ofFiles files).modules m.goName :=
      mem_pathsOf.mpr ⟨m, hm, rfl, rfl⟩
    rw [hown, List.mem_singleton] at hpath
    exact hne hpath

/-- Four paths under one package name, one of them under a second name too, another one equal to
its package name; a package is called what the first choice of alias would be. -/
def crowdedFiles : List FileDesc :=
  [("acme.user", "x/acme/user;user"), ("beta.user", "x/beta/user"), ("beta.user", "x/beta/user"),
    ("beta.user.v2", "y/beta/user"), ("acme.login", "x/acme/user;login"), ("root", "user"),
    ("acme.both", "acmeuser")].map fun (package, option) => { package, goPackage := some option }

theorem crowdedFiles_unambiguous :
    (∀ f ∈ crowdedFiles, ∀ g ∈ crowdedFiles, f.package = g.package →
      Module.ofFile f = Module.ofFile g) ∧
    (∃ f ∈ crowdedFiles, ∃ g ∈ crowdedFiles, (Module.ofFile f).goPath ≠ (Module.ofFile g).goPath ∧
      (Module.ofFile f).goName = (Module.ofFile g).goName) ∧
    ∀ m ∈ (ofFiles crowdedFiles).modules, ∀ n ∈ (ofFiles crowdedFiles).modules,
      m.goPath ≠ n.goPath →
        (ofFiles crowdedFiles).qualifier m ≠ (ofFiles crowdedFiles).qualifier n ∧
          (ofFiles crowdedFiles).qualifier n ≠ m.goName := by
  have hagree : ∀ f ∈ crowdedFiles, ∀ g ∈ crowdedFiles, f.package = g.package →
      Module.ofFile f = Module.ofFile g := by decide +kernel
  exact ⟨hagree, by decide +kernel, (qualifiers_unambiguous hagree).2⟩

/-- Segments are added until an alias is free; a number is the last resort. -/
example : assignQualifiers [⟨"acme.user", "user", "x/acme/user"⟩, ⟨"beta.user", "user", "user"⟩,
      ⟨"acme.both", "acmeuser", "acmeuser"⟩] =
    [("x/acme/user", "xacmeuser"), ("user", "user2"), ("acmeuser", "acmeuser")] := by
  decide +kernel

end

end Registry

end Laminate.Schema
