import Laminate.Proofs.Declarations
import Mathlib.Data.List.Induction

/-! Where the registry finds a message that some file declares.
A full name is the package and the names of the path with a dot before each; the registry has to
guess where the package ends. -/
namespace Laminate.Schema

open Laminate.Text Laminate.Code Laminate.Descriptor

/-! ### Dotted names -/

/-- Names with a character before each. -/
def eachAfter (mark : Char) (names : List String) : List Char :=
  names.flatMap fun name => mark :: name.toList

@[simp] lemma eachAfter_nil (mark : Char) : eachAfter mark [] = [] := rfl

@[simp] lemma eachAfter_cons (mark : Char) (name : String) (rest : List String) :
    eachAfter mark (name :: rest) = mark :: (name.toList ++ eachAfter mark rest) := rfl

@[simp] lemma eachAfter_append (mark : Char) (names rest : List String) :
    eachAfter mark (names ++ rest) = eachAfter mark names ++ eachAfter mark rest := by
  simp [eachAfter]

lemma toList_qualify {scope : String} (hscope : scope ≠ "") (name : String) :
    (qualify scope name).toList = scope.toList ++ '.' :: name.toList := by
  simp [qualify, hscope]

lemma toList_foldl_qualify {package : String} (hpackage : package ≠ "") (names : List String) :
    (names.foldl qualify package).toList = package.toList ++ eachAfter '.' names := by
  induction names generalizing package with
  | nil => simp
  | cons name rest ih =>
    have hne : qualify package name ≠ "" := by
      intro h
      have := congrArg String.toList h
      simp [toList_qualify hpackage] at this
    rw [List.foldl_cons, ih hne, toList_qualify hpackage]
    simp

/-- Cut before a mark that stands in none of the names, a row of names is some first part of it. -/
lemma prefix_eachAfter {mark : Char} {names : List String} {cut : List Char}
    (hnames : ∀ name ∈ names, mark ∉ name.toList) (hne : cut ≠ [])
    (hcut : cut ++ [mark] <+: eachAfter mark names) :
    ∃ k, 0 < k ∧ k < names.length ∧ cut = eachAfter mark (names.take k) := by
  induction names generalizing cut with
  | nil => simp at hcut
  | cons name rest ih =>
    obtain ⟨c, cut, rfl⟩ := List.exists_cons_of_ne_nil hne
    simp only [List.cons_append, eachAfter_cons, List.cons_prefix_cons] at hcut
    obtain ⟨rfl, hcut⟩ := hcut
    obtain ⟨after, hafter⟩ := hcut
    rw [List.append_assoc] at hafter
    -- the name ends before the mark that follows the cut, since it does not hold the mark
    rcases List.append_eq_append_iff.mp hafter with ⟨middle, hname, hmiddle⟩ | ⟨middle, hcut, hrest⟩
    · cases middle with
      | nil =>
        simp only [List.append_nil] at hname
        simp only [List.singleton_append, List.nil_append] at hmiddle
        refine ⟨1, Nat.one_pos, ?_, by simp [hname]⟩
        cases rest with
        | nil => simp at hmiddle
        | cons next more => simp
      | cons d middle =>
        simp only [List.cons_append, List.cons.injEq] at hmiddle
        have hmem : c ∈ name.toList := by simp [hname, ← hmiddle.1]
        exact absurd hmem (hnames name List.mem_cons_self)
    · subst hcut
      cases hmiddle : middle with
      | nil =>
        subst hmiddle
        refine ⟨1, Nat.one_pos, ?_, by simp⟩
        cases rest with
        | nil => simp at hrest
        | cons next more => simp
      | cons d tail =>
        have hstart : middle ++ [c] <+: eachAfter c rest := ⟨after, by simp [hrest]⟩
        obtain ⟨k, hk, hlt, hmid⟩ := ih (fun n hn => hnames n (List.mem_cons_of_mem _ hn))
          (by simp [hmiddle]) hstart
        exact ⟨k + 1, Nat.succ_pos k, by simpa using hlt, by simp [← hmiddle, hmid]⟩

lemma splitAt_append {cut : Char → Bool} {mark : Char} (hmark : cut mark = true)
    (text rest : List Char) :
    splitAt cut (text ++ mark :: rest) = splitAt cut text ++ splitAt cut rest := by
  induction text with
  | nil =>
    simp only [List.nil_append, splitAt]
    split
    · next h => exact absurd h (splitAt_ne_nil cut rest)
    · next h => simp [hmark, h]
  | cons c text ih =>
    simp only [List.cons_append, splitAt, ih]
    cases h : splitAt cut text with
    | nil => exact absurd h (splitAt_ne_nil cut text)
    | cons piece pieces =>
      simp only [List.cons_append]
      split <;> simp

lemma splitAt_of_not_mem {cut : Char → Bool} {text : List Char}
    (h : ∀ c ∈ text, cut c = false) : splitAt cut text = [text] := by
  induction text with
  | nil => rfl
  | cons c text ih =>
    rw [splitAt, ih fun d hd => h d (List.mem_cons_of_mem _ hd)]
    simp [h c List.mem_cons_self]

/-- The pieces around the last mark are those before it and the part after it. -/
lemma pieces_eq_of_aroundLast? {mark : Char} {s before after : String}
    (h : aroundLast? mark s = some (before, after)) :
    pieces (· == mark) s = pieces (· == mark) before ++ [after] := by
  unfold aroundLast? at h
  obtain ⟨⟨front, back⟩, hcut, hpair⟩ := Option.map_eq_some_iff.mp h
  cases hpair
  obtain ⟨htext, hback⟩ := cutLast_eq_some hcut
  have hone : splitAt (· == mark) back = [back] :=
    splitAt_of_not_mem fun c hc => beq_eq_false_iff_ne.mpr (ne_of_mem_of_not_mem hc hback)
  unfold pieces
  rw [htext, splitAt_append (by simp), hone]
  simp

lemma pieces_eq_of_aroundLast?_none {mark : Char} {s : String} (h : aroundLast? mark s = none) :
    pieces (· == mark) s = [s] := by
  have hmark := cutLast_eq_none.mp (Option.map_eq_none_iff.mp h)
  unfold pieces
  rw [splitAt_of_not_mem fun c hc => beq_eq_false_iff_ne.mpr (ne_of_mem_of_not_mem hc hmark)]
  simp

lemma lastPiece_mem_pieces (mark : Char) (s : String) :
    lastPiece mark s ∈ pieces (· == mark) s := by
  unfold lastPiece
  split
  · next before after h => simp [pieces_eq_of_aroundLast? h]
  · next h => simp [pieces_eq_of_aroundLast?_none h]

/-- The pieces of a dotted name are those of its front and the names after it. -/
lemma splitAt_eachAfter {cut : Char → Bool} {mark : Char} (hmark : cut mark = true)
    {names : List String} (hnames : ∀ name ∈ names, ∀ c ∈ name.toList, cut c = false)
    (front : List Char) :
    splitAt cut (front ++ eachAfter mark names) =
      splitAt cut front ++ names.map String.toList := by
  induction names generalizing front with
  | nil => simp
  | cons name rest ih =>
    rw [eachAfter_cons, splitAt_append hmark,
      ih fun n hn => hnames n (List.mem_cons_of_mem _ hn),
      splitAt_of_not_mem (hnames name List.mem_cons_self)]
    simp

lemma map_eachAfter {old : Char → Bool} {mark new : Char} (hmark : old mark = true)
    {names : List String} (hnames : ∀ name ∈ names, ∀ c ∈ name.toList, old c = false) :
    (eachAfter mark names).map (fun c => if old c then new else c) = eachAfter new names := by
  induction names with
  | nil => rfl
  | cons name rest ih =>
    have hname : name.toList.map (fun c => if old c then new else c) = name.toList := by
      refine (List.map_congr_left fun c hc => ?_).trans (List.map_id _)
      simp [hnames name List.mem_cons_self c hc]
    rw [eachAfter_cons, eachAfter_cons, List.map_cons, List.map_append, hname,
      ih fun n hn => hnames n (List.mem_cons_of_mem _ hn), if_pos hmark]

end Laminate.Schema

namespace Laminate.Descriptor

open Laminate.Text Laminate.Schema Laminate.Code

namespace Declaration

/-- What lets a full name be read back: identifiers throughout, a package, and no other package
that goes on with names of the path. -/
structure IsAddressable (files : List FileDesc) (d : Declaration) : Prop where
  packaged : d.package ≠ ""
  segments : ∀ segment ∈ splitAt (· == '.') d.package.toList, segment ≠ []
  names : ∀ name ∈ d.path ++ [d.desc.name], name ≠ "" ∧ '.' ∉ name.toList
  unshadowed : ∀ file ∈ files, ∀ k, 0 < k → k ≤ d.path.length →
    file.package ≠ (d.path.take k).foldl qualify d.package

variable {d : Declaration} {files : List FileDesc}

lemma toList_wireName (d : Declaration) :
    '_' :: d.wireName.toList = eachAfter '_' (d.path ++ [d.desc.name]) := by
  have hstem : '_' :: d.stem.toList = eachAfter '_' d.path ++ ['_'] := by
    unfold stem
    induction d.path using List.reverseRecOn with
    | nil => rfl
    | append_singleton path name ih =>
      rw [List.foldl_append]
      simp only [List.foldl_cons, List.foldl_nil, String.toList_append]
      rw [← List.cons_append, ← List.cons_append, ih]
      simp
  rw [wireName, String.toList_append, ← List.cons_append, hstem]
  simp

lemma toList_fullName (hpackage : d.package ≠ "") :
    d.fullName.toList = d.package.toList ++ eachAfter '.' (d.path ++ [d.desc.name]) := by
  have hfull : d.fullName = (d.path ++ [d.desc.name]).foldl qualify d.package := by
    simp [fullName, outer]
  rw [hfull, toList_foldl_qualify hpackage]

namespace IsAddressable

lemma notMem_dot (h : d.IsAddressable files) :
    ∀ name ∈ d.path ++ [d.desc.name], ∀ c ∈ name.toList, (c == '.') = false := by
  intro name hname c hc
  rw [beq_eq_false_iff_ne]
  rintro rfl
  exact (h.names name hname).2 hc

/-- The pieces of a full name are the pieces of its package, then the path. -/
lemma pieces_fullName (h : d.IsAddressable files) :
    pieces (· == '.') d.fullName =
      pieces (· == '.') d.package ++ (d.path ++ [d.desc.name]) := by
  unfold pieces
  rw [toList_fullName h.packaged, splitAt_eachAfter (by rfl) h.notMem_dot, List.map_append]
  simp

lemma dropLeading_typeName (h : d.IsAddressable files) :
    dropLeading '.' d.typeName = d.fullName := by
  have hfront : d.fullName.toList.head? ≠ some '.' := by
    rw [toList_fullName h.packaged]
    have hseg := h.segments
    cases hp : d.package.toList with
    | nil => exact absurd (String.toList_eq_nil_iff.mp hp) h.packaged
    | cons c rest =>
      simp only [List.cons_append, List.head?_cons, ne_eq, Option.some.injEq]
      rintro rfl
      refine hseg [] ?_ rfl
      rw [hp, splitAt]
      split <;> simp
  unfold dropLeading typeName
  rw [String.toList_append, ← String.toList_inj, String.toList_ofList]
  show List.dropWhile _ ('.' :: d.fullName.toList) = _
  rw [List.dropWhile_cons_of_pos (by rfl)]
  cases hc : d.fullName.toList with
  | nil => rfl
  | cons c rest =>
    rw [hc] at hfront
    have hne : c ≠ '.' := by simpa using hfront
    rw [List.dropWhile_cons_of_neg (by simpa using hne)]

/-- With underscores for dots, what follows the package is the wire name. -/
lemma flattened_rest (h : d.IsAddressable files) {rest : String}
    (hrest : d.package.toList ++ '.' :: rest.toList = d.fullName.toList) :
    flattened rest = d.wireName := by
  rw [toList_fullName h.packaged, List.append_cancel_left_eq] at hrest
  have hmap := congrArg (List.map fun c => if c == '.' then '_' else c) hrest
  rw [map_eachAfter (by rfl) h.notMem_dot, ← toList_wireName, List.map_cons, List.cons.injEq]
    at hmap
  unfold flattened replaceAll
  rw [hmap.2, String.ofList_toList]

/-- A package that a full name starts with is the declaring one, or a shorter one. -/
lemma package_of_start (h : d.IsAddressable files) {file : FileDesc} (hfile : file ∈ files)
    (hstart : file.package.toList ++ ['.'] <+: d.fullName.toList) :
    file.package = d.package ∨ octets file.package < octets d.package := by
  have hfull := toList_fullName (d := d) h.packaged
  have hfile' : file.package.toList <+: d.fullName.toList :=
    (List.prefix_append _ _).trans hstart
  have hpackage : d.package.toList <+: d.fullName.toList := hfull ▸ List.prefix_append _ _
  rcases List.prefix_or_prefix_of_prefix hfile' hpackage with hshort | hlong
  · obtain ⟨rest, hrest⟩ := hshort
    have heq : d.package = file.package ++ String.ofList rest := by
      rw [← String.toList_inj, String.toList_append, String.toList_ofList, hrest]
    cases rest with
    | nil => exact .inl (by simpa using heq.symm)
    | cons c rest =>
      right
      have hpos : 0 < (String.ofList (c :: rest)).utf8ByteSize := by
        rw [Nat.pos_iff_ne_zero, Ne, String.utf8ByteSize_eq_zero_iff]
        simp
      rw [heq, octets, octets, String.utf8ByteSize_append]
      omega
  · obtain ⟨cut, hcut⟩ := hlong
    by_cases hne : cut = []
    · left
      rw [← String.toList_inj, ← hcut, hne, List.append_nil]
    · exfalso
      rw [← hcut, hfull, List.append_assoc, List.prefix_append_right_inj] at hstart
      obtain ⟨k, hk, hlt, htake⟩ :=
        prefix_eachAfter (fun name hname => (h.names name hname).2) hne hstart
      have hle : k ≤ d.path.length := by
        rw [List.length_append, List.length_singleton] at hlt
        omega
      rw [List.take_append_of_le_length hle] at htake
      refine h.unshadowed file hfile k hk hle ?_
      rw [← String.toList_inj, toList_foldl_qualify h.packaged, ← hcut, htake]

end IsAddressable

end Declaration

end Laminate.Descriptor

/-! ### Modules of a request -/

namespace Laminate.Schema

open Laminate.Text Laminate.Code Laminate.Descriptor

lemma package_ofFile (file : FileDesc) : (Module.ofFile file).package = file.package := by
  unfold Module.ofFile
  split
  · split <;> rfl
  · rfl

namespace Registry

lemma mem_distinct {known modules : List Module} {m : Module} (h : m ∈ distinct known modules) :
    m ∈ known ∨ m ∈ modules := by
  induction modules generalizing known with
  | nil => exact .inl h
  | cons first rest ih =>
    rw [distinct] at h
    split at h
    · rcases ih h with h | h
      · exact .inl h
      · exact .inr (List.mem_cons_of_mem _ h)
    · rcases ih h with h | h
      · rcases List.mem_append.mp h with h | h
        · exact .inl h
        · exact .inr (by simp_all)
      · exact .inr (List.mem_cons_of_mem _ h)

lemma mem_of_mem_known {known modules : List Module} {m : Module} (h : m ∈ known) :
    m ∈ distinct known modules := by
  induction modules generalizing known with
  | nil => exact h
  | cons first rest ih =>
    rw [distinct]
    split
    · exact ih h
    · exact ih (List.mem_append_left _ h)

/-- Every package keeps a module. -/
lemma exists_mem_distinct (known : List Module) {modules : List Module} {m : Module}
    (h : m ∈ modules) :
    ∃ kept ∈ distinct known modules, kept.package = m.package := by
  induction modules generalizing known with
  | nil => cases h
  | cons first rest ih =>
    rw [distinct]
    rcases List.mem_cons.mp h with rfl | h
    · split
      · next hany =>
        obtain ⟨kept, hkept, heq⟩ := List.any_eq_true.mp hany
        exact ⟨kept, mem_of_mem_known hkept, by simpa using heq⟩
      · exact ⟨m, mem_of_mem_known (by simp), rfl⟩
    · split
      · exact ih _ h
      · exact ih _ h

/-- No package keeps two modules. -/
lemma nodup_distinct {known modules : List Module} (h : (known.map (·.package)).Nodup) :
    ((distinct known modules).map (·.package)).Nodup := by
  induction modules generalizing known with
  | nil => exact h
  | cons first rest ih =>
    rw [distinct]
    split
    · exact ih h
    · next hany =>
      refine ih ?_
      rw [List.map_append, List.nodup_append]
      refine ⟨h, by simp, ?_⟩
      intro a ha b hb
      simp only [List.map_cons, List.map_nil, List.mem_singleton] at hb
      subst hb
      rintro rfl
      obtain ⟨kept, hkept, heq⟩ := List.mem_map.mp ha
      exact hany (List.any_eq_true.mpr ⟨kept, hkept, by simpa using heq⟩)

lemma precedes_trans (a b c : Module) (hab : precedes a b = true) (hbc : precedes b c = true) :
    precedes a c = true := by
  simp only [precedes, Bool.or_eq_true, Bool.and_eq_true, decide_eq_true_eq, beq_iff_eq] at *
  rcases hab with hab | ⟨hab, hab'⟩
  · rcases hbc with hbc | ⟨hbc, -⟩
    · exact .inl (Nat.lt_trans hbc hab)
    · exact .inl (hbc ▸ hab)
  · rcases hbc with hbc | ⟨hbc, hbc'⟩
    · exact .inl (hab ▸ hbc)
    · exact .inr ⟨hab.trans hbc, String.le_trans hab' hbc'⟩

lemma precedes_total (a b : Module) : (precedes a b || precedes b a) = true := by
  simp only [precedes, Bool.or_eq_true, Bool.and_eq_true, decide_eq_true_eq, beq_iff_eq]
  rcases Nat.lt_trichotomy (octets a.package) (octets b.package) with h | h | h
  · exact .inr (.inl h)
  · rcases String.le_total a.package b.package with hle | hle
    · exact .inl (.inr ⟨h, hle⟩)
    · exact .inr (.inr ⟨h.symm, hle⟩)
  · exact .inl (.inl h)

/-- A module before another one has a package that is no shorter. -/
lemma octets_le_of_precedes {a b : Module} (h : precedes a b = true) :
    octets b.package ≤ octets a.package := by
  simp only [precedes, Bool.or_eq_true, Bool.and_eq_true, decide_eq_true_eq, beq_iff_eq] at h
  omega

section

variable {files : List FileDesc}

lemma mem_modules {m : Module} :
    m ∈ (ofFiles files).modules ↔ m ∈ distinct [] (files.map Module.ofFile) :=
  (List.mergeSort_perm _ _).mem_iff

/-- A registered module comes from some file. -/
lemma exists_file {m : Module} (h : m ∈ (ofFiles files).modules) :
    ∃ file ∈ files, m = Module.ofFile file := by
  rcases mem_distinct (mem_modules.mp h) with h | h
  · cases h
  · obtain ⟨file, hfile, rfl⟩ := List.mem_map.mp h
    exact ⟨file, hfile, rfl⟩

lemma eq_of_package_eq {a b : Module} (ha : a ∈ (ofFiles files).modules)
    (hb : b ∈ (ofFiles files).modules) (h : a.package = b.package) : a = b :=
  List.inj_on_of_nodup_map (nodup_distinct (by simp)) (mem_modules.mp ha) (mem_modules.mp hb) h

lemma pairwise_modules (files : List FileDesc) :
    (ofFiles files).modules.Pairwise fun a b => precedes a b = true :=
  List.pairwise_mergeSort precedes_trans precedes_total _

/-- The package of every file has one registered module. -/
theorem exists_registered {file : FileDesc} (h : file ∈ files) :
    ∃ m ∈ (ofFiles files).modules, m.package = file.package ∧
      (ofFiles files).find? file.package = some m := by
  obtain ⟨m, hm, hpackage⟩ :=
    exists_mem_distinct [] (List.mem_map_of_mem (f := Module.ofFile) h)
  rw [package_ofFile] at hpackage
  have hm := mem_modules.mpr hm
  refine ⟨m, hm, hpackage, ?_⟩
  unfold find?
  cases hfind : (ofFiles files).modules.find? (·.package == file.package) with
  | none =>
    have := List.find?_eq_none.mp hfind m hm
    simp [hpackage] at this
  | some other =>
    have hother : other.package = file.package := by simpa using List.find?_some hfind
    rw [eq_of_package_eq (List.mem_of_find?_eq_some hfind) hm (hother.trans hpackage.symm)]

/-- What a module says to a name: the rest of it after the module's package. -/
lemma dropHead?_eq_some {head s rest : String} :
    dropHead? head s = some rest ↔ head.toList ++ rest.toList = s.toList := by
  unfold dropHead?
  simp only [Option.map_eq_some_iff, List.isPrefixOf?_eq_some_iff_append_eq]
  constructor
  · rintro ⟨chars, hchars, rfl⟩
    rwa [String.toList_ofList]
  · intro h
    exact ⟨rest.toList, h, String.ofList_toList⟩

/-- The longest package that a full name starts with is the declaring one. -/
theorem owner?_fullName {d : Declaration} (h : d.IsAddressable files) {m : Module}
    (hm : m ∈ (ofFiles files).modules) (hpackage : m.package = d.package) :
    ∃ rest, (ofFiles files).owner? d.fullName = some (m, rest) ∧
      d.package.toList ++ '.' :: rest.toList = d.fullName.toList := by
  have hfull := Declaration.toList_fullName (d := d) h.packaged
  obtain ⟨first, tail, hnames⟩ : ∃ first tail, d.path ++ [d.desc.name] = first :: tail :=
    List.exists_cons_of_ne_nil (by simp)
  rw [hnames, eachAfter_cons] at hfull
  -- the declaring module recognizes the name, so some module does
  have hself : dropHead? (m.package ++ ".") d.fullName =
      some (String.ofList (first.toList ++ eachAfter '.' tail)) := by
    rw [dropHead?_eq_some, hfull, hpackage]
    simp
  have hnonempty : m.package.isEmpty = false := by
    rw [hpackage]
    simpa using h.packaged
  unfold owner?
  cases howner : (ofFiles files).modules.findSome? fun m =>
      if m.package.isEmpty then none else (dropHead? (m.package ++ ".") d.fullName).map (m, ·) with
  | none =>
    have := List.findSome?_eq_none_iff.mp howner m hm
    simp [hnonempty, hself] at this
  | some found =>
    obtain ⟨before, other, after, hsplit, hother, hbefore⟩ := List.findSome?_eq_some_iff.mp howner
    have hmem : other ∈ (ofFiles files).modules := by rw [hsplit]; simp
    split at hother
    · cases hother
    · obtain ⟨rest, hrest, rfl⟩ := Option.map_eq_some_iff.mp hother
      have hchars := dropHead?_eq_some.mp hrest
      have heq : other = m := by
        rw [hsplit] at hm
        rcases List.mem_append.mp hm with hm | hm
        · have := hbefore m hm
          simp [hnonempty, hself] at this
        · rcases List.mem_cons.mp hm with rfl | hafter
          · rfl
          · obtain ⟨file, hfile, rfl⟩ := exists_file hmem
            have hordered := pairwise_modules files
            rw [hsplit, List.pairwise_append, List.pairwise_cons] at hordered
            have hle := octets_le_of_precedes (hordered.2.1.1 m hafter)
            rw [package_ofFile, hpackage] at hle
            have hstart : file.package.toList ++ ['.'] <+: d.fullName.toList := by
              rw [← hchars, package_ofFile, String.toList_append]
              exact List.prefix_append _ _
            rcases h.package_of_start hfile hstart with heq | hlt
            · refine eq_of_package_eq hmem (by rw [hsplit]; simp [hafter]) ?_
              rw [package_ofFile, hpackage, heq]
            · omega
      subst heq
      refine ⟨rest, rfl, ?_⟩
      rw [← hchars, hpackage]
      simp

/-- A message is found where it is declared: in the registered module of its package, under its
wire name. -/
theorem place_typeName {d : Declaration} (h : d.IsAddressable files) {m : Module}
    (hm : m ∈ (ofFiles files).modules) (hpackage : m.package = d.package) (current : Module) :
    (ofFiles files).place current d.typeName =
      { module := d.package
        localName := d.wireName
        isLocal := d.package == current.package || m.goPath == current.goPath
        goName := (ofFiles files).qualifier m } := by
  obtain ⟨rest, howner, hrest⟩ := owner?_fullName h hm hpackage
  have hlength : (pieces (· == '.') d.package).length ≠ 0 := by
    simp [pieces, splitAt_ne_nil]
  have hshape : ((pieces (· == '.') d.fullName).length < 2 ||
      (pieces (· == '.') d.fullName).any (·.isEmpty)) = false := by
    rw [h.pieces_fullName, Bool.or_eq_false_iff]
    refine ⟨?_, ?_⟩
    · simp only [List.length_append, List.length_singleton, decide_eq_false_iff_not]
      omega
    · rw [List.any_eq_false]
      intro piece hpiece
      rw [String.isEmpty_iff]
      rcases List.mem_append.mp hpiece with hpiece | hpiece
      · obtain ⟨chars, hchars, rfl⟩ := List.mem_map.mp hpiece
        have := h.segments chars hchars
        simpa using this
      · exact (h.names piece hpiece).1
  unfold place
  simp only [h.dropLeading_typeName, hshape, howner, h.flattened_rest hrest, hpackage,
    Bool.false_eq_true, if_false]

end

/-! ### Names in no module -/

/-- A full name in no module: of fewer than two segments, or with an empty one. -/
def isUnplaced (typeName : String) : Bool :=
  let parts := pieces (· == '.') (dropLeading '.' typeName)
  parts.length < 2 || parts.any (·.isEmpty)

lemma place_of_isUnplaced {registry : Registry} {current : Module} {typeName : String}
    (h : isUnplaced typeName = true) :
    registry.place current typeName = { localName := flattened (dropLeading '.' typeName) } := by
  unfold isUnplaced at h
  unfold place
  exact if_pos h

lemma mem_of_owner? {registry : Registry} {name rest : String} {m : Module}
    (h : registry.owner? name = some (m, rest)) : m ∈ registry.modules := by
  obtain ⟨n, hn, hrest⟩ := List.exists_of_findSome?_eq_some h
  split at hrest
  · cases hrest
  · obtain ⟨inner, -, heq⟩ := Option.map_eq_some_iff.mp hrest
    cases heq
    exact hn

/-- A qualifier is that of a registered module, or else read off the name. -/
lemma goName_place (registry : Registry) (current : Module) {typeName : String}
    (h : isUnplaced typeName = false) :
    (∃ m ∈ registry.modules, (registry.place current typeName).goName = registry.qualifier m) ∨
      (registry.place current typeName).goName =
        lastPiece '.' ((aroundLast? '.' (dropLeading '.' typeName)).getD
          ("", dropLeading '.' typeName)).1 := by
  have hshape : ((pieces (· == '.') (dropLeading '.' typeName)).length < 2 ||
      (pieces (· == '.') (dropLeading '.' typeName)).any (·.isEmpty)) = false := h
  unfold place
  cases howner : registry.owner? (dropLeading '.' typeName) with
  | some owner =>
    refine .inl ⟨owner.1, mem_of_owner? howner, ?_⟩
    simp only [hshape, howner, Bool.false_eq_true, if_false]
  | none =>
    refine .inr ?_
    simp only [hshape, howner, Bool.false_eq_true, if_false]

/-- What stands before the last dot of a name with segments ends in one of them. -/
lemma lastPiece_ne_empty {typeName : String} (h : isUnplaced typeName = false) :
    lastPiece '.' ((aroundLast? '.' (dropLeading '.' typeName)).getD
      ("", dropLeading '.' typeName)).1 ≠ "" := by
  unfold isUnplaced at h
  rw [Bool.or_eq_false_iff, decide_eq_false_iff_not] at h
  obtain ⟨hlength, hsegments⟩ := h
  rw [List.any_eq_false] at hsegments
  cases haround : aroundLast? '.' (dropLeading '.' typeName) with
  | none =>
    rw [pieces_eq_of_aroundLast?_none haround] at hlength
    exact absurd (by simp) hlength
  | some parts =>
    obtain ⟨before, after⟩ := parts
    intro hempty
    have hmem : lastPiece '.' before ∈ pieces (· == '.') (dropLeading '.' typeName) := by
      rw [pieces_eq_of_aroundLast? haround]
      exact List.mem_append_left _ (lastPiece_mem_pieces '.' before)
    refine hsegments _ hmem ?_
    rw [Option.getD_some] at hempty
    rw [hempty]
    rfl

end Registry

end Laminate.Schema
