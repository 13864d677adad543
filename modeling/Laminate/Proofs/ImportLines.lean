import Laminate.Form.Plan
import Mathlib.Data.List.Nodup

/-! The lines that a collection of imports leaves.
Every import is kept under the name that its line binds, so a name has one line at the most. A line
is left out where a smaller name has its path. -/
namespace Laminate.Text

variable {β : Type} {entries : List (String × β)}

/-- An increasing list stays increasing, and keeps what it has under other keys. -/
lemma putKeyed_spec (key : String) (value : β) (h : entries.Pairwise fun a b => a.1 < b.1) :
    ((putKeyed key value entries).Pairwise fun a b => a.1 < b.1) ∧
      ∀ k v, (k, v) ∈ putKeyed key value entries ↔
        (k = key ∧ v = value) ∨ (k ≠ key ∧ (k, v) ∈ entries) := by
  induction entries with
  | nil =>
    refine ⟨List.pairwise_singleton _ _, fun k v => ?_⟩
    simp [putKeyed]
  | cons first rest ih =>
    obtain ⟨hfirst, hrest⟩ := List.pairwise_cons.mp h
    obtain ⟨hpairwise, hmem⟩ := ih hrest
    unfold putKeyed
    split
    · next hlt =>
      have hbelow : ∀ entry ∈ first :: rest, key < entry.1 := by
        intro entry hentry
        rcases List.mem_cons.mp hentry with rfl | hentry
        · exact hlt
        · exact String.lt_trans hlt (hfirst entry hentry)
      refine ⟨List.pairwise_cons.mpr ⟨hbelow, h⟩, fun k v => ?_⟩
      rw [List.mem_cons, Prod.mk.injEq]
      refine or_congr_right ⟨fun hentry => ⟨?_, hentry⟩, And.right⟩
      rintro rfl
      exact String.lt_irrefl _ (hbelow _ hentry)
    · next hnlt =>
      split
      · next heq =>
        subst heq
        refine ⟨List.pairwise_cons.mpr ⟨hfirst, hrest⟩, fun k v => ?_⟩
        rw [List.mem_cons, Prod.mk.injEq, List.mem_cons]
        refine or_congr_right ⟨fun hentry => ⟨?_, .inr hentry⟩, ?_⟩
        · rintro rfl
          exact String.lt_irrefl _ (hfirst (_, v) hentry)
        · rintro ⟨hne, rfl | hentry⟩
          · exact absurd rfl hne
          · exact hentry
      · next hne =>
        refine ⟨List.pairwise_cons.mpr ⟨?_, hpairwise⟩, fun k v => ?_⟩
        · rintro ⟨k, v⟩ hentry
          rcases (hmem k v).mp hentry with ⟨rfl, -⟩ | ⟨-, hentry⟩
          · exact String.not_le.mp fun hle => hne (String.le_antisymm hle (String.not_lt.mp hnlt))
          · exact hfirst _ hentry
        · rw [List.mem_cons, hmem, List.mem_cons]
          constructor
          · rintro (rfl | h | ⟨hk, hentry⟩)
            · exact .inr ⟨Ne.symm hne, .inl rfl⟩
            · exact .inl h
            · exact .inr ⟨hk, .inr hentry⟩
          · rintro (h | ⟨hk, rfl | hentry⟩)
            · exact .inr (.inl h)
            · exact .inl rfl
            · exact .inr (.inr ⟨hk, hentry⟩)

end Laminate.Text

namespace Laminate.Code

open Laminate.Text

/-- The identifier that a line binds: its alias, or else what its path says. -/
def Import.bound (i : Import) : String := i.localName.getD (pathName i.path)

lemma Import.bound_asQualifier (qualifier path : String) :
    (asQualifier qualifier path).bound = qualifier := by
  unfold asQualifier bound
  split
  · assumption
  · rfl

/-- One line, and one line only, binds a name, and it imports a path. -/
def Declares (lines : List Import) (name path : String) : Prop :=
  (lines.filter (·.bound == name)).map (·.path) = [path]

lemma declares_iff {lines : List Import} (h : (lines.map Import.bound).Nodup) {name path : String} :
    Declares lines name path ↔ ∃ i ∈ lines, i.bound = name ∧ i.path = path := by
  unfold Declares
  constructor
  · intro heq
    have hmem : path ∈ (lines.filter (·.bound == name)).map (·.path) := by simp [heq]
    obtain ⟨i, hi, hpath⟩ := List.mem_map.mp hmem
    obtain ⟨hi, hbound⟩ := List.mem_filter.mp hi
    exact ⟨i, hi, by simpa using hbound, hpath⟩
  · rintro ⟨i, hi, rfl, rfl⟩
    obtain ⟨before, after, rfl⟩ := List.append_of_mem hi
    rw [List.map_append, List.map_cons, List.nodup_middle, List.nodup_cons] at h
    have hother : ∀ other ∈ before ++ after, (other.bound == i.bound) = false := by
      intro other hother
      rw [beq_eq_false_iff_ne]
      intro heq
      exact h.1 (by rw [← List.map_append, ← heq]; exact List.mem_map_of_mem hother)
    have hbefore : before.filter (·.bound == i.bound) = [] :=
      List.filter_eq_nil_iff.mpr fun other h => by simp [hother other (List.mem_append_left _ h)]
    have hafter : after.filter (·.bound == i.bound) = [] :=
      List.filter_eq_nil_iff.mpr fun other h => by simp [hother other (List.mem_append_right _ h)]
    simp [List.filter_append, hbefore, hafter]

namespace ImportSet

lemma distinctPaths_sublist (imports : List Import) (seen : List String) :
    (distinctPaths imports seen).Sublist imports := by
  induction imports generalizing seen with
  | nil => exact .slnil
  | cons i rest ih =>
    unfold distinctPaths
    split
    · exact (ih _).cons _
    · exact (ih _).cons_cons _

/-- Of the imports of a path, the one under the smallest name is kept. -/
lemma mem_distinctPaths {entries : List (String × Import)}
    (h : entries.Pairwise fun a b => a.1 < b.1) (seen : List String) (i : Import) :
    i ∈ distinctPaths (entries.map (·.2)) seen ↔
      ∃ key, (key, i) ∈ entries ∧ i.path ∉ seen ∧
        ∀ key' i', (key', i') ∈ entries → i'.path = i.path → key ≤ key' := by
  induction entries generalizing seen with
  | nil => simp [distinctPaths]
  | cons first rest ih =>
    obtain ⟨hfirst, hrest⟩ := List.pairwise_cons.mp h
    rw [List.map_cons, distinctPaths]
    split
    · next hseen =>
      rw [ih hrest]
      constructor
      · rintro ⟨key, hmem, hpath, hleast⟩
        refine ⟨key, List.mem_cons_of_mem _ hmem, hpath, ?_⟩
        rintro key' i' hmem' heq
        rcases List.mem_cons.mp hmem' with rfl | hmem'
        · exact absurd (heq ▸ hseen) hpath
        · exact hleast key' i' hmem' heq
      · rintro ⟨key, hmem, hpath, hleast⟩
        refine ⟨key, ?_, hpath, fun key' i' hmem' => hleast key' i' (List.mem_cons_of_mem _ hmem')⟩
        rcases List.mem_cons.mp hmem with rfl | hmem
        · exact absurd hseen hpath
        · exact hmem
    · next hseen =>
      rw [List.mem_cons, ih hrest]
      constructor
      · rintro (rfl | ⟨key, hmem, hpath, hleast⟩)
        · refine ⟨first.1, List.mem_cons_self, hseen, ?_⟩
          rintro key' i' hmem' -
          rcases List.mem_cons.mp hmem' with rfl | hmem'
          · exact String.le_refl _
          · exact String.not_lt.mp (String.lt_asymm (hfirst _ hmem'))
        · rw [List.mem_cons, not_or] at hpath
          refine ⟨key, List.mem_cons_of_mem _ hmem, hpath.2, ?_⟩
          rintro key' i' hmem' heq
          rcases List.mem_cons.mp hmem' with rfl | hmem'
          · exact absurd heq.symm hpath.1
          · exact hleast key' i' hmem' heq
      · rintro ⟨key, hmem, hpath, hleast⟩
        rcases List.mem_cons.mp hmem with rfl | hmem
        · exact .inl rfl
        · refine .inr ⟨key, hmem, ?_, fun key' i' hmem' =>
            hleast key' i' (List.mem_cons_of_mem _ hmem')⟩
          rw [List.mem_cons, not_or]
          refine ⟨fun heq => ?_, hpath⟩
          have hle := hleast first.1 first.2 List.mem_cons_self heq.symm
          exact hle (hfirst _ hmem)

end ImportSet

end Laminate.Code

namespace Laminate.Code.Qualifiers

open Laminate.Text

variable {qualifiers : Qualifiers} {names : List String} {set set' : ImportSet}

/-- The path of the package that a name stands for. -/
def pathOf? (qualifiers : Qualifiers) (name : String) : Option String :=
  (qualifiers.known.lookup name).map (·.path)

/-- Imports are known under the names that their lines bind. -/
def BindsNames (qualifiers : Qualifiers) : Prop :=
  ∀ entry ∈ qualifiers.known, entry.2.bound = entry.1

/-- What some names leave in a set: each but the ignored ones, with what it stands for. An ignored
name need not stand for anything. -/
structure Collected (qualifiers : Qualifiers) (names : List String) (set : ImportSet) : Prop where
  increasing : set.entries.Pairwise fun a b => a.1 < b.1
  mem_entries (name : String) (i : Import) :
    (name, i) ∈ set.entries ↔
      name ∈ names ∧ name ∉ qualifiers.ignored ∧ qualifiers.known.lookup name = some i
  known (name : String) (h : name ∈ names) (hnot : name ∉ qualifiers.ignored) :
    ∃ i, qualifiers.known.lookup name = some i

lemma Collected.empty (qualifiers : Qualifiers) : Collected qualifiers [] {} :=
  ⟨.nil, by simp, by simp⟩

/-- One more name looked up. -/
lemma Collected.require (collected : Collected qualifiers names set) {name : String}
    (h : qualifiers.require name set = .ok set') : Collected qualifiers (names ++ [name]) set' := by
  unfold Qualifiers.require at h
  split at h
  · next hignored =>
    cases h
    have hignored := List.contains_iff_mem.mp hignored
    refine ⟨collected.increasing, fun other i => ?_, fun other hmem hnot => ?_⟩
    · rw [collected.mem_entries, List.mem_append, List.mem_singleton]
      constructor
      · rintro ⟨hmem, hrest⟩
        exact ⟨.inl hmem, hrest⟩
      · rintro ⟨hmem | rfl, hnot, hlookup⟩
        · exact ⟨hmem, hnot, hlookup⟩
        · exact absurd hignored hnot
    · rcases List.mem_append.mp hmem with hmem | hmem
      · exact collected.known other hmem hnot
      · exact absurd (List.mem_singleton.mp hmem ▸ hignored) hnot
  · next hignored =>
    have hnot : name ∉ qualifiers.ignored := fun hmem => hignored (List.contains_iff_mem.mpr hmem)
    split at h
    · next i hlookup =>
      cases h
      obtain ⟨hincreasing, hmem⟩ := putKeyed_spec name i collected.increasing
      refine ⟨hincreasing, fun other j => ?_, fun other hmem hnot => ?_⟩
      · rw [ImportSet.insert, hmem, collected.mem_entries, List.mem_append, List.mem_singleton]
        constructor
        · rintro (⟨rfl, rfl⟩ | ⟨-, hmem, hrest⟩)
          · exact ⟨.inr rfl, hnot, hlookup⟩
          · exact ⟨.inl hmem, hrest⟩
        · rintro ⟨hmem, hother, hj⟩
          by_cases heq : other = name
          · subst heq
            rw [hlookup] at hj
            exact .inl ⟨rfl, (Option.some.inj hj).symm⟩
          · exact .inr ⟨heq, hmem.resolve_right heq, hother, hj⟩
      · rcases List.mem_append.mp hmem with hmem | hmem
        · exact collected.known other hmem hnot
        · exact ⟨i, List.mem_singleton.mp hmem ▸ hlookup⟩
    · cases h

/-- Several more names looked up. -/
lemma Collected.requireAll (collected : Collected qualifiers names set) {more : List String}
    (h : qualifiers.requireAll more set = (set', none)) :
    Collected qualifiers (names ++ more) set' := by
  induction more generalizing names set with
  | nil =>
    cases h
    simpa using collected
  | cons name rest ih =>
    unfold Qualifiers.requireAll at h
    split at h
    · next middle hmiddle => simpa using ih (collected.require hmiddle) h
    · cases h

end Laminate.Code.Qualifiers

namespace Laminate.Form.Plan

open Laminate.Code

/-- The names that a mention looks up. -/
def Mention.names : Mention → List String
  | type text => (typeQualifiers text.toList).1
  | expr text => exprQualifiers text
  | package name => [name]

variable {qualifiers : Qualifiers} {names : List String} {set set' : ImportSet}

lemma collected_of_mention (collected : qualifiers.Collected names set) {mention : Mention}
    (h : mention.collect qualifiers set = (set', none)) :
    qualifiers.Collected (names ++ mention.names) set' := by
  cases mention with
  | type text =>
    simp only [Mention.collect, Qualifiers.scanType] at h
    split at h
    · cases h
    · next middle hmiddle =>
      obtain ⟨rfl, -⟩ := Prod.mk.inj h
      exact collected.requireAll hmiddle
  | expr text => exact collected.requireAll h
  | package name => exact collected.requireAll h

/-- The names of all mentions are looked up, one mention after the other. -/
theorem collected_of_mentions {mentions : List Mention}
    (h : collectAll qualifiers mentions {} = .ok set') :
    qualifiers.Collected (mentions.flatMap Mention.names) set' := by
  have hrun : ∀ {mentions names set}, qualifiers.Collected names set →
      collectAll qualifiers mentions set = .ok set' →
      qualifiers.Collected (names ++ mentions.flatMap Mention.names) set' := by
    intro mentions
    induction mentions with
    | nil =>
      intro names set collected h
      cases h
      simpa using collected
    | cons mention rest ih =>
      intro names set collected h
      unfold collectAll at h
      split at h
      · cases h
      · next middle hmiddle => simpa using ih (collected_of_mention collected hmiddle) h
  simpa using hrun (.empty qualifiers) h

end Laminate.Form.Plan

namespace Laminate.Code.Qualifiers

variable {qualifiers : Qualifiers} {names : List String} {set : ImportSet}

lemma bound_of_lookup (binds : qualifiers.BindsNames) {name : String} {i : Import}
    (h : qualifiers.known.lookup name = some i) : i.bound = name := by
  obtain ⟨before, after, hknown, -⟩ := List.lookup_eq_some_iff.mp h
  exact binds (name, i) (by simp [hknown])

/-- A line is what a name that is looked up stands for. -/
lemma Collected.exists_of_mem_sorted (collected : qualifiers.Collected names set) {i : Import}
    (h : i ∈ set.sorted) :
    ∃ name ∈ names, name ∉ qualifiers.ignored ∧ qualifiers.known.lookup name = some i := by
  rw [ImportSet.sorted, (List.mergeSort_perm _ _).mem_iff] at h
  obtain ⟨⟨name, i⟩, hentry, rfl⟩ :=
    List.mem_map.mp ((ImportSet.distinctPaths_sublist _ _).subset h)
  obtain ⟨hmem, hrest⟩ := (collected.mem_entries name i).mp hentry
  exact ⟨name, hmem, hrest⟩

/-- No name has two lines. -/
lemma Collected.nodup_sorted (collected : qualifiers.Collected names set)
    (binds : qualifiers.BindsNames) : (set.sorted.map Import.bound).Nodup := by
  have hentries : (set.entries.map (·.2)).map Import.bound = set.entries.map (·.1) := by
    rw [List.map_map]
    refine List.map_congr_left fun entry hentry => ?_
    exact bound_of_lookup binds ((collected.mem_entries _ _).mp hentry).2.2
  have hkeys : (set.entries.map (·.1)).Nodup :=
    List.pairwise_map.mpr (collected.increasing.imp fun hlt heq => String.ne_of_lt hlt heq)
  have hperm : (set.sorted.map Import.bound).Perm
      ((ImportSet.distinctPaths (set.entries.map (·.2)) []).map Import.bound) :=
    (List.mergeSort_perm _ _).map _
  refine hperm.nodup_iff.mpr (List.Nodup.sublist ?_ (hentries ▸ hkeys))
  exact (ImportSet.distinctPaths_sublist _ _).map _

/-- A name that is looked up is declared for what it stands for, unless a smaller name is looked up
that stands for the same. No other name is declared. -/
theorem Collected.declares_iff (collected : qualifiers.Collected names set)
    (binds : qualifiers.BindsNames) {name path : String} :
    Declares set.sorted name path ↔
      name ∈ names ∧ name ∉ qualifiers.ignored ∧ qualifiers.pathOf? name = some path ∧
        ∀ other ∈ names, other ∉ qualifiers.ignored → qualifiers.pathOf? other = some path →
          name ≤ other := by
  have hsorted : ∀ i, i ∈ set.sorted ↔ ∃ key, (key, i) ∈ set.entries ∧
      ∀ key' i', (key', i') ∈ set.entries → i'.path = i.path → key ≤ key' := by
    intro i
    rw [ImportSet.sorted, (List.mergeSort_perm _ _).mem_iff,
      ImportSet.mem_distinctPaths collected.increasing]
    simp
  have hleast : ∀ key path, (∀ key' i', (key', i') ∈ set.entries → i'.path = path → key ≤ key') ↔
      ∀ other ∈ names, other ∉ qualifiers.ignored → qualifiers.pathOf? other = some path →
        key ≤ other := by
    intro key path
    constructor
    · intro h other hmem hnot hpath
      obtain ⟨i, hlookup, rfl⟩ := Option.map_eq_some_iff.mp hpath
      exact h other i ((collected.mem_entries _ _).mpr ⟨hmem, hnot, hlookup⟩) rfl
    · rintro h other i hentry rfl
      obtain ⟨hmem, hnot, hlookup⟩ := (collected.mem_entries _ _).mp hentry
      exact h other hmem hnot (by rw [pathOf?, hlookup]; rfl)
  rw [Code.declares_iff (collected.nodup_sorted binds)]
  constructor
  · rintro ⟨i, hi, rfl, rfl⟩
    obtain ⟨key, hentry, h⟩ := (hsorted i).mp hi
    obtain ⟨hmem, hnot, hlookup⟩ := (collected.mem_entries _ _).mp hentry
    rw [bound_of_lookup binds hlookup]
    exact ⟨hmem, hnot, by rw [pathOf?, hlookup]; rfl, (hleast key i.path).mp h⟩
  · rintro ⟨hmem, hnot, hpath, h⟩
    obtain ⟨i, hlookup, rfl⟩ := Option.map_eq_some_iff.mp hpath
    refine ⟨i, (hsorted i).mpr ⟨name, ?_, (hleast name i.path).mpr h⟩,
      bound_of_lookup binds hlookup, rfl⟩
    exact (collected.mem_entries _ _).mpr ⟨hmem, hnot, hlookup⟩

/-- A name that is looked up stands for something, unless it is ignored. -/
lemma Collected.exists_pathOf? (collected : qualifiers.Collected names set) {name : String}
    (h : name ∈ names) (hnot : name ∉ qualifiers.ignored) :
    ∃ path, qualifiers.pathOf? name = some path := by
  obtain ⟨i, hlookup⟩ := collected.known name h hnot
  exact ⟨i.path, by rw [pathOf?, hlookup]; rfl⟩

end Laminate.Code.Qualifiers
