import Laminate.Proofs.TypeText

/-! Imports of types.
A scan of a type's text looks up the packages of the type. It fails at the first one that nothing is
known of, and otherwise the set has what they stand for. -/
namespace Laminate.Code

open Laminate.Text

namespace Qualifiers

variable {q : Qualifiers} {names : List String} {set set' : ImportSet}

/-- A name that needs no import, or that one is known for. -/
def resolves (q : Qualifiers) (name : String) : Bool :=
  q.ignored.contains name || (q.known.lookup name).isSome

/-- A look-up fails on the names that do not resolve. -/
lemma require_error {name : String} (h : q.resolves name = false) (set : ImportSet) :
    q.require name set = .error (.lookup (.unknownPackage name)) := by
  rw [resolves, Bool.or_eq_false_iff, Option.isSome_eq_false_iff, Option.isNone_iff_eq_none] at h
  unfold require
  rw [h.1, h.2]
  rfl

/-- A look-up of a name that resolves changes what the set has under that name alone. -/
lemma require_ok {name : String} (h : q.resolves name = true) (set : ImportSet) :
    ∃ set', q.require name set = .ok set' ∧ ∀ other,
      set'.entries.lookup other = if other = name ∧ name ∉ q.ignored then q.known.lookup name
        else set.entries.lookup other := by
  by_cases hignored : name ∈ q.ignored
  · refine ⟨set, by simp [require, hignored], fun other => ?_⟩
    rw [if_neg fun hother => hother.2 hignored]
  · obtain ⟨i, hi⟩ : ∃ i, q.known.lookup name = some i := by
      simpa [resolves, hignored, Option.isSome_iff_exists] using h
    refine ⟨set.insert name i, by simp [require, hignored, hi], fun other => ?_⟩
    rw [ImportSet.insert, lookup_putKeyed, hi]
    simp [hignored]

/-- Look-ups stop at the first name that does not resolve. -/
lemma requireAll_fault (q : Qualifiers) (names : List String) (set : ImportSet) :
    (q.requireAll names set).2 =
      (names.find? (!q.resolves ·)).map fun name => .lookup (.unknownPackage name) := by
  induction names generalizing set with
  | nil => rfl
  | cons name rest ih =>
    rw [requireAll, List.find?_cons]
    cases h : q.resolves name with
    | false => rw [require_error h]; rfl
    | true =>
      obtain ⟨set', hset', -⟩ := require_ok h set
      rw [hset']
      exact ih set'

/-- Look-ups that do not stop leave what the names stand for. -/
lemma requireAll_lookup (h : q.requireAll names set = (set', none)) (other : String) :
    set'.entries.lookup other =
      if other ∈ names ∧ other ∉ q.ignored then q.known.lookup other
      else set.entries.lookup other := by
  induction names generalizing set with
  | nil =>
    cases h
    simp
  | cons name rest ih =>
    rw [requireAll] at h
    cases hname : q.resolves name with
    | false =>
      rw [require_error hname] at h
      cases h
    | true =>
      obtain ⟨middle, hmiddle, hlookup⟩ := require_ok hname set
      rw [hmiddle] at h
      rw [ih h, hlookup]
      by_cases heq : other = name
      · subst heq
        by_cases hignored : other ∈ q.ignored <;> simp [hignored]
      · simp [heq]

end Qualifiers

namespace TypeRef

variable {t : TypeRef}

/-- A scan of a type's text has no faults but those of its look-ups. -/
lemma scanType_eq (spelled : t.isSpelled = true) (q : Qualifiers) (set : ImportSet) :
    q.scanType t.text set = q.requireAll t.packages set := by
  simp only [Qualifiers.scanType, typeQualifiers_text spelled]
  rcases q.requireAll t.packages set with ⟨set', _ | e⟩ <;> rfl

/-- A scan of a type's text calls for the packages of the type, at whatever depth it has them. It
succeeds where each of them is ignored or known, and fails with the first one otherwise. After it
the set has what the known ones stand for, and is as before under other names. -/
theorem scan_text (spelled : t.isSpelled = true) (q : Qualifiers) (set : ImportSet) :
    ((q.scanType t.text set).2 = none ↔
      ∀ package ∈ t.packages, package ∈ q.ignored ∨ (q.known.lookup package).isSome) ∧
    (∀ set', q.scanType t.text set = (set', none) → ∀ name, set'.entries.lookup name =
      if name ∈ t.packages ∧ name ∉ q.ignored then q.known.lookup name
      else set.entries.lookup name) ∧
    ∀ set' e, q.scanType t.text set = (set', some e) → ∃ package,
      t.packages.find? (!q.resolves ·) = some package ∧ e = .lookup (.unknownPackage package) := by
  rw [scanType_eq spelled]
  refine ⟨?_, fun set' h => Qualifiers.requireAll_lookup h, fun set' e h => ?_⟩
  · rw [Qualifiers.requireAll_fault, Option.map_eq_none_iff, List.find?_eq_none]
    simp only [Qualifiers.resolves, Bool.not_eq_true', Bool.not_eq_false, Bool.or_eq_true,
      List.contains_iff_mem]
  · have hfault := Qualifiers.requireAll_fault q t.packages set
    rw [h] at hfault
    obtain ⟨package, hfind, rfl⟩ := Option.map_eq_some_iff.mp hfault.symm
    exact ⟨package, hfind, rfl⟩

/-- A map from maps to lists of maps, with the packages of a key and of a value. -/
def ledger : TypeRef :=
  .map (.map (.builtin .string) (.builtin .bytes))
    (.pointer (.slice (.map (.qualified "money" "Unit") (.qualified "time" "Time"))))

theorem scan_text_ledger :
    ledger.text = "map[map[string][]byte]*[]map[money.Unit]time.Time" ∧
      ∀ set, ∃ set',
        Qualifiers.scanType ⟨["money"], Qualifiers.standard⟩ ledger.text set = (set', none) ∧
        ∀ name, set'.entries.lookup name =
          if name = "time" then some { path := "time" } else set.entries.lookup name := by
  refine ⟨by decide, fun set => ?_⟩
  have hpackages : ledger.packages = ["money", "time"] := by decide
  obtain ⟨hok, hentries, -⟩ := scan_text (t := ledger) (by decide)
    ⟨["money"], Qualifiers.standard⟩ set
  have hnone := hok.mpr (by rw [hpackages]; decide)
  refine ⟨_, Prod.ext rfl hnone, fun name => ?_⟩
  rw [hentries _ (Prod.ext rfl hnone), hpackages]
  by_cases h : name = "time"
  · subst h
    rfl
  · simp [h]

end TypeRef

end Laminate.Code
