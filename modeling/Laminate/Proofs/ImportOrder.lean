import Laminate.Proofs.Outcome
import Laminate.Proofs.Registration
import Mathlib.Data.Prod.Lex

/-! Import blocks are canonical.
A block depends on the names that are looked up, whatever text they are found in and in whatever
order. Its lines increase, those without an alias first, and none of them repeats a path. -/
namespace Laminate.Code

open Laminate.Text

/-! ### The order of lines -/

namespace Import

/-- What lines are in order of: whether they give an alias, then the alias or else the path. -/
def sortKey (i : Import) : Bool × String := (i.localName.isSome, i.localName.getD i.path)

/-- A line that stands strictly before another one. -/
def Before (a b : Import) : Prop := Prod.Lex (· < ·) (· < ·) a.sortKey b.sortKey

instance (a b : Import) : Decidable (a.Before b) := inferInstanceAs (Decidable (Prod.Lex ..))

variable {a b c : Import}

lemma precedes_iff : precedes a b = true ↔ Prod.Lex (· < ·) (· ≤ ·) a.sortKey b.sortKey := by
  unfold precedes sortKey
  cases a.localName <;> cases b.localName <;> simp [Prod.lex_def]

lemma precedes_trans (a b c : Import) (hab : precedes a b = true) (hbc : precedes b c = true) :
    precedes a c = true := by
  rw [precedes_iff, Prod.lex_def] at *
  rcases hab with hab | ⟨hab, hab'⟩
  · rcases hbc with hbc | ⟨hbc, -⟩
    · exact .inl (lt_trans hab hbc)
    · exact .inl (hbc ▸ hab)
  · rcases hbc with hbc | ⟨hbc, hbc'⟩
    · exact .inl (hab ▸ hbc)
    · exact .inr ⟨hab.trans hbc, String.le_trans hab' hbc'⟩

lemma precedes_total (a b : Import) : (precedes a b || precedes b a) = true := by
  rw [Bool.or_eq_true, precedes_iff, precedes_iff, Prod.lex_def, Prod.lex_def]
  rcases lt_trichotomy a.sortKey.1 b.sortKey.1 with h | h | h
  · exact .inl (.inl h)
  · rcases String.le_total a.sortKey.2 b.sortKey.2 with hle | hle
    · exact .inl (.inr ⟨h, hle⟩)
    · exact .inr (.inr ⟨h.symm, hle⟩)
  · exact .inr (.inl h)

/-- Lines of one key would bind one name or import one path. -/
lemma before_of_precedes (h : precedes a b = true) (hbound : a.bound ≠ b.bound)
    (hpath : a.path ≠ b.path) : a.Before b := by
  rw [precedes_iff, Prod.lex_def] at h
  refine Prod.lex_def.mpr (h.imp id fun ⟨hsome, hle⟩ => ⟨hsome, ?_⟩)
  refine String.not_le.mp fun hge => ?_
  have heq := String.le_antisymm hle hge
  unfold sortKey at hsome heq
  unfold bound at hbound
  cases ha : a.localName <;> cases hb : b.localName <;> simp_all

end Import

namespace ImportSet

/-- Every path that is left was not seen before, and is left once. -/
lemma nodup_distinctPaths (imports : List Import) (seen : List String) :
    ((distinctPaths imports seen).map (·.path)).Nodup ∧
      ∀ i ∈ distinctPaths imports seen, i.path ∉ seen := by
  induction imports generalizing seen with
  | nil => exact ⟨.nil, by simp [distinctPaths]⟩
  | cons i rest ih =>
    unfold distinctPaths
    split
    · exact ih seen
    · next hnew =>
      obtain ⟨hnodup, hunseen⟩ := ih (i.path :: seen)
      have hfirst : i.path ∉ (distinctPaths rest (i.path :: seen)).map (·.path) := by
        intro hmem
        obtain ⟨other, hother, heq⟩ := List.mem_map.mp hmem
        exact hunseen other hother (heq ▸ List.mem_cons_self)
      refine ⟨List.nodup_cons.mpr ⟨hfirst, hnodup⟩, List.forall_mem_cons.mpr ⟨hnew, ?_⟩⟩
      exact fun other hother hseen => hunseen other hother (List.mem_cons_of_mem _ hseen)

lemma nodup_paths_sorted (set : ImportSet) : (set.sorted.map (·.path)).Nodup := by
  have hperm : (set.sorted.map (·.path)).Perm
      ((distinctPaths (set.entries.map (·.2)) []).map (·.path)) := (List.mergeSort_perm _ _).map _
  exact hperm.nodup_iff.mpr (nodup_distinctPaths _ _).1

end ImportSet

namespace Qualifiers

variable {q : Qualifiers} {names names' : List String} {set set' : ImportSet}

/-- A set holds what the names that are looked up call for, and nothing of how they were found. -/
lemma Collected.eq_of_same (collected : q.Collected names set)
    (collected' : q.Collected names' set') (same : ∀ name, name ∈ names ↔ name ∈ names') :
    set = set' := by
  have hnodup : ∀ {entries : List (String × Import)}, entries.Pairwise (fun a b => a.1 < b.1) →
      entries.Nodup := by
    refine fun h => h.imp fun hlt heq => ?_
    exact String.lt_irrefl _ (heq ▸ hlt)
  have hmem : ∀ entry, entry ∈ set.entries ↔ entry ∈ set'.entries := by
    rintro ⟨name, i⟩
    rw [collected.mem_entries, collected'.mem_entries, same]
  have hperm : set.entries.Perm set'.entries :=
    (List.perm_ext_iff_of_nodup (hnodup collected.increasing)
      (hnodup collected'.increasing)).mpr hmem
  have hentries : set.entries = set'.entries :=
    hperm.eq_of_pairwise (fun _ _ _ _ hlt hgt => absurd hgt (String.lt_asymm hlt))
      collected.increasing collected'.increasing
  cases set
  cases set'
  exact congrArg ImportSet.mk hentries

/-- The lines of a block increase. -/
lemma Collected.pairwise_sorted (collected : q.Collected names set) (binds : q.BindsNames) :
    set.sorted.Pairwise Import.Before := by
  have hle : set.sorted.Pairwise fun a b => Import.precedes a b = true :=
    List.pairwise_mergeSort Import.precedes_trans Import.precedes_total _
  have hbound := List.pairwise_map.mp (collected.nodup_sorted binds)
  have hpath := List.pairwise_map.mp (ImportSet.nodup_paths_sorted set)
  exact ((hle.and hbound).and hpath).imp fun h => Import.before_of_precedes h.1.1 h.1.2 h.2

/-! ### Registrations -/

/-- A package that is made known besides those of the settings and of the modules. -/
inductive Registration where
  /-- The package of a reference as it is written; short references make nothing known. -/
  | written (text : String)
  /-- The package of a reference that has been read. -/
  | read (reference : Reference)
  deriving Repr, DecidableEq

def register (q : Qualifiers) : Registration → Qualifiers
  | .written text => q.learnText text
  | .read reference => q.learnReference reference

lemma register_extends (q : Qualifiers) (registration : Registration) :
    Extends (fun _ _ => True) q (q.register registration) := by
  cases registration with
  | written text => exact (learnText_spec fun _ _ _ => trivial).1
  | read reference => exact (learnReference_spec trivial).1

end Qualifiers

end Laminate.Code

namespace Laminate.Form.Plan

open Laminate.Schema Laminate.Code

variable {module : Module} {registry : Registry} {settings : Settings} {isTest : Bool}
  {registrations : List Qualifiers.Registration}

lemma registered_bindsNames :
    (registrations.foldl Qualifiers.register
      (baseQualifiers module registry settings isTest)).BindsNames := by
  have hbase := isBase { (default : Plan) with module, registry, settings } isTest
  have hextends : Qualifiers.Extends (fun _ _ => True)
      (baseQualifiers module registry settings isTest)
      (registrations.foldl Qualifiers.register (baseQualifiers module registry settings isTest)) :=
    .foldl (fun q registration _ => Qualifiers.register_extends q registration) _
  intro entry hentry
  rcases hextends.introduced entry hentry with hold | ⟨hbound, -⟩
  · exact (hbase.sound entry hold).1
  · exact hbound

/-- Import blocks are canonical. Two runs of scans and look-ups that succeed and look up the same
names make the same block, whatever packages have been registered before. Its lines strictly
increase, no two of them import one path, and each is what one of the names stands for. -/
theorem imports_canonical {q : Qualifiers}
    (hq : registrations.foldl Qualifiers.register
      (baseQualifiers module registry settings isTest) = q)
    {mentions mentions' : List Mention} {set set' : ImportSet}
    (h : collectAll q mentions {} = .ok set) (h' : collectAll q mentions' {} = .ok set')
    (same : ∀ name, name ∈ mentions.flatMap Mention.names ↔
      name ∈ mentions'.flatMap Mention.names) :
    set.sorted = set'.sorted ∧ set.sorted.Pairwise Import.Before ∧
      (set.sorted.map (·.path)).Nodup ∧
      ∀ i ∈ set.sorted, ∃ name ∈ mentions.flatMap Mention.names,
        name ∉ q.ignored ∧ q.known.lookup name = some i := by
  subst hq
  have collected := collected_of_mentions h
  have collected' := collected_of_mentions h'
  refine ⟨?_, collected.pairwise_sorted registered_bindsNames, set.nodup_paths_sorted,
    fun i hi => collected.exists_of_mem_sorted hi⟩
  rw [collected.eq_of_same collected' same]

/-- Two packages are known besides, and one of them is not what its path says. -/
def moneyQualifiers : Qualifiers :=
  [.written "github.com/acme/money.Format", .read ⟨"example.com/go-cash", "cash", "Coin"⟩].foldl
    Qualifiers.register (baseQualifiers ⟨"acme.shop", "shop", "example.com/shop"⟩ {} {} false)

/-- The same names are looked up in two ways, one of which repeats some of them. -/
theorem imports_canonical_money :
    ∃ set set',
      collectAll moneyQualifiers
        [.expr "money.Format(w.Price, cash.Coin\x7b\x7d)", .type "map[string]*time.Time"] {} =
          .ok set ∧
      collectAll moneyQualifiers
        [.package "time", .type "[]cash.Coin", .package "w", .expr "money.Parse(cash.Zero())"] {} =
          .ok set' ∧
      set'.sorted.map Import.text =
        ["\"github.com/acme/money\"", "\"time\"", "cash \"example.com/go-cash\""] ∧
      set.sorted = set'.sorted ∧ set.sorted.Pairwise Import.Before := by
  have hcheck : (collectAll moneyQualifiers
      [.expr "money.Format(w.Price, cash.Coin\x7b\x7d)", .type "map[string]*time.Time"]
      {}).toOption.any (fun _ => true) = true := by
    decide +kernel
  have hcheck' : (collectAll moneyQualifiers
      [.package "time", .type "[]cash.Coin", .package "w", .expr "money.Parse(cash.Zero())"]
      {}).toOption.any (fun set' => set' =
        ⟨[("cash", ⟨some "cash", "example.com/go-cash"⟩),
          ("money", { path := "github.com/acme/money" }), ("time", { path := "time" })]⟩) =
        true := by
    decide +kernel
  obtain ⟨set, h, -⟩ := exists_of_check hcheck
  obtain ⟨set', h', hset'⟩ := exists_of_check hcheck'
  have hnames : [Mention.expr "money.Format(w.Price, cash.Coin\x7b\x7d)",
      .type "map[string]*time.Time"].flatMap Mention.names = ["money", "w", "cash", "time"] := by
    decide +kernel
  have hnames' : [Mention.package "time", .type "[]cash.Coin", .package "w",
      .expr "money.Parse(cash.Zero())"].flatMap Mention.names =
        ["time", "cash", "w", "money", "cash"] := by
    decide +kernel
  obtain ⟨heq, hincreasing, -⟩ := imports_canonical rfl h h' fun name => by
    rw [hnames, hnames']
    simp only [List.mem_cons, List.not_mem_nil, or_false]
    grind
  refine ⟨set, set', h, h', ?_, heq, hincreasing⟩
  rw [of_decide_eq_true hset']
  simp [ImportSet.sorted, ImportSet.distinctPaths, List.mergeSort,
    List.MergeSort.Internal.splitInTwo, Import.precedes, Import.text]

end Laminate.Form.Plan
