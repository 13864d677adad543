import Laminate.Annotation.Tables
import Laminate.Proofs.Outcome
import Laminate.Proofs.ReadBack
import Mathlib.Data.List.Nodup
import Mathlib.Data.List.Pairwise

/-! How annotations are listed as entries, and that tables read listings back.
Each part of an annotation is told by the values under its key alone, so entries under different
keys may stand in any order. -/
namespace Laminate.Annotation

open Laminate.Text

/-- The values under a key, in order. -/
def valuesOf (key : String) (es : List Entry) : List Value :=
  (es.filter (·.1 == key)).map (·.2)

@[simp] lemma valuesOf_nil (key : String) : valuesOf key [] = [] := rfl

@[simp] lemma valuesOf_cons_self (key : String) (v : Value) (es : List Entry) :
    valuesOf key ((key, v) :: es) = v :: valuesOf key es := by
  simp [valuesOf]

lemma valuesOf_cons_of_ne {key : String} {e : Entry} (h : e.1 ≠ key) (es : List Entry) :
    valuesOf key (e :: es) = valuesOf key es := by
  simp [valuesOf, h]

/-! ### Facets -/

/-- A part of an `α` and how it is listed: which values under its key stand for a content, and
what a reader makes of one value after another. -/
structure Facet (α : Type) where
  key : String
  Content : Type
  get : α → Content
  set : Content → α → α
  initial : Content
  read : Value → Content → Except OptionFault Content
  /-- Contents that have a written form. -/
  IsValid : Content → Prop
  Lists : Content → List Value → Prop
  writableKey : isWritableKey key = true
  writable : ∀ {c vs}, IsValid c → Lists c vs → ∀ v ∈ vs, v.isWritable = true
  reads : ∀ {c vs}, IsValid c → Lists c vs → vs.foldlM (fun c v => read v c) initial = .ok c
  exists_lists : ∀ {c}, IsValid c → ∃ vs, Lists c vs

variable {α β : Type}

/-- Every part has a written form. -/
def IsValid (facets : List (Facet α)) (a : α) : Prop := ∀ f ∈ facets, f.IsValid (f.get a)

/-- Entries list an `α` when the values under each key stand for the content of that part, and
there are no other keys. -/
structure Lists (facets : List (Facet α)) (a : α) (es : List Entry) : Prop where
  known : ∀ e ∈ es, ∃ f ∈ facets, f.key = e.1
  values : ∀ f ∈ facets, f.Lists (f.get a) (valuesOf f.key es)

/-- A content that is set where it is got. -/
structure IsLens {γ : Type} (get : α → γ) (set : γ → α → α) : Prop where
  get_set : ∀ c a, get (set c a) = c
  set_get : ∀ a, set (get a) a = a
  set_set : ∀ c c' a, set c (set c' a) = set c a

/-- A slot reads values into the content of a facet. -/
structure Slot.Follows (slot : Slot α) (facet : Facet α) : Prop where
  key : slot.key = facet.key
  read : IsLens facet.get facet.set →
    ∀ v a, slot.read v a = (facet.read v (facet.get a)).map (facet.set · a)

/-- The facets of a table: each slot follows one of them, and they are independent and together
make up all of an `α`. -/
structure Table.IsMadeOf [Inhabited α] (table : Table α) (facets : List (Facet α)) : Prop where
  follows : List.Forall₂ Slot.Follows table.slots facets
  nodup : (facets.map (·.key)).Nodup
  lens : ∀ f ∈ facets, IsLens f.get f.set
  frame : facets.Pairwise fun f g =>
    (∀ c a, g.get (f.set c a) = g.get a) ∧ ∀ c a, f.get (g.set c a) = f.get a
  rebuild : ∀ a b, facets.foldl (fun a f => f.set (f.get b) a) a = b
  get_default : ∀ f ∈ facets, f.get default = f.initial

/-! ### Reading listings back -/

lemma Slot.Follows.find {slots : List (Slot α)} {facets : List (Facet α)}
    (h : List.Forall₂ Slot.Follows slots facets) (nodup : (facets.map (·.key)).Nodup)
    {f : Facet α} (hf : f ∈ facets) :
    ∃ slot, slots.find? (·.key == f.key) = some slot ∧ slot.Follows f := by
  induction h with
  | nil => cases hf
  | @cons slot facet slots facets hfollows _ ih =>
    rw [List.map_cons, List.nodup_cons] at nodup
    rcases List.mem_cons.mp hf with rfl | hf
    · exact ⟨slot, by simp [hfollows.key], hfollows⟩
    · have hne : slot.key ≠ f.key := by
        rw [hfollows.key]
        exact fun heq => nodup.1 (heq ▸ List.mem_map_of_mem hf)
      obtain ⟨found, hfind, hfound⟩ := ih nodup.2 hf
      exact ⟨found, by simpa [hne] using hfind, hfound⟩

namespace Table.IsMadeOf

variable [Inhabited α] {table : Table α} {facets : List (Facet α)} (made : table.IsMadeOf facets)

include made

lemma get_set_of_ne {f g : Facet α} (hf : f ∈ facets) (hg : g ∈ facets) (hne : f.key ≠ g.key)
    (c : f.Content) (a : α) : g.get (f.set c a) = g.get a := by
  have hsymm : Std.Symm fun f g : Facet α =>
      (∀ c a, g.get (f.set c a) = g.get a) ∧ ∀ c a, f.get (g.set c a) = f.get a :=
    ⟨fun _ _ h => h.symm⟩
  exact (made.frame.forall hf hg fun heq => hne (heq ▸ rfl)).1 c a

/-- What agrees in every part is the same. -/
lemma ext {a b : α} (h : ∀ f ∈ facets, f.get a = f.get b) : a = b := by
  have hkeep : ∀ {fs : List (Facet α)}, fs ⊆ facets →
      fs.foldl (fun a f => f.set (f.get b) a) a = a := by
    intro fs hfs
    induction fs with
    | nil => rfl
    | cons f fs ih =>
      obtain ⟨hf, hfs⟩ := List.cons_subset.mp hfs
      rw [List.foldl_cons, ← h f hf, (made.lens f hf).set_get]
      exact ih hfs
  exact (hkeep (List.Subset.refl _)).symm.trans (made.rebuild a b)

/-- Reading an entry under the key of a part reads its value into that part. -/
lemma read_of_mem {f : Facet α} (hf : f ∈ facets) (v : Value) (a : α) :
    table.read (f.key, v) a = (f.read v (f.get a)).map (f.set · a) := by
  obtain ⟨slot, hfind, hfollows⟩ := Slot.Follows.find made.follows made.nodup hf
  unfold Table.read
  rw [hfind]
  exact hfollows.read (made.lens f hf) v a

/-- Entries under other keys are not read. -/
lemma read_of_unknown {e : Entry} (h : ¬ ∃ f ∈ facets, f.key = e.1) (a : α) :
    ∃ fault, table.read e a = .error fault := by
  have hfind : table.slots.find? (·.key == e.1) = none := by
    refine List.find?_eq_none.mpr fun slot hslot hkey => h ?_
    obtain ⟨f, hf, hfollows⟩ := exists_of_forall₂_mem made.follows hslot
    exact ⟨f, hf, hfollows.key.symm.trans (by simpa using hkey)⟩
  unfold Table.read
  rw [hfind]
  exact ⟨_, rfl⟩

/-- Reading entries leads from one `α` to another just where they have known keys and each part is
led there by the values under its key. -/
lemma readAll_eq_ok {a b : α} {es : List Entry} :
    table.readAll es a = .ok b ↔ (∀ e ∈ es, ∃ f ∈ facets, f.key = e.1) ∧ ∀ f ∈ facets,
      (valuesOf f.key es).foldlM (fun c v => f.read v c) (f.get a) = .ok (f.get b) := by
  induction es generalizing a with
  | nil =>
    simp only [Table.readAll_nil, Except.ok.injEq, valuesOf_nil, List.foldlM_nil, pure_eq_ok]
    constructor
    · rintro rfl
      exact ⟨List.forall_mem_nil _, fun _ _ => rfl⟩
    · exact fun h => made.ext h.2
  | cons e es ih =>
    by_cases hknown : ∃ f ∈ facets, f.key = e.1
    · obtain ⟨key, v⟩ := e
      obtain ⟨f, hf, rfl⟩ := hknown
      rw [Table.readAll, made.read_of_mem hf]
      cases hread : f.read v (f.get a) with
      | error fault =>
        refine iff_of_false (fun h => by cases h) fun h => ?_
        have hvalues := h.2 f hf
        simp [hread, bind, Except.bind] at hvalues
      | ok c =>
        refine ih.trans (and_congr ?_ (forall₂_congr fun g hg => ?_))
        · rw [List.forall_mem_cons, and_iff_right ⟨f, hf, rfl⟩]
        · by_cases hkey : f.key = g.key
          · obtain rfl : f = g := List.inj_on_of_nodup_map made.nodup hf hg hkey
            rw [(made.lens f hf).get_set, valuesOf_cons_self, List.foldlM_cons, hread]
            rfl
          · rw [made.get_set_of_ne hf hg hkey, valuesOf_cons_of_ne (e := (f.key, v)) hkey]
    · obtain ⟨fault, hread⟩ := made.read_of_unknown hknown a
      rw [Table.readAll, hread]
      exact iff_of_false (fun h => by cases h) fun h => hknown (h.1 e List.mem_cons_self)

/-- What lists an `α` is read as it. -/
theorem readAll {a : α} {es : List Entry} (valid : IsValid facets a) (lists : Lists facets a es) :
    table.readAll es default = .ok a := by
  refine made.readAll_eq_ok.mpr ⟨lists.known, fun f hf => ?_⟩
  rw [made.get_default f hf]
  exact f.reads (valid f hf) (lists.values f hf)

end Table.IsMadeOf

end Laminate.Annotation
