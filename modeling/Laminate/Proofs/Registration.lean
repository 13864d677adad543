import Laminate.Proofs.ImportLines

/-! What the qualifiers of a plan stand for.
Names come from settings, modules and annotations, and each stands for a package that it has been
registered for. Where several packages claim a name, one of them has it. -/
namespace Laminate.Code.Qualifiers

variable {registers : String → String → Prop} {q q' q'' : Qualifiers} {name path : String}

def Knows (q : Qualifiers) (name : String) : Prop := (q.known.lookup name).isSome = true

/-- Later qualifiers know what earlier ones know, and besides only what is registered. -/
structure Extends (registers : String → String → Prop) (q q' : Qualifiers) : Prop where
  ignored : q'.ignored = q.ignored
  retains (name : String) : q.Knows name → q'.Knows name
  introduced : ∀ entry ∈ q'.known,
    entry ∈ q.known ∨ entry.2.bound = entry.1 ∧ registers entry.1 entry.2.path

namespace Extends

lemma refl (q : Qualifiers) : Extends registers q q := ⟨rfl, fun _ h => h, fun _ h => .inl h⟩

lemma trans (h : Extends registers q q') (h' : Extends registers q' q'') :
    Extends registers q q'' := by
  refine
    ⟨h'.ignored.trans h.ignored, fun name hknown => h'.retains name (h.retains name hknown), ?_⟩
  intro entry hentry
  rcases h'.introduced entry hentry with hentry | hnew
  · exact h.introduced entry hentry
  · exact .inr hnew

lemma learn (h : registers name path) : Extends registers q (q.learn name path) := by
  refine ⟨rfl, ?_, ?_⟩
  · intro other hknown
    unfold Knows Qualifiers.learn
    rw [List.lookup_cons]
    split
    · rfl
    · exact hknown
  · intro entry hentry
    rcases List.mem_cons.mp hentry with rfl | hentry
    · exact .inr ⟨Import.bound_asQualifier name path, h⟩
    · exact .inl hentry

variable {α : Type} {step : Qualifiers → α → Qualifiers} {xs : List α}

lemma foldl (h : ∀ q, ∀ x ∈ xs, Extends registers q (step q x)) (q : Qualifiers) :
    Extends registers q (xs.foldl step q) := by
  induction xs generalizing q with
  | nil => exact refl q
  | cons x rest ih =>
    exact (h q x List.mem_cons_self).trans
      (ih (fun q x hx => h q x (List.mem_cons_of_mem _ hx)) _)

/-- What one step makes known stays known. -/
lemma knows_foldl (h : ∀ q, ∀ x ∈ xs, Extends registers q (step q x)) (q : Qualifiers) {x : α}
    (hx : x ∈ xs) (hknows : ∀ q', Extends registers q q' → (step q' x).Knows name) :
    (xs.foldl step q).Knows name := by
  obtain ⟨before, after, rfl⟩ := List.append_of_mem hx
  rw [List.foldl_append, List.foldl_cons]
  have hbefore : Extends registers q (before.foldl step q) :=
    foldl (fun q x hx => h q x (List.mem_append_left _ hx)) q
  have hafter := foldl (q := step (before.foldl step q) x) fun q x hx =>
    h q x (List.mem_append_right _ (List.mem_cons_of_mem _ hx))
  exact hafter.retains name (hknows _ hbefore)

end Extends

lemma knows_learn (q : Qualifiers) (name path : String) : (q.learn name path).Knows name := by
  unfold Knows learn
  rw [List.lookup_cons_self]
  rfl

lemma learnNew_spec (h : registers name path) :
    Extends registers q (q.learnNew name path) ∧ (q.learnNew name path).Knows name := by
  unfold learnNew
  split
  · next hknown => exact ⟨.refl q, hknown⟩
  · exact ⟨.learn h, knows_learn q name path⟩

variable {reference : Reference} {text : String}

lemma learnReference_spec (h : registers reference.package reference.path) :
    Extends registers q (q.learnReference reference) ∧
      (reference.package ∉ q.ignored → (q.learnReference reference).Knows reference.package) := by
  unfold learnReference
  split
  · next hignored =>
    exact ⟨.refl q, fun hnot => absurd (List.contains_iff_mem.mp hignored) hnot⟩
  · exact ⟨.learn h, fun _ => knows_learn q _ _⟩

/-- A text that is no reference teaches nothing. -/
lemma extends_learned (parsed : Option Reference) :
    (∀ reference, parsed = some reference → Extends registers q (q.learnReference reference)) →
    Extends registers q (match parsed with
      | some reference => q.learnReference reference
      | none => q) := by
  intro h
  split
  · next reference => exact h reference rfl
  · exact .refl q

lemma learnText_spec (h : ∀ reference, 5 ≤ (referenceSegments text).length →
      Reference.parse? text = some reference → registers reference.package reference.path) :
    Extends registers q (q.learnText text) ∧
      ∀ reference, 5 ≤ (referenceSegments text).length → Reference.parse? text = some reference →
        reference.package ∉ q.ignored → (q.learnText text).Knows reference.package := by
  unfold learnText
  split
  · next hshort => exact ⟨.refl q, fun reference hlong => absurd hshort (Nat.not_lt.mpr hlong)⟩
  · next hlong =>
    split
    · next reference hparse =>
      obtain ⟨hextends, hknows⟩ :=
        learnReference_spec (q := q) (h reference (Nat.not_lt.mp hlong) hparse)
      refine ⟨hextends, fun other _ hother => ?_⟩
      cases hother.symm.trans hparse
      exact hknows
    · next hnone =>
      refine ⟨.refl q, fun reference _ hparse => ?_⟩
      cases hnone.symm.trans hparse

end Laminate.Code.Qualifiers

namespace Laminate.Form.Plan

open Laminate.Schema Laminate.Code

variable (plan : Plan)

/-- The fields of every message of a plan. -/
def fields : List PlannedField := plan.messages.flatMap (·.fields)

/-- A name registered for the package of a path: by the generator itself, by the settings, for a
module, or by a reference in an annotation. References of types and converters count from five
segments on, and tests know no rules. -/
inductive Registers (isTest : Bool) : String → String → Prop
  | standard {name : String} {i : Import} (h : (name, i) ∈ Qualifiers.standard) :
    Registers isTest name i.path
  | converters : Registers isTest plan.settings.converters.name plan.settings.converters.path
  | module {m : Module} (h : m ∈ plan.registry.modules) (named : m.goName ≠ "")
    (foreign : m.goPath ≠ plan.module.goPath) :
    Registers isTest (plan.registry.qualifier m) m.goPath
  | self (test : isTest = true) : Registers isTest plan.module.goName plan.module.goPath
  | custom {f : PlannedField} (hf : f ∈ plan.fields) {text : String}
    (h : text ∈ customReferences f.field) (long : 5 ≤ (Qualifiers.referenceSegments text).length)
    {reference : Reference} (parsed : Reference.parse? text = some reference) :
    Registers isTest reference.package reference.path
  | rule (source : isTest = false) {f : PlannedField} (hf : f ∈ plan.fields)
    {validation : Validation} (hvalidation : f.validation = some validation) {text : String}
    (h : text ∈ validation.references) {reference : Reference}
    (parsed : Reference.parse? text = some reference) :
    Registers isTest reference.package reference.path

/-- What qualifiers stand for in the files of the package, or in its tests. -/
def qualifiers (isTest : Bool) : Qualifiers :=
  if isTest then plan.testQualifiers else plan.sourceQualifiers

/-- The names that are written without an import. -/
def ignored (isTest : Bool) : List String :=
  if isTest then Qualifiers.receivers else plan.module.goName :: Qualifiers.receivers

/-- The qualifiers before any annotation is looked at. -/
def base (isTest : Bool) : Qualifiers :=
  baseQualifiers plan.module plan.registry plan.settings isTest

variable {plan}

lemma knows_standard {name : String} {i : Import} (h : (name, i) ∈ Qualifiers.standard) :
    Qualifiers.Knows ⟨Qualifiers.receivers, Qualifiers.standard⟩ name := by
  have hall : ∀ entry ∈ Qualifiers.standard,
      (Qualifiers.standard.lookup entry.1).isSome = true := by
    decide
  exact hall _ h

/-- What the generator, the settings and the modules register. -/
structure IsBase (plan : Plan) (isTest : Bool) (q : Qualifiers) : Prop where
  ignored : q.ignored = plan.ignored isTest
  sound (entry : String × Import) (h : entry ∈ q.known) :
    entry.2.bound = entry.1 ∧ plan.Registers isTest entry.1 entry.2.path
  standard {name : String} {i : Import} (h : (name, i) ∈ Qualifiers.standard) : q.Knows name
  converters : q.Knows plan.settings.converters.name
  modules {m : Module} (h : m ∈ plan.registry.modules) (named : m.goName ≠ "")
    (foreign : m.goPath ≠ plan.module.goPath) : q.Knows (plan.registry.qualifier m)
  self (test : isTest = true) : q.Knows plan.module.goName

lemma isBase (plan : Plan) (isTest : Bool) : plan.IsBase isTest (plan.base isTest) := by
  let start : Qualifiers := ⟨Qualifiers.receivers, Qualifiers.standard⟩
  let helpers := start.learn plan.settings.converters.name plan.settings.converters.path
  let step := fun (q : Qualifiers) (other : Module) =>
    if other.goName.isEmpty || other.goPath == plan.module.goPath then q
    else q.learnNew (plan.registry.qualifier other) other.goPath
  let modules := plan.registry.modules.foldl step helpers
  have hregisters : ∀ m ∈ plan.registry.modules,
      (m.goName.isEmpty || m.goPath == plan.module.goPath) = false →
        plan.Registers isTest (plan.registry.qualifier m) m.goPath := by
    intro m hm hnot
    simp only [Bool.or_eq_false_iff, beq_eq_false_iff_ne] at hnot
    exact .module hm (by simpa using hnot.1) hnot.2
  have hhelpers : Qualifiers.Extends (plan.Registers isTest) start helpers := .learn .converters
  have hstep : ∀ q, ∀ m ∈ plan.registry.modules,
      Qualifiers.Extends (plan.Registers isTest) q (step q m) := by
    intro q m hm
    simp only [step]
    split
    · exact .refl q
    · next hnot => exact (Qualifiers.learnNew_spec (hregisters m hm (by simpa using hnot))).1
  have hmodules : Qualifiers.Extends (plan.Registers isTest) start modules :=
    hhelpers.trans (.foldl hstep helpers)
  have hsound : ∀ entry ∈ modules.known,
      entry.2.bound = entry.1 ∧ plan.Registers isTest entry.1 entry.2.path := by
    intro entry hentry
    rcases hmodules.introduced entry hentry with hstart | hnew
    · have hall : ∀ entry ∈ Qualifiers.standard, entry.2.bound = entry.1 := by decide +kernel
      exact ⟨hall entry hstart, .standard hstart⟩
    · exact hnew
  have hstandard : ∀ {name i}, (name, i) ∈ Qualifiers.standard → modules.Knows name :=
    fun h => hmodules.retains _ (knows_standard h)
  have hconverters : modules.Knows plan.settings.converters.name :=
    (Qualifiers.Extends.foldl hstep helpers).retains _ (Qualifiers.knows_learn _ _ _)
  have hknows : ∀ {m}, m ∈ plan.registry.modules → m.goName ≠ "" →
      m.goPath ≠ plan.module.goPath → modules.Knows (plan.registry.qualifier m) := by
    intro m hm named foreign
    refine Qualifiers.Extends.knows_foldl hstep helpers hm fun q _ => ?_
    have hnot : (m.goName.isEmpty || m.goPath == plan.module.goPath) = false := by
      simp [named, foreign]
    simp only [step, hnot, Bool.false_eq_true, if_false]
    exact (Qualifiers.learnNew_spec (hregisters m hm hnot)).2
  cases isTest with
  | false =>
    have hbase : plan.base false =
        { modules with ignored := plan.module.goName :: modules.ignored } := rfl
    refine ⟨?_, hsound, hstandard, hconverters, hknows, fun h => by cases h⟩
    rw [hbase, hmodules.ignored]
    rfl
  | true =>
    have hbase : plan.base true = modules.learn plan.module.goName plan.module.goPath := rfl
    have hself : Qualifiers.Extends (plan.Registers true) modules (plan.base true) :=
      .learn (.self rfl)
    refine ⟨hself.ignored.trans hmodules.ignored, ?_, ?_, ?_, ?_, ?_⟩
    · intro entry hentry
      exact (hself.introduced entry hentry).elim (hsound entry) id
    · exact fun h => hself.retains _ (hstandard h)
    · exact hself.retains _ hconverters
    · exact fun hm named foreign => hself.retains _ (hknows hm named foreign)
    · exact fun _ => Qualifiers.knows_learn _ _ _

section

variable {f : PlannedField} (hf : f ∈ plan.fields) (q : Qualifiers)

include hf

lemma learnCustom_spec (isTest : Bool) :
    Qualifiers.Extends (plan.Registers isTest) q (learnCustom q f) ∧
      ∀ text ∈ customReferences f.field, ∀ reference,
        5 ≤ (Qualifiers.referenceSegments text).length → Reference.parse? text = some reference →
          reference.package ∉ q.ignored → (learnCustom q f).Knows reference.package := by
  have hlearn : ∀ q : Qualifiers, ∀ text ∈ customReferences f.field,
      Qualifiers.Extends (plan.Registers isTest) q (q.learnText text) ∧
        ∀ reference, 5 ≤ (Qualifiers.referenceSegments text).length →
          Reference.parse? text = some reference → reference.package ∉ q.ignored →
            (q.learnText text).Knows reference.package :=
    fun q text h => Qualifiers.learnText_spec fun _ long parsed => .custom hf h long parsed
  have hstep := fun q text h => (hlearn q text h).1
  refine ⟨.foldl hstep q, ?_⟩
  intro text htext reference long parsed hnot
  refine Qualifiers.Extends.knows_foldl hstep q htext fun q' h => ?_
  exact (hlearn q' text htext).2 reference long parsed (h.ignored ▸ hnot)

lemma learnRules_spec :
    Qualifiers.Extends (plan.Registers false) q (learnRules q f) ∧
      ∀ validation, f.validation = some validation → ∀ text ∈ validation.references, ∀ reference,
        Reference.parse? text = some reference → reference.package ∉ q.ignored →
          (learnRules q f).Knows reference.package := by
  unfold learnRules
  cases hvalidation : f.validation with
  | none => exact ⟨.refl q, fun _ h => by cases h⟩
  | some validation =>
    have hlearn : ∀ q : Qualifiers, ∀ text ∈ validation.references, ∀ reference,
        Reference.parse? text = some reference →
          Qualifiers.Extends (plan.Registers false) q (q.learnReference reference) ∧
            (reference.package ∉ q.ignored →
              (q.learnReference reference).Knows reference.package) :=
      fun q text h reference parsed =>
        Qualifiers.learnReference_spec (.rule rfl hf hvalidation h parsed)
    have hstep := fun (q : Qualifiers) (text : String) (h : text ∈ validation.references) =>
      Qualifiers.extends_learned (Reference.parse? text)
        fun reference parsed => (hlearn q text h reference parsed).1
    refine ⟨.foldl hstep q, ?_⟩
    intro other hother text htext reference parsed hnot
    cases hother
    refine Qualifiers.Extends.knows_foldl hstep q htext fun q' h => ?_
    simp only [parsed]
    exact (hlearn q' text htext reference parsed).2 (h.ignored ▸ hnot)

end

/-- What the annotations of a field add. -/
def annotated (isTest : Bool) (q : Qualifiers) (f : PlannedField) : Qualifiers :=
  if isTest then learnCustom q f else learnRules (learnCustom q f) f

lemma annotated_extends {isTest : Bool} {f : PlannedField} (hf : f ∈ plan.fields) (q : Qualifiers) :
    Qualifiers.Extends (plan.Registers isTest) q (annotated isTest q f) := by
  have hcustom := (learnCustom_spec hf q isTest).1
  cases isTest with
  | true => exact hcustom
  | false => exact hcustom.trans (learnRules_spec hf _).1

variable (plan) in
lemma qualifiers_eq (isTest : Bool) :
    plan.qualifiers isTest = plan.fields.foldl (annotated isTest) (plan.base isTest) := by
  cases isTest <;> rfl

variable (plan) in
lemma qualifiers_extends (isTest : Bool) :
    Qualifiers.Extends (plan.Registers isTest) (plan.base isTest) (plan.qualifiers isTest) :=
  qualifiers_eq plan isTest ▸ .foldl (fun q _ hf => annotated_extends hf q) _

lemma qualifiers_ignored (isTest : Bool) :
    (plan.qualifiers isTest).ignored = plan.ignored isTest :=
  (qualifiers_extends plan isTest).ignored.trans (isBase plan isTest).ignored

lemma mem_known (isTest : Bool) :
    ∀ entry ∈ (plan.qualifiers isTest).known,
      entry.2.bound = entry.1 ∧ plan.Registers isTest entry.1 entry.2.path := by
  intro entry hentry
  rcases (qualifiers_extends plan isTest).introduced entry hentry with hbase | hnew
  · exact (isBase plan isTest).sound entry hbase
  · exact hnew

/-- Every import is known under the name that its line binds. -/
theorem qualifiers_bindsNames (isTest : Bool) : (plan.qualifiers isTest).BindsNames :=
  fun entry hentry => (mem_known isTest entry hentry).1

/-- A name stands for nothing that it has not been registered for. -/
theorem registers_of_pathOf? {isTest : Bool} {name path : String}
    (h : (plan.qualifiers isTest).pathOf? name = some path) : plan.Registers isTest name path := by
  obtain ⟨i, hlookup, rfl⟩ := Option.map_eq_some_iff.mp h
  obtain ⟨before, after, hknown, -⟩ := List.lookup_eq_some_iff.mp hlookup
  exact (mem_known isTest (name, i) (by simp [hknown])).2

/-- A registered name stands for something, unless it needs no import. -/
theorem exists_pathOf? {isTest : Bool} {name path : String} (h : plan.Registers isTest name path)
    (hnot : name ∉ plan.ignored isTest) :
    ∃ path', (plan.qualifiers isTest).pathOf? name = some path' := by
  suffices hknows : (plan.qualifiers isTest).Knows name by
    obtain ⟨i, hlookup⟩ := Option.isSome_iff_exists.mp hknows
    exact ⟨i.path, by rw [Qualifiers.pathOf?, hlookup]; rfl⟩
  have base := isBase plan isTest
  have hretains := (qualifiers_extends plan isTest).retains
  have hannotated : ∀ {f}, f ∈ plan.fields → (∀ q : Qualifiers, name ∉ q.ignored →
      (annotated isTest q f).Knows name) → (plan.qualifiers isTest).Knows name := by
    intro f hf hknows
    rw [qualifiers_eq]
    refine Qualifiers.Extends.knows_foldl (fun q _ hf => annotated_extends hf q) _ hf fun q h => ?_
    exact hknows q (by rw [h.ignored, base.ignored]; exact hnot)
  cases h with
  | standard h => exact hretains _ (base.standard h)
  | converters => exact hretains _ base.converters
  | module h named foreign => exact hretains _ (base.modules h named foreign)
  | self test => exact hretains _ (base.self test)
  | custom hf h long parsed =>
    refine hannotated hf fun q hq => ?_
    have hknows := (learnCustom_spec hf q isTest).2 _ h _ long parsed hq
    unfold annotated
    split
    · exact hknows
    · exact (learnRules_spec hf _).1.retains _ hknows
  | rule source hf hvalidation h parsed =>
    subst source
    refine hannotated hf fun q hq => ?_
    have hignored := (learnCustom_spec hf q false).1.ignored
    exact (learnRules_spec hf (learnCustom q _)).2 _ hvalidation _ h _ parsed (hignored ▸ hq)

end Laminate.Form.Plan
