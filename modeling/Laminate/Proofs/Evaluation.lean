import Laminate.Generate
import Laminate.Proofs.Encoding
import Laminate.Proofs.Outcome

/-! Plans of given requests, in a form that is fast to evaluate.
A text finds each of its characters by its place among the octets, so the kernel pays the square of
its length for reading it. Planning reads the text of all that a file mentions, for the packages
that it needs; here each of these texts is read in one pass, and the plan is shown to be the
same. -/
namespace Laminate.Text

/-- The characters of a text; where an octet stands for each of them, they are read in one pass. -/
def charsOf (s : String) : List Char :=
  if s.toByteArray.data.toList.all (Nat.blt ·.toNat 128) then
    s.toByteArray.data.toList.map (Char.ofNat ·.toNat)
  else s.toList

lemma octets_eq (s : String) :
    s.toByteArray.data.toList = s.toList.flatMap String.utf8EncodeChar := by
  conv_lhs => rw [← String.ofList_toList (s := s), String.toByteArray_ofList]
  simp [List.utf8Encode]

/-- Octets below 128 are the characters that they encode. -/
lemma map_octets {chars : List Char}
    (h : ∀ b ∈ chars.flatMap String.utf8EncodeChar, b.toNat < 128) :
    (chars.flatMap String.utf8EncodeChar).map (Char.ofNat ·.toNat) = chars := by
  induction chars with
  | nil => rfl
  | cons c chars ih =>
    obtain ⟨b, tail, hoctets, hread⟩ := nextChar_encodeChar c
    rw [List.flatMap_cons, hoctets] at h ⊢
    have hb : b.toNat < 128 := h b List.mem_cons_self
    have hsingle := hread []
    rw [nextChar_one hb, List.append_nil, Prod.mk.injEq, Option.some.injEq] at hsingle
    obtain ⟨hc, rfl⟩ := hsingle
    rw [List.singleton_append] at h ⊢
    rw [List.map_cons, hc, ih fun b hb => h b (List.mem_cons_of_mem _ hb)]

lemma charsOf_eq (s : String) : charsOf s = s.toList := by
  unfold charsOf
  split
  · next hall =>
    rw [octets_eq] at hall ⊢
    exact map_octets fun b hb => Nat.blt_eq.mp (List.all_eq_true.mp hall b hb)
  · rfl

end Laminate.Text

namespace Laminate.Form

open Laminate.Schema Laminate.Code Laminate.Text

namespace Plan

/-- The imports that a mention needs. -/
def Mention.collectOnePass (qualifiers : Qualifiers) (set : ImportSet) :
    Mention → ImportSet × Option GenError
  | type text =>
    let (names, fault) := typeQualifiers (charsOf text)
    match qualifiers.requireAll names set with
    | (set, some e) => (set, some e)
    | (set, none) => (set, fault.map fun t => .code (.unbalancedMap t))
  | expr text => qualifiers.requireAll (scanQualifiers (.code false) (charsOf text)) set
  | package name => qualifiers.requireAll [name] set

lemma Mention.collectOnePass_eq (qualifiers : Qualifiers) (set : ImportSet) (mention : Mention) :
    mention.collectOnePass qualifiers set = mention.collect qualifiers set := by
  cases mention with
  | type text =>
    simp only [collectOnePass, charsOf_eq]
    rfl
  | expr text =>
    simp only [collectOnePass, charsOf_eq]
    rfl
  | package name => rfl

def collectAllOnePass (qualifiers : Qualifiers) :
    List Mention → ImportSet → Except GenError ImportSet
  | [], set => .ok set
  | mention :: rest, set =>
    match mention.collectOnePass qualifiers set with
    | (_, some e) => .error e
    | (set, none) => collectAllOnePass qualifiers rest set

lemma collectAllOnePass_eq (qualifiers : Qualifiers) (mentions : List Mention) (set : ImportSet) :
    collectAllOnePass qualifiers mentions set = collectAll qualifiers mentions set := by
  induction mentions generalizing set with
  | nil => rfl
  | cons mention rest ih =>
    rw [collectAllOnePass, collectAll, Mention.collectOnePass_eq]
    cases mention.collect qualifiers set with
    | mk set fault =>
      cases fault with
      | none => exact ih set
      | some e => rfl

/-- The import lines of every available template. -/
def resolveOnePass (plan : Plan) : Except GenError (List (Template × List Import)) :=
  (Template.all.filter (·.isAvailable plan.settings)).mapM fun t =>
    ((collectAllOnePass (if t.scope = .fixtures then plan.testQualifiers else plan.sourceQualifiers)
      (plan.mentions t.scope ++ t.fixedImports.map Mention.package) {}).map
        ImportSet.sorted).map (t, ·)

lemma resolveOnePass_eq (plan : Plan) : plan.resolveOnePass = plan.resolveImports := by
  unfold resolveOnePass resolveImports templateImports
  simp only [collectAllOnePass_eq]

/-- The plan of a file, whose import lines are still to be found. -/
def unresolved (settings : Settings) (schema : FileSchema) : Except GenError Plan := do
  let bindings ← Bindings.of settings schema
  let planning : Planning := ⟨settings, schema.module, schema.registry, bindings.locations⟩
  let messages ← (schema.messages.filter (·.kind != .unknown)).mapM planning.message
  return {
    fileName := schema.fileName
    module := schema.module
    registry := schema.registry
    settings := settings
    messages := messages
    enums := schema.enums
    methods := bindings.methods
    imports := []
    warnings := schema.warnings ++ bindings.warnings }

def ofOnePass (settings : Settings) (schema : FileSchema) : Except GenError Plan := do
  let plan ← unresolved settings schema
  let imports ← plan.resolveOnePass
  return { plan with imports := imports }

lemma ofOnePass_eq (settings : Settings) (schema : FileSchema) :
    ofOnePass settings schema = Plan.of settings schema := by
  unfold ofOnePass unresolved Plan.of
  simp only [bind_assoc, pure_bind, resolveOnePass_eq]

end Plan

end Laminate.Form

namespace Laminate.Request

open Laminate.Form Laminate.Schema Laminate.Descriptor Laminate.Annotation

variable (request : Request) (settings : Settings) (index : Index) (file : FileDesc)

/-- The plan of a file, with each text read in one pass. -/
def planOnePass : Except GenError Plan :=
  match FileSchema.load settings index request.files file with
  | .error e => .error e
  | .ok schema => Plan.ofOnePass settings schema

lemma plan_eq_planOnePass :
    request.plan settings index file = request.planOnePass settings index file := by
  unfold plan planOnePass
  cases FileSchema.load settings index request.files file with
  | error e => rfl
  | ok schema => exact (Plan.ofOnePass_eq settings schema).symm

end Laminate.Request
