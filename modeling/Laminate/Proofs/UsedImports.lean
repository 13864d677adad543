import Laminate.Proofs.Bodies
import Laminate.Proofs.Evaluation
import Laminate.Proofs.Imports

/-! The import block of a file, against the declarations after it.
Every name that is looked up for a file is in a type or an expression that the file itself holds, so
no line of the block is for nothing. -/
namespace Laminate.Code

open Laminate.Form.Plan

/-- The types and the expressions of a declaration, as they are scanned. -/
def Decl.mentions (d : Decl) : List Mention :=
  (d.typeTexts ++ d.results).map .type ++ (d.exprTexts ++ d.callees).map .expr

namespace Decl

variable {d : Decl}

/-- A name that a scan of a closed declaration finds stands in its text as a qualifier. -/
lemma exists_embeds (h : d.isClosed = true) {mention : Mention} (hmention : mention ∈ d.mentions)
    {name : String} (hname : name ∈ mention.names) :
    ∃ text before, Embeds d.chars text ∧ QualifiesAt text name before ∧ Closes before := by
  rcases List.mem_append.mp hmention with hmention | hmention
  · obtain ⟨text, htext, rfl⟩ := List.mem_map.mp hmention
    obtain ⟨before, hbefore⟩ := exists_qualifiesAt_of_type hname
    refine ⟨text.toList, before, embeds_chars h (.inl htext), hbefore, lex_code fun c hc => ?_⟩
    obtain ⟨-, after, heq⟩ := hbefore
    exact isPlain_iff.mp (isPlain_of_isClosed h htext) c (by rw [heq]; simp [hc])
  · obtain ⟨text, htext, rfl⟩ := List.mem_map.mp hmention
    obtain ⟨before, hbefore, hlex, -⟩ := exists_qualifiesAt_of_scan (s := .code false) trivial
      (isTidy_of_isClosed h htext) hname
    exact ⟨text.toList, before, embeds_chars h (.inr htext), hbefore, hlex⟩

end Decl

/-! ### Files -/

namespace SourceFile

variable (file : SourceFile)

/-- The text of a file up to its declarations. -/
def head : List Char := (file.header ++ importBlock file.imports).flatMap Line.chars

/-- The text of the declarations of a file. -/
def body : List Char := file.decls.flatMap Decl.chars

/-- Each part of a file closes what it opens. -/
def isClosed : Bool := lex .code file.head == .code && file.decls.all Decl.isClosed

variable {file}

lemma text_eq : file.text = String.ofList (file.head ++ file.body) := by
  rw [text, lines, head, body, List.flatMap_append, List.flatMap_assoc]
  rfl

/-- A name that a scan of a declaration finds is a qualifier in the body of a closed file. -/
theorem qualifies (h : file.isClosed = true) {d : Decl} (hd : d ∈ file.decls) {mention : Mention}
    (hmention : mention ∈ d.mentions) {name : String} (hname : name ∈ mention.names) :
    Qualifies file.head file.body name := by
  rw [isClosed, Bool.and_eq_true, List.all_eq_true] at h
  obtain ⟨text, before, hembeds, hbefore, hcloses⟩ := Decl.exists_embeds (h.2 d hd) hmention hname
  have hbody : Embeds file.body text :=
    Embeds.flatMap (fun d hd => Decl.closes_chars (h.2 d hd)) ⟨d, hd, hembeds⟩
  exact hbody.qualifies (beq_iff_eq.mp h.1) hbefore hcloses

end SourceFile

/-- A line of an import block binds a name that is looked up. -/
lemma Qualifiers.Collected.bound_mem {qualifiers : Qualifiers} {names : List String}
    {set : ImportSet} (collected : qualifiers.Collected names set) (binds : qualifiers.BindsNames)
    {i : Import} (h : i ∈ set.sorted) : i.bound ∈ names := by
  obtain ⟨name, hmem, -, hlookup⟩ := collected.exists_of_mem_sorted h
  rw [Qualifiers.bound_of_lookup binds hlookup]
  exact hmem

end Laminate.Code

namespace Laminate.Form

open Laminate.Schema Laminate.Code Laminate.Descriptor Laminate.Annotation

namespace Plan

section

variable {fields : List PlannedField} {f : PlannedField}

lemma mem_structField {type? : PlannedField → Option TypeRef} {name : PlannedField → String}
    {tag : PlannedField → List TagPart} (hf : f ∈ fields) {type : TypeRef}
    (h : type? f = some type) :
    type.text ∈ (fields.filterMap fun f =>
      (type? f).map fun t => Template.structField (name f) t (tag f)).map (·.type) :=
  List.mem_map.mpr ⟨Template.structField (name f) type (tag f),
    List.mem_filterMap.mpr ⟨f, hf, by rw [h]; rfl⟩, rfl⟩

lemma mem_entry {conversion? : PlannedField → Option Conversion} {name : PlannedField → String}
    (hf : f ∈ fields) {c : Conversion} (h : conversion? f = some c) :
    c.expr.render ∈ (fields.filterMap fun f =>
      (conversion? f).map (Template.entry (name f))).map (·.2) :=
  List.mem_map.mpr ⟨Template.entry (name f) c,
    List.mem_filterMap.mpr ⟨f, hf, by rw [h]; rfl⟩, rfl⟩

end

section

variable {d : Decl} {text : String}

lemma mem_mentions_type (h : text ∈ d.typeTexts ++ d.results) : .type text ∈ d.mentions :=
  List.mem_append_left _ (List.mem_map_of_mem h)

lemma mem_mentions_expr (h : text ∈ d.exprTexts ++ d.callees) : .expr text ∈ d.mentions :=
  List.mem_append_right _ (List.mem_map_of_mem h)

lemma mem_mentions_method {doc receiver owner name target : String}
    {entries : List (String × String)} (h : text ∈ entries.map (·.2)) :
    .expr text ∈ (Template.conversionMethod doc receiver owner name target entries).mentions :=
  mem_mentions_expr (by simpa [Template.conversionMethod, Decl.exprTexts, Stmt.exprTexts,
    Decl.callees, Stmt.callees] using h)

end

variable {plan : Plan} {t : Template} {mention : Mention}

/-- The rules of a message are in the function that checks it, which calls their package. -/
lemma exists_validate {m : PlannedMessage}
    (h : mention ∈ m.validations.map (fun v => .ofExpr v.expr) ++
      if m.validations.isEmpty then [] else [.package "validation"]) :
    ∃ d ∈ Template.inboundDecls m, ∃ written ∈ d.mentions, mention.names ⊆ written.names := by
  have hbody : m.validations ≠ [] → Template.validateBody m =
      .retCall "validation.ValidateStruct" "in" (m.validations.map fun v => v.expr.render) :=
    fun hne => if_neg fun hempty => hne (List.isEmpty_iff.mp hempty)
  refine ⟨_, List.mem_cons_of_mem _ List.mem_cons_self, ?_⟩
  rcases List.mem_append.mp h with h | h
  · obtain ⟨v, hv, rfl⟩ := List.mem_map.mp h
    refine ⟨_, mem_mentions_expr (List.mem_append_left _ ?_), List.Subset.refl _⟩
    rw [hbody (List.ne_nil_of_mem hv)]
    simpa [Decl.exprTexts, Stmt.exprTexts] using ⟨v, hv, rfl⟩
  · rw [List.mem_ite_nil_left, List.isEmpty_iff, List.mem_singleton] at h
    obtain ⟨hne, rfl⟩ := h
    refine ⟨.expr "validation.ValidateStruct", mem_mentions_expr (List.mem_append_right _ ?_), ?_⟩
    · rw [hbody hne]
      exact List.mem_singleton_self _
    · have hnames : (Mention.expr "validation.ValidateStruct").names = ["validation"] := by decide
      rw [hnames]
      exact List.Subset.refl _

lemma exists_decode {m : BoundMethod}
    (h : mention ∈ (m.body.map fun b => Mention.ofExpr b.expr).toList ++
      m.params.map fun p => .ofExpr p.expr) :
    ∃ text ∈ Template.decodeStatements m, mention = .expr text := by
  rcases List.mem_append.mp h with h | h
  · obtain ⟨b, hb, rfl⟩ := Option.map_eq_some_iff.mp (Option.mem_toList.mp h)
    exact ⟨b.expr.render, List.mem_append_left _ (by simp [hb]), rfl⟩
  · obtain ⟨p, hp, rfl⟩ := List.mem_map.mp h
    exact ⟨p.expr.render, List.mem_append_right _ (List.mem_map_of_mem hp), rfl⟩

/-- What is looked up for a file is in a declaration of the file, or is the package of a function
that a declaration calls. -/
lemma exists_decl (h : mention ∈ plan.mentions t.scope) :
    ∃ d ∈ Template.decls plan t, ∃ written ∈ d.mentions, mention.names ⊆ written.names := by
  have hself : ∀ {d : Decl} {mention : Mention}, d ∈ Template.decls plan t →
      mention ∈ d.mentions →
      ∃ d ∈ Template.decls plan t, ∃ written ∈ d.mentions, mention.names ⊆ written.names :=
    fun hd hmention => ⟨_, hd, _, hmention, List.Subset.refl _⟩
  cases t with
  | enums => cases h
  | companion => cases h
  | domain =>
    obtain ⟨m, hm, h⟩ := List.mem_flatMap.mp h
    obtain ⟨f, hf, h⟩ := List.mem_flatMap.mp h
    obtain ⟨type, htype, rfl⟩ := Option.map_eq_some_iff.mp (Option.mem_toList.mp h)
    refine hself (List.mem_flatMap.mpr ⟨m, hm, List.mem_cons_self⟩) ?_
    exact mem_mentions_type (List.mem_append_left _ (mem_structField hf htype))
  | domainConvert =>
    obtain ⟨m, hm, h⟩ := List.mem_flatMap.mp h
    obtain ⟨f, hf, h⟩ := List.mem_flatMap.mp h
    obtain ⟨conversion, hconversion, h⟩ := List.mem_filterMap.mp h
    obtain ⟨c, rfl, rfl⟩ := Option.map_eq_some_iff.mp h
    have hdecls : ∀ d ∈ Template.domainConvertDecls m, d ∈ Template.decls plan .domainConvert :=
      fun d hd => List.mem_flatMap.mpr ⟨m, hm, hd⟩
    simp only [List.mem_cons, List.not_mem_nil, or_false] at hconversion
    rcases hconversion with hc | hc
    · refine hself (hdecls _ List.mem_cons_self) ?_
      exact mem_mentions_method (mem_entry hf hc.symm)
    · refine hself (hdecls _ (List.mem_cons_of_mem _ List.mem_cons_self)) ?_
      exact mem_mentions_method (mem_entry hf hc.symm)
  | outbound =>
    obtain ⟨m, hm, h⟩ := List.mem_flatMap.mp h
    obtain ⟨f, hf, h⟩ := List.mem_flatMap.mp h
    replace hf := List.mem_of_mem_filter hf
    have hdecls : ∀ d ∈ Template.outboundDecls m, d ∈ Template.decls plan .outbound :=
      fun d hd => List.mem_flatMap.mpr ⟨m, hm, hd⟩
    rcases List.mem_append.mp h with h | h
    · obtain ⟨type, htype, rfl⟩ := Option.map_eq_some_iff.mp (Option.mem_toList.mp h)
      refine hself (hdecls _ List.mem_cons_self) ?_
      exact mem_mentions_type (List.mem_append_left _ (mem_structField hf htype))
    · obtain ⟨c, hc, rfl⟩ := Option.map_eq_some_iff.mp (Option.mem_toList.mp h)
      refine hself (hdecls _ (List.mem_cons_of_mem _ List.mem_cons_self)) ?_
      exact mem_mentions_method (mem_entry hf hc)
  | inbound =>
    obtain ⟨m, hm, h⟩ := List.mem_flatMap.mp h
    have hdecls : ∀ d ∈ Template.inboundDecls m, d ∈ Template.decls plan .inbound :=
      fun d hd => List.mem_flatMap.mpr ⟨m, hm, hd⟩
    rw [List.append_assoc, List.mem_append] at h
    rcases h with h | h
    · obtain ⟨f, hf, h⟩ := List.mem_flatMap.mp h
      rcases List.mem_append.mp h with h | h
      · obtain ⟨type, htype, rfl⟩ := Option.map_eq_some_iff.mp (Option.mem_toList.mp h)
        refine hself (hdecls _ List.mem_cons_self) ?_
        exact mem_mentions_type (List.mem_append_left _ (mem_structField hf htype))
      · obtain ⟨c, hc, rfl⟩ := Option.map_eq_some_iff.mp (Option.mem_toList.mp h)
        refine hself (hdecls _ (List.mem_cons_of_mem _
          (List.mem_cons_of_mem _ List.mem_cons_self))) ?_
        exact mem_mentions_method (mem_entry hf hc)
    · obtain ⟨d, hd, hwritten⟩ := exists_validate h
      exact ⟨d, hdecls d hd, hwritten⟩
  | http =>
    obtain ⟨m, hm, h⟩ := List.mem_flatMap.mp h
    have hdecls : ∀ d ∈ Template.routeDecls m, d ∈ Template.decls plan .http :=
      fun d hd => List.mem_flatMap.mpr ⟨m, hm, hd⟩
    have hdecode := hdecls _ (List.mem_cons_of_mem _ (List.mem_cons_of_mem _ List.mem_cons_self))
    rcases List.mem_cons.mp h with rfl | h
    · exact hself hdecode (mem_mentions_type (List.mem_append_left _ (List.mem_singleton_self _)))
    · obtain ⟨text, htext, rfl⟩ := exists_decode h
      refine hself hdecode (mem_mentions_expr (List.mem_append_left _ ?_))
      simpa [Decl.exprTexts, Stmt.exprTexts, List.flatMap_map] using htext
  | fixtures =>
    obtain ⟨m, hm, h⟩ := List.mem_flatMap.mp h
    have hdecl := List.mem_map_of_mem (f := Template.fixtureDecl plan.module.goName
      ((plan.importsOf .fixtures).map Template.importName)) hm
    rcases List.mem_cons.mp h with rfl | h
    · refine hself hdecl (mem_mentions_type (List.mem_append_right _ ?_))
      simp [Template.fixtureDecl, Decl.results, String.append_assoc]
    · obtain ⟨f, hf, h⟩ := List.mem_flatMap.mp h
      obtain ⟨type, htype, rfl⟩ := Option.map_eq_some_iff.mp (Option.mem_toList.mp h)
      refine hself hdecl (mem_mentions_type (List.mem_append_left _ ?_))
      simp only [Template.fixtureDecl, Decl.typeTexts, List.map_map, List.mem_map,
        List.mem_filterMap, Option.map_eq_some_iff]
      exact ⟨_, ⟨f, hf, type, htype, rfl⟩, rfl⟩

/-- A name that is looked up for a file is found in a declaration of the file. -/
lemma exists_mention {name : String} (h : name ∈ plan.lookedUp t) :
    ∃ d ∈ Template.decls plan t, ∃ mention ∈ d.mentions, name ∈ mention.names := by
  obtain ⟨mention, hmention, hname⟩ := List.mem_flatMap.mp h
  obtain ⟨d, hd, written, hwritten, hnames⟩ := exists_decl hmention
  exact ⟨d, hd, written, hwritten, hnames hname⟩

end Plan

section

variable {request : Request} {settings : Settings} {index : Index} {home : FileDesc} {plan : Plan}
  {t : Template}

/-- What each line of an import block is for. An import is known under the name that its line binds,
and this name is found in a type or an expression that the file itself holds. Where no part of the
file leaves a literal or a comment open, the name stands before a dot in the body of the file,
outside literals and comments. -/
theorem imports_used (hplan : request.plan settings index home = .ok plan)
    (ht : t ∈ plan.written) :
    (∀ isTest, ∀ entry ∈ (plan.qualifiers isTest).known, entry.2.bound = entry.1) ∧
      (t ≠ .companion → t.text plan = .ok (String.ofList
        ((Template.sourceFile plan t).head ++ (Template.sourceFile plan t).body))) ∧
      ∀ i ∈ (Template.sourceFile plan t).imports,
        (∃ d ∈ (Template.sourceFile plan t).decls, ∃ mention ∈ d.mentions,
          i.bound ∈ mention.names) ∧
        ((Template.sourceFile plan t).isClosed = true →
          Qualifies (Template.sourceFile plan t).head (Template.sourceFile plan t).body
            i.bound) := by
  obtain ⟨schema, -, hof⟩ := plan_ok hplan
  obtain ⟨-, -, -, -, -, -, resolved⟩ := Plan.of_ok hof
  have available : t.isAvailable plan.settings = true :=
    (Bool.and_eq_true_iff.mp (List.mem_filter.mp ht).2).1
  obtain ⟨set, collected, himports⟩ := Plan.importsOf_spec resolved available
  have himports : (Template.sourceFile plan t).imports = set.sorted := himports
  have hscanned : ∀ i ∈ (Template.sourceFile plan t).imports,
      ∃ d ∈ (Template.sourceFile plan t).decls, ∃ mention ∈ d.mentions,
        i.bound ∈ mention.names := by
    intro i hi
    rw [himports] at hi
    exact Plan.exists_mention (collected.bound_mem (Plan.qualifiers_bindsNames _) hi)
  refine ⟨Plan.qualifiers_bindsNames, fun hcompanion => ?_, fun i hi => ⟨hscanned i hi, ?_⟩⟩
  · rw [← SourceFile.text_eq]
    cases t with
    | companion => exact absurd rfl hcompanion
    | _ => rfl
  · intro hclosed
    obtain ⟨d, hd, mention, hmention, hbound⟩ := hscanned i hi
    exact SourceFile.qualifies hclosed hd hmention hbound

end

/-! ### Requests -/

/-- A message with a time, and a request with a field that must be present. -/
def registeredRequest : Request where
  files := [packageFile "user" "acme"
    [.node
      { name := "UserWire"
        fields :=
          [{ name := "since", type := .message, typeName := ".google.protobuf.Timestamp" }] } [],
      .node
        { name := "UserRequest"
          fields :=
            [{ name := "name"
               type := .string
               options :=
                [{ name := [⟨fieldExtension, true⟩, ⟨"validate", false⟩, ⟨"required", false⟩]
                   identifier := some "true" }] }] } []]]
  generate := []

/-- Each line of an import block is for something in the body of its file. -/
theorem imports_qualify :
    ∃ plan, registeredRequest.plan {} {} registeredRequest.files[0] = .ok plan ∧
      ∀ used ∈ [(Template.domain, "time"), (.domainConvert, "convert"), (.inbound, "validation")],
        used.1 ∈ plan.written ∧
          (Template.sourceFile plan used.1).imports.map Import.bound = [used.2] ∧
          Qualifies (Template.sourceFile plan used.1).head (Template.sourceFile plan used.1).body
            used.2 := by
  have h : (registeredRequest.plan {} {} registeredRequest.files[0]).toOption.any (fun plan =>
      [(Template.domain, "time"), (.domainConvert, "convert"), (.inbound, "validation")].all
        fun used => decide (used.1 ∈ plan.written) &&
          decide ((Template.sourceFile plan used.1).imports.map Import.bound = [used.2]) &&
          (Template.sourceFile plan used.1).isClosed) = true := by
    rw [Request.plan_eq_planOnePass]
    decide +kernel
  obtain ⟨plan, hplan, hcheck⟩ := exists_of_check h
  refine ⟨plan, hplan, fun used hused => ?_⟩
  have hone := List.all_eq_true.mp hcheck used hused
  simp only [Bool.and_eq_true, decide_eq_true_eq] at hone
  obtain ⟨⟨hwritten, hnames⟩, hclosed⟩ := hone
  obtain ⟨i, hi, hbound⟩ := List.mem_map.mp (hnames ▸ List.mem_singleton_self used.2)
  refine ⟨hwritten, hnames, ?_⟩
  rw [← hbound]
  exact ((imports_used hplan hwritten).2.2 i hi).2 hclosed

/-- Two messages, the first of which brings code that opens a literal. -/
def openedRequest : Request where
  files := [packageFile "user" "acme"
    [.node
      { name := "NoteWire"
        options :=
          [{ name := [⟨messageExtension, true⟩, ⟨"custom_code", false⟩]
             text := some "const note = `".toUTF8.toList }] } [],
      .node
        { name := "UserWire"
          fields :=
            [{ name := "since", type := .message, typeName := ".google.protobuf.Timestamp" }] }
        []]]
  generate := []

/-- A literal that custom code leaves open goes on to the next one, and what is imported stands in
it. -/
theorem imports_unused :
    ∃ plan, openedRequest.plan {} {} openedRequest.files[0] = .ok plan ∧ .domain ∈ plan.written ∧
      ∃ i ∈ (Template.sourceFile plan .domain).imports,
        Hides (Template.sourceFile plan .domain).head (Template.sourceFile plan .domain).body
          i.bound := by
  have h : (openedRequest.plan {} {} openedRequest.files[0]).toOption.any (fun plan =>
      decide (.domain ∈ plan.written) &&
        decide ((Template.sourceFile plan .domain).imports.map Import.bound = ["time"]) &&
        decide (Hides (Template.sourceFile plan .domain).head
          (Template.sourceFile plan .domain).body "time")) = true := by
    rw [Request.plan_eq_planOnePass]
    decide +kernel
  obtain ⟨plan, hplan, hcheck⟩ := exists_of_check h
  simp only [Bool.and_eq_true, decide_eq_true_eq] at hcheck
  obtain ⟨⟨hwritten, hnames⟩, hhides⟩ := hcheck
  obtain ⟨i, hi, hbound⟩ := List.mem_map.mp (hnames ▸ List.mem_singleton_self "time")
  exact ⟨plan, hplan, hwritten, i, hi, hbound ▸ hhides⟩

end Laminate.Form
