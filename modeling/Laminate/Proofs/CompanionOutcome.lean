import Laminate.Proofs.Outcome
import Laminate.Template.Render

/-! What becomes of the companion file. Its names and types are tried in the order of the fields,
and nothing is written before all of them are found good. Where every name is, the file only fails
unreported for a type that has been read and has no layout. -/
namespace Laminate.Companion

open Laminate.Form

variable {read : String → Option Doc} {plan : Plan}

/-! ### Structs -/

section

variable {m : PlannedMessage} {f : PlannedField} {domain : Code.TypeRef}

lemma mem_typed :
    (f, domain) ∈ (m.fields.filterMap fun f => f.domain.map (f, ·)) ↔
      f ∈ m.fields ∧ f.domain = some domain := by
  simp only [List.mem_filterMap, Option.map_eq_some_iff, Prod.mk.injEq]
  constructor
  · rintro ⟨g, hg, type, htype, rfl, rfl⟩
    exact ⟨hg, htype⟩
  · rintro ⟨hf, hdomain⟩
    exact ⟨f, hf, domain, hdomain, rfl, rfl⟩

/-- The texts of the types in a message's struct. -/
def typeTexts (m : PlannedMessage) : List String :=
  m.fields.filterMap fun f => f.domain.map fun domain => (TypeExpr.ofType domain).text

lemma mem_typeTexts {text : String} :
    text ∈ typeTexts m ↔
      ∃ f ∈ m.fields, ∃ domain, f.domain = some domain ∧ (TypeExpr.ofType domain).text = text := by
  simp [typeTexts]

lemma layout_of_ok {field : StructField} (h : StructField.of read f domain = .ok field) :
    read (TypeExpr.ofType domain).text = some field.layout := by
  unfold StructField.of at h
  split at h
  · cases h
  · dsimp only at h
    split at h
    · cases h
    · next layout hlayout =>
      cases h
      exact hlayout

lemma exists_structField (hname : (fieldName? f.names.domain).isSome = true)
    (hread : (read (TypeExpr.ofType domain).text).isSome = true) :
    ∃ field, StructField.of read f domain = .ok field := by
  obtain ⟨name, hname⟩ := Option.isSome_iff_exists.mp hname
  obtain ⟨layout, hlayout⟩ := Option.isSome_iff_exists.mp hread
  exact ⟨_, by simp only [StructField.of, hname, hlayout]; rfl⟩

lemma fieldName?_of_unspeakable (h : StructField.of read f domain = .error .unspeakable) :
    fieldName? f.names.domain = none := by
  unfold StructField.of at h
  split at h
  · next hname => exact hname
  · simp only at h
    split at h <;> cases h

/-- A struct is called by its message, and its fields have the types of the message's as these are
read. -/
lemma struct_of_ok {s : Struct} (h : Struct.of read m = .ok s) :
    s.name = m.message.names.domain ∧
      (∀ text ∈ typeTexts m, ∃ field ∈ s.fields, read text = some field.layout) ∧
      ∀ field ∈ s.fields, ∃ text ∈ typeTexts m, read text = some field.layout := by
  unfold Struct.of at h
  dsimp only at h
  split at h
  · cases h
  · next name hname =>
    obtain ⟨fields, hfields, rfl⟩ := map_eq_ok.mp h
    replace hfields := mapM_eq_ok.mp hfields
    refine ⟨?_, fun text htext => ?_, fun field hfield => ?_⟩
    · unfold typeName? at hname
      split at hname <;> cases hname
      rfl
    · obtain ⟨f, hf, domain, hdomain, rfl⟩ := mem_typeTexts.mp htext
      obtain ⟨field, hmem, hof⟩ := exists_of_forall₂_mem hfields (mem_typed.mpr ⟨hf, hdomain⟩)
      exact ⟨field, hmem, layout_of_ok hof⟩
    · obtain ⟨⟨f, domain⟩, hmem, hof⟩ := exists_of_mem_forall₂ hfields hfield
      obtain ⟨hf, hdomain⟩ := mem_typed.mp hmem
      exact ⟨_, mem_typeTexts.mpr ⟨f, hf, domain, hdomain, rfl⟩, layout_of_ok hof⟩

lemma exists_struct (hname : (typeName? m.message.names.domain).isSome = true)
    (hfields : ∀ f ∈ m.fields, (fieldName? f.names.domain).isSome = true)
    (hread : ∀ text ∈ typeTexts m, (read text).isSome = true) :
    ∃ s, Struct.of read m = .ok s := by
  obtain ⟨name, hname⟩ := Option.isSome_iff_exists.mp hname
  obtain ⟨fields, hok⟩ : ∃ fields, (m.fields.filterMap fun f => f.domain.map (f, ·)).mapM
      (fun typed => StructField.of read typed.1 typed.2) = .ok fields := by
    refine mapM_isOk.mpr fun ⟨f, domain⟩ hmem => ?_
    obtain ⟨hf, hdomain⟩ := mem_typed.mp hmem
    exact exists_structField (hfields f hf)
      (hread _ (mem_typeTexts.mpr ⟨f, hf, domain, hdomain, rfl⟩))
  exact ⟨_, by simp only [Struct.of, hname, hok]; rfl⟩

lemma exists_of_struct_unspeakable (h : Struct.of read m = .error .unspeakable) :
    typeName? m.message.names.domain = none ∨
      ∃ f ∈ m.fields, fieldName? f.names.domain = none := by
  unfold Struct.of at h
  simp only at h
  split at h
  · next hname => exact .inl hname
  · obtain ⟨before, ⟨f, type⟩, after, hsplit, -, hfield⟩ := mapM_eq_error.mp (map_eq_error.mp h)
    have hmem : (f, type) ∈ m.fields.filterMap fun f => f.domain.map (f, ·) := by
      rw [hsplit]
      simp
    exact .inr ⟨f, (mem_typed.mp hmem).1, fieldName?_of_unspeakable hfield⟩

end

/-! ### The file -/

lemma structsBy_eq_ok {structs : List Struct} :
    structsBy read plan = .ok structs ↔
      plan.domainMessages.mapM (Struct.of read) = .ok structs ∧
        ∀ s ∈ structs, s.name ∉ reservedWords := by
  unfold structsBy
  split
  · next e he => simp [he]
  · next made hmade =>
    rw [hmade]
    split
    · next hreserved =>
      refine iff_of_false nofun ?_
      rintro ⟨heq, hfree⟩
      obtain rfl := Except.ok.inj heq
      obtain ⟨s, hs, hname⟩ := List.any_eq_true.mp hreserved
      exact hfree s hs (List.contains_iff_mem.mp hname)
    · next hfree =>
      refine ⟨fun h => ⟨h, ?_⟩, And.left⟩
      obtain rfl := Except.ok.inj h
      simpa using hfree

lemma fileTextBy_eq_ok {text : String} :
    fileTextBy read plan = .ok text ↔
      ∃ structs, structsBy read plan = .ok structs ∧ structs.all Struct.isPrintable = true ∧
        text = "// " ++ Code.SourceFile.notice ++ "\n// source: " ++ plan.fileName ++ "\n\n" ++
          String.join (structs.map Struct.text) := by
  unfold fileTextBy
  cases structsBy read plan with
  | error e => exact iff_of_false nofun fun ⟨_, hstructs, _⟩ => nomatch hstructs
  | ok structs =>
    dsimp only
    constructor
    · intro h
      split at h
      · next hprintable => exact ⟨structs, rfl, hprintable, (Except.ok.inj h).symm⟩
      · cases h
    · rintro ⟨_, hstructs, hprintable, rfl⟩
      obtain rfl := Except.ok.inj hstructs
      exact if_pos hprintable

lemma fileTextBy_eq_unspeakable :
    fileTextBy read plan = .error .unspeakable ↔
      structsBy read plan = .error .unspeakable ∨
        ∃ structs, structsBy read plan = .ok structs ∧ structs.all Struct.isPrintable = false := by
  unfold fileTextBy
  cases structsBy read plan with
  | error e => simp
  | ok structs =>
    cases hprintable : structs.all Struct.isPrintable <;>
      simp only [hprintable, if_true, if_false, Bool.false_eq_true, reduceCtorEq, false_or,
        Except.ok.injEq, exists_eq_left']

/-- Everything in a companion file is accepted and some type of it has no layout. -/
structure IsStuck (read : String → Option Doc) (plan : Plan) : Prop where
  unreserved : ∀ m ∈ plan.domainMessages, m.message.names.domain ∉ reservedWords
  readable : ∀ m ∈ plan.domainMessages, ∀ text ∈ typeTexts m, (read text).isSome = true
  verbatim : ∃ m ∈ plan.domainMessages, ∃ text ∈ typeTexts m, ∃ layout,
    read text = some layout ∧ layout.isPrintable = false

/-- The names of a companion file are identifiers. -/
def IsSpeakable (plan : Plan) : Prop :=
  ∀ m ∈ plan.domainMessages, (typeName? m.message.names.domain).isSome = true ∧
    ∀ f ∈ m.fields, (fieldName? f.names.domain).isSome = true

lemma structsBy_ne_unspeakable (h : IsSpeakable plan) :
    structsBy read plan ≠ .error .unspeakable := by
  intro hfault
  unfold structsBy at hfault
  split at hfault
  · next e he =>
    cases hfault
    obtain ⟨before, m, after, hsplit, -, hstruct⟩ := mapM_eq_error.mp he
    obtain ⟨hname, hfields⟩ := h m (by rw [hsplit]; simp)
    rcases exists_of_struct_unspeakable hstruct with hnone | ⟨f, hf, hnone⟩
    · simp [hnone] at hname
    · simpa [hnone] using hfields f hf
  · split at hfault <;> cases hfault

lemma structsBy_isOk (h : IsSpeakable plan)
    (unreserved : ∀ m ∈ plan.domainMessages, m.message.names.domain ∉ reservedWords)
    (readable : ∀ m ∈ plan.domainMessages, ∀ text ∈ typeTexts m, (read text).isSome = true) :
    ∃ structs, structsBy read plan = .ok structs := by
  obtain ⟨structs, hmade⟩ : ∃ structs, plan.domainMessages.mapM (Struct.of read) = .ok structs :=
    mapM_isOk.mpr fun m hm => exists_struct (h m hm).1 (h m hm).2 (readable m hm)
  refine ⟨structs, structsBy_eq_ok.mpr ⟨hmade, fun s hs => ?_⟩⟩
  obtain ⟨m, hm, hof⟩ := exists_of_mem_forall₂ (mapM_eq_ok.mp hmade) hs
  rw [(struct_of_ok hof).1]
  exact unreserved m hm

/-- Where every name is an identifier, a companion file fails unreported just where it is stuck. -/
theorem fileTextBy_unspeakable_iff (h : IsSpeakable plan) :
    fileTextBy read plan = .error .unspeakable ↔ IsStuck read plan := by
  rw [fileTextBy_eq_unspeakable, or_iff_right (structsBy_ne_unspeakable h)]
  constructor
  · rintro ⟨structs, hstructs, hall⟩
    obtain ⟨hmade, hfree⟩ := structsBy_eq_ok.mp hstructs
    replace hmade := mapM_eq_ok.mp hmade
    refine ⟨fun m hm => ?_, fun m hm text htext => ?_, ?_⟩
    · obtain ⟨s, hs, hof⟩ := exists_of_forall₂_mem hmade hm
      rw [← (struct_of_ok hof).1]
      exact hfree s hs
    · obtain ⟨s, hs, hof⟩ := exists_of_forall₂_mem hmade hm
      obtain ⟨field, -, hread⟩ := (struct_of_ok hof).2.1 text htext
      simp [hread]
    · obtain ⟨s, hs, hprint⟩ := List.all_eq_false.mp hall
      obtain ⟨field, hfield, hlayout⟩ := List.all_eq_false.mp (eq_false_of_ne_true hprint)
      obtain ⟨m, hm, hof⟩ := exists_of_mem_forall₂ hmade hs
      obtain ⟨text, htext, hread⟩ := (struct_of_ok hof).2.2 field hfield
      exact ⟨m, hm, text, htext, _, hread, eq_false_of_ne_true hlayout⟩
  · rintro ⟨unreserved, readable, m, hm, text, htext, layout, hread, hlayout⟩
    obtain ⟨structs, hstructs⟩ := structsBy_isOk h unreserved readable
    refine ⟨structs, hstructs, ?_⟩
    obtain ⟨s, hs, hof⟩ :=
      exists_of_forall₂_mem (mapM_eq_ok.mp (structsBy_eq_ok.mp hstructs).1) hm
    obtain ⟨field, hfield, hsame⟩ := (struct_of_ok hof).2.1 text htext
    obtain rfl := Option.some.inj (hread.symm.trans hsame)
    refine List.all_eq_false.mpr ⟨s, hs, ?_⟩
    rw [Struct.isPrintable, Bool.not_eq_true, List.all_eq_false]
    exact ⟨field, hfield, by simp [hlayout]⟩

/-- Of the files of a plan only the companion file fails so. -/
theorem files_unspeakable_iff :
    plan.files = .error .unspeakable ↔
      .companion ∈ plan.written ∧ fileText plan = .error .unspeakable := by
  constructor
  · intro h
    obtain ⟨before, t, after, hsplit, -, htext⟩ := mapM_eq_error.mp h
    replace htext := map_eq_error.mp htext
    have hmem : t ∈ plan.written := by
      rw [hsplit]
      simp
    cases t with
    | companion => exact ⟨hmem, htext⟩
    | _ => cases htext
  · rintro ⟨hmem, htext⟩
    cases hfiles : plan.files with
    | ok files =>
      -- the text of the companion file would be among the files
      obtain ⟨file, -, hfile⟩ := exists_of_forall₂_mem (mapM_eq_ok.mp hfiles) hmem
      obtain ⟨text, hok, -⟩ := map_eq_ok.mp hfile
      exact absurd (htext.symm.trans hok) nofun
    | error e =>
      obtain ⟨before, t, after, -, -, hfault⟩ := mapM_eq_error.mp hfiles
      replace hfault := map_eq_error.mp hfault
      cases t with
      | companion => exact congrArg _ (Except.error.inj (hfault.symm.trans htext))
      | _ => cases hfault

end Laminate.Companion
