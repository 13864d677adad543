import Mathlib.Data.List.Nodup
import Mathlib.Data.List.ProdSigma
import Laminate.Proofs.SettingEffects

/-! Names of the files of a response.
Each is that of a template for a generated file, and it tells both. -/
namespace Laminate

open Descriptor Annotation Form

/-! ### What a name tells -/

namespace Template

lemma outputName_proto (t : Template) (stem : String) :
    t.outputName (stem ++ ".proto") = stem ++ t.ending := by
  have hstem : Text.dropTail? ".proto" (stem ++ ".proto") = some stem := by
    unfold Text.dropTail?
    rw [List.isSuffixOf?_eq_some_iff_append_eq.mpr String.toList_append.symm]
    simp
  unfold outputName
  rw [hstem]
  cases t <;> simp [ending, name, String.append_assoc]

/-- Names for schema files tell the template and the file. -/
lemma outputName_inj {t t' : Template} {file file' : String}
    (hfile : ∃ stem, file = stem ++ ".proto") (hfile' : ∃ stem, file' = stem ++ ".proto")
    (h : t.outputName file = t'.outputName file') : t = t' ∧ file = file' := by
  obtain ⟨stem, rfl⟩ := hfile
  obtain ⟨stem', rfl⟩ := hfile'
  rw [outputName_proto, outputName_proto] at h
  by_cases ht : t = t'
  · subst ht
    rw [(String.append_left_inj _).mp h]
    exact ⟨rfl, rfl⟩
  · exact absurd h (Text.append_ne_of_endApart (endings_apart ht) stem stem')

lemma nodup_all : all.Nodup := by decide

end Template

/-! ### Names of a plan, of a file and of a run -/

lemma FileSchema.fileName_of_load {settings : Settings} {index : Index} {files : List FileDesc}
    {file : FileDesc} {schema : FileSchema} (h : load settings index files file = .ok schema) :
    schema.fileName = file.name := by
  unfold load at h
  by_cases hname : (Schema.Module.ofFile file).goName.isEmpty
  · simp [hname] at h
  · simp only [hname, bind_eq_ok, pure_eq_ok, Bool.false_eq_true, if_false] at h
    obtain ⟨symbols, -, trees, -, services, -, rfl⟩ := h
    rfl

lemma Form.Plan.names_of_ok {plan : Plan} {files : List OutputFile} (h : plan.files = .ok files) :
    files.map (·.name) = plan.written.map (·.outputName plan.fileName) := by
  refine map_eq_of_forall₂ (mapM_eq_ok.mp h) fun t file hfile => ?_
  obtain ⟨content, -, rfl⟩ := map_eq_ok.mp hfile
  rfl

namespace Request

variable {request : Request} {settings : Settings} {index : Index}

/-- The files for a file are those of some templates, in the order of all templates. -/
lemma names_of_outputs {name : String} {files : List OutputFile}
    (h : request.outputs settings index name = .ok files) :
    ∃ templates : List Template, templates.Sublist Template.all ∧
      files.map (·.name) = templates.map (·.outputName name) := by
  unfold outputs at h
  split at h
  · cases h
  · next file hfile =>
    have hname : file.name = name := by simpa using List.find?_some hfile
    split at h
    · cases h
    · next plan hplan =>
      obtain ⟨schema, hload, hof⟩ := plan_ok hplan
      have hplanned : plan.fileName = name :=
        (Plan.of_ok hof).2.2.2.1.trans ((FileSchema.fileName_of_load hload).trans hname)
      refine ⟨plan.written, List.filter_sublist, ?_⟩
      rw [Plan.names_of_ok h, hplanned]

/-- The files for some files go through these, and for each through some templates. -/
lemma names_of_mapM {names : List String} {outs : List (List OutputFile)}
    (h : List.Forall₂ (fun name out => request.outputs settings index name = .ok out) names outs) :
    ∃ pairs : List (String × Template), pairs.Sublist (names ×ˢ Template.all) ∧
      outs.flatten.map (·.name) = pairs.map fun pair => pair.2.outputName pair.1 := by
  induction h with
  | nil => exact ⟨[], List.nil_sublist _, rfl⟩
  | @cons name out names outs hout _ ih =>
    obtain ⟨templates, hsub, hnames⟩ := names_of_outputs hout
    obtain ⟨pairs, hpairs, hrest⟩ := ih
    refine ⟨templates.map (name, ·) ++ pairs, ?_, ?_⟩
    · rw [List.product_cons]
      exact (hsub.map _).append hpairs
    · rw [List.flatten_cons, List.map_append, hnames, hrest, List.map_append, List.map_map]
      rfl

/-- Generated files that have names of their own, each that of a schema file, make for a response
whose files have names of their own, whatever the settings are. -/
theorem outputNames_nodup {response : Response} (distinct : request.generate.Nodup)
    (proto : ∀ name ∈ request.generate, ∃ stem, name = stem ++ ".proto")
    (h : request.run index = .ok response) : (response.files.map (·.name)).Nodup := by
  unfold run at h
  split at h
  · cases h
  · split at h
    · cases h
    · obtain ⟨outs, houts, rfl⟩ := map_eq_ok.mp h
      obtain ⟨pairs, hpairs, hnames⟩ := names_of_mapM (mapM_eq_ok.mp houts)
      have hnodup : pairs.Nodup := (distinct.product Template.nodup_all).sublist hpairs
      have hproto : ∀ pair ∈ pairs, ∃ stem, pair.1 = stem ++ ".proto" := fun pair hpair =>
        proto pair.1 (List.mem_product.mp (hpairs.subset hpair)).1
      rw [hnames]
      refine hnodup.map_on fun pair hpair pair' hpair' heq => ?_
      obtain ⟨ht, hname⟩ := Template.outputName_inj (hproto pair hpair) (hproto pair' hpair') heq
      exact Prod.ext hname ht

end Request

/-- Two files of one package, of which one is called like a file of the other. -/
def layeredRequest : Request where
  files := [
    { packageFile "user" "acme"
        [.node { name := "UserWire",
                 fields := [{ name := "name", number := 1, type := .string }] } []] with
      name := "user.proto" },
    { packageFile "user" "acme"
        [.node { name := "TeamWire",
                 fields := [{ name := "name", number := 1, type := .string }] } []] with
      name := "user.domain.proto" }]
  parameter := some "strict=false,addons=fixtures+rust"
  generate := ["user.proto", "user.domain.proto"]

/-- With all addons and without strictness, two files of which one is called like a file of the
other are written under ten names. -/
theorem layered_outputNames_nodup :
    ∃ response, layeredRequest.run {} = .ok response ∧
      response.files.map (·.name) = ["user.domain.strata.go", "user.domain_convert.strata.go",
        "user.outbound.strata.go", "user_domain.rs", "user.fixtures.strata_test.go",
        "user.domain.domain.strata.go", "user.domain.domain_convert.strata.go",
        "user.domain.outbound.strata.go", "user.domain_domain.rs",
        "user.domain.fixtures.strata_test.go"] ∧
      (response.files.map (·.name)).Nodup := by
  have h : (layeredRequest.run {}).toOption.any (fun response =>
      decide (response.files.map (·.name) = ["user.domain.strata.go",
        "user.domain_convert.strata.go", "user.outbound.strata.go", "user_domain.rs",
        "user.fixtures.strata_test.go", "user.domain.domain.strata.go",
        "user.domain.domain_convert.strata.go", "user.domain.outbound.strata.go",
        "user.domain_domain.rs", "user.domain.fixtures.strata_test.go"])) = true := by
    decide +kernel
  obtain ⟨response, hresponse, hnames⟩ := exists_of_check h
  refine ⟨response, hresponse, of_decide_eq_true hnames, ?_⟩
  refine Request.outputNames_nodup (by decide) ?_ hresponse
  intro name hname
  rcases List.mem_pair.mp hname with rfl | rfl
  · exact ⟨"user", by decide⟩
  · exact ⟨"user.domain", by decide⟩

end Laminate
