import Laminate.Proofs.Contents

/-! Imports of expressions.
The scan of an expression goes by its characters. It has the packages that the expression was
written for as long as the names in it are of letters, digits and underscores, whatever the texts in
it are. -/
namespace Laminate.Form

open Laminate.Text Laminate.Schema Laminate.Code Laminate.Annotation

/-- The expressions that are made for a module, each with what it is written with. -/
inductive Writing.Makes (w : Writing) : Expr → List Use → Prop
  /-- A field for a field of another layer. -/
  | conversion {field : Field} {names : FieldNames} {direction : Direction} {c : Conversion}
    (h : Converting.conversion ⟨w.settings.converters.name, w.module, w.registry⟩ field names
      direction = .ok c) :
    Makes w c.expr (w.conversion field direction)
  /-- The rules of a field. -/
  | validation {message : Message} {field : Field} {names : FieldNames} {v : Validation}
    (h : Validation.of w.settings message field names = .ok (some v)) :
    Makes w v.expr (w.validation field)
  /-- A field that is read from a parameter of a request. -/
  | parameter {field : Field} {names : FieldNames} {location : Location} {p : ParameterDecode}
    (h : parameterDecode? w.settings.converters.name field names location = some p) :
    Makes w p.expr [.helpers w.settings]
  /-- A struct that is read from the body of a request. -/
  | body {request : Message} {selector : String} {b : BodyDecode}
    (h : bodyDecode? request selector = some b) : Makes w b.expr [.standard "json"]

variable {w : Writing} {e : Expr} {uses : List Use}

/-- An expression looks into nothing but variables, and is written with the packages that it is
made for. -/
lemma Writing.Makes.spec (source : w.isTest = false) (made : w.Makes e uses) :
    Expr.Plain Qualifiers.receivers e ∧
      ∀ q, q ∈ e.packages ↔ ∃ u ∈ uses, u.qualifier = q := by
  cases made with
  | conversion h =>
    have hview : w.view = ⟨w.module, false⟩ := congrArg (Viewpoint.mk w.module) source
    obtain ⟨hpackages, hplain⟩ := conversion_spec hview rfl rfl h
    refine ⟨hplain, fun q => ?_⟩
    rw [hpackages, List.mem_map]
  | validation h =>
    obtain ⟨hplain, rules, hrules, hpackages, -⟩ := rules_spec w h
    refine ⟨hplain, fun q => ?_⟩
    rw [hpackages, Writing.validation, hrules]
  | @parameter field names location p h =>
    have hhelpers : p.helpers = w.settings.converters.name := by
      unfold parameterDecode? at h
      split at h
      · obtain ⟨source, -, rfl⟩ := Option.map_eq_some_iff.mp h
        rfl
      · cases h
    refine ⟨plain_parameter p, fun q => ?_⟩
    rw [packages_parameter, hhelpers]
    simp [Use.helpers, eq_comm]
  | @body request selector b h =>
    refine ⟨plain_body b, fun q => ?_⟩
    rw [packages_body]
    simp [Use.standard, eq_comm]

/-- The scan of a made expression has the packages of the expression, and of other names it has
variables alone. The packages are those of the converters, of the modules, of the rules and of the
standard packages that the expression is made for. -/
theorem scan_expr_packages (source : w.isTest = false) (made : w.Makes e uses)
    (exported : AreExported e.names) (parts : AreParts e.names) {q : String}
    (hq : q ∉ Qualifiers.receivers) :
    (q ∈ exprQualifiers e.render ↔ q ∈ e.packages) ∧
      (q ∈ e.packages ↔ ∃ u ∈ uses, u.qualifier = q) := by
  obtain ⟨hplain, huses⟩ := made.spec source
  have hfinds := hplain.exprQualifiers_finds exported parts
  refine ⟨⟨fun hfound => ?_, fun hmem => hfinds.all hmem⟩, huses q⟩
  exact (List.mem_append.mp (hfinds.only hfound)).resolve_right hq

/-- A field under a condition, with texts that look like code. -/
def mailField : Field where
  name := "mail"
  number := 2
  goName := "Mail"
  kind := .scalar .string
  cardinality := .singular
  message := "UserRequest"
  module := "acme"
  options := { validate := some {
    requiredIf := some { all := [⟨"role", "\", os.Exit(1)"⟩] }
    matching := some { patterns := ["^json.Mail$"] }
    rules := [⟨"email", []⟩, ⟨"in", ["url.URL", "1"]⟩] } }

def mailMessage : Message where
  name := "UserRequest"
  fullName := "acme.UserRequest"
  kind := .request
  names := .derive {} "UserRequest" .request
  members := [
    .surfaced { mailField with name := "role", number := 1, goName := "Role", options := {} },
    .surfaced mailField]
  options := {}

def mailWriting : Writing where
  settings := {}
  module := ⟨"acme", "user", "github.com/acme/user"⟩
  registry := {}

theorem scan_expr_packages_mail :
    ∃ v, Validation.of {} mailMessage mailField (FieldNames.of mailMessage mailField) =
        .ok (some v) ∧
      v.expr.render = "validation.Field(&in.Mail, " ++
        "validation.Required.When(in.Role == \"\\\", os.Exit(1)\"), " ++
        "validation.Match(regexp.MustCompile(`^json.Mail$`)), is.Email, " ++
        "validation.In(\"url.URL\", 1))" ∧
      ∀ q ∉ Qualifiers.receivers, q ∈ exprQualifiers v.expr.render ↔
        q = "validation" ∨ q = "regexp" ∨ q = "is" := by
  have h : (Validation.of {} mailMessage mailField
      (FieldNames.of mailMessage mailField)).toOption.any (fun result => result.any fun v =>
        decide (v.expr.render = "validation.Field(&in.Mail, " ++
          "validation.Required.When(in.Role == \"\\\", os.Exit(1)\"), " ++
          "validation.Match(regexp.MustCompile(`^json.Mail$`)), is.Email, " ++
          "validation.In(\"url.URL\", 1))") &&
        decide (AreExported v.expr.names) && decide (AreParts v.expr.names)) = true := by
    decide +kernel
  obtain ⟨result, hresult, hany⟩ := exists_of_check h
  obtain ⟨v, rfl, hcheck⟩ := (Option.any_eq_true _ _).mp hany
  simp only [Bool.and_eq_true, decide_eq_true_eq] at hcheck
  obtain ⟨⟨hrender, exported⟩, parts⟩ := hcheck
  refine ⟨v, hresult, hrender, fun q hq => ?_⟩
  obtain ⟨hscan, huses⟩ := scan_expr_packages (w := mailWriting) rfl (.validation hresult)
    exported parts hq
  have hqualifiers : (mailWriting.validation mailField).map (·.qualifier) =
      ["validation", "regexp", "is", "validation"] := by
    decide
  rw [hscan, huses, ← List.mem_map, hqualifiers]
  simp only [List.mem_cons, List.not_mem_nil, or_false]
  constructor
  · rintro (h | h | h | h) <;> simp [h]
  · rintro (h | h | h) <;> simp [h]

/-- A message that is called by a name with a letter for which there is no upper-case one. -/
def caronField : Field where
  name := "item"
  number := 1
  goName := "Item"
  kind := .message ⟨".acme.ItemWire", ⟨"acme", "ItemWire", true, "shop"⟩, .wire,
    .derive {} "ItemWire" .wire, false⟩
  cardinality := .singular
  message := "MakeRequest"
  module := "acme"
  options := { domain := some { name := "ǰan" } }

/-- Names of other characters mislead the scan. Where a letter and its mark make up an upper-case
letter, what comes after the mark is taken for a package; a quotation mark in the name of a rule
hides the packages after it. -/
theorem scan_expr_misled :
    (∃ c, Converting.conversion ⟨"convert", ⟨"acme", "shop", "github.com/acme/shop"⟩, {}⟩ caronField
        (FieldNames.of { mailMessage with members := [.surfaced caronField] } caronField)
        .inboundToWire = .ok c ∧
      c.expr.packages = [] ∧ AreExported c.expr.names ∧
      "an" ∉ Qualifiers.receivers ∧ "an" ∈ exprQualifiers c.expr.render) ∧
    ∃ v, Validation.of
        { rules := { name := "odd", package := "rules", function := "A\"" } :: builtinRules }
        mailMessage { mailField with options := { validate := some {
          rules := [⟨"odd", []⟩, ⟨"email", []⟩] } } }
        (FieldNames.of mailMessage mailField) = .ok (some v) ∧
      AreExported v.expr.names ∧
      "is" ∉ Qualifiers.receivers ∧ "is" ∈ v.expr.packages ∧
        "is" ∉ exprQualifiers v.expr.render := by
  have hconversion : (Converting.conversion
      ⟨"convert", ⟨"acme", "shop", "github.com/acme/shop"⟩, {}⟩ caronField
      (FieldNames.of { mailMessage with members := [.surfaced caronField] } caronField)
      .inboundToWire).toOption.any (fun c => decide (c.expr.packages = []) &&
        decide (AreExported c.expr.names) && decide ("an" ∈ exprQualifiers c.expr.render)) =
      true := by
    decide +kernel
  have hvalidation : (Validation.of
      { rules := { name := "odd", package := "rules", function := "A\"" } :: builtinRules }
      mailMessage { mailField with options := { validate := some {
        rules := [⟨"odd", []⟩, ⟨"email", []⟩] } } }
      (FieldNames.of mailMessage mailField)).toOption.any (fun result => result.any fun v =>
        decide (AreExported v.expr.names) && decide ("is" ∈ v.expr.packages) &&
          decide ("is" ∉ exprQualifiers v.expr.render)) = true := by
    decide +kernel
  constructor
  · obtain ⟨c, hc, hcheck⟩ := exists_of_check hconversion
    simp only [Bool.and_eq_true, decide_eq_true_eq] at hcheck
    exact ⟨c, hc, hcheck.1.1, hcheck.1.2, by decide, hcheck.2⟩
  · obtain ⟨result, hresult, hany⟩ := exists_of_check hvalidation
    obtain ⟨v, rfl, hcheck⟩ := (Option.any_eq_true _ _).mp hany
    simp only [Bool.and_eq_true, decide_eq_true_eq] at hcheck
    exact ⟨v, hresult, hcheck.1.1, by decide, hcheck.1.2, hcheck.2⟩

end Laminate.Form
