import Laminate.Proofs.Planning
import Laminate.Proofs.Tokens
import Laminate.Proofs.Typing

/-! The packages that generated code is written with, and where it has them from.
A qualifier comes with the path of the package that it is meant for: of the module in which a type
lies, of the helpers, of a reference in an annotation, or of the standard package. -/
namespace Laminate.Form

open Laminate.Text Laminate.Schema Laminate.Code Laminate.Annotation

/-- A qualifier as it is written, with the path of the package that it is written for. A name of a
module that is not registered has no path. -/
structure Use where
  qualifier : String
  path : Option String
  deriving Repr, DecidableEq, Inhabited

namespace Use

/-- A package that the generator always uses under one name. -/
def standard (name : String) : Use := ⟨name, (Qualifiers.standard.lookup name).map (·.path)⟩

def helpers (settings : Settings) : Use := ⟨settings.converters.name, settings.converters.path⟩

def reference (r : Reference) : Use := ⟨r.package, r.path⟩

/-- A rule of its own reference, or a built-in one. -/
def rule (rule : Rule) : Use :=
  ⟨rule.package, match rule.reference with
    | some text => (Reference.parse? text).map (·.path)
    | none => (standard rule.package).path⟩

/-- An empty qualifier is not written. -/
def written (u : Use) : List Use := if u.qualifier.isEmpty then [] else [u]

end Use

/-- What code of a module's package, or of its tests, is written with. -/
structure Writing where
  settings : Settings
  module : Module
  registry : Registry
  isTest : Bool := false

namespace Writing

variable (w : Writing)

/-- A type or function of some module. -/
def place (place : Placement) : List Use :=
  if place.isLocal then
    if w.isTest then Use.written ⟨w.module.goName, w.module.goPath⟩ else []
  else Use.written ⟨place.goName, (w.registry.find? place.module).map (·.goPath)⟩

/-- One element outside the wire layer. -/
def element : FieldKind → List Use
  | .wellKnown .timestamp => [.standard "time"]
  | .message target => w.place target.placement
  | _ => []

/-- The type of a field in a layer other than the wire layer. -/
def type (field : Field) (layer : Layer) : List Use :=
  if layer = .outbound then
    if field.bitflag?.isSome then []
    else match customType field with
      | .ok (some custom) => Use.written (.reference custom)
      | _ => w.element field.kind
  else w.element field.kind

/-- The helper that lifts a converter. -/
def lift (field : Field) : List Use :=
  if (liftOf field).helper.isSome then [.helpers w.settings] else []

/-- The conversion of a field by its kind. -/
def kind (field : Field) : List Use :=
  match field.kind with
  | .scalar _ => []
  | .enum _ place => w.lift field ++ w.place place
  | .wellKnown _ => w.lift field ++ [.helpers w.settings]
  | .message target =>
    if (liftOf field).helper.isSome then .helpers w.settings :: w.place target.placement else []

/-- The table of an enum's names. -/
def table (enum : String) : List Use :=
  let name := dropLeading '.' enum
  if name.toList.contains '.' then w.place (w.registry.place w.module ("." ++ name)) else []

/-- The conversion of a field in a direction. -/
def conversion (field : Field) (direction : Direction) : List Use :=
  if direction = .wireToOutbound then
    match field.bitflag? with
    | some bitflag => .helpers w.settings :: w.table bitflag.enum
    | none => match customBind field with
      | .ok (some custom) => w.lift field ++ [.reference custom]
      | _ => w.kind field
  else w.kind field

end Writing

/-! ### Types -/

section

variable {w : Writing} {field : Field} {layer : Layer} {type : TypeRef}

/-- How types are seen from where they are written. -/
def Writing.view (w : Writing) : Viewpoint := ⟨w.module, w.isTest⟩

lemma packages_toPointer (t : TypeRef) : t.toPointer.packages = t.packages := by
  cases t <;> rfl

lemma packages_raise (t : TypeRef) (cardinality : Cardinality) :
    (raise t cardinality).packages = t.packages := by
  cases cardinality with
  | optional => exact packages_toPointer t
  | _ => rfl

lemma packages_qualified (u : Use) (name : String) :
    (TypeRef.qualified u.qualifier name).packages = (Use.written u).map (·.qualifier) := by
  unfold TypeRef.packages Use.written
  split <;> rfl

lemma packages_typeAt (w : Writing) (place : Placement) (name : String) :
    (w.view.typeAt place name).packages = (w.place place).map (·.qualifier) := by
  unfold Viewpoint.typeAt Writing.place Writing.view
  split
  · split
    · exact packages_qualified ⟨w.module.goName, w.module.goPath⟩ name
    · rfl
  · exact packages_qualified ⟨place.goName, (w.registry.find? place.module).map (·.goPath)⟩ name

lemma packages_element (w : Writing) (hlayer : layer ≠ .wire) (kind : FieldKind) :
    (w.view.element layer kind).packages = (w.element kind).map (·.qualifier) := by
  cases kind with
  | scalar scalar => rfl
  | enum typeName place => simp [Viewpoint.element, hlayer, TypeRef.packages, Writing.element]
  | wellKnown type => cases type <;> simp [Viewpoint.element, wellKnownType, hlayer,
      TypeRef.packages, Writing.element, TypeRef.time, TypeRef.genericMap, TypeRef.toPointer,
      Use.standard]
  | message target =>
    rw [Viewpoint.element, packages_toPointer, packages_typeAt]
    rfl

/-- A field's type is written with the packages of its element, of its annotation or of none. -/
lemma packages_typeOf (hlayer : layer ≠ .wire) (h : w.view.typeOf field layer = .ok type) :
    type.packages = (w.type field layer).map (·.qualifier) := by
  have hplain : (w.view.plainType field layer).packages =
      (w.element field.kind).map (·.qualifier) := by
    unfold Viewpoint.plainType
    dsimp only
    split
    · exact packages_element w hlayer field.kind
    · rw [packages_raise, packages_element w hlayer]
  unfold Viewpoint.typeOf at h
  unfold Writing.type
  split at h
  · next houtbound =>
    rw [if_pos houtbound]
    split at h
    · next hflag =>
      cases h
      rw [if_pos hflag]
      rfl
    · next hflag =>
      rw [if_neg hflag]
      cases hcustom : customType field with
      | error e => simp [hcustom] at h
      | ok custom =>
        cases custom with
        | none =>
          simp only [hcustom, Except.ok.injEq] at h
          exact h ▸ hplain
        | some custom =>
          simp only [hcustom, Except.ok.injEq] at h
          rw [← h, packages_raise]
          exact packages_qualified (.reference custom) custom.name
  · next houtbound =>
    cases h
    rw [if_neg houtbound]
    exact hplain

end

/-! ### Conversions -/

section

variable {helpers : String} {lift : Lift} {source : Expr} {vars : List String}

/-- The function of a converter. -/
def Converter.packages (lifted : Bool) : Converter → List String
  | .identity => []
  | .function callee => callee.packages
  | .method owner _ => if lifted then owner.packages else []

lemma packages_lifted (converter : Converter) (hsource : source.packages = []) :
    (converter.lifted helpers lift source).packages =
      (if lift.helper.isSome && converter.asFunction.isSome then [helpers] else []) ++
        converter.packages lift.helper.isSome := by
  unfold Converter.lifted
  cases lift.helper with
  | none => cases converter <;>
    simp [Converter.apply, Expr.packages, Expr.packagesAll, hsource, Converter.packages]
  | some helper => cases converter <;>
    simp [Converter.asFunction, Expr.packages, Expr.packagesAll, hsource, Converter.packages]

/-- Callees that are names of this package or of another one. -/
inductive Converter.IsNamed : Converter → Prop
  | identity : IsNamed .identity
  | function (package name : String) : IsNamed (.function (.inPackage package name))
  | member (package name : String) : IsNamed (.function (.member package name))
  | method (owner : TypeRef) (name : String) : IsNamed (.method owner name)

lemma plain_inPackage (package name : String) : Expr.Plain vars (.inPackage package name) := by
  unfold Expr.inPackage
  split
  · exact .ident name
  · exact .member package name

/-- A converter applied to a field looks into nothing but the variable that has the field. -/
lemma plain_lifted {converter : Converter} (named : converter.IsNamed)
    (hclosed : source.isClosed = true) (hsource : Expr.Plain vars source) :
    Expr.Plain vars (converter.lifted helpers lift source) := by
  have hcall : ∀ {f : Expr} {args : List Expr}, Expr.Plain vars f →
      (∀ e ∈ args, Expr.Plain vars e) → Expr.Plain vars (.call f args) :=
    fun hf hargs => .call hf hargs
  unfold Converter.lifted
  cases lift.helper with
  | none =>
    cases named with
    | identity => exact hsource
    | function package name => exact hcall (plain_inPackage _ _) (by simpa using hsource)
    | member package name => exact hcall (.member _ _) (by simpa using hsource)
    | method owner name => exact hcall (.select hclosed hsource _) (by simp)
  | some helper =>
    cases named with
    | identity => exact hsource
    | function package name =>
      exact hcall (.member _ _) (by simpa using ⟨hsource, plain_inPackage _ _⟩)
    | member package name =>
      exact hcall (.member _ _) (by simpa using ⟨hsource, .member package name⟩)
    | method owner name =>
      exact hcall (.member _ _) (by simpa using ⟨hsource, .methodOf owner name⟩)

end

section

variable {w : Writing} {c : Converting} {field : Field} {direction : Direction} {names : FieldNames}

lemma packages_inPackage (u : Use) (name : String) :
    (Expr.inPackage u.qualifier name).packages = (Use.written u).map (·.qualifier) := by
  unfold Expr.inPackage Use.written
  split <;> rfl

/-- A name of a module is written with the module's package, as its types are. -/
lemma packages_place (hw : w.isTest = false) (place : Placement) (name : String) :
    (Expr.inPackage place.qualifier name).packages = (w.place place).map (·.qualifier) := by
  unfold Writing.place Placement.qualifier
  cases place.isLocal with
  | true => simp [hw, Expr.inPackage, Expr.packages]
  | false =>
    exact packages_inPackage ⟨place.goName, (w.registry.find? place.module).map (·.goPath)⟩ name

lemma elementConverter_isNamed (field : Field) (direction : Direction) :
    (c.elementConverter field direction).IsNamed := by
  unfold Converting.elementConverter
  cases field.kind with
  | scalar scalar => exact .identity
  | enum typeName place => exact .function _ _
  | wellKnown type => cases type <;> exact .member _ _
  | message target => exact .method _ _

/-- A conversion by kind is written with the helpers, if it calls any, and with the package of the
enum or of the message whose method it passes on. -/
lemma packages_kind (hw : w.view = ⟨c.module, false⟩)
    (hhelpers : w.settings.converters.name = c.helpers) {source : Expr}
    (hsource : source.packages = []) :
    ((c.elementConverter field direction).lifted c.helpers (liftOf field) source).packages =
      (w.kind field).map (·.qualifier) := by
  have htest : w.isTest = false := congrArg Viewpoint.isTest hw
  have hlift : (w.lift field).map (·.qualifier) =
      if (liftOf field).helper.isSome then [c.helpers] else [] := by
    unfold Writing.lift
    split
    · rw [← hhelpers]
      rfl
    · rfl
  rw [packages_lifted _ hsource]
  unfold Converting.elementConverter Writing.kind
  cases field.kind with
  | scalar scalar => simp [Converter.asFunction, Converter.packages]
  | enum typeName place =>
    simp only [Converter.asFunction, Converter.packages, packages_place htest, List.map_append,
      hlift, Option.isSome_some, Bool.and_true]
  | wellKnown type =>
    have hhelper : (Use.helpers w.settings).qualifier = c.helpers := hhelpers
    cases type <;> simp [Converter.asFunction, Converter.packages, hlift, hhelper, Expr.packages]
  | message target =>
    have howner :
        (Viewpoint.element ⟨c.module, false⟩ direction.source (.message target)).packages =
          (w.place target.placement).map (·.qualifier) := by
      rw [Viewpoint.element, packages_toPointer, ← hw, packages_typeAt]
    simp only [Converter.asFunction, Converter.packages, howner, Option.isSome_some, Bool.and_true]
    split
    · simp [Use.helpers, hhelpers]
    · rfl

lemma packages_table (hw : w.view = ⟨c.module, false⟩) (hregistry : w.registry = c.registry)
    (enum name : String) :
    (Expr.inPackage (c.bitflagEnum enum).1 name).packages = (w.table enum).map (·.qualifier) := by
  have htest : w.isTest = false := congrArg Viewpoint.isTest hw
  have hmodule : w.module = c.module := congrArg Viewpoint.module hw
  unfold Converting.bitflagEnum Writing.table
  dsimp only
  split
  · rw [packages_place htest, hregistry, hmodule]
  · rfl

/-- A conversion is written with the packages of the functions that it calls or passes on, and
looks into the variable that it converts from. -/
lemma conversion_spec (hw : w.view = ⟨c.module, false⟩)
    (hhelpers : w.settings.converters.name = c.helpers) (hregistry : w.registry = c.registry)
    {conversion : Conversion} (h : c.conversion field names direction = .ok conversion) :
    conversion.expr.packages = (w.conversion field direction).map (·.qualifier) ∧
      Expr.Plain Qualifiers.receivers conversion.expr := by
  obtain ⟨hname, hsource, hstep⟩ := conversion_ok h
  have hpackages : conversion.source.packages = [] := by rw [hsource]; rfl
  have hclosed : conversion.source.isClosed = true := by rw [hsource]; rfl
  have hplain : Expr.Plain Qualifiers.receivers conversion.source := by
    rw [hsource]
    exact .selectVariable (by cases direction <;> decide) _
  have hkind : ∀ {step}, c.kindStep field direction = .ok step → conversion.step = step →
      conversion.expr.packages = (w.kind field).map (·.qualifier) ∧
        Expr.Plain Qualifiers.receivers conversion.expr := by
    intro step hstep heq
    obtain ⟨rfl, -⟩ := kindStep_ok hstep
    unfold Conversion.expr
    simp only [heq, hname]
    exact ⟨packages_kind hw hhelpers hpackages,
      plain_lifted (elementConverter_isNamed field direction) hclosed hplain⟩
  unfold Writing.conversion
  split at hstep
  · next hdirection =>
    subst hdirection
    rw [if_pos rfl]
    unfold Converting.outboundStep at hstep
    cases hflag : field.bitflag? with
    | some bitflag =>
      simp only [hflag, Except.ok.injEq] at hstep
      unfold Conversion.expr
      simp only [← hstep, hname, Converting.bitflagStep]
      constructor
      · simp [Expr.packages, Expr.packagesAll, hpackages, packages_table hw hregistry, Use.helpers,
          hhelpers]
      · refine .call (.member _ _) ?_
        simpa using ⟨hplain, plain_inPackage _ _, .text _⟩
    | none =>
      simp only [hflag] at hstep
      cases hbind : customBind field with
      | error e => simp [hbind] at hstep
      | ok custom =>
        cases custom with
        | some custom =>
          simp only [hbind, Except.ok.injEq] at hstep
          unfold Conversion.expr
          simp only [← hstep, hname]
          refine ⟨?_, plain_lifted (.member _ _) hclosed hplain⟩
          rw [packages_lifted _ hpackages]
          simp only [Converter.asFunction, Converter.packages, Option.isSome_some, Bool.and_true,
            Expr.packages, List.map_append, Writing.lift]
          split
          · simp [Use.helpers, Use.reference, hhelpers]
          · rfl
        | none =>
          simp only [hbind] at hstep
          cases htype : customType field with
          | error e => simp [htype] at hstep
          | ok custom =>
            cases custom with
            | some custom => simp [htype] at hstep
            | none =>
              simp only [htype] at hstep
              exact hkind hstep rfl
  · next hdirection =>
    rw [if_neg hdirection]
    exact hkind hstep rfl

end

end Laminate.Form
