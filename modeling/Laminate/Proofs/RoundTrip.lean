import Laminate.Proofs.Evaluation
import Laminate.Proofs.Mirror

/-! Running the conversions between wire and domain forms.
Helpers, lifters and structs are interpreted freely; the methods are those that are generated. What
a run knows of a value reaches down to a depth, below which values stay as they are. -/
namespace Laminate.Form

open Laminate.Schema Laminate.Code Laminate.Descriptor Laminate.Annotation

/-- A meaning for what generated code is made of. -/
structure Interpretation (V : Type) where
  nil : V
  isNil : V → Bool
  /-- The field of a struct behind a pointer. -/
  get : V → String → V
  /-- A pointer to a new struct of a type. -/
  make : String → List (String × V) → V
  function : Expr → V → V
  lift : Expr → (V → V) → V → V

namespace Interpretation

variable {V : Type} (I : Interpretation V)

/-- A callee that is passed on; methods are given by name. -/
def callee (methods : String → V → V) : Expr → V → V
  | .methodOf _ name => methods name
  | f => I.function f

/-- The value of an expression over variables, under the methods of the type at hand. -/
def eval (methods : String → V → V) (holders : String → V) : Expr → V
  | .select (.ident holder) name => I.get (holders holder) name
  | .call f [e] => I.callee methods f (eval methods holders e)
  | .call helper [e, f] => I.lift helper (I.callee methods f) (eval methods holders e)
  | .call (.select e name) [] => methods name (eval methods holders e)
  | _ => I.nil

/-- The value that a lifted function gives. -/
def lifted (helpers : String) (lift : Lift) (f : V → V) : V → V :=
  match lift.helper with
  | none => f
  | some helper => I.lift (.member helpers helper) f

/-- Partners undo each other, lifters are functors, and a struct holds what it is made of. -/
structure IsLawful (helpers : String) : Prop where
  isNil_iff (v : V) : I.isNil v = true ↔ v = I.nil
  make_ne_nil (type : String) (entries : List (String × V)) : I.make type entries ≠ I.nil
  get_make (type : String) (entries : List (String × V)) (key : String) (v : V) :
    (key, v) ∈ entries → (∀ w, (key, w) ∈ entries → w = v) → I.get (I.make type entries) key = v
  partners (f g : Expr) : Partners helpers f g → ∀ v, I.function g (I.function f v) = v
  lift_id (helper : String) : helper ∈ lifters → ∀ v, I.lift (.member helpers helper) id v = v
  lift_comp (helper : String) : helper ∈ lifters → ∀ f g v,
    I.lift (.member helpers helper) g (I.lift (.member helpers helper) f v) =
      I.lift (.member helpers helper) (g ∘ f) v

section

variable {I} {helpers : String} (lawful : I.IsLawful helpers)

include lawful

lemma lifted_id (lift : Lift) (v : V) : I.lifted helpers lift id v = v := by
  unfold lifted
  cases hhelper : lift.helper with
  | none => rfl
  | some helper => exact lawful.lift_id helper (helper_mem_lifters hhelper) v

lemma lifted_comp (lift : Lift) (f g : V → V) (v : V) :
    I.lifted helpers lift g (I.lifted helpers lift f v) = I.lifted helpers lift (g ∘ f) v := by
  unfold lifted
  cases hhelper : lift.helper with
  | none => rfl
  | some helper => exact lawful.lift_comp helper (helper_mem_lifters hhelper) f g v

end

/-- A converter as a function. -/
def converted (methods : String → V → V) : Converter → V → V
  | .identity => id
  | .function f => I.callee methods f
  | .method _ name => methods name

/-- An expression that applies a converter through a lift has the value of the lifted function. -/
lemma eval_lifted {helpers : String} (hlift : ∀ helper ∈ lifters, ∀ v,
      I.lift (.member helpers helper) id v = v)
    (methods : String → V → V) (holders : String → V) (converter : Converter) (lift : Lift)
    (holder name : String) :
    I.eval methods holders (converter.lifted helpers lift (.select (.ident holder) name)) =
      I.lifted helpers lift (I.converted methods converter) (I.get (holders holder) name) := by
  unfold Converter.lifted lifted
  cases hhelper : lift.helper with
  | none => cases converter <;> rfl
  | some helper =>
    cases converter with
    | identity => exact (hlift helper (helper_mem_lifters hhelper) _).symm
    | function f => rfl
    | method owner method => rfl

end Interpretation

/-! ### Programs -/

namespace PlannedField

variable (f : PlannedField)

/-- The type that a field of messages refers to. -/
def refersTo : String :=
  match f.field.kind with
  | .message target => target.typeName
  | _ => ""

/-- The identifier that a direction assigns to. -/
def assigned : Direction → String
  | .wireToDomain => f.names.domain
  | .wireToOutbound => f.names.outbound
  | .domainToWire | .inboundToWire => f.field.goName

end PlannedField

/-- The message of a type among those of a program. -/
def messageOf? (program : List PlannedMessage) (typeName : String) : Option PlannedMessage :=
  program.find? fun m => "." ++ m.message.fullName == typeName

namespace Interpretation

variable {V : Type} (I : Interpretation V)

/-- The methods that lead from wire to domain forms and back, by name. -/
def methodsOf (run : Direction → V → V) (name : String) : V → V :=
  if name = "IntoDomain" then run .wireToDomain
  else if name = "IntoWire" then run .domainToWire
  else id

/-- What a direction's method makes of a struct, under the methods of the types of its fields. -/
def body (run : Direction → String → V → V) (direction : Direction) (m : PlannedMessage) (v : V) :
    V :=
  I.make (m.message.names.inLayer direction.target) (m.fields.filterMap fun f =>
    (f.conversions.along direction).map fun conversion =>
      (f.assigned direction,
        I.eval (methodsOf fun direction => run direction f.refersTo) (fun _ => v)
          conversion.expr))

/-- The method of a direction on a type of the program, run to a depth. Nil stays nil. -/
def run (program : List PlannedMessage) : Nat → Direction → String → V → V
  | 0, _, _, v => v
  | depth + 1, direction, typeName, v =>
    match messageOf? program typeName with
    | none => v
    | some m => if I.isNil v then I.nil else I.body (run program depth) direction m v

section

variable {I} {program : List PlannedMessage} {typeName : String} (depth : Nat)
  (direction : Direction)

lemma run_other (h : messageOf? program typeName = none) (v : V) :
    I.run program (depth + 1) direction typeName v = v := by
  simp [run, h]

lemma run_nil {m : PlannedMessage} (h : messageOf? program typeName = some m) {v : V}
    (hnil : I.isNil v = true) : I.run program (depth + 1) direction typeName v = I.nil := by
  simp [run, h, hnil]

lemma run_struct {m : PlannedMessage} (h : messageOf? program typeName = some m) {v : V}
    (hnil : I.isNil v = false) :
    I.run program (depth + 1) direction typeName v =
      I.body (I.run program depth) direction m v := by
  simp [run, h, hnil]

end

/-- What a field holds, with the messages among it treated by a function of their type. -/
def within (helpers : String) (inner : String → V → V) (f : PlannedField) (v : V) : V :=
  if f.field.isMessage then I.lifted helpers (liftOf f.field) (inner f.refersTo) v else v

/-- A message rebuilt from its surfaced fields, and so are the messages in it down to a depth. -/
def surface (helpers : String) (program : List PlannedMessage) : Nat → String → V → V
  | 0, _, v => v
  | depth + 1, typeName, v =>
    match messageOf? program typeName with
    | none => v
    | some m =>
      if I.isNil v then I.nil
      else I.make m.message.names.wire (m.fields.map fun f =>
        (f.field.goName, I.within helpers (surface helpers program depth) f
          (I.get v f.field.goName)))

section

variable {I} {helpers : String} {suffixes : Suffixes}

lemma callee_of_partners {f g : Expr} (h : Partners helpers f g) (methods : String → V → V) :
    I.callee methods f = I.function f ∧ I.callee methods g = I.function g := by
  cases h with
  | enum place =>
    unfold Expr.inPackage
    split <;> exact ⟨rfl, rfl⟩
  | _ => exact ⟨rfl, rfl⟩

/-- Read from where the one conversion has put its value, the other conversion gives back what the
field held, with its messages led there and back. -/
lemma eval_back (lawful : I.IsLawful helpers) {f : PlannedField} {converter converter' : Converter}
    (paired : Paired helpers suffixes f.field.kind converter converter')
    (run : Direction → String → V → V) {v v' : V} {key : String}
    (held : I.get v' f.names.domain =
      I.eval (methodsOf fun direction => run direction f.refersTo) (fun _ => v)
        (converter.lifted helpers (liftOf f.field) (.select (.ident "w") key))) :
    I.eval (methodsOf fun direction => run direction f.refersTo) (fun _ => v')
        (converter'.lifted helpers (liftOf f.field) (.select (.ident "d") f.names.domain)) =
      I.within helpers (fun type v => run .domainToWire type (run .wireToDomain type v)) f
        (I.get v key) := by
  rw [eval_lifted I lawful.lift_id, held, eval_lifted I lawful.lift_id,
    lifted_comp lawful]
  unfold within Field.isMessage
  generalize hkind : f.field.kind = kind at paired
  cases paired with
  | identity scalar => exact lifted_id lawful _ _
  | @function _ out back single partners =>
    obtain ⟨hf, hg⟩ := callee_of_partners (I := I) partners
      (methodsOf fun direction => run direction f.refersTo)
    have hcomp :
        I.converted (methodsOf fun direction => run direction f.refersTo) (.function back) ∘
          I.converted (methodsOf fun direction => run direction f.refersTo) (.function out) =
            id := by
      funext x
      simp only [converted, hf, hg, Function.comp]
      exact lawful.partners _ _ partners x
    rw [hcomp, lifted_id lawful]
    split
    · next target => exact absurd rfl (single target)
    · rfl
  | method target => rfl

/-- A struct that a method has made holds, under a name of its own, what the conversion gives. -/
lemma get_body (lawful : I.IsLawful helpers) {m : PlannedMessage} (direction : Direction)
    (distinct : (m.fields.map (·.assigned direction)).Nodup) {f : PlannedField} (hf : f ∈ m.fields)
    {conversion : Conversion} (h : f.conversions.along direction = some conversion)
    (run : Direction → String → V → V) (v : V) :
    I.get (I.body run direction m v) (f.assigned direction) =
      I.eval (methodsOf fun direction => run direction f.refersTo) (fun _ => v)
        conversion.expr := by
  refine lawful.get_make _ _ _ _ (List.mem_filterMap.mpr ⟨f, hf, by rw [h]; rfl⟩) ?_
  intro w hw
  obtain ⟨f', hf', hentry⟩ := List.mem_filterMap.mp hw
  obtain ⟨conversion', h', hentry⟩ := Option.map_eq_some_iff.mp hentry
  obtain ⟨hname, hvalue⟩ := Prod.mk.inj hentry
  obtain rfl := List.inj_on_of_nodup_map distinct hf' hf hname
  rw [h] at h'
  cases h'
  exact hvalue.symm

end

end Interpretation

/-! ### Planned programs -/

/-- Messages with domain forms, each planned with some file of one request. -/
def IsPlannedProgram (request : Request) (settings : Settings) (index : Index)
    (program : List PlannedMessage) : Prop :=
  ∀ m ∈ program, ∃ home plan, request.plan settings index home = .ok plan ∧
    m ∈ plan.domainMessages

section

variable {request : Request} {settings : Settings} {index : Index}

/-- The two conversions of a field are made of converters that are paired. -/
def IsPaired (settings : Settings) (f : PlannedField) : Prop :=
  ∃ converter converter',
    Paired settings.converters.name settings.suffixes f.field.kind converter converter' ∧
      f.conversions.along .wireToDomain =
        some ⟨settings.converters.name, .select (.ident "w") f.field.goName,
          .convert (liftOf f.field) converter⟩ ∧
      f.conversions.along .domainToWire =
        some ⟨settings.converters.name, .select (.ident "d") f.names.domain,
          .convert (liftOf f.field) converter'⟩

/-- The fields of a planned message are those that the loader surfaces, and each is converted both
ways. -/
lemma isPaired_of_planned {home : FileDesc} {plan : Plan}
    (hplan : request.plan settings index home = .ok plan) {m : PlannedMessage}
    (hm : m ∈ plan.domainMessages) :
    m.fields.map (·.field) = m.message.fields ∧ ∀ f ∈ m.fields, IsPaired settings f := by
  obtain ⟨hmem, hdomain⟩ := List.mem_filter.mp hm
  obtain ⟨-, -, -, hfields, locations, hplanned⟩ := exists_declaration hplan hmem
  refine ⟨hfields, ?_⟩
  intro f hf
  obtain ⟨_, -, _, _, _, hmade⟩ := exists_made hplan hmem hf
  obtain ⟨schema, -, hof⟩ := plan_ok hplan
  obtain ⟨hsettings, -⟩ := Plan.of_ok hof
  have resolved : f.field.kind.Resolved settings.suffixes := Scope.field_resolved hmade
  have hpaired := domain_conversions (hplanned f hf) hdomain resolved
  simpa only [IsPaired, Planning.converting, Plan.planning, hsettings] using hpaired

namespace Interpretation

variable {V : Type} {I : Interpretation V} (lawful : I.IsLawful settings.converters.name)

include lawful

/-- Led there and back, a struct is rebuilt with what its messages become there and back. -/
lemma body_back {m : PlannedMessage} (paired : ∀ f ∈ m.fields, IsPaired settings f)
    (distinct : (m.fields.map (·.names.domain)).Nodup) (run : Direction → String → V → V) (v : V) :
    I.body run .domainToWire m (I.body run .wireToDomain m v) =
      I.make m.message.names.wire (m.fields.map fun f =>
        (f.field.goName, I.within settings.converters.name
          (fun type v => run .domainToWire type (run .wireToDomain type v)) f
          (I.get v f.field.goName))) := by
  conv_lhs => unfold body
  congr 1
  rw [← List.filterMap_eq_map]
  refine List.filterMap_congr fun f hf => ?_
  obtain ⟨converter, converter', hpaired, hout, hback⟩ := paired f hf
  have held := get_body lawful .wireToDomain distinct hf hout run v
  simp only [hback, Option.map_some, Function.comp]
  exact congrArg some (congrArg _ (eval_back lawful hpaired run held))

variable {program : List PlannedMessage}
  (paired : ∀ m ∈ program, ∀ f ∈ m.fields, IsPaired settings f)
  (distinct : ∀ m ∈ program, (m.fields.map (·.names.domain)).Nodup)

include paired distinct

/-- Led there and back, a message's struct is rebuilt with its fields, which are led there and back
one level less deep. -/
lemma run_back_step {typeName : String} {m : PlannedMessage}
    (h : messageOf? program typeName = some m) (depth : Nat) {v : V} (hnil : I.isNil v = false) :
    I.run program (depth + 1) .domainToWire typeName
        (I.run program (depth + 1) .wireToDomain typeName v) =
      I.make m.message.names.wire (m.fields.map fun f =>
        (f.field.goName, I.within settings.converters.name
          (fun type v => I.run program depth .domainToWire type
            (I.run program depth .wireToDomain type v)) f
          (I.get v f.field.goName))) := by
  have hm : m ∈ program := List.mem_of_find?_eq_some h
  have hmade : I.isNil (I.body (I.run program depth) .wireToDomain m v) = false := by
    rw [Bool.eq_false_iff]
    exact fun hnil => lawful.make_ne_nil _ _ ((lawful.isNil_iff _).mp hnil)
  rw [run_struct depth _ h hnil, run_struct depth _ h hmade]
  exact body_back lawful (paired m hm) (distinct m hm) _ v

/-- Down to any depth, the way there and back keeps what messages surface. -/
lemma run_back (depth : Nat) (typeName : String) (v : V) :
    I.run program depth .domainToWire typeName (I.run program depth .wireToDomain typeName v) =
      I.surface settings.converters.name program depth typeName v := by
  induction depth generalizing typeName v with
  | zero => rfl
  | succ depth ih =>
    cases hfound : messageOf? program typeName with
    | none =>
      rw [run_other depth _ hfound, run_other depth _ hfound]
      simp [surface, hfound]
    | some m =>
      cases hnil : I.isNil v with
      | true =>
        rw [run_nil depth .wireToDomain hfound hnil,
          run_nil depth _ hfound ((lawful.isNil_iff _).mpr rfl)]
        simp [surface, hfound, hnil]
      | false =>
        rw [run_back_step lawful paired distinct hfound depth hnil]
        simp [surface, hfound, hnil, ih]

end Interpretation

/-- The entries of a field in the two methods of its message mirror each other. -/
def IsMirrored (settings : Settings) (m : PlannedMessage) (f : PlannedField) : Prop :=
  ∃ out back, (f.names.domain, out.render) ∈ Template.intoDomainEntries m ∧
    (f.field.goName, back.render) ∈ Template.intoWireEntries m ∧
    f.conversions.intoDomain.map (·.expr) = some out ∧
    f.conversions.intoWire.map (·.expr) = some back ∧
    Mirrors settings.converters.name settings.suffixes (.select (.ident "w") f.field.goName)
      (.select (.ident "d") f.names.domain) out back

lemma IsPaired.isMirrored {m : PlannedMessage} {f : PlannedField} (hf : f ∈ m.fields)
    (paired : IsPaired settings f) : IsMirrored settings m f := by
  obtain ⟨converter, converter', hpaired, hout, hback⟩ := paired
  have hout : f.conversions.intoDomain = some _ := hout
  have hback : f.conversions.intoWire = some _ := hback
  refine ⟨_, _, List.mem_filterMap.mpr ⟨f, hf, ?_⟩, List.mem_filterMap.mpr ⟨f, hf, ?_⟩,
    congrArg (Option.map _) hout, congrArg (Option.map _) hback, hpaired.mirrors _ _ _⟩
  · rw [hout]
    rfl
  · rw [hback]
    rfl

/-- The two methods between wire and domain forms undo each other. For every field that a message
surfaces, what leads back mirrors what leads out. Under every lawful interpretation, messages whose
fields have domain names of their own come back as what they surface, however deeply nested. -/
theorem domain_round_trip {program : List PlannedMessage}
    (planned : IsPlannedProgram request settings index program) :
    (∀ m ∈ program, m.fields.map (·.field) = m.message.fields ∧
      ∀ f ∈ m.fields, IsMirrored settings m f) ∧
    ((∀ m ∈ program, (m.fields.map (·.names.domain)).Nodup) →
      ∀ (V : Type) (I : Interpretation V), I.IsLawful settings.converters.name →
        (∀ depth typeName v,
          I.run program depth .domainToWire typeName
              (I.run program depth .wireToDomain typeName v) =
            I.surface settings.converters.name program depth typeName v) ∧
        ∀ depth typeName m v, messageOf? program typeName = some m → I.isNil v = false →
          (m.fields.map (·.field.goName)).Nodup → ∀ f ∈ m.fields,
            I.get (I.run program (depth + 1) .domainToWire typeName
                (I.run program (depth + 1) .wireToDomain typeName v)) f.field.goName =
              I.within settings.converters.name
                (I.surface settings.converters.name program depth) f (I.get v f.field.goName)) := by
  have hloaded : ∀ m ∈ program, m.fields.map (·.field) = m.message.fields ∧
      ∀ f ∈ m.fields, IsPaired settings f := by
    intro m hm
    obtain ⟨home, plan, hplan, hmem⟩ := planned m hm
    exact isPaired_of_planned hplan hmem
  have paired := fun m hm => (hloaded m hm).2
  refine ⟨fun m hm => ⟨(hloaded m hm).1, fun f hf => (paired m hm f hf).isMirrored hf⟩, ?_⟩
  intro distinct V I lawful
  have hback := Interpretation.run_back lawful paired distinct
  refine ⟨hback, ?_⟩
  intro depth typeName m v hfound hnil wires f hf
  rw [Interpretation.run_back_step lawful paired distinct hfound depth hnil]
  simp only [hback]
  refine lawful.get_make _ _ _ _ (List.mem_map_of_mem hf) ?_
  intro w hw
  obtain ⟨f', hf', hentry⟩ := List.mem_map.mp hw
  obtain ⟨hname, rfl⟩ := Prod.mk.inj hentry
  rw [List.inj_on_of_nodup_map wires hf' hf hname]

end

/-! ### Samples -/

/-- Entries in a row, which end in a text, in the name of a struct or in nothing. -/
inductive Sample
  | nil
  | text (content : String)
  | struct (name : String)
  | entry (key : String) (held rest : Sample)
  deriving DecidableEq

namespace Sample

def find (key : String) : Sample → Sample
  | entry k held rest => if k = key then held else find key rest
  | _ => nil

def mapHeld (f : Sample → Sample) : Sample → Sample
  | entry k held rest => entry k (f held) (mapHeld f rest)
  | v => v

def ofEntries (name : String) : List (String × Sample) → Sample
  | [] => struct name
  | (key, held) :: rest => entry key held (ofEntries name rest)

/-- Every helper keeps what it is given, and structs hold the first of the entries of a name. -/
def interpretation : Interpretation Sample where
  nil := nil
  isNil v := decide (v = nil)
  get v key := v.find key
  make := ofEntries
  function _ v := v
  lift _ := mapHeld

lemma mapHeld_id (v : Sample) : mapHeld id v = v := by
  induction v with
  | entry key held rest _ ih => rw [mapHeld, ih, id]
  | _ => rfl

lemma mapHeld_comp (f g : Sample → Sample) (v : Sample) :
    mapHeld g (mapHeld f v) = mapHeld (g ∘ f) v := by
  induction v with
  | entry key held rest _ ih => simp only [mapHeld, ih, Function.comp]
  | _ => rfl

lemma find_ofEntries {name key : String} {entries : List (String × Sample)} {v : Sample}
    (hmem : (key, v) ∈ entries) (hunique : ∀ w, (key, w) ∈ entries → w = v) :
    find key (ofEntries name entries) = v := by
  induction entries with
  | nil => cases hmem
  | cons entry rest ih =>
    obtain ⟨k, held⟩ := entry
    by_cases hk : k = key
    · subst hk
      simpa [ofEntries, find] using hunique held List.mem_cons_self
    · have hrest : (key, v) ∈ rest := by simpa [Ne.symm hk] using hmem
      simpa [ofEntries, find, hk] using
        ih hrest fun w hw => hunique w (List.mem_cons_of_mem _ hw)

lemma isLawful (helpers : String) : interpretation.IsLawful helpers where
  isNil_iff v := by simp [interpretation]
  make_ne_nil name entries := by cases entries <;> simp [interpretation, ofEntries]
  get_make _ _ _ _ := find_ofEntries
  partners _ _ _ _ := rfl
  lift_id _ _ := mapHeld_id
  lift_comp _ _ := mapHeld_comp

end Sample

/-- A user with homes, each of which is a message of its own. -/
def homesFile : FileDesc where
  name := "user.proto"
  package := "acme"
  goPackage := some "github.com/acme/user;user"
  messages :=
    [.node
        { name := "UserWire"
          fields :=
            [{ name := "name", number := 1, type := .string },
              { name := "homes", number := 2, label := .repeated, type := .message,
                typeName := ".acme.AddressWire" }] } [],
      .node
        { name := "AddressWire", fields := [{ name := "city", number := 1, type := .string }] } []]

def homesRequest : Request := ⟨[homesFile], none, []⟩

def homesSample : Sample :=
  .ofEntries "UserWire"
    [("Name", .text "Ada"),
      ("Homes", .ofEntries "slice"
        [("0", .ofEntries "AddressWire" [("City", .text "London")]), ("1", .nil)])]

/-- A user comes back with its homes. -/
theorem homes_round_trip :
    ∃ plan, homesRequest.plan {} {} homesFile = .ok plan ∧
      IsPlannedProgram homesRequest {} {} plan.domainMessages ∧
      (∀ m ∈ plan.domainMessages, (m.fields.map (·.names.domain)).Nodup) ∧
      Sample.interpretation.IsLawful ({} : Settings).converters.name ∧
      Sample.interpretation.run plan.domainMessages 2 .domainToWire ".acme.UserWire"
          (Sample.interpretation.run plan.domainMessages 2 .wireToDomain ".acme.UserWire"
            homesSample) = homesSample := by
  have h : (homesRequest.plan {} {} homesFile).toOption.any (fun plan =>
      plan.domainMessages.length == 2 &&
      decide (∀ m ∈ plan.domainMessages, (m.fields.map (·.names.domain)).Nodup) &&
      decide (Sample.interpretation.surface ({} : Settings).converters.name plan.domainMessages 2
        ".acme.UserWire" homesSample = homesSample)) = true := by
    rw [Request.plan_eq_planOnePass]
    decide +kernel
  obtain ⟨plan, hplan, hcheck⟩ := exists_of_check h
  simp only [Bool.and_eq_true, decide_eq_true_eq] at hcheck
  obtain ⟨⟨-, distinct⟩, hsurface⟩ := hcheck
  have planned : IsPlannedProgram homesRequest {} {} plan.domainMessages :=
    fun m hm => ⟨homesFile, plan, hplan, hm⟩
  have lawful := Sample.isLawful ({} : Settings).converters.name
  refine ⟨plan, hplan, planned, distinct, lawful, ?_⟩
  rw [((domain_round_trip planned).2 distinct Sample Sample.interpretation lawful).1]
  exact hsurface

/-- A user both of whose names are to be called alike in the domain form. -/
def namesakesFile : FileDesc where
  name := "user.proto"
  package := "acme"
  goPackage := some "github.com/acme/user;user"
  messages :=
    [.node
      { name := "UserWire"
        fields :=
          [{ name := "first", number := 1, type := .string, options := [named] },
            { name := "last", number := 2, type := .string, options := [named] }] } []]
where
  named : WrittenOption :=
    { name := [⟨fieldExtension, true⟩, ⟨"domain", false⟩, ⟨"name", false⟩]
      text := some "name".toUTF8.toList }

def namesakesRequest : Request := ⟨[namesakesFile], none, []⟩

/-- Of two fields with one domain name, the second comes back as the first. -/
theorem namesakes_merged :
    ∃ plan, namesakesRequest.plan {} {} namesakesFile = .ok plan ∧
      IsPlannedProgram namesakesRequest {} {} plan.domainMessages ∧
      Sample.interpretation.IsLawful ({} : Settings).converters.name ∧
      ∃ v : Sample, v.find "Last" = .text "Lovelace" ∧
        (Sample.interpretation.run plan.domainMessages 1 .domainToWire ".acme.UserWire"
          (Sample.interpretation.run plan.domainMessages 1 .wireToDomain ".acme.UserWire" v)).find
            "Last" = .text "Ada" := by
  let v : Sample := .ofEntries "UserWire" [("First", .text "Ada"), ("Last", .text "Lovelace")]
  have h : (namesakesRequest.plan {} {} namesakesFile).toOption.any (fun plan =>
      decide ((Sample.interpretation.run plan.domainMessages 1 .domainToWire ".acme.UserWire"
        (Sample.interpretation.run plan.domainMessages 1 .wireToDomain ".acme.UserWire" v)).find
          "Last" = .text "Ada")) = true := by
    rw [Request.plan_eq_planOnePass]
    decide +kernel
  obtain ⟨plan, hplan, hcheck⟩ := exists_of_check h
  exact ⟨plan, hplan, fun m hm => ⟨namesakesFile, plan, hplan, hm⟩, Sample.isLawful _, v, rfl,
    of_decide_eq_true hcheck⟩

end Laminate.Form
