import Laminate.Proofs.Contents

/-! What generated expressions look up in the variables of their functions.
A word before a dot may be a variable or a package; what is looked up in a variable is a field of
the message that the expression is written for. -/
namespace Laminate.Code

/-- The names of a package that a type is written with. -/
def TypeRef.taken (package : String) : TypeRef → List String
  | builtin _ => []
  | named _ => []
  | qualified q name => if q.isEmpty then [] else if q = package then [name] else []
  | pointer target => target.taken package
  | slice element => element.taken package
  | map key value => key.taken package ++ value.taken package

lemma TypeRef.mem_packages_of_taken {package name : String} {type : TypeRef}
    (h : name ∈ type.taken package) : package ∈ type.packages := by
  induction type with
  | builtin scalar => cases h
  | named other => cases h
  | qualified q other =>
    rw [TypeRef.taken] at h
    rw [TypeRef.packages]
    split at h
    · cases h
    · next hempty =>
      rw [if_neg hempty]
      split at h
      · next heq => exact List.mem_singleton.mpr heq.symm
      · cases h
  | pointer target ih => exact ih h
  | slice element ih => exact ih h
  | map key value ihkey ihvalue =>
    rcases List.mem_append.mp h with h | h
    · exact List.mem_append_left _ (ihkey h)
    · exact List.mem_append_right _ (ihvalue h)

namespace Expr

mutual

/-- An expression and everything in it. -/
def parts : Expr → List Expr
  | ident name => [ident name]
  | member package name => [member package name]
  | select base name => select base name :: base.parts
  | call callee args => call callee args :: (callee.parts ++ partsAll args)
  | index base key => index base key :: (base.parts ++ key.parts)
  | address target => address target :: target.parts
  | deref pointer => deref pointer :: pointer.parts
  | not operand => not operand :: operand.parts
  | binary op left right => binary op left right :: (left.parts ++ right.parts)
  | paren inner => paren inner :: inner.parts
  | methodOf owner name => [methodOf owner name]
  | text value => [text value]
  | rawText value => [rawText value]
  | verbatim token => [verbatim token]

def partsAll : List Expr → List Expr
  | [] => []
  | e :: rest => e.parts ++ partsAll rest

end

/-- The field of a variable that an expression is. -/
def fieldOf? (x : String) : Expr → Option String
  | select (ident y) name => if y = x then some name else none
  | _ => none

/-- The fields of a variable that an expression looks up. -/
def fieldsOf (x : String) (e : Expr) : List String := e.parts.filterMap (fieldOf? x)

/-- The names of a package that an expression itself is, or is a method of. -/
def takenHere (package : String) : Expr → List String
  | member q name => if q = package then [name] else []
  | methodOf owner _ => owner.taken package
  | _ => []

/-- The names of a package that an expression is written with. -/
def taken (package : String) (e : Expr) : List String := e.parts.flatMap (takenHere package)

/-- The names that follow a word and a dot, whatever the word is meant for. -/
def after (word : String) (e : Expr) : List String := e.fieldsOf word ++ e.taken word

section

variable {e part : Expr}

/-- What holds within an expression holds at its root. -/
lemma packages_of_root {inner : List Expr} (within : part ∈ inner → part.packages ⊆ e.packages)
    (h : part ∈ e :: inner) : part.packages ⊆ e.packages := by
  rcases List.mem_cons.mp h with rfl | h
  · exact List.Subset.refl _
  · exact within h

lemma packages_of_either {left right : List Expr} {packages packages' : List String}
    (hleft : part ∈ left → part.packages ⊆ packages)
    (hright : part ∈ right → part.packages ⊆ packages') (h : part ∈ left ++ right) :
    part.packages ⊆ packages ++ packages' := by
  rcases List.mem_append.mp h with h | h
  · exact List.subset_append_of_subset_left _ (hleft h)
  · exact List.subset_append_of_subset_right _ (hright h)

end

mutual

theorem packages_of_mem_parts : ∀ (e : Expr) {part : Expr}, part ∈ e.parts →
    part.packages ⊆ e.packages
  | ident _, _, h => packages_of_root (absurd · List.not_mem_nil) h
  | member _ _, _, h => packages_of_root (absurd · List.not_mem_nil) h
  | select base _, _, h => packages_of_root (packages_of_mem_parts base) h
  | call callee args, _, h => packages_of_root
      (packages_of_either (packages_of_mem_parts callee) (packages_of_mem_partsAll args)) h
  | index base key, _, h => packages_of_root
      (packages_of_either (packages_of_mem_parts base) (packages_of_mem_parts key)) h
  | address target, _, h => packages_of_root (packages_of_mem_parts target) h
  | deref pointer, _, h => packages_of_root (packages_of_mem_parts pointer) h
  | not operand, _, h => packages_of_root (packages_of_mem_parts operand) h
  | binary _ left right, _, h => packages_of_root
      (packages_of_either (packages_of_mem_parts left) (packages_of_mem_parts right)) h
  | paren inner, _, h => packages_of_root (packages_of_mem_parts inner) h
  | methodOf _ _, _, h => packages_of_root (absurd · List.not_mem_nil) h
  | text _, _, h => packages_of_root (absurd · List.not_mem_nil) h
  | rawText _, _, h => packages_of_root (absurd · List.not_mem_nil) h
  | verbatim _, _, h => packages_of_root (absurd · List.not_mem_nil) h

theorem packages_of_mem_partsAll : ∀ (es : List Expr) {part : Expr}, part ∈ partsAll es →
    part.packages ⊆ packagesAll es
  | [], _, h => nomatch h
  | e :: rest, _, h =>
    packages_of_either (packages_of_mem_parts e) (packages_of_mem_partsAll rest) h

end

variable {package name : String}

/-- Names are taken from packages that the expression is written with. -/
lemma mem_packages_of_taken {e : Expr} (h : name ∈ e.taken package) : package ∈ e.packages := by
  obtain ⟨part, hpart, hname⟩ := List.mem_flatMap.mp h
  refine packages_of_mem_parts e hpart ?_
  cases part with
  | member q other =>
    rw [takenHere] at hname
    split at hname
    · next heq => exact List.mem_singleton.mpr heq.symm
    · cases hname
  | methodOf owner other => exact TypeRef.mem_packages_of_taken hname
  | _ => cases hname

/-- Without a package of its name, a word before a dot is a variable. -/
lemma after_eq_fieldsOf {word : String} {e : Expr} (h : word ∉ e.packages) :
    e.after word = e.fieldsOf word := by
  have hnone : e.taken word = [] := by
    rw [List.eq_nil_iff_forall_not_mem]
    exact fun name hname => h (mem_packages_of_taken hname)
  rw [after, hnone, List.append_nil]

variable {x : String} {declared : List String}

@[simp] lemma fieldsOf_ident (name : String) : (ident name).fieldsOf x = [] := rfl

@[simp] lemma fieldsOf_member (package name : String) : (member package name).fieldsOf x = [] := rfl

@[simp] lemma fieldsOf_text (value : String) : (text value).fieldsOf x = [] := rfl

@[simp] lemma fieldsOf_rawText (value : String) : (rawText value).fieldsOf x = [] := rfl

@[simp] lemma fieldsOf_verbatim (token : String) : (verbatim token).fieldsOf x = [] := rfl

@[simp] lemma fieldsOf_methodOf (owner : TypeRef) (name : String) :
    (methodOf owner name).fieldsOf x = [] := rfl

@[simp] lemma fieldsOf_select (base : Expr) (name : String) :
    (select base name).fieldsOf x = (fieldOf? x (select base name)).toList ++ base.fieldsOf x := by
  cases h : fieldOf? x (select base name) <;> simp [fieldsOf, parts, h]

@[simp] lemma fieldsOf_call (callee : Expr) (args : List Expr) :
    (call callee args).fieldsOf x = callee.fieldsOf x ++ args.flatMap (fieldsOf x) := by
  have hargs : (partsAll args).filterMap (fieldOf? x) = args.flatMap (fieldsOf x) := by
    induction args with
    | nil => rfl
    | cons e rest ih => rw [partsAll, List.filterMap_append, ih, List.flatMap_cons, fieldsOf]
  rw [← hargs]
  exact (List.filterMap_cons_none rfl).trans List.filterMap_append

@[simp] lemma fieldsOf_index (base key : Expr) :
    (index base key).fieldsOf x = base.fieldsOf x ++ key.fieldsOf x :=
  (List.filterMap_cons_none rfl).trans List.filterMap_append

@[simp] lemma fieldsOf_address (target : Expr) : (address target).fieldsOf x = target.fieldsOf x :=
  rfl

@[simp] lemma fieldsOf_deref (pointer : Expr) : (deref pointer).fieldsOf x = pointer.fieldsOf x :=
  rfl

@[simp] lemma fieldsOf_not (operand : Expr) : (not operand).fieldsOf x = operand.fieldsOf x := rfl

@[simp] lemma fieldsOf_paren (inner : Expr) : (paren inner).fieldsOf x = inner.fieldsOf x := rfl

@[simp] lemma fieldsOf_binary (op : BinaryOp) (left right : Expr) :
    (binary op left right).fieldsOf x = left.fieldsOf x ++ right.fieldsOf x :=
  (List.filterMap_cons_none rfl).trans List.filterMap_append

@[simp] lemma fieldOf?_variable (name : String) : fieldOf? x (select (ident x) name) = some name :=
  if_pos rfl

lemma fieldOf?_select {base : Expr} (hbase : ∀ y, base ≠ ident y) (name : String) :
    fieldOf? x (select base name) = none := by
  cases base with
  | ident y => exact absurd rfl (hbase y)
  | _ => rfl

/-- All that an expression looks up in a variable is declared, and so is every name that follows
the variable and a dot, unless it is meant for a package that is called like the variable. -/
structure LooksUp (x : String) (declared : List String) (e : Expr) : Prop where
  fields : e.fieldsOf x ⊆ declared
  names : x ∉ e.packages → e.after x ⊆ declared

lemma LooksUp.of_fields {e : Expr} (h : e.fieldsOf x ⊆ declared) : e.LooksUp x declared where
  fields := h
  names := fun hpackages => by rwa [after_eq_fieldsOf hpackages]

end Expr

end Laminate.Code

namespace Laminate.Form

open Laminate.Text Laminate.Schema Laminate.Code Laminate.Annotation

/-! ### What is looked up -/

section

variable {x : String}

/-- A converted field is looked up, and nothing else. -/
lemma fieldsOf_lifted {converter : Converter} (named : converter.IsNamed) (helpers : String)
    (lift : Lift) (name : String) :
    (converter.lifted helpers lift (.select (.ident x) name)).fieldsOf x = [name] := by
  have hpackage : ∀ package name, (Expr.inPackage package name).fieldsOf x = [] := by
    intro package name
    unfold Expr.inPackage
    split <;> rfl
  unfold Converter.lifted
  cases lift.helper with
  | none =>
    cases named with
    | identity => simp [Converter.apply]
    | function package function => simp [Converter.apply, hpackage]
    | member package function => simp [Converter.apply]
    | method owner method =>
      have hselect : Expr.fieldOf? x (.select (.select (.ident x) name) method) = none :=
        Expr.fieldOf?_select (by simp) method
      simp [Converter.apply, hselect]
  | some helper =>
    cases named with
    | identity => simp [Converter.asFunction]
    | function package function => simp [Converter.asFunction, hpackage]
    | member package function => simp [Converter.asFunction]
    | method owner method => simp [Converter.asFunction]

/-- A conversion towards the wire looks up the field that it converts. -/
lemma fieldsOf_conversion {c : Converting} {field : Field} {names : FieldNames}
    {direction : Direction} {conversion : Conversion} (hdirection : direction.target = .wire)
    (h : c.conversion field names direction = .ok conversion) :
    conversion.expr.fieldsOf direction.receiver = [names.domain] := by
  obtain ⟨-, hsource, hstep⟩ := conversion_ok h
  have hne : direction ≠ .wireToOutbound ∧ direction.source ≠ .wire := by
    cases direction <;> simp_all [Direction.target, Direction.source]
  rw [if_neg hne.1] at hstep
  rw [if_neg hne.2] at hsource
  unfold Conversion.expr
  rw [(kindStep_ok hstep).1, hsource]
  exact fieldsOf_lifted (elementConverter_isNamed field direction) _ _ _

end

/-- The identifiers of a message's fields in its domain and inbound structs. -/
def fieldIdentifiers (message : Message) : List String := message.fields.map domainName

section

variable {message : Message} {field : Field}

lemma mem_fieldIdentifiers {name : String} {sibling : Field}
    (h : message.field? name = some sibling) :
    (FieldNames.of message sibling).domain ∈ fieldIdentifiers message :=
  List.mem_map_of_mem (List.mem_of_find?_eq_some h)

lemma fieldsOf_comparand {sibling : Field} {value : String} {e : Expr}
    (h : comparand field sibling value = .ok e) : e.fieldsOf "in" = [] := by
  unfold comparand at h
  dsimp only at h
  split at h
  · cases h
  · split at h
    · cases h
      rfl
    · cases h
      rfl
    · split at h
      · cases h
        rfl
      · cases h
    · split at h
      · cases h
        rfl
      · cases h
    · cases h

lemma fieldsOf_comparison (isOptional equal : Bool) (name : String) {value : Expr}
    (hvalue : value.fieldsOf "in" = []) :
    ∀ found ∈ (comparison isOptional equal (Validation.inboundField name) value).fieldsOf "in",
      found = name := by
  cases isOptional <;> cases equal <;> simp [comparison, Validation.inboundField, hvalue]

/-- A term of a condition looks up the sibling that it is about. -/
lemma fieldsOf_term {kind : ConditionKind} {pair : FieldValue} {e : Expr}
    (h : conditionTerm message field kind pair = .ok e) :
    e.fieldsOf "in" ⊆ fieldIdentifiers message := by
  unfold conditionTerm at h
  split at h
  · cases h
  · next sibling hsibling =>
    have hmem := mem_fieldIdentifiers hsibling
    have hcompared : ∀ {equal value}, comparand field sibling pair.value = .ok value →
        (comparison sibling.isOptional equal
          (Validation.inboundField (FieldNames.of message sibling).domain) value).fieldsOf "in" ⊆
            fieldIdentifiers message := by
      intro equal value hvalue found hfound
      rwa [fieldsOf_comparison _ _ _ (fieldsOf_comparand hvalue) found hfound]
    cases kind with
    | whenGiven =>
      cases h
      simpa [validationName, Validation.inboundField] using hmem
    | whenMissing =>
      cases h
      simpa [validationName, Validation.inboundField] using hmem
    | whenEqual =>
      obtain ⟨value, hvalue, rfl⟩ := map_eq_ok.mp h
      exact hcompared hvalue
    | whenDifferent =>
      obtain ⟨value, hvalue, rfl⟩ := map_eq_ok.mp h
      exact hcompared hvalue

lemma fieldsOf_joined {x : String} {declared : List String} {op : BinaryOp} {terms : List Expr}
    (h : ∀ e ∈ terms, e.fieldsOf x ⊆ declared) :
    ((Expr.joined op terms).getD (.ident "")).fieldsOf x ⊆ declared := by
  cases terms with
  | nil => exact List.nil_subset _
  | cons first rest =>
    obtain ⟨hfirst, hrest⟩ := List.forall_mem_cons.mp h
    cases rest with
    | nil => exact hfirst
    | cons second rest =>
      have hfold : ∀ {terms : List Expr} {left : Expr}, (∀ e ∈ terms, e.fieldsOf x ⊆ declared) →
          left.fieldsOf x ⊆ declared →
          (terms.foldl (fun left right => .binary op left (.paren right)) left).fieldsOf x ⊆
            declared := by
        intro terms
        induction terms with
        | nil => exact fun _ hleft => hleft
        | cons e rest ih =>
          intro left hterms hleft
          obtain ⟨he, hrest⟩ := List.forall_mem_cons.mp hterms
          refine ih hrest ?_
          rw [Expr.fieldsOf_binary, Expr.fieldsOf_paren]
          exact List.append_subset.mpr ⟨hleft, he⟩
      exact hfold hrest hfirst

lemma fieldsOf_condition {kind : ConditionKind} {condition : Condition} {e : Expr}
    (h : conditionExpr message field kind condition = .ok e) :
    e.fieldsOf "in" ⊆ fieldIdentifiers message := by
  have hterms : ∀ {op : BinaryOp} {pairs : List FieldValue},
      (pairs.mapM (conditionTerm message field kind)).map
        (fun es => (Expr.joined op es).getD (.ident "")) = .ok e →
      e.fieldsOf "in" ⊆ fieldIdentifiers message := by
    intro op pairs h
    obtain ⟨terms, hterms, rfl⟩ := map_eq_ok.mp h
    rw [mapM_eq_ok] at hterms
    refine fieldsOf_joined fun e he => ?_
    obtain ⟨pair, -, hterm⟩ := exists_of_mem_forall₂ hterms he
    exact fieldsOf_term hterm
  unfold conditionExpr at h
  dsimp only at h
  split at h
  · cases h
  · exact hterms h
  · exact hterms h
  · cases h

lemma fieldsOf_presence {rules : ValidateRules} {presence : Presence}
    (h : presenceOf message field rules = .ok (some presence)) :
    presence.expr.fieldsOf "in" ⊆ fieldIdentifiers message := by
  unfold presenceOf at h
  split at h
  · cases h
  · cases h
    exact List.nil_subset _
  · obtain ⟨condition, hcondition, hsome⟩ := map_eq_ok.mp h
    cases hsome
    have hcondition := fieldsOf_condition hcondition
    have hselect : (Expr.select (validationName "Required") "When").fieldsOf "in" = [] := rfl
    rw [Presence.expr, Expr.fieldsOf_call, hselect]
    simpa using hcondition
  · cases h

/-- Content rules look nothing up. -/
lemma fieldsOf_content {rule : ContentRule} (hargs : ∀ e ∈ rule.args, ∃ arg, e = ruleArgument arg) :
    rule.expr.fieldsOf "in" = [] := by
  have hargument : ∀ e ∈ rule.args, e.fieldsOf "in" = [] := by
    intro e he
    obtain ⟨arg, rfl⟩ := hargs e he
    unfold ruleArgument
    split <;> rfl
  cases rule with
  | length min max => simp [ContentRule.expr, validationName, integerExpr]
  | bound name scalar value => simp [ContentRule.expr, validationName, integerExpr]
  | pattern text => simp [ContentRule.expr, validationName]
  | named package function args =>
    cases args with
    | nil => rfl
    | cons first rest =>
      simp only [ContentRule.expr, Expr.fieldsOf_call, Expr.fieldsOf_member, List.nil_append,
        List.flatMap_eq_nil_iff]
      exact hargument

/-- A validation looks up its own field and the siblings of its condition. -/
lemma fieldsOf_validation {settings : Settings} {v : Validation}
    (hfield : domainName field ∈ fieldIdentifiers message)
    (h : Validation.of settings message field (.of message field) = .ok (some v)) :
    v.expr.fieldsOf "in" ⊆ fieldIdentifiers message := by
  obtain ⟨rules, -, hpresence, _, _, _, _, -, -, -, -, -, -, htarget⟩ := Validation.of_ok h
  have hargs := Validation.args_of_ok h
  have hcontent : ∀ e ∈ v.content.map ContentRule.expr, e.fieldsOf "in" = [] := by
    intro e he
    obtain ⟨rule, hrule, rfl⟩ := List.mem_map.mp he
    exact fieldsOf_content (hargs rule hrule)
  have hrules : ∀ e ∈ v.rules, e.fieldsOf "in" ⊆ fieldIdentifiers message := by
    intro e he
    simp only [Validation.rules, List.mem_append, Option.mem_toList, Option.map_eq_some_iff] at he
    rcases he with ⟨presence, hsome, rfl⟩ | he
    · exact fieldsOf_presence (hsome ▸ hpresence)
    · split at he
      · obtain rfl := List.mem_singleton.mp he
        rw [Expr.fieldsOf_call, List.flatMap_eq_nil_iff.mpr hcontent]
        exact List.nil_subset _
      · rw [hcontent e he]
        exact List.nil_subset _
  rw [Validation.expr, Expr.fieldsOf_call, List.flatMap_cons, List.append_subset,
    List.append_subset]
  refine ⟨List.nil_subset _, ?_, ?_⟩
  · have htarget : v.target = domainName field := htarget
    simpa [Validation.inboundField, htarget] using hfield
  · intro name hname
    obtain ⟨e, he, hname⟩ := List.mem_flatMap.mp hname
    exact hrules e he hname

/-- A decode statement looks up the request and the fields that it fills. -/
lemma fieldsOf_decode {settings : Settings} {schema : FileSchema} {entry : String × Method}
    {b : BoundMethod} {request : Message}
    (hrequest : schema.message? entry.2.input = some request)
    (hbound : Bindings.boundMethod? schema settings.converters.name entry = some b) :
    ∀ e ∈ Plan.decodes b, e.fieldsOf "in" ⊆ fieldIdentifiers request := by
  obtain ⟨endpoint, request', located, -, hrequest', -, -, rfl⟩ :=
    Bindings.boundMethod?_eq_some.mp hbound
  rw [hrequest, Option.some.injEq] at hrequest'
  subst hrequest'
  intro e he
  rcases List.mem_append.mp he with he | he
  · obtain ⟨body, hbody, rfl⟩ := List.mem_map.mp he
    have hbody : bodyDecode? request endpoint.body = some body := Option.mem_toList.mp hbody
    unfold bodyDecode? at hbody
    split at hbody
    · cases hbody
    · split at hbody
      · cases hbody
        exact List.nil_subset _
      · obtain ⟨field, hfield, rfl⟩ := Option.map_eq_some_iff.mp hbody
        have hinto : (BodyDecode.into (FieldNames.of request field).domain).expr.fieldsOf "in" =
            [(FieldNames.of request field).domain] := rfl
        simpa [hinto] using mem_fieldIdentifiers hfield
  · obtain ⟨decode, hdecode, rfl⟩ := List.mem_map.mp he
    obtain ⟨⟨name, location⟩, -, hdecode⟩ := List.mem_filterMap.mp hdecode
    obtain ⟨field, hfield, hdecode⟩ := Option.bind_eq_some_iff.mp hdecode
    unfold parameterDecode? at hdecode
    split at hdecode
    · obtain ⟨source, -, rfl⟩ := Option.map_eq_some_iff.mp hdecode
      have hsource : source.expr.fieldsOf "in" = [] := by cases source <;> rfl
      simpa [ParameterDecode.expr, hsource] using mem_fieldIdentifiers hfield
    · cases hdecode

end

end Laminate.Form
