import Laminate.Proofs.Scanning

/-! The packages of types and expressions, and that scans of their text find them. -/
namespace Laminate.Code

open Laminate.Text

namespace TypeRef

/-- The packages that a type is written with. -/
def packages : TypeRef → List String
  | builtin _ => []
  | named _ => []
  | qualified package _ => if package.isEmpty then [] else [package]
  | pointer target => target.packages
  | slice element => element.packages
  | map key value => key.packages ++ value.packages

/-- Packages and types are called by identifiers. -/
def isSpelled : TypeRef → Bool
  | builtin _ => true
  | named name => isIdentifier name
  | qualified package name => (package.isEmpty || isIdentifier package) && isIdentifier name
  | pointer target => target.isSpelled
  | slice element => element.isSpelled
  | map key value => key.isSpelled && value.isSpelled

/-- Types of other packages are called by names with an upper-case letter in front. -/
def isExported : TypeRef → Bool
  | builtin _ => true
  | named _ => true
  | qualified package name => package.isEmpty || startsUpper name
  | pointer target => target.isExported
  | slice element => element.isExported
  | map key value => key.isExported && value.isExported

/-- The names that a type is written with, those of other packages with their package. -/
def names : TypeRef → List (Option String × String)
  | builtin _ => []
  | named name => [(none, name)]
  | qualified package name => [(if package.isEmpty then none else some package, name)]
  | pointer target => target.names
  | slice element => element.names
  | map key value => key.names ++ value.names

end TypeRef

/-- Packages are called by identifiers, and what they hold by names with an upper-case letter in
front. -/
def AreExported (names : List (Option String × String)) : Prop :=
  ∀ n ∈ names, ∀ package ∈ n.1, isIdentifier package = true ∧ startsUpper n.2 = true

/-- Names are of letters, digits and underscores. -/
def AreParts (names : List (Option String × String)) : Prop :=
  ∀ n ∈ names, isNamePart n.2 = true

instance (names : List (Option String × String)) : Decidable (AreExported names) :=
  inferInstanceAs (Decidable (∀ n ∈ names, ∀ package ∈ n.1, _ ∧ _))

instance (names : List (Option String × String)) : Decidable (AreParts names) :=
  inferInstanceAs (Decidable (∀ n ∈ names, _))

section

variable {names names' : List (Option String × String)}

@[simp] lemma areExported_append :
    AreExported (names ++ names') ↔ AreExported names ∧ AreExported names' :=
  List.forall_mem_append

@[simp] lemma areParts_append : AreParts (names ++ names') ↔ AreParts names ∧ AreParts names' :=
  List.forall_mem_append

lemma areExported_flatMap {α : Type} {xs : List α} {f : α → List (Option String × String)} :
    AreExported (xs.flatMap f) ↔ ∀ x ∈ xs, AreExported (f x) := by
  unfold AreExported
  rw [List.forall_mem_flatMap]

lemma areParts_flatMap {α : Type} {xs : List α} {f : α → List (Option String × String)} :
    AreParts (xs.flatMap f) ↔ ∀ x ∈ xs, AreParts (f x) := by
  unfold AreParts
  rw [List.forall_mem_flatMap]

@[simp] lemma areExported_own (name : String) : AreExported [(none, name)] := by
  simp [AreExported]

@[simp] lemma areExported_member (package name : String) :
    AreExported [(some package, name)] ↔
      isIdentifier package = true ∧ startsUpper name = true := by
  simp [AreExported]

@[simp] lemma areParts_single (package : Option String) (name : String) :
    AreParts [(package, name)] ↔ isNamePart name = true := by
  simp [AreParts]

end

namespace Scans

/-- A name of a package, which is found. -/
lemma member {package name : String} (hpackage : isIdentifier package = true)
    (hname : isNamePart name = true) (hupper : startsUpper name = true) :
    Scans (.code false) (package ++ "." ++ name).toList [package] (.code true) := by
  have h := (identifier hpackage).append (afterName hname hupper package)
  rwa [← String.toList_append, ← String.append_assoc, List.nil_append] at h

/-- A name on its own. -/
lemma own {name : String} (h : isNamePart name = true) :
    ∃ s, s.IsOpen ∧ Scans (.code false) name.toList [] s := by
  obtain ⟨s, hs, hscan⟩ := namePart h
  rcases hs with rfl | ⟨joined, rfl⟩
  · exact ⟨_, .name _, hscan⟩
  · exact ⟨_, .code _, hscan⟩

/-- A type in the midst of an expression has its packages. -/
lemma typeText {t : TypeRef} (exported : AreExported t.names) (parts : AreParts t.names) :
    ∃ s, s.IsOpen ∧ Scans (.code false) t.text.toList t.packages s := by
  induction t with
  | builtin scalar =>
    have hword : ∀ word : String, isIdentifier word = true →
        ∃ s, s.IsOpen ∧ Scans (.code false) word.toList [] s :=
      fun word h => ⟨_, .name _, identifier h⟩
    cases scalar with
    | bytes =>
      have hmarks : Scans (.code false) ['[', ']'] [] (.code false) :=
        breaks (.code false) (by decide) (by simp)
      have hbyte : isIdentifier "byte" = true := by decide
      exact ⟨_, .name _, hmarks.append_nil (identifier hbyte)⟩
    | _ => exact hword _ (by decide)
  | named name =>
    rw [TypeRef.names, areParts_single] at parts
    exact own parts
  | qualified package name =>
    unfold TypeRef.names at exported parts
    rw [areParts_single] at parts
    unfold TypeRef.text TypeRef.packages
    split
    · exact own parts
    · next hempty =>
      rw [if_neg hempty, areExported_member] at exported
      exact ⟨_, .code _, member exported.1 parts exported.2⟩
  | pointer target ih =>
    obtain ⟨s, hopen, h⟩ := ih exported parts
    rw [TypeRef.text, String.toList_append]
    have hmark : Scans (.code false) ['*'] [] (.code false) :=
      ofBreak (.code false) (by decide)
    exact ⟨s, hopen, hmark.append h⟩
  | slice element ih =>
    obtain ⟨s, hopen, h⟩ := ih exported parts
    rw [TypeRef.text, String.toList_append]
    have hmarks : Scans (.code false) ['[', ']'] [] (.code false) :=
      breaks (.code false) (by decide) (by simp)
    exact ⟨s, hopen, hmarks.append h⟩
  | map key value ihk ihv =>
    rw [TypeRef.names, areExported_append] at exported
    rw [TypeRef.names, areParts_append] at parts
    obtain ⟨s, hopen, hkey⟩ := ihk exported.1 parts.1
    obtain ⟨s', hopen', hvalue⟩ := ihv exported.2 parts.2
    have hword : Scans (.code false) "map".toList [] (.name "map".toList.reverse) :=
      identifier (by decide)
    have hstart := hword.append_nil (ofBreak (.name _) (c := '[') (by decide))
    have hclose := ofBreak hopen (c := ']') (by decide)
    have hall := ((hstart.append hkey).append_nil hclose).append hvalue
    simp only [TypeRef.text, String.toList_append]
    exact ⟨s', hopen', hall⟩

end Scans

/-! ### Expressions -/

namespace Expr

mutual

/-- The packages that an expression is written with. -/
def packages : Expr → List String
  | ident _ => []
  | member package _ => [package]
  | select base _ => base.packages
  | call callee args => callee.packages ++ packagesAll args
  | index base key => base.packages ++ key.packages
  | address target => target.packages
  | deref pointer => pointer.packages
  | not operand => operand.packages
  | binary _ left right => left.packages ++ right.packages
  | paren inner => inner.packages
  | methodOf owner _ => owner.packages
  | text _ => []
  | rawText _ => []
  | verbatim _ => []

def packagesAll : List Expr → List String
  | [] => []
  | e :: rest => e.packages ++ packagesAll rest

end

mutual

/-- Names are identifiers, and those of packages start with an upper-case letter. -/
def isSpelled : Expr → Bool
  | ident name => isIdentifier name
  | member package name => isIdentifier package && isIdentifier name && startsUpper name
  | select base name => base.isSpelled && isIdentifier name
  | call callee args => callee.isSpelled && isSpelledAll args
  | index base key => base.isSpelled && key.isSpelled
  | address target => target.isSpelled
  | deref pointer => pointer.isSpelled
  | not operand => operand.isSpelled
  | binary _ left right => left.isSpelled && right.isSpelled
  | paren inner => inner.isSpelled
  | methodOf owner name => owner.isSpelled && owner.isExported && isIdentifier name
  | text _ => true
  | rawText _ => true
  | verbatim _ => true

def isSpelledAll : List Expr → Bool
  | [] => true
  | e :: rest => e.isSpelled && isSpelledAll rest

end

mutual

/-- The names that an expression is written with, those of other packages with their package. -/
def names : Expr → List (Option String × String)
  | ident name => [(none, name)]
  | member package name => [(some package, name)]
  | select base name => base.names ++ [(none, name)]
  | call callee args => callee.names ++ namesAll args
  | index base key => base.names ++ key.names
  | address target => target.names
  | deref pointer => pointer.names
  | not operand => operand.names
  | binary _ left right => left.names ++ right.names
  | paren inner => inner.names
  | methodOf owner name => owner.names ++ [(none, name)]
  | text _ => []
  | rawText _ => []
  | verbatim _ => []

def namesAll : List Expr → List (Option String × String)
  | [] => []
  | e :: rest => e.names ++ namesAll rest

end

theorem packagesAll_eq (es : List Expr) : packagesAll es = es.flatMap packages := by
  induction es with
  | nil => rfl
  | cons e es ih => rw [packagesAll, ih, List.flatMap_cons]

theorem namesAll_eq (es : List Expr) : namesAll es = es.flatMap names := by
  induction es with
  | nil => rfl
  | cons e es ih => rw [namesAll, ih, List.flatMap_cons]

theorem isSpelledAll_eq (es : List Expr) : isSpelledAll es = es.all isSpelled := by
  induction es with
  | nil => rfl
  | cons e es ih => rw [isSpelledAll, ih, List.all_cons]

/-- Ends so that a selector may follow. -/
def isClosed : Expr → Bool
  | member .. | select .. | call .. | index .. | paren .. | methodOf .. => true
  | _ => false

/-- A token in which a scan finds nothing. -/
def IsToken (token : String) : Prop :=
  ∃ s, s.IsOpen ∧ Scans (.code false) token.toList [] s

/-- Expressions that look into nothing but variables and the results of others. -/
inductive Plain (vars : List String) : Expr → Prop
  | ident (name : String) : Plain vars (ident name)
  | member (package name : String) : Plain vars (member package name)
  | selectVariable {x : String} (known : x ∈ vars) (name : String) :
    Plain vars (select (.ident x) name)
  | select {base : Expr} (closed : base.isClosed = true) (plain : Plain vars base)
    (name : String) : Plain vars (select base name)
  | call {callee : Expr} {args : List Expr} (plain : Plain vars callee)
    (all : ∀ e ∈ args, Plain vars e) : Plain vars (call callee args)
  | index {base key : Expr} (plain : Plain vars base) (plain' : Plain vars key) :
    Plain vars (index base key)
  | address {e : Expr} (plain : Plain vars e) : Plain vars (address e)
  | deref {e : Expr} (plain : Plain vars e) : Plain vars (deref e)
  | not {e : Expr} (plain : Plain vars e) : Plain vars (not e)
  | binary (op : BinaryOp) {left right : Expr} (plain : Plain vars left)
    (plain' : Plain vars right) : Plain vars (binary op left right)
  | paren {e : Expr} (plain : Plain vars e) : Plain vars (paren e)
  | methodOf (owner : TypeRef) (name : String) : Plain vars (methodOf owner name)
  | text (value : String) : Plain vars (text value)
  | rawText (value : String) : Plain vars (rawText value)
  | verbatim {token : String} (isToken : IsToken token) : Plain vars (verbatim token)

/-- Names that are found: every package, and perhaps some variables. -/
structure Finds (vars packages found : List String) : Prop where
  all : packages ⊆ found
  only : found ⊆ packages ++ vars

variable {vars : List String}

lemma Finds.refl (packages : List String) : Finds vars packages packages :=
  ⟨List.Subset.refl _, List.subset_append_left _ _⟩

lemma Finds.append {packages packages' found found' : List String}
    (h : Finds vars packages found) (h' : Finds vars packages' found') :
    Finds vars (packages ++ packages') (found ++ found') := by
  constructor
  · intro q hq
    rcases List.mem_append.mp hq with hq | hq
    · exact List.mem_append_left _ (h.all hq)
    · exact List.mem_append_right _ (h'.all hq)
  · intro q hq
    simp only [List.mem_append]
    rcases List.mem_append.mp hq with hq | hq
    · rcases List.mem_append.mp (h.only hq) with hq | hq
      · exact .inl (.inl hq)
      · exact .inr hq
    · rcases List.mem_append.mp (h'.only hq) with hq | hq
      · exact .inl (.inr hq)
      · exact .inr hq

end Expr

/-- Whatever follows, a text that is scanned from one state has some packages, and perhaps
variables, and leaves the scan in another state. -/
def LooksUp (vars : List String) (s : ScanState) (text : List Char) (packages : List String)
    (s' : ScanState) : Prop :=
  ∀ rest, ∃ found, Expr.Finds vars packages found ∧
    scanQualifiers s (text ++ rest) = found ++ scanQualifiers s' rest

section

variable {vars : List String} {s s' s'' : ScanState} {a b : List Char}
  {packages packages' : List String}

lemma Scans.looksUp (h : Scans s a packages s') : LooksUp vars s a packages s' :=
  fun rest => ⟨packages, .refl _, h rest⟩

lemma LooksUp.append (h : LooksUp vars s a packages s') (h' : LooksUp vars s' b packages' s'') :
    LooksUp vars s (a ++ b) (packages ++ packages') s'' := by
  intro rest
  obtain ⟨found, hfinds, hscan⟩ := h (b ++ rest)
  obtain ⟨found', hfinds', hscan'⟩ := h' rest
  refine ⟨found ++ found', hfinds.append hfinds', ?_⟩
  rw [List.append_assoc, hscan, hscan', List.append_assoc]

/-- A text without names after another one. -/
lemma LooksUp.append_nil (h : LooksUp vars s a packages s') (h' : Scans s' b [] s'') :
    LooksUp vars s (a ++ b) packages s'' := by
  simpa using h.append h'.looksUp

/-- A text without names before another one. -/
lemma Scans.nil_append (h : Scans s a [] s') (h' : LooksUp vars s' b packages s'') :
    LooksUp vars s (a ++ b) packages s'' := h.looksUp.append h'

lemma LooksUp.finds (h : LooksUp vars s a packages s') :
    Expr.Finds vars packages (scanQualifiers s a) := by
  obtain ⟨found, hfinds, hscan⟩ := h []
  rw [List.append_nil, scanQualifiers_nil, List.append_nil] at hscan
  exact hscan ▸ hfinds

/-- A variable is found where something exported is selected from it. What is selected may be
nothing at all, so that it depends on what follows. -/
lemma LooksUp.ofVariable {x name : String} (known : x ∈ vars) (hx : isNamePart x = true)
    (hname : isNamePart name = true) :
    LooksUp vars (.code false) (x ++ "." ++ name).toList [] (.code true) := by
  obtain ⟨s, hs, hscan⟩ := Scans.namePart hx
  rw [String.append_assoc, String.toList_append]
  rcases hs with rfl | ⟨joined, rfl⟩
  · refine hscan.nil_append fun rest => ?_
    refine ⟨if (name.toList ++ rest).head?.any isUpper then [x] else [], ⟨by simp, ?_⟩, ?_⟩
    · intro q hq
      split at hq
      · exact List.mem_append_right _ (List.mem_singleton.mp hq ▸ known)
      · cases hq
    · have hdot : isIdentChar '.' = false := by decide
      have hjoined := Scans.joined (List.all_eq_true.mp hname) rest
      rw [List.nil_append] at hjoined
      rw [String.toList_append, show ".".toList = ['.'] from rfl, List.singleton_append,
        List.cons_append, scanQualifiers, if_neg (by simp [hdot])]
      simp [hjoined]
  · exact (hscan.append_nil (.afterCode hname joined)).looksUp

end

namespace Expr

variable {vars : List String}

/-- What a scan makes of an expression's text. -/
def Scanned (vars : List String) (e : Expr) : Prop :=
  ∃ s, s.IsOpen ∧ (e.isClosed = true → ∃ joined, s = .code joined) ∧
    LooksUp vars (.code false) e.render.toList e.packages s

/-- A mark before an expression changes nothing about it. -/
lemma Scanned.mark {e e' : Expr} (mark : String) (h : Scanned vars e)
    (hmark : mark.toList.all isBreak = true) (hne : mark.toList ≠ [])
    (hrender : e'.render = mark ++ e.render) (hpackages : e'.packages = e.packages)
    (hclosed : e'.isClosed = false) : Scanned vars e' := by
  obtain ⟨s, hopen, -, hscan⟩ := h
  refine ⟨s, hopen, by simp [hclosed], ?_⟩
  rw [hrender, String.toList_append, hpackages]
  exact (Scans.breaks (.code false) hmark hne).nil_append hscan

/-- The arguments of a call, between commas. -/
lemma looksUp_args {args : List Expr} (h : ∀ e ∈ args, Scanned vars e) :
    ∃ s, s.IsOpen ∧
      LooksUp vars (.code false) (", ".intercalate (renderAll args)).toList
        (packagesAll args) s := by
  induction args with
  | nil => exact ⟨_, .code false, (Scans.nil _).looksUp⟩
  | cons e rest ih =>
    obtain ⟨s, hopen, -, hscan⟩ := h e List.mem_cons_self
    obtain ⟨s', hopen', hscan'⟩ := ih fun e he => h e (List.mem_cons_of_mem _ he)
    cases rest with
    | nil =>
      refine ⟨s, hopen, ?_⟩
      simpa [renderAll, packagesAll, String.intercalate_singleton] using hscan
    | cons e' rest =>
      refine ⟨s', hopen', ?_⟩
      have hcomma : Scans s ", ".toList [] (.code false) :=
        .breaks hopen (by decide) (by decide)
      simp only [renderAll, String.intercalate_cons_cons, String.toList_append] at hscan' ⊢
      exact (hscan.append_nil hcomma).append hscan'

/-- A scan of an expression has its packages, whatever its texts hold. -/
theorem Plain.scanned {e : Expr} (plain : Plain vars e) (exported : AreExported e.names)
    (parts : AreParts e.names) : Scanned vars e := by
  induction plain with
  | ident name =>
    rw [names, areParts_single] at parts
    obtain ⟨s, hopen, hscan⟩ := Scans.own parts
    exact ⟨s, hopen, by simp [isClosed], hscan.looksUp⟩
  | member package name =>
    rw [names, areExported_member] at exported
    rw [names, areParts_single] at parts
    exact ⟨_, .code _, fun _ => ⟨_, rfl⟩, (Scans.member exported.1 parts exported.2).looksUp⟩
  | @selectVariable x known name =>
    simp only [names, areParts_append, areParts_single] at parts
    exact ⟨_, .code _, fun _ => ⟨_, rfl⟩, .ofVariable known parts.1 parts.2⟩
  | @select base closed plain name ih =>
    simp only [names, areExported_append, areParts_append, areParts_single] at exported parts
    obtain ⟨s, -, hclosed, hscan⟩ := ih exported.1 parts.1
    obtain ⟨joined, rfl⟩ := hclosed closed
    refine ⟨_, .code true, fun _ => ⟨_, rfl⟩, ?_⟩
    rw [render, String.append_assoc, String.toList_append]
    exact hscan.append_nil (.afterCode parts.2 _)
  | @call callee args plain all ih ihs =>
    simp only [names, namesAll_eq, areExported_append, areExported_flatMap, areParts_append,
      areParts_flatMap] at exported parts
    obtain ⟨s, hopen, -, hscan⟩ := ih exported.1 parts.1
    obtain ⟨s', hopen', hscan'⟩ := looksUp_args fun e he =>
      ihs e he (exported.2 e he) (parts.2 e he)
    refine ⟨_, .code false, fun _ => ⟨_, rfl⟩, ?_⟩
    have hstart := hscan.append_nil (.ofBreak hopen (c := '(') (by decide))
    have hend := hscan'.append_nil (.ofBreak hopen' (c := ')') (by decide))
    simpa [render, packages] using hstart.append hend
  | @index base key plain plain' ih ih' =>
    simp only [names, areExported_append, areParts_append] at exported parts
    obtain ⟨s, hopen, -, hscan⟩ := ih exported.1 parts.1
    obtain ⟨s', hopen', -, hscan'⟩ := ih' exported.2 parts.2
    refine ⟨_, .code false, fun _ => ⟨_, rfl⟩, ?_⟩
    have hstart := hscan.append_nil (.ofBreak hopen (c := '[') (by decide))
    have hend := hscan'.append_nil (.ofBreak hopen' (c := ']') (by decide))
    simpa [render, packages] using hstart.append hend
  | address plain ih =>
    exact (ih exported parts).mark "&" (by decide) (by decide) rfl rfl rfl
  | deref plain ih =>
    exact (ih exported parts).mark "*" (by decide) (by decide) rfl rfl rfl
  | not plain ih =>
    exact (ih exported parts).mark "!" (by decide) (by decide) rfl rfl rfl
  | @binary op left right plain plain' ih ih' =>
    simp only [names, areExported_append, areParts_append] at exported parts
    obtain ⟨s, hopen, -, hscan⟩ := ih exported.1 parts.1
    obtain ⟨s', hopen', -, hscan'⟩ := ih' exported.2 parts.2
    refine ⟨s', hopen', by simp [isClosed], ?_⟩
    have hmark : Scans s (" " ++ op.symbol ++ " ").toList [] (.code false) := by
      refine .breaks hopen ?_ (by simp)
      cases op <;> decide
    have hall := (hscan.append_nil hmark).append hscan'
    simpa [render, packages] using hall
  | @paren e plain ih =>
    obtain ⟨s, hopen, -, hscan⟩ := ih exported parts
    refine ⟨_, .code false, fun _ => ⟨_, rfl⟩, ?_⟩
    have hstart : Scans (.code false) ['('] [] (.code false) :=
      .ofBreak (.code false) (by decide)
    have hend := hscan.append_nil (.ofBreak hopen (c := ')') (by decide))
    simpa [render, packages] using hstart.nil_append hend
  | methodOf owner name =>
    simp only [names, areExported_append, areParts_append, areParts_single] at exported parts
    obtain ⟨s, hopen, hscan⟩ := Scans.typeText exported.1 parts.1
    refine ⟨_, .code true, fun _ => ⟨_, rfl⟩, ?_⟩
    have hstart : Scans (.code false) ['('] [] (.code false) :=
      .ofBreak (.code false) (by decide)
    have hend := hscan.append_nil (.ofBreak hopen (c := ')') (by decide))
    have hname : LooksUp vars _ _ _ _ :=
      ((hstart.append hend).append_nil (.afterCode parts.2 _)).looksUp
    simpa [render, packages] using hname
  | text value =>
    exact ⟨_, .code false, by simp [isClosed], (Scans.literal (.code false) value).looksUp⟩
  | rawText value =>
    exact ⟨_, .code false, by simp [isClosed], (Scans.rawLiteral (.code false) value).looksUp⟩
  | verbatim isToken =>
    obtain ⟨s, hopen, hscan⟩ := isToken
    exact ⟨s, hopen, by simp [isClosed], hscan.looksUp⟩

/-- What a scan looks up for an expression: its packages, and nothing else but variables. -/
theorem Plain.exprQualifiers_finds {e : Expr} (plain : Plain vars e)
    (exported : AreExported e.names) (parts : AreParts e.names) :
    Finds vars e.packages (exprQualifiers e.render) := by
  obtain ⟨s, -, -, hscan⟩ := plain.scanned exported parts
  exact hscan.finds

/-! ### Names that are spelled well -/

end Expr

lemma TypeRef.names_of_isSpelled {t : TypeRef} (spelled : t.isSpelled = true)
    (exported : t.isExported = true) : AreExported t.names ∧ AreParts t.names := by
  induction t with
  | builtin scalar => simp [names, AreExported, AreParts]
  | named name => simpa [names] using isNamePart_of_isIdentifier spelled
  | qualified package name =>
    simp only [isSpelled, isExported, Bool.and_eq_true, Bool.or_eq_true] at spelled exported
    rw [names, areParts_single]
    refine ⟨?_, isNamePart_of_isIdentifier spelled.2⟩
    split
    · exact areExported_own name
    · next hempty =>
      rw [areExported_member]
      exact ⟨spelled.1.resolve_left hempty, exported.resolve_left hempty⟩
  | pointer target ih => exact ih spelled exported
  | slice element ih => exact ih spelled exported
  | map key value ihk ihv =>
    simp only [isSpelled, isExported, Bool.and_eq_true] at spelled exported
    obtain ⟨hkey, hkey'⟩ := ihk spelled.1 exported.1
    obtain ⟨hvalue, hvalue'⟩ := ihv spelled.2 exported.2
    rw [names, areExported_append, areParts_append]
    exact ⟨⟨hkey, hvalue⟩, hkey', hvalue'⟩

namespace Expr

variable {vars : List String}

lemma Plain.names_of_isSpelled {e : Expr} (plain : Plain vars e) (spelled : e.isSpelled = true) :
    AreExported e.names ∧ AreParts e.names := by
  have hnil : AreExported [] ∧ AreParts [] := ⟨by simp [AreExported], by simp [AreParts]⟩
  have happend : ∀ {names names'}, AreExported names ∧ AreParts names →
      AreExported names' ∧ AreParts names' →
        AreExported (names ++ names') ∧ AreParts (names ++ names') := by
    rintro names names' ⟨hexported, hparts⟩ ⟨hexported', hparts'⟩
    rw [areExported_append, areParts_append]
    exact ⟨⟨hexported, hexported'⟩, hparts, hparts'⟩
  have hown : ∀ {name}, isIdentifier name = true →
      AreExported [(none, name)] ∧ AreParts [(none, name)] := fun h =>
    ⟨areExported_own _, (areParts_single _ _).mpr (isNamePart_of_isIdentifier h)⟩
  induction plain with
  | ident name => exact hown spelled
  | member package name =>
    simp only [isSpelled, Bool.and_eq_true] at spelled
    rw [names, areExported_member, areParts_single]
    exact ⟨⟨spelled.1.1, spelled.2⟩, isNamePart_of_isIdentifier spelled.1.2⟩
  | selectVariable known name =>
    simp only [isSpelled, Bool.and_eq_true] at spelled
    exact happend (hown spelled.1) (hown spelled.2)
  | select closed plain name ih =>
    simp only [isSpelled, Bool.and_eq_true] at spelled
    exact happend (ih spelled.1) (hown spelled.2)
  | @call callee args plain all ih ihs =>
    simp only [isSpelled, isSpelledAll_eq, Bool.and_eq_true, List.all_eq_true] at spelled
    refine happend (ih spelled.1) ?_
    rw [namesAll_eq, areExported_flatMap, areParts_flatMap]
    exact ⟨fun e he => (ihs e he (spelled.2 e he)).1, fun e he => (ihs e he (spelled.2 e he)).2⟩
  | index plain plain' ih ih' =>
    simp only [isSpelled, Bool.and_eq_true] at spelled
    exact happend (ih spelled.1) (ih' spelled.2)
  | address plain ih => exact ih spelled
  | deref plain ih => exact ih spelled
  | not plain ih => exact ih spelled
  | binary op plain plain' ih ih' =>
    simp only [isSpelled, Bool.and_eq_true] at spelled
    exact happend (ih spelled.1) (ih' spelled.2)
  | paren plain ih => exact ih spelled
  | methodOf owner name =>
    simp only [isSpelled, Bool.and_eq_true] at spelled
    exact happend (TypeRef.names_of_isSpelled spelled.1.1 spelled.1.2) (hown spelled.2)
  | text value => exact hnil
  | rawText value => exact hnil
  | verbatim isToken => exact hnil

/-- Expressions whose names are spelled well are scanned for their packages. -/
theorem exprQualifiers_render {e : Expr} (plain : Plain vars e)
    (spelled : e.isSpelled = true) :
    Finds vars e.packages (exprQualifiers e.render) := by
  obtain ⟨exported, parts⟩ := plain.names_of_isSpelled spelled
  exact plain.exprQualifiers_finds exported parts

end Expr

end Laminate.Code
