import Laminate.Proofs.Evaluation
import Laminate.Proofs.Imports
import Laminate.Proofs.WordForms

/-! Parameters of the constructors for tests. They are fields in lower camel case, with an
underscore where a reserved word or an import is called so. An import whose path ends in a version
is missed, so a parameter may be called like it. -/
namespace Laminate.Code

open Laminate.Text

/-- The names of the parameters that a declaration has. -/
def Decl.paramNames : Decl → List String
  | function _ _ _ params _ _ => params.map (·.name)
  | _ => []

/-- A path that does not end in a version is called by its last segment. -/
lemma pathName_eq_lastPiece {path : String} (h : isVersionSegment (lastPiece '/' path) = false) :
    pathName path = lastPiece '/' path := by
  unfold pathName segments
  cases haround : aroundLast? '/' path with
  | none =>
    have hlast : lastPiece '/' path = path := by simp [lastPiece, haround]
    rw [Schema.pieces_eq_of_aroundLast?_none haround, hlast]
    rw [hlast] at h
    simp [h]
  | some parts =>
    obtain ⟨before, after⟩ := parts
    have hlast : lastPiece '/' path = after := by simp [lastPiece, haround]
    rw [Schema.pieces_eq_of_aroundLast? haround, hlast]
    rw [hlast] at h
    simp [h]

/-! ### The package of a pointer -/

lemma trimBoth_append (front text : List Char) {first last : Char}
    (hfirst : isBlank first = false) (hlast : isBlank last = false) :
    ∃ rest, trimBoth isBlank (first :: front ++ last :: text) = first :: front ++ last :: rest := by
  have hfront : (first :: front ++ last :: text).dropWhile isBlank =
      first :: front ++ last :: text := by
    simp [hfirst]
  have hback : (first :: front ++ last :: text).reverse =
      text.reverse ++ last :: (first :: front).reverse := by
    simp
  have hkept : (last :: (first :: front).reverse).dropWhile isBlank =
      last :: (first :: front).reverse := by
    simp [hlast]
  refine ⟨(text.reverse.dropWhile isBlank).reverse, ?_⟩
  unfold trimBoth
  rw [hfront, hback, List.dropWhile_append, hkept]
  split
  · next hempty => simp [List.isEmpty_iff.mp hempty]
  · simp

lemma stripMarks_eq_self {c : Char} {rest : List Char} (h : c ≠ '*') (h' : c ≠ '[') :
    stripMarks (c :: rest) = c :: rest := by
  unfold stripMarks
  split
  · next heq => exact absurd (List.cons.inj heq).1 h
  · next heq => exact absurd (List.cons.inj heq).1 h'
  · rfl

/-- A pointer to a type of a package has the package looked up, whatever else the text may be. -/
lemma typeQualifiers_pointer {package : List Char}
    (h : ∀ c ∈ package, c ≠ '*' ∧ c ≠ '[' ∧ c ≠ '.') (name : List Char) :
    (typeQualifiers ('*' :: package ++ '.' :: name)).1 = [String.ofList package] := by
  obtain ⟨rest, htrim⟩ := trimBoth_append package name
    (show isBlank '*' = false by decide) (show isBlank '.' = false by decide)
  have hstrip : stripMarks (trimBoth isBlank ('*' :: package ++ '.' :: name)) =
      package ++ '.' :: rest := by
    rw [htrim, List.cons_append, stripMarks]
    cases package with
    | nil => exact stripMarks_eq_self (by decide) (by decide)
    | cons c more =>
      obtain ⟨hstar, hbracket, -⟩ := h c List.mem_cons_self
      exact stripMarks_eq_self hstar hbracket
  have hcut : cutFirst '.' (package ++ '.' :: rest) = some (package, rest) :=
    cutFirst_append fun hmem => (h '.' hmem).2.2 rfl
  rw [typeQualifiers.eq_def]
  split
  · next inner hmap =>
    -- the fourth character is a bracket, which is neither in the package nor the dot after it
    rw [hstrip] at hmap
    have hbracket : '[' ∈ package := by
      have hfour : package ++ '.' :: rest = ['m', 'a', 'p', '['] ++ inner := hmap
      rcases List.append_eq_append_iff.mp hfour with ⟨middle, hword, hmiddle⟩ | ⟨middle, rfl, -⟩
      · cases middle with
        | nil =>
          rw [List.append_nil] at hword
          simp [← hword]
        | cons c middle =>
          obtain ⟨rfl, -⟩ := List.cons.inj hmiddle
          have hdot : '.' ∈ ['m', 'a', 'p', '['] := by simp [hword]
          exact absurd hdot (by decide)
      · simp
    exact absurd rfl (h '[' hbracket).2.1
  · rw [hstrip, hcut]

end Laminate.Code

namespace Laminate.Template

open Laminate.Text Laminate.Code

variable {taken : List String} {field other : String}

/-- A parameter is called by the field itself or, where that name is in use, by it and an
underscore. -/
lemma paramName_cases (taken : List String) (field : String) :
    (paramName taken field = lowerCamelCase field ∧ lowerCamelCase field ∉ keywords ∧
        lowerCamelCase field ∉ taken) ∨
      (paramName taken field = lowerCamelCase field ++ "_" ∧
        (lowerCamelCase field ∈ keywords ∨ lowerCamelCase field ∈ taken)) := by
  unfold paramName
  simp only [Bool.or_eq_true, List.contains_iff_mem]
  split
  · next hused => exact .inr ⟨rfl, hused⟩
  · next hfree => exact .inl ⟨rfl, not_or.mp hfree⟩

lemma underscore_notMem (field : String) : '_' ∉ (lowerCamelCase field).toList := by
  intro h
  exact absurd (of_mem_lowerCamelCase '_' h) (by decide)

lemma append_underscore_ne (name field : String) : name ++ "_" ≠ lowerCamelCase field := by
  intro h
  refine underscore_notMem field ?_
  rw [← h]
  simp

/-- Underscores make no two parameters one. -/
lemma paramName_inj :
    paramName taken field = paramName taken other ↔
      lowerCamelCase field = lowerCamelCase other := by
  constructor
  · intro h
    rcases paramName_cases taken field with ⟨hname, -⟩ | ⟨hname, -⟩ <;>
      rcases paramName_cases taken other with ⟨hname', -⟩ | ⟨hname', -⟩ <;>
      rw [hname, hname'] at h
    · exact h
    · exact absurd h.symm (append_underscore_ne _ _)
    · exact absurd h (append_underscore_ne _ _)
    · exact (String.append_left_inj _).mp h
  · intro h
    unfold paramName
    rw [h]

lemma paramName_notMem_keywords (taken : List String) (field : String) :
    paramName taken field ∉ keywords := by
  rcases paramName_cases taken field with ⟨hname, hfree, -⟩ | ⟨hname, -⟩
  · rw [hname]
    exact hfree
  · intro hmem
    have hends : ∀ word ∈ keywords, word.toList.getLast? ≠ some '_' := by decide +kernel
    refine hends _ hmem ?_
    rw [hname, String.toList_append]
    simp

lemma of_mem_paramName {c : Char} (h : c ∈ (paramName taken field).toList) :
    isWordChar c = true ∨ c = '_' := by
  rcases paramName_cases taken field with ⟨hname, -⟩ | ⟨hname, -⟩
  · rw [hname] at h
    exact .inl (of_mem_lowerCamelCase c h)
  · rw [hname, String.toList_append] at h
    rcases List.mem_append.mp h with h | h
    · exact .inl (of_mem_lowerCamelCase c h)
    · exact .inr (List.mem_singleton.mp h)

/-- A line that parameters keep clear of: what it is called is read off its path as it should be,
and it is no name that an underscore is put behind. -/
def Avoided (lines : List Import) (i : Import) : Prop :=
  (i.localName = none → isVersionSegment (lastPiece '/' i.path) = false) ∧
    ∀ name, i.bound = name ++ "_" → name ∉ keywords ∧ name ∉ lines.map importName

lemma bound_eq_importName {i : Import}
    (h : i.localName = none → isVersionSegment (lastPiece '/' i.path) = false) :
    i.bound = importName i := by
  unfold Import.bound importName
  cases hlocal : i.localName with
  | some name => rfl
  | none => exact pathName_eq_lastPiece (h hlocal)

/-- A field makes a parameter that is called like a line: by itself, where the path of the line ends
in a version, which is taken for the line's name, or with an underscore behind it. -/
def Meets (lines : List Import) (i : Import) (field : String) : Prop :=
  (i.localName = none ∧ isVersionSegment (lastPiece '/' i.path) = true ∧
      lowerCamelCase field = i.bound ∧ i.bound ∉ keywords ∧ i.bound ∉ lines.map importName) ∨
    (lowerCamelCase field ++ "_" = i.bound ∧
      (lowerCamelCase field ∈ keywords ∨ lowerCamelCase field ∈ lines.map importName))

lemma paramName_eq_iff {name : String} :
    paramName taken field = name ↔
      (lowerCamelCase field = name ∧ name ∉ keywords ∧ name ∉ taken) ∨
        (lowerCamelCase field ++ "_" = name ∧
          (lowerCamelCase field ∈ keywords ∨ lowerCamelCase field ∈ taken)) := by
  rcases paramName_cases taken field with ⟨hname, hkeyword, hfree⟩ | ⟨hname, hused⟩
  · rw [hname]
    constructor
    · rintro rfl
      exact .inl ⟨rfl, hkeyword, hfree⟩
    · rintro (⟨h, -⟩ | ⟨-, hused⟩)
      · exact h
      · exact (hused.elim hkeyword hfree).elim
  · rw [hname]
    constructor
    · rintro rfl
      exact .inr ⟨rfl, hused⟩
    · rintro (⟨rfl, hkeyword, hfree⟩ | ⟨h, -⟩)
      · exact (hused.elim hkeyword hfree).elim
      · exact h

/-- The names of the lines that are read off their paths are in use. -/
theorem paramName_eq_bound_iff {lines : List Import} {i : Import} (hi : i ∈ lines) :
    paramName (lines.map importName) field = i.bound ↔ Meets lines i field := by
  rw [paramName_eq_iff]
  refine or_congr_left ⟨fun ⟨hname, hkeyword, hfree⟩ => ?_, fun ⟨_, _, h⟩ => h⟩
  have hmissed : ¬ (i.localName = none → isVersionSegment (lastPiece '/' i.path) = false) := by
    intro hread
    rw [bound_eq_importName hread] at hfree
    exact hfree (List.mem_map_of_mem hi)
  rw [Classical.not_imp, Bool.not_eq_false] at hmissed
  exact ⟨hmissed.1, hmissed.2, hname, hkeyword, hfree⟩

lemma paramName_ne_bound {lines : List Import} {i : Import} (hi : i ∈ lines)
    (havoided : Avoided lines i) (field : String) :
    paramName (lines.map importName) field ≠ i.bound := by
  obtain ⟨hread, hmarked⟩ := havoided
  intro h
  rcases (paramName_eq_bound_iff hi).mp h with ⟨hlocal, hversion, -⟩ | ⟨hname, hused⟩
  · rw [hread hlocal] at hversion
    cases hversion
  · obtain ⟨hkeyword, hfree⟩ := hmarked _ hname.symm
    exact hused.elim hkeyword hfree

end Laminate.Template

namespace Laminate.Form

open Laminate.Text Laminate.Schema Laminate.Code Laminate.Descriptor Laminate.Annotation

namespace Plan

variable (plan : Plan)

/-- What the constructors' parameters are kept clear of. -/
def testLines : List Import := (Template.sourceFile plan .fixtures).imports

/-- No smaller qualifier in the tests stands for the package under test. -/
def IsLeastInTests : Prop :=
  ∀ other ∈ plan.lookedUp .fixtures, other ∉ Qualifiers.receivers →
    (plan.qualifiers true).pathOf? other = (plan.qualifiers true).pathOf? plan.module.goName →
      plan.module.goName ≤ other

/-- The constructor of a message's domain struct, with its parameters. They are as distinct as the
fields in lower camel case, and no reserved words. One of them is called like a line just where a
field meets it, and so not where the line is kept clear of; that holds for the package under test,
too. -/
structure Constructs (m : PlannedMessage) (decl : Decl) : Prop where
  binds : decl.binds? = some ("New" ++ m.message.names.domain)
  one_each : decl.paramNames.length = m.fields.length
  distinct : decl.paramNames.Nodup ↔ (m.fields.map fun f => lowerCamelCase f.names.domain).Nodup
  unreserved : ∀ p ∈ decl.paramNames, p ∉ keywords
  bound_iff : ∀ i ∈ plan.testLines, i.bound ∈ decl.paramNames ↔
    ∃ f ∈ m.fields, Template.Meets plan.testLines i f.names.domain
  unbound : ∀ p ∈ decl.paramNames, ∀ i ∈ plan.testLines,
    Template.Avoided plan.testLines i → p ≠ i.bound
  untested : plan.module.goName ∉ Qualifiers.receivers → plan.IsLeastInTests →
    (∀ i ∈ plan.testLines, i.bound = plan.module.goName → Template.Avoided plan.testLines i) →
      plan.module.goName ∉ decl.paramNames

variable {plan}

lemma paramNames_fixtureDecl {m : PlannedMessage} (package : String) (taken : List String)
    (h : ∀ f ∈ m.fields, f.fixture.isSome = true) :
    (Template.fixtureDecl package taken m).paramNames =
      m.fields.map fun f => Template.paramName taken f.names.domain := by
  have hrows : ∀ fields : List PlannedField, (∀ f ∈ fields, f.fixture.isSome = true) →
      (fields.filterMap fun f => f.fixture.map fun t => (f.names.domain, t)).map
        (fun row => Template.paramName taken row.1) =
        fields.map fun f => Template.paramName taken f.names.domain := by
    intro fields hfields
    induction fields with
    | nil => rfl
    | cons f rest ih =>
      obtain ⟨hfirst, hrest⟩ := List.forall_mem_cons.mp hfields
      obtain ⟨type, htype⟩ := Option.isSome_iff_exists.mp hfirst
      rw [List.filterMap_cons, htype, Option.map_some, List.map_cons, List.map_cons, ih hrest]
  simpa [Template.fixtureDecl, Decl.paramNames, Function.comp_def] using hrows m.fields h

/-- The package under test is looked up for its tests where a parameter is called like it. -/
lemma goName_mem_lookedUp {m : PlannedMessage} (hm : m ∈ plan.domainMessages)
    (h : ∀ c ∈ plan.module.goName.toList, isWordChar c = true ∨ c = '_') :
    plan.module.goName ∈ plan.lookedUp .fixtures := by
  have hplain : ∀ c ∈ plan.module.goName.toList, c ≠ '*' ∧ c ≠ '[' ∧ c ≠ '.' := by
    intro c hc
    rcases h c hc with hword | rfl
    · refine ⟨?_, ?_, ?_⟩ <;> rintro rfl <;> exact absurd hword (by decide)
    · decide
  refine List.mem_flatMap.mpr
    ⟨.type ("*" ++ plan.module.goName ++ "." ++ m.message.names.domain), ?_, ?_⟩
  · exact List.mem_flatMap.mpr ⟨m, hm, List.mem_cons_self⟩
  · have htext : ("*" ++ plan.module.goName ++ "." ++ m.message.names.domain).toList =
        '*' :: plan.module.goName.toList ++ '.' :: m.message.names.domain.toList := by
      simp [String.toList_append]
    rw [Mention.names, htext, typeQualifiers_pointer hplain, String.ofList_toList]
    exact List.mem_singleton_self _

end Plan

variable {request : Request} {settings : Settings} {index : Index} {home : FileDesc} {plan : Plan}

/-- Each domain message has one constructor in the tests, whose parameters may stand beside one
another where the fields in lower camel case may, and beside an import where no field meets it. -/
theorem fixture_parameters (hplan : request.plan settings index home = .ok plan)
    (hwritten : .fixtures ∈ plan.written) :
    List.Forall₂ plan.Constructs plan.domainMessages
      (Template.sourceFile plan .fixtures).decls := by
  obtain ⟨schema, -, hof⟩ := plan_ok hplan
  obtain ⟨-, -, -, -, -, -, resolved⟩ := Plan.of_ok hof
  have available : Template.fixtures.isAvailable plan.settings = true :=
    (Bool.and_eq_true_iff.mp (List.mem_filter.mp hwritten).2).1
  have hdecls : (Template.sourceFile plan .fixtures).decls = plan.domainMessages.map
      (Template.fixtureDecl plan.module.goName (plan.testLines.map Template.importName)) := rfl
  rw [hdecls, List.forall₂_map_right_iff, List.forall₂_same]
  intro m hm
  obtain ⟨hmem, hdomain⟩ := List.mem_filter.mp hm
  obtain ⟨symbols, -, -, -, locations, hplanned⟩ := exists_declaration hplan hmem
  have hparams := Plan.paramNames_fixtureDecl plan.module.goName
    (plan.testLines.map Template.importName)
    fun f hf => (Plan.fixture_isSome (hplanned f hf)).trans hdomain
  constructor
  · rfl
  · rw [hparams, List.length_map]
  · rw [hparams]
    simp only [List.Nodup, List.pairwise_map]
    exact List.Pairwise.iff fun f g => not_congr Template.paramName_inj
  · rw [hparams]
    intro p hp
    obtain ⟨f, -, rfl⟩ := List.mem_map.mp hp
    exact Template.paramName_notMem_keywords _ _
  · rw [hparams]
    intro i hi
    rw [List.mem_map]
    exact exists_congr fun f => and_congr_right fun _ => Template.paramName_eq_bound_iff hi
  · rw [hparams]
    intro p hp i hi havoided
    obtain ⟨f, -, rfl⟩ := List.mem_map.mp hp
    exact Template.paramName_ne_bound hi havoided _
  · rw [hparams]
    intro hreceiver hleast havoided hp
    obtain ⟨f, -, hname⟩ := List.mem_map.mp hp
    have hlooked := Plan.goName_mem_lookedUp hm fun c hc =>
      Template.of_mem_paramName (hname.symm ▸ hc)
    obtain ⟨set, collected, himports⟩ := Plan.importsOf_spec resolved available
    have hlines : plan.testLines = set.sorted := himports
    have hbinds : (plan.qualifiers true).BindsNames := Plan.qualifiers_bindsNames true
    have hnot : plan.module.goName ∉ (plan.qualifiers true).ignored := by
      rw [Plan.qualifiers_ignored]
      exact hreceiver
    obtain ⟨path, hpath⟩ := collected.exists_pathOf? hlooked hnot
    have hdeclares : Declares set.sorted plan.module.goName path := by
      refine (collected.declares_iff hbinds).mpr
        ⟨hlooked, hnot, hpath, fun other hother hfree h => ?_⟩
      refine hleast other hother ?_ (h.trans hpath.symm)
      rw [Plan.qualifiers_ignored] at hfree
      exact hfree
    obtain ⟨i, hi, hbound, -⟩ := (declares_iff (collected.nodup_sorted hbinds)).mp hdeclares
    rw [← hlines] at hi
    exact Template.paramName_ne_bound hi (havoided i hi hbound) _ (hname.trans hbound.symm)

/-! ### Requests -/

/-- Tests for what a plan has, whether it has anything or not. -/
def testSettings : Settings := { addons := [.fixtures], strict := false }

/-- One message, with texts under some names. -/
def testedFile (goPackage : String) (names : List String) : FileDesc where
  name := "user.proto"
  package := "acme"
  goPackage := some goPackage
  messages := [.node
    { name := "UserWire"
      fields := names.map fun name => { name := name, type := .string } } []]

/-- A plan for tests of a package, with the names that its import lines bind, the identifiers of its
fields and the parameters that are made of them. -/
def Tests (plan : Plan) (package : String) (lines fields params : List String) : Prop :=
  .fixtures ∈ plan.written ∧ plan.module.goName = package ∧
    plan.testLines.map Import.bound = lines ∧
    plan.domainMessages.map (fun m => m.fields.map (·.names.domain)) = [fields] ∧
    (Template.sourceFile plan .fixtures).decls.map Decl.paramNames = [params]

instance (plan : Plan) (package : String) (lines fields params : List String) :
    Decidable (Tests plan package lines fields params) :=
  inferInstanceAs (Decidable (_ ∧ _ ∧ _ ∧ _ ∧ _))

lemma exists_tests {file : FileDesc} {package : String} {lines fields params : List String}
    (h : (Request.planOnePass ⟨[file], none, []⟩ testSettings {} file).toOption.any (fun plan =>
      decide (Tests plan package lines fields params)) = true) :
    ∃ plan, Request.plan ⟨[file], none, []⟩ testSettings {} file = .ok plan ∧
      Tests plan package lines fields params := by
  rw [← Request.plan_eq_planOnePass] at h
  obtain ⟨plan, hplan, hcheck⟩ := exists_of_check h
  exact ⟨plan, hplan, of_decide_eq_true hcheck⟩

/-- A field called like the package, and one called by a reserved word. -/
def namesakeFile : FileDesc :=
  testedFile "github.com/acme/user" ["created_at", "type", "user"]

/-- Reserved words and the package under test are kept clear of. -/
theorem user_parameters :
    ∃ plan, Request.plan ⟨[namesakeFile], none, []⟩ testSettings {} namesakeFile = .ok plan ∧
      Tests plan "user" ["user"] ["CreatedAt", "Type", "User"] ["createdAt", "type_", "user_"] ∧
      List.Forall₂ plan.Constructs plan.domainMessages
        (Template.sourceFile plan .fixtures).decls := by
  have htests : ∃ plan,
      Request.plan ⟨[namesakeFile], none, []⟩ testSettings {} namesakeFile = .ok plan ∧
        Tests plan "user" ["user"] ["CreatedAt", "Type", "User"]
          ["createdAt", "type_", "user_"] :=
    exists_tests (by decide +kernel)
  obtain ⟨plan, hplan, htests⟩ := htests
  exact ⟨plan, hplan, htests, fixture_parameters hplan htests.1⟩

/-- Two fields meet in lower camel case. A parameter is called like the package under test where the
path of that ends in a version, where its name ends in an underscore, and where it is called like a
receiver, so that it is not imported. -/
theorem parameters_meet :
    (∃ plan, Request.plan ⟨[testedFile "github.com/acme/user" ["a_b", "ab"]], none, []⟩
        testSettings {} (testedFile "github.com/acme/user" ["a_b", "ab"]) = .ok plan ∧
      Tests plan "user" ["user"] ["AB", "Ab"] ["ab", "ab"]) ∧
    (∃ plan, Request.plan ⟨[testedFile "github.com/acme/user/v2;user" ["user"]], none, []⟩
        testSettings {} (testedFile "github.com/acme/user/v2;user" ["user"]) = .ok plan ∧
      Tests plan "user" ["user"] ["User"] ["user"]) ∧
    (∃ plan, Request.plan ⟨[testedFile "github.com/acme/type_" ["type"]], none, []⟩
        testSettings {} (testedFile "github.com/acme/type_" ["type"]) = .ok plan ∧
      Tests plan "type_" ["type_"] ["Type"] ["type_"]) ∧
    ∃ plan, Request.plan ⟨[testedFile "github.com/acme/d" ["d"]], none, []⟩
        testSettings {} (testedFile "github.com/acme/d" ["d"]) = .ok plan ∧
      Tests plan "d" [] ["D"] ["d"] :=
  ⟨exists_tests (by decide +kernel), exists_tests (by decide +kernel),
    exists_tests (by decide +kernel), exists_tests (by decide +kernel)⟩

end Laminate.Form
