import Laminate.Proofs.CompanionNames
import Mathlib.Data.List.Chain

/-! Exported names. They read as the names that they are made of but for case and a few underscores,
and in each of them a small letter stands behind a letter. Exporting such a name changes nothing, so
a name is exported once and for all. -/
namespace Laminate.Code

open Laminate.Text

/-- A name without the underscores that stand before a small letter. -/
def withoutJoints : List Char → List Char
  | [] => []
  | c :: rest =>
    if c = '_' ∧ rest.head?.any Char.isLower then withoutJoints rest else c :: withoutJoints rest

/-- What an exported name spells: an underscore in front is an `X`, and no other one stands before
a small letter. -/
def spelledOut : List Char → List Char
  | '_' :: rest => 'X' :: withoutJoints rest
  | name => withoutJoints name

/-! ### Small letters -/

/-- May stand next to each other in an exported name. -/
def Adjoins (c next : Char) : Prop := next.isLower = true → c.isAlpha = true

lemma cased_ascii : ∀ c : Char, c.toNat < 128 →
    c.toUpper.isLower = false ∧ c.toUpper.toLower = c.toLower ∧
    (isSchemaChar c = true → c.isDigit = false → c ≠ '_' → c.toUpper.isAlpha = true) ∧
    (isSchemaChar c = true → c.isLower = false → c.toUpper = c) ∧
    (c.isLower = true → c.isAlpha = true ∧ c.isUpper = false) ∧
    (c.isDigit = true → c.isLower = false) :=
  forall_ascii (by decide +kernel)

lemma ne_dot_of_isSchemaChar {c : Char} (h : isSchemaChar c = true) : c ≠ '.' := by
  rintro rfl
  cases h

/-- Only in the midst of a word does a name go on with a small letter. -/
lemma head_exportedFrom {place : NamePlace} {name : List Char}
    (h : ∀ c ∈ name, isSchemaChar c = true) {c : Char} (hc : c ∈ (exportedFrom place name).head?)
    (hlower : c.isLower = true) : place = .word ∧ name.head?.any Char.isLower = true := by
  induction name generalizing place with
  | nil => cases hc
  | cons d rest ih =>
    obtain ⟨hd, hrest⟩ := List.forall_mem_cons.mp h
    have hupper := (cased_ascii d (lt_of_isSchemaChar hd)).1
    have hdigit := (cased_ascii d (lt_of_isSchemaChar hd)).2.2.2.2.2
    unfold exportedFrom at hc
    simp only [ne_dot_of_isSchemaChar hd, if_false] at hc
    split at hc
    · next hword => exact ⟨hword.1, hword.2⟩
    · split at hc
      · cases hc
        cases hlower
      · split at hc
        · cases (ih hrest hc).1
        · split at hc
          · next hd =>
            cases hc
            rw [hdigit hd] at hlower
            cases hlower
          · cases hc
            rw [hupper] at hlower
            cases hlower

lemma isChain_exportedFrom {place : NamePlace} {name : List Char}
    (h : ∀ c ∈ name, isSchemaChar c = true) :
    List.IsChain Adjoins (exportedFrom place name) := by
  induction name generalizing place with
  | nil => exact .nil
  | cons c rest ih =>
    obtain ⟨hc, hrest⟩ := List.forall_mem_cons.mp h
    obtain ⟨-, -, hletter, -, hlower, -⟩ := cased_ascii c (lt_of_isSchemaChar hc)
    -- Behind a character that is no part of a word stands no small letter.
    have hinner : ∀ d, List.IsChain Adjoins (d :: exportedFrom .inner rest) := by
      refine fun d => List.isChain_cons.mpr ⟨fun next hnext hsmall => ?_, ih hrest⟩
      cases (head_exportedFrom hrest hnext hsmall).1
    unfold exportedFrom
    simp only [ne_dot_of_isSchemaChar hc, if_false]
    split
    · next hword => exact List.isChain_cons.mpr ⟨fun _ _ _ => (hlower hword.2).1, ih hrest⟩
    · split
      · exact hinner 'X'
      · split
        · exact ih hrest
        · split
          · exact hinner c
          · next hjoint hdigit =>
            refine List.isChain_cons.mpr ⟨fun next hnext hsmall => ?_, ih hrest⟩
            have hunderscore : c ≠ '_' := fun heq =>
              hjoint ⟨heq, (head_exportedFrom hrest hnext hsmall).2⟩
            exact hletter hc (Bool.eq_false_iff.mpr hdigit) hunderscore

/-- Nothing is to be changed where every small letter stands behind a letter. -/
lemma exportedFrom_eq_self {place : NamePlace} {name : List Char}
    (h : ∀ c ∈ name, isSchemaChar c = true) (hchain : List.IsChain Adjoins name)
    (hfront : place = .start → name.head? ≠ some '_')
    (hplace : name.head?.any Char.isLower = true → place = .word) :
    exportedFrom place name = name := by
  induction name generalizing place with
  | nil => rfl
  | cons c rest ih =>
    obtain ⟨hc, hrest⟩ := List.forall_mem_cons.mp h
    obtain ⟨hnext, hchain⟩ := List.isChain_cons.mp hchain
    obtain ⟨-, -, -, hupper, -, -⟩ := cased_ascii c (lt_of_isSchemaChar hc)
    have hword : exportedFrom .word rest = rest := ih hrest hchain (by rintro ⟨⟩) fun _ => rfl
    have hsmall : c.isAlpha = false → rest.head?.any Char.isLower = false := by
      intro hletter
      cases rest with
      | nil => rfl
      | cons next rest =>
        rw [Bool.eq_false_iff]
        intro hlower
        rw [hnext next rfl hlower] at hletter
        cases hletter
    unfold exportedFrom
    simp only [ne_dot_of_isSchemaChar hc, if_false]
    split
    · rw [hword]
    · next hnotWord =>
      have hlower : c.isLower = false := by
        rw [Bool.eq_false_iff]
        exact fun hlower => hnotWord ⟨hplace hlower, hlower⟩
      rw [if_neg fun hstart => hfront hstart.2 (by rw [hstart.1]; rfl)]
      split
      · next hjoint =>
        rw [hsmall (by rw [hjoint.1]; rfl)] at hjoint
        cases hjoint.2
      · split
        · next hdigit =>
          have hletter : c.isAlpha = false := by
            have := (schemaChar_ascii c (lt_of_isSchemaChar hc)).2.1
            rw [Bool.eq_false_iff]
            intro hletter
            rw [(this hletter).1] at hdigit
            cases hdigit
          have hinner : exportedFrom .inner rest = rest := by
            refine ih hrest hchain (by rintro ⟨⟩) fun hany => ?_
            rw [hsmall hletter] at hany
            cases hany
          rw [hinner]
        · rw [hupper hc hlower, hword]

/-! ### Letter case -/

/-- But for case, a name is exported without its joints. -/
lemma toLower_exportedFrom (place : NamePlace) {name : List Char}
    (h : ∀ c ∈ name, isSchemaChar c = true) (hfront : place = .start → name.head? ≠ some '_') :
    (exportedFrom place name).map Char.toLower = (withoutJoints name).map Char.toLower := by
  induction name generalizing place with
  | nil => rfl
  | cons c rest ih =>
    obtain ⟨hc, hrest⟩ := List.forall_mem_cons.mp h
    obtain ⟨-, hcase, -⟩ := cased_ascii c (lt_of_isSchemaChar hc)
    have hword := ih .word hrest (by rintro ⟨⟩)
    have hinner := ih .inner hrest (by rintro ⟨⟩)
    unfold exportedFrom withoutJoints
    simp only [ne_dot_of_isSchemaChar hc, if_false]
    split
    · next hlower =>
      have hunderscore : ¬ (c = '_' ∧ rest.head?.any Char.isLower = true) := by
        rintro ⟨rfl, -⟩
        cases hlower.2
      rw [if_neg hunderscore, List.map_cons, List.map_cons, hword]
    · rw [if_neg fun hstart => hfront hstart.2 (by rw [hstart.1]; rfl)]
      split
      · exact hinner
      · split
        · rw [List.map_cons, List.map_cons, hinner]
        · rw [List.map_cons, List.map_cons, hcase, hword]

lemma toLower_exportedFrom_start {name : List Char} (h : ∀ c ∈ name, isSchemaChar c = true) :
    (exportedFrom .start name).map Char.toLower = (spelledOut name).map Char.toLower := by
  unfold spelledOut
  split
  · next rest =>
    have hrest := toLower_exportedFrom .inner (List.forall_mem_cons.mp h).2 (by rintro ⟨⟩)
    have hX : exportedFrom .start ('_' :: rest) = 'X' :: exportedFrom .inner rest := by
      simp [exportedFrom]
    rw [hX, List.map_cons, List.map_cons, hrest]
  · next hfront =>
    refine toLower_exportedFrom .start h fun _ hhead => ?_
    obtain ⟨rest, rfl⟩ := List.head?_eq_some_iff.mp hhead
    exact hfront rest rfl

/-- An identifier is exported as one that begins with a capital and has no underscore before a
small letter. But for case it reads as the identifier does, and it is its own exported name. -/
theorem exportedName_of_isSchemaName {name : String} (h : isSchemaName name = true) :
    (∃ first rest, (exportedName name).toList = first :: rest ∧ first.isUpper = true) ∧
    (∀ c ∈ (exportedName name).toList, isSchemaChar c = true) ∧
    (∀ before c after, (exportedName name).toList = before ++ '_' :: c :: after →
      c.isLower = false) ∧
    (exportedName name).toList.map Char.toLower = (spelledOut name.toList).map Char.toLower ∧
    exportedName (exportedName name) = exportedName name := by
  have hname : ∀ c ∈ name.toList, isSchemaChar c = true := by
    obtain ⟨c, rest, heq, hc, hrest⟩ := isSchemaName_iff.mp h
    rw [heq]
    exact List.forall_mem_cons.mpr ⟨isSchemaChar_of_isAlpha hc, hrest⟩
  obtain ⟨first, rest, heq, hfirst, hrest⟩ := toList_exportedName_upper h
  have hall : ∀ c ∈ first :: rest, isSchemaChar c = true :=
    List.forall_mem_cons.mpr ⟨isSchemaChar_of_isAlpha (.inl (isAlpha_iff.mpr (.inl hfirst))), hrest⟩
  have hexported : (exportedName name).toList = exportedFrom .start name.toList := by
    rw [exportedName, String.toList_ofList]
  have hchain : List.IsChain Adjoins (exportedName name).toList := by
    rw [hexported]
    exact isChain_exportedFrom hname
  refine ⟨⟨first, rest, heq, hfirst⟩, by rwa [heq], ?_, ?_, ?_⟩
  · intro before c after hsplit
    rw [hsplit, List.isChain_append_cons_cons] at hchain
    have hadjoins : Adjoins '_' c := hchain.2.1
    rw [Bool.eq_false_iff]
    exact fun hlower => absurd (hadjoins hlower) (by decide)
  · rw [hexported, toLower_exportedFrom_start hname]
  · have hself : exportedFrom .start (first :: rest) = first :: rest := by
      rw [heq] at hchain
      refine exportedFrom_eq_self hall hchain (fun _ hhead => ?_) fun hlower => ?_
      · cases hhead
        cases hfirst
      · have hfirstLower : first.isLower = true := hlower
        rw [((cased_ascii first (lt_of_isLower hlower)).2.2.2.2.1 hfirstLower).2] at hfirst
        cases hfirst
    rw [exportedName, heq, hself, ← heq, String.ofList_toList]

theorem exportedName_of_underscores :
    isSchemaName "__user_2x_ID__b" = true ∧ exportedName "__user_2x_ID__b" = "XUser_2X_ID_B" ∧
      exportedName (exportedName "__user_2x_ID__b") = exportedName "__user_2x_ID__b" := by
  have hname : isSchemaName "__user_2x_ID__b" = true := by decide
  exact ⟨hname, by decide +kernel, (exportedName_of_isSchemaName hname).2.2.2.2⟩

end Laminate.Code
