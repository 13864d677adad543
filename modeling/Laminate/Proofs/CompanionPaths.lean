import Laminate.Proofs.CompanionPhrases
import Laminate.Proofs.CompanionTokens

/-! Types that open with the name of a type of other types. Where closing angle brackets are
followed as those of types are, the arguments of the name are the whole rest of the type. -/
namespace Laminate.Companion.Grammar

open Laminate.Companion.Token

variable {tokens inner rest : List Token} {joint : Bool}

/-! ### Types with arguments -/

/-- Whether the first token is no sign. -/
def OpensNoSign (tokens : List Token) : Prop :=
  ∃ token more, tokens = token :: more ∧ ∀ d joint, token ≠ .sign d joint

lemma commaList_cons {α : Type} {phrase : Reader α} {isEnd : List Token → Bool} {fuel : Nat}
    {items : List α} (hend : isEnd tokens = false)
    (h : commaList phrase isEnd fuel tokens = some (items, rest)) :
    ∃ first left, phrase tokens = some (first, left) ∧ first ∈ items := by
  cases fuel with
  | zero => cases h
  | succ fuel =>
    unfold commaList at h
    grind [Option.map_eq_some_iff]

/-- Arguments in angle brackets: the first one is among them, and what follows the last bracket is
what may follow a type. -/
lemma angled_cases {α : Type} {phrase : Reader α} {items : List α} (hphrase : TakesFront phrase)
    (hinner : OpensNoSign inner) (hends : EndsTypes (.sign '<' joint :: inner))
    (h : angled phrase (.sign '<' joint :: inner) = some (items, rest)) :
    (∃ first left, phrase inner = some (first, left) ∧ first ∈ items) ∧ endsType rest = true := by
  obtain ⟨token, more, rfl, htoken⟩ := hinner
  simp only [angled, dropSign, if_true] at h
  split at h
  · cases h
  · next items' left hlist =>
    obtain ⟨after, hdrop, hpair⟩ := Option.map_eq_some_iff.mp h
    cases hpair
    have hopens : opensWith '>' (token :: more) = false := by
      unfold opensWith
      split
      · next d joint _ heq =>
        exact absurd (List.cons.inj heq).1 (htoken d joint)
      · rfl
    refine ⟨commaList_cons hopens hlist, ?_⟩
    have hleft := takesFront_commaList hphrase _ _ _ _ _ hlist
    split at hdrop
    · next d joint' after' =>
      split at hdrop
      · next hd =>
        cases hdrop
        subst hd
        exact hends joint' rest (isEndOf_cons.mpr (.inr hleft))
      · cases hdrop
    · cases hdrop

section

variable {type : TypeReader} {argument : Reader Argument} {path : Path} {plus : Bool}

/-- Nothing of a path goes on at the end of a type. -/
lemma endsType_closed (h : endsType rest = true) : opensColons rest = false ∧
    opensCall rest = false ∧ opensWith '!' rest = false ∧ opensWith '+' rest = false ∧
      dropSign '=' rest = none ∧ dropSign ':' rest = none := by
  have hcolons : opensColons rest = false := by
    unfold endsType at h
    unfold opensColons opensWithBoth
    grind
  unfold endsType at h
  split at h
  · simp [opensColons, opensCall, opensWithBoth, opensGroup, opensWith, dropSign]
  · next c joint more =>
    have hc : c = '>' ∨ c = ',' := by simpa using h
    rcases hc with rfl | rfl <;> simp [hcolons, opensCall, opensGroup, opensWith, dropSign]
  · cases h

lemma pathRest_ended (h : endsType rest = true) (fuel : Nat) :
    pathRest argument (fuel + 1) path rest = some (path, rest) := by
  simp [pathRest, (endsType_closed h).1]

/-- A path that ends a type is the type. -/
lemma pathType_ended (hangle : opensWith '<' tokens = false) (hlead : path.lead = [])
    (hpath : simplePath argument tokens = some (path, rest)) (h : endsType rest = true) :
    pathType type argument plus [] tokens = some (⟨path.doc, path.look⟩, rest) := by
  obtain ⟨-, hcall, hmark, hplus, -, -⟩ := endsType_closed h
  have htype : typePath type argument tokens = some (path, rest) := by
    simp [typePath, hangle, hpath, callsAfter, hcall]
  simp [pathType, htype, hlead, hmark, hplus]

lemma pathType_none (hangle : opensWith '<' tokens = false)
    (hpath : simplePath argument tokens = none) :
    pathType type argument plus [] tokens = none := by
  simp [pathType, typePath, hangle, hpath]

end

lemma mem_ofList {items : List Argument} {first : Argument} (h : first ∈ items) :
    ∃ docs, Arguments.ofList items = .angles docs ∧ first.doc ∈ docs := by
  refine ⟨_, rfl, List.mem_map_of_mem ?_⟩
  rw [List.mem_append, List.mem_filter, List.mem_filter]
  cases hlifetime : first.isLifetime <;> simp [h]

lemma docs_angles {docs : List Doc} {doc : Doc} (h : doc ∈ docs) (word : String) :
    Segment.docs ⟨word, .angles docs⟩ = [.text word, .bracketed "<" docs ">" true] := by
  cases docs with
  | nil => cases h
  | cons first others => rfl

section

variable {argument : Reader Argument} {name : String}

/-- What is read of arguments after the name of a type of other types: the first one stands among
them, and a type may end after them. -/
def ReadsArguments (argument : Reader Argument) (inner : List Token) (docs : List Doc)
    (rest : List Token) : Prop :=
  endsType rest = true ∧ ∃ first left, argument inner = some (first, left) ∧ first.doc ∈ docs

/-- A segment with arguments whose name is that of a type of other types. -/
lemma segment_wrapper (hargument : TakesFront argument) (hname : name ∈ headWords)
    (hinner : OpensNoSign inner) (hends : EndsTypes (.sign '<' joint :: inner)) :
    segment argument (.word name :: .sign '<' joint :: inner) = none ∨
      ∃ docs rest, segment argument (.word name :: .sign '<' joint :: inner) =
        some (⟨name, .angles docs⟩, rest) ∧ ReadsArguments argument inner docs rest := by
  have hopens : opensArguments (.sign '<' joint :: inner) = true := by
    obtain ⟨token, more, rfl, htoken⟩ := hinner
    unfold opensArguments
    grind
  have hskip : skipColons (.sign '<' joint :: inner) = .sign '<' joint :: inner := by
    unfold skipColons opensColons opensWithBoth
    grind
  have hwords : ∀ name ∈ headWords, (["super", "self", "crate", "try"].contains name ||
      (name != "Self" && reservedWords.contains name)) = false := by
    decide +kernel
  have hfree := hwords name hname
  simp only [Bool.or_eq_false_iff] at hfree
  simp only [segment, hfree.1, hfree.2, hopens, hskip, if_true, if_false, Bool.false_eq_true]
  cases hangled : angled argument (.sign '<' joint :: inner) with
  | none => exact .inl rfl
  | some result =>
    obtain ⟨items, rest⟩ := result
    obtain ⟨⟨first, left, hfirst, hmem⟩, hrest⟩ := angled_cases hargument hinner hends hangled
    obtain ⟨docs, hdocs, hdoc⟩ := mem_ofList hmem
    exact .inr ⟨docs, rest, by rw [Option.map_some, hdocs], hrest, first, left, hfirst, hdoc⟩

lemma simplePath_eq (argument : Reader Argument) (tokens : List Token) :
    simplePath argument tokens = (segment argument (skipColons tokens)).elim none fun found =>
      pathRest argument (found.2.length + 1) ⟨[], opensColons tokens, [found.1]⟩ found.2 := by
  unfold simplePath
  cases segment argument (skipColons tokens) <;> rfl

lemma pathRest_succ {tokens : List Token}
    (h : (opensColons tokens && !opensGroup (tokens.drop 2)) = true) (fuel : Nat) (path : Path) :
    pathRest argument (fuel + 1) path tokens =
      (segment argument (tokens.drop 2)).elim none fun found =>
        pathRest argument fuel (path.push found.1) found.2 := by
  rw [pathRest, if_pos h]
  cases segment argument (tokens.drop 2) <;> rfl

lemma simplePath_wrapper (hargument : TakesFront argument) (hname : name ∈ headWords)
    (hinner : OpensNoSign inner) (hends : EndsTypes (.sign '<' joint :: inner)) :
    simplePath argument (.word name :: .sign '<' joint :: inner) = none ∨
      ∃ docs rest, simplePath argument (.word name :: .sign '<' joint :: inner) =
          some (⟨[], false, [⟨name, .angles docs⟩]⟩, rest) ∧
        ReadsArguments argument inner docs rest := by
  have hskip : skipColons (.word name :: .sign '<' joint :: inner) =
      .word name :: .sign '<' joint :: inner := rfl
  rw [simplePath_eq, hskip]
  rcases segment_wrapper hargument hname hinner hends with hnone | ⟨docs, rest, hsome, hread⟩
  · exact .inl (by rw [hnone, Option.elim_none])
  · exact .inr ⟨docs, rest, by rw [hsome]; exact pathRest_ended hread.1 _, hread⟩

/-- The tokens of the path to the type of tables, up to the bracket. -/
def tablePath (joint₁ joint₂ : Bool) (rest : List Token) : List Token :=
  .word "std" :: .sign ':' true :: .sign ':' joint₁ :: .word "collections" ::
    .sign ':' true :: .sign ':' joint₂ :: .word "HashMap" :: rest

lemma simplePath_table {joint₁ joint₂ : Bool} (hargument : TakesFront argument)
    (hinner : OpensNoSign inner) (hends : EndsTypes (.sign '<' joint :: inner)) :
    simplePath argument (tablePath joint₁ joint₂ (.sign '<' joint :: inner)) = none ∨
      ∃ docs rest, simplePath argument (tablePath joint₁ joint₂ (.sign '<' joint :: inner)) =
          some (⟨[], false, [⟨"std", .none⟩, ⟨"collections", .none⟩, ⟨"HashMap", .angles docs⟩]⟩,
            rest) ∧
        ReadsArguments argument inner docs rest := by
  have hfront : simplePath argument (tablePath joint₁ joint₂ (.sign '<' joint :: inner)) =
      pathRest argument (inner.length + 7) ⟨[], false, [⟨"std", .none⟩, ⟨"collections", .none⟩]⟩
        (.sign ':' true :: .sign ':' joint₂ :: .word "HashMap" :: .sign '<' joint :: inner) := rfl
  rw [hfront, pathRest_succ rfl, List.drop_succ_cons, List.drop_succ_cons, List.drop_zero]
  have hname : "HashMap" ∈ headWords := by decide
  rcases segment_wrapper hargument hname hinner hends with hnone | ⟨docs, rest, hsome, hread⟩
  · exact .inl (by rw [hnone, Option.elim_none])
  · exact .inr ⟨docs, rest, by rw [hsome]; exact pathRest_ended hread.1 _, hread⟩

end

section

variable {name : String} {fuel : Nat} {plus : Bool} {reading : Reading}

lemma typeAt_headWord (hname : name ∈ headWords) (rest : List Token) :
    typeAt (fuel + 1) plus (.word name :: rest) =
      pathType (typeAt fuel) (argument (typeAt fuel) (rest.length + 2)) plus []
        (.word name :: rest) := by
  simp only [headWords, List.mem_cons, List.not_mem_nil, or_false] at hname
  rcases hname with rfl | rfl | rfl | rfl | rfl <;> rfl

/-- A type of another type, by the name of a single word. -/
theorem typeAt_wrapper (hname : name ∈ headWords) (hinner : OpensNoSign inner)
    (hends : EndsTypes (.sign '<' joint :: inner))
    (h : typeAt fuel plus (.word name :: .sign '<' joint :: inner) = some (reading, rest)) :
    ∃ docs, reading = ⟨.sequence [.text name, .bracketed "<" docs ">" true], .name⟩ ∧
      ∃ fuel' depth, ReadsArguments (argument (typeAt fuel') depth) inner docs rest := by
  cases fuel with
  | zero => cases h
  | succ fuel =>
    rw [typeAt_headWord hname] at h
    have hargument := takesFront_argument (takesFront_typeAt fuel)
      ((Token.sign '<' joint :: inner).length + 2)
    rcases simplePath_wrapper hargument hname hinner hends with hpath | ⟨docs, rest', hpath, hread⟩
    · rw [pathType_none rfl hpath] at h
      cases h
    · rw [pathType_ended rfl rfl hpath hread.1] at h
      cases h
      obtain ⟨_, _, -, hdoc⟩ := hread.2
      exact ⟨docs, by simp [Path.doc, Path.docs, Path.look, docs_angles hdoc], fuel, _, hread⟩

/-- A type of tables. -/
theorem typeAt_table {joint₁ joint₂ : Bool} (hinner : OpensNoSign inner)
    (hends : EndsTypes (.sign '<' joint :: inner))
    (h : typeAt fuel plus (tablePath joint₁ joint₂ (.sign '<' joint :: inner)) =
      some (reading, rest)) :
    ∃ docs, docs ≠ [] ∧ reading.doc = .sequence [.text "std", .text "::", .text "collections",
      .text "::", .text "HashMap", .bracketed "<" docs ">" true] := by
  cases fuel with
  | zero => cases h
  | succ fuel =>
    rw [tablePath, typeAt_headWord (by decide), ← tablePath] at h
    rcases simplePath_table (takesFront_argument (takesFront_typeAt fuel) _) hinner hends with
      hpath | ⟨docs, rest', hpath, hread⟩
    · rw [pathType_none rfl hpath] at h
      cases h
    · rw [pathType_ended rfl rfl hpath hread.1] at h
      cases h
      obtain ⟨_, _, -, hdoc⟩ := hread.2
      refine ⟨docs, List.ne_nil_of_mem hdoc, ?_⟩
      have hplain : ∀ word, Segment.docs ⟨word, .none⟩ = [.text word] := fun _ => rfl
      simp [Path.doc, Path.docs, hplain, docs_angles hdoc]

end

/-- An argument that opens with a type of another type. -/
lemma argument_wrapper {name : String} {fuel depth : Nat} {first : Argument}
    (hname : name ∈ headWords) (hinner : OpensNoSign inner)
    (hends : EndsTypes (.sign '<' joint :: inner))
    (h : argument (typeAt fuel) depth (.word name :: .sign '<' joint :: inner) =
      some (first, rest)) :
    ∃ docs, first.doc = .sequence [.text name, .bracketed "<" docs ">" true] := by
  cases depth with
  | zero => cases h
  | succ depth =>
    have hconstant : constantValue? (.word name :: .sign '<' joint :: inner) = none := by
      simp only [headWords, List.mem_cons, List.not_mem_nil, or_false] at hname
      rcases hname with rfl | rfl | rfl | rfl | rfl <;> rfl
    simp only [argument, argumentAfter, hconstant, argumentAfter.ofType] at h
    split at h
    · cases h
    · next doc left htype =>
      obtain ⟨docs, hreading, _, _, hread⟩ := typeAt_wrapper hname hinner hends htype
      cases hreading
      obtain ⟨-, -, -, -, hequals, hcolon⟩ := endsType_closed hread.1
      simp only [hequals, hcolon, Option.some.injEq, Prod.mk.injEq] at h
      exact ⟨docs, by rw [← h.1]⟩
    · next htype =>
      obtain ⟨docs, hreading, -⟩ := typeAt_wrapper hname hinner hends htype
      cases hreading
      cases h
      exact ⟨docs, rfl⟩

end Laminate.Companion.Grammar
