import Laminate.Proofs.Routes

/-! Path templates as the parameters of an endpoint and its route both see them.
A template falls into groups, each from the first opening brace to the first closing brace behind
it, and a rest without a group; it does so in one way only. Parameters are the names of the groups,
and the route has the same groups with their names alone. -/
namespace Laminate.Schema

open Laminate.Text Laminate.Code

/-- What stands in the braces of a template, each with the text before it, and the text after the
last one. -/
structure PathParts where
  groups : List (List Char × List Char)
  rest : List Char

namespace PathParts

/-- The template, with what `inside` makes of the text between two braces. -/
def write (inside : List Char → List Char) (parts : PathParts) : List Char :=
  parts.groups.flatMap (fun group => group.1 ++ '\x7b' :: (inside group.2 ++ ['\x7d'])) ++
    parts.rest

/-- Each group takes the first opening brace and the first closing one behind it. A brace that is
left over is not closed. -/
structure IsOf (parts : PathParts) (path : List Char) : Prop where
  text : parts.write id = path
  opens : ∀ group ∈ parts.groups, '\x7b' ∉ group.1
  closes : ∀ group ∈ parts.groups, '\x7d' ∉ group.2
  ends : ∀ before after, parts.rest = before ++ '\x7b' :: after → '\x7d' ∉ after

/-- The name of a group is what stands before its first equals sign, trimmed. -/
def name (inner : List Char) : List Char := trimBoth isBlank (inner.takeWhile (· != '='))

/-- Behind its first equals sign a group has two stars and nothing else. -/
def takesRest (inner : List Char) : Bool := inner.dropWhile (· != '=') == ['=', '*', '*']

/-- What is left of a group in a route. -/
def routed (inner : List Char) : List Char :=
  name inner ++ if takesRest inner then ['.', '.', '.'] else []

/-! ### Pieces -/

def pieces (parts : PathParts) : List PathPiece :=
  parts.groups.flatMap (fun group => [.plain group.1, .braced group.2]) ++ [.plain parts.rest]

lemma pieces_injective : Function.Injective pieces := by
  rintro ⟨groups, rest⟩ ⟨groups', rest'⟩ h
  induction groups generalizing groups' with
  | nil =>
    cases groups' with
    | nil => simpa [pieces] using h
    | cons group' groups' => simp [pieces] at h
  | cons group groups ih =>
    cases groups' with
    | nil => simp [pieces] at h
    | cons group' groups' =>
      obtain ⟨before, inner⟩ := group
      obtain ⟨before', inner'⟩ := group'
      simp only [pieces, List.flatMap_cons, List.cons_append, List.nil_append, List.cons.injEq,
        PathPiece.plain.injEq, PathPiece.braced.injEq] at h
      obtain ⟨rfl, rfl, h⟩ := h
      cases ih groups' h
      rfl

lemma IsOf.pathPieces_eq {parts : PathParts} {path : List Char} (h : parts.IsOf path) :
    pathPieces path = parts.pieces := by
  obtain ⟨groups, rest⟩ := parts
  obtain ⟨rfl, opens, closes, ends⟩ := h
  induction groups with
  | nil =>
    have hpieces : pathPieces rest = [.plain rest] := by
      cases hopen : cutFirst '\x7b' rest with
      | none => exact pathPieces_of_plain hopen
      | some cut =>
        obtain ⟨before, after⟩ := cut
        exact pathPieces_of_unclosed hopen
          (cutFirst_eq_none.mpr (ends before after (cutFirst_eq_some hopen).1))
    simpa [write, pieces] using hpieces
  | cons group groups ih =>
    obtain ⟨before, inner⟩ := group
    have hmore := ih (fun g hg => opens g (List.mem_cons_of_mem _ hg))
      (fun g hg => closes g (List.mem_cons_of_mem _ hg)) ends
    have hopen : '\x7b' ∉ before := opens _ List.mem_cons_self
    have hclose : '\x7d' ∉ inner := closes _ List.mem_cons_self
    have htext : write id ⟨(before, inner) :: groups, rest⟩ =
        before ++ '\x7b' :: (inner ++ '\x7d' :: write id ⟨groups, rest⟩) := by
      simp [write]
    rw [htext, pathPieces_of_braced (cutFirst_append hopen) (cutFirst_append hclose), hmore]
    rfl

/-- What stands behind some mark stands behind the first one. -/
lemma isSuffix_of_first {mark : Char} {before after before' after' : List Char}
    (hbefore : mark ∉ before) (htext : before ++ mark :: after = before' ++ mark :: after') :
    after' <:+ after := by
  rcases List.append_eq_append_iff.mp htext with ⟨between, rfl, h⟩ | ⟨between, rfl, h⟩
  · cases between with
    | nil =>
      cases h
      exact List.suffix_rfl
    | cons c between =>
      cases h
      exact ⟨between ++ [mark], by simp⟩
  · cases between with
    | nil =>
      cases h
      exact List.suffix_rfl
    | cons c between =>
      cases h
      simp at hbefore

/-- Every template falls into groups. -/
lemma exists_isOf (path : List Char) : ∃ parts : PathParts, parts.IsOf path := by
  induction path using pathPieces.induct with
  | case1 path hopen =>
    refine ⟨⟨[], path⟩, rfl, by simp, by simp, ?_⟩
    rintro before after rfl
    exact absurd (cutFirst_eq_none.mp hopen) (by simp)
  | case2 path before after hopen hclose =>
    refine ⟨⟨[], path⟩, rfl, by simp, by simp, ?_⟩
    obtain ⟨rfl, hbefore⟩ := cutFirst_eq_some hopen
    intro before' after' hpath hmem
    exact cutFirst_eq_none.mp hclose ((isSuffix_of_first hbefore hpath).subset hmem)
  | case3 path before after hopen inner rest hclose ih =>
    obtain ⟨⟨groups, last⟩, rfl, opens, closes, ends⟩ := ih
    obtain ⟨rfl, hbefore⟩ := cutFirst_eq_some hopen
    obtain ⟨rfl, hinner⟩ := cutFirst_eq_some hclose
    exact ⟨⟨(before, inner) :: groups, last⟩, by simp [write],
      List.forall_mem_cons.mpr ⟨hbefore, opens⟩, List.forall_mem_cons.mpr ⟨hinner, closes⟩, ends⟩

/-! ### Wildcards -/

lemma wildcardParts_eq (inner : List Char) :
    (wildcardParts inner).1 = name inner ∧
      ((wildcardParts inner).2 = some ['*', '*'] ↔ takesRest inner = true) := by
  unfold wildcardParts name takesRest
  cases hcut : cutFirst '=' inner with
  | none =>
    have hall : ∀ c ∈ inner, (c != '=') = true := by
      intro c hc
      rw [bne_iff_ne]
      rintro rfl
      exact cutFirst_eq_none.mp hcut hc
    simp [List.takeWhile_eq_self_iff.mpr hall, List.dropWhile_eq_nil_iff.mpr hall]
  | some cut =>
    obtain ⟨front, pattern⟩ := cut
    obtain ⟨rfl, hfront⟩ := cutFirst_eq_some hcut
    have hall : ∀ c ∈ front, (c != '=') = true := by
      intro c hc
      rw [bne_iff_ne]
      rintro rfl
      exact hfront hc
    have hend : ∀ c ∈ ('=' :: pattern).head?, (c != '=') = false := by simp
    obtain ⟨htake, hdrop⟩ := span_append hall hend
    simp [htake, hdrop]

lemma route_braced (inner : List Char) :
    PathPiece.route (.braced inner) = '\x7b' :: (routed inner ++ ['\x7d']) := by
  obtain ⟨hname, hrest⟩ := wildcardParts_eq inner
  simp [PathPiece.route, routed, hname, hrest]

lemma routed_braced (inner : List Char) :
    PathPiece.routed (.braced inner) = .braced (routed inner) := by
  obtain ⟨hname, hrest⟩ := wildcardParts_eq inner
  simp [PathPiece.routed, routed, hname, hrest]

lemma routed_routed (inner : List Char) : routed (routed inner) = routed inner := by
  have htrimmed : IsTrimmed (routed inner) := by
    refine (isTrimmed_trimBoth _).append ?_
    split_ifs <;> decide
  have hall : ∀ c ∈ routed inner, (c != '=') = true := by
    intro c hc
    rcases List.mem_append.mp hc with hc | hc
    · have htake : c ∈ inner.takeWhile (· != '=') := mem_of_mem_trimBoth hc
      simpa using List.mem_takeWhile_imp htake
    · split_ifs at hc <;> simp_all
  rw [routed, name, takesRest, List.takeWhile_eq_self_iff.mpr hall,
    List.dropWhile_eq_nil_iff.mpr hall, trimBoth_of_isTrimmed htrimmed]
  simp

lemma flatMap_route (parts : PathParts) :
    parts.pieces.flatMap PathPiece.route = parts.write routed := by
  simp [pieces, write, List.flatMap_assoc, route_braced, PathPiece.route.eq_1]

lemma filterMap_parameter? (parts : PathParts) :
    parts.pieces.filterMap PathPiece.parameter? =
      ((parts.groups.map fun group => name group.2).filter (· ≠ [])).map String.ofList := by
  obtain ⟨groups, rest⟩ := parts
  induction groups with
  | nil => rfl
  | cons group groups ih =>
    have hpieces : pieces ⟨group :: groups, rest⟩ =
        .plain group.1 :: .braced group.2 :: pieces ⟨groups, rest⟩ := rfl
    have hparameter : PathPiece.parameter? (.braced group.2) =
        if name group.2 = [] then none else some (String.ofList (name group.2)) := by
      simp [PathPiece.parameter?, (wildcardParts_eq group.2).1]
    rw [hpieces, List.filterMap_cons_none rfl, List.filterMap_cons, hparameter, ih]
    by_cases hname : name group.2 = [] <;> simp [hname]

end PathParts

/-- Pieces of a route are written as they stand. -/
lemma routePath_routePath (path : String) : routePath (routePath path) = routePath path := by
  have hroute : ∀ piece : PathPiece, piece.routed.route = piece.route
    | .plain _ => rfl
    | .braced inner => by
      rw [PathParts.routed_braced, PathParts.route_braced, PathParts.route_braced,
        PathParts.routed_routed]
  unfold routePath
  rw [String.toList_ofList, pathPieces_route, List.flatMap_map]
  simp only [hroute]

/-- A path template and what is made of it. It falls into groups in one way; the parameters are the
names of the groups that have one, in order, and the route has each group down to its name, with
dots behind it where the group takes the rest of a path. A route is its own route. -/
theorem exists_pathParts (endpoint : Endpoint) :
    (∃ parts : PathParts,
      (∀ parts' : PathParts, parts'.IsOf endpoint.path.toList ↔ parts' = parts) ∧
      endpoint.parameters =
        ((parts.groups.map fun group => PathParts.name group.2).filter (· ≠ [])).map
          String.ofList ∧
      routePath endpoint.path = String.ofList (parts.write PathParts.routed)) ∧
    routePath (routePath endpoint.path) = routePath endpoint.path := by
  obtain ⟨parts, hparts⟩ := PathParts.exists_isOf endpoint.path.toList
  have hpieces := hparts.pathPieces_eq
  refine ⟨⟨parts, fun parts' => ⟨fun h => ?_, ?_⟩, ?_, ?_⟩, routePath_routePath endpoint.path⟩
  · exact PathParts.pieces_injective (h.pathPieces_eq.symm.trans hpieces)
  · rintro rfl
    exact hparts
  · rw [Endpoint.parameters, hpieces, PathParts.filterMap_parameter?]
  · rw [routePath, hpieces, PathParts.flatMap_route]

end Laminate.Schema
