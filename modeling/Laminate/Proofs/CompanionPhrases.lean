import Laminate.Companion.Grammar.Type
import Laminate.Proofs.Remainders

/-! Readers of phrases take them off the front of the tokens.
What a reader leaves is an end of the tokens that it was given, whatever the phrase was. -/
namespace Laminate.Companion.Grammar

variable {tokens tokens' rest : List Token}

/-! ### Signs -/

@[grind →] lemma isEndOf_dropSign {c : Char} (h : dropSign c tokens = some rest) :
    IsEndOf tokens rest := by
  unfold dropSign at h
  grind

@[grind ←] lemma leavesEnd_dropSign {α : Type} {c : Char} {a : α} (h : IsEndOf tokens tokens') :
    LeavesEnd tokens ((dropSign c tokens').map (a, ·)) := by
  intro _ rest heq
  obtain ⟨_, hdrop, hpair⟩ := Option.map_eq_some_iff.mp heq
  cases hpair
  exact h.trans (isEndOf_dropSign hdrop)

lemma isEndOf_skipColons (tokens : List Token) : IsEndOf tokens (skipColons tokens) := by
  unfold skipColons
  split
  · exact isEndOf_drop 2 tokens
  · exact .refl tokens

@[grind →] lemma isEndOf_of_skipColons (h : IsEndOf (skipColons tokens) rest) :
    IsEndOf tokens rest :=
  (isEndOf_skipColons tokens).trans h

@[grind →] lemma leavesEnd_of_skipColons {α : Type} {result : Option (α × List Token)}
    (h : LeavesEnd (skipColons tokens) result) : LeavesEnd tokens result :=
  fun a rest heq => (isEndOf_skipColons tokens).trans (h a rest heq)

/-- A reader of phrases that stand first. -/
abbrev TakesFront {α : Type} (read : Reader α) : Prop :=
  ∀ tokens, LeavesEnd tokens (read tokens)

/-! ### Lists -/

section

variable {α : Type} {phrase : Reader α} (h : TakesFront phrase)
include h

lemma takesFront_commaList (isEnd : List Token → Bool) (fuel : Nat) :
    TakesFront (commaList phrase isEnd fuel) := by
  induction fuel with
  | zero => exact fun _ => leavesEnd_none
  | succ fuel ih =>
    intro tokens
    unfold commaList
    grind

lemma takesFront_parenthesized : TakesFront (parenthesized phrase) := by
  have hlist := takesFront_commaList h
  intro tokens
  unfold parenthesized
  grind

lemma takesFront_angled : TakesFront (angled phrase) := by
  have hlist := takesFront_commaList h
  intro tokens
  unfold angled
  grind

end

/-! ### Paths -/

section

variable {argument : Reader Argument} (h : TakesFront argument)
include h

lemma takesFront_segment : TakesFront (segment argument) := by
  have hangled := takesFront_angled h
  intro tokens
  unfold segment
  grind

lemma takesFront_pathRest (fuel : Nat) (path : Path) :
    TakesFront (pathRest argument fuel path) := by
  have hsegment := takesFront_segment h
  induction fuel generalizing path with
  | zero => exact fun _ => leavesEnd_none
  | succ fuel ih =>
    intro tokens
    unfold pathRest
    grind

lemma takesFront_simplePath : TakesFront (simplePath argument) := by
  have hsegment := takesFront_segment h
  have hrest := takesFront_pathRest h
  intro tokens
  unfold simplePath
  grind

lemma takesFront_afterFirst (fuel : Nat) (path : Path) :
    TakesFront (qualifiedPath.afterFirst argument fuel path) := by
  have hsegment := takesFront_segment h
  induction fuel generalizing path with
  | zero => exact fun _ => leavesEnd_none
  | succ fuel ih =>
    intro tokens
    unfold qualifiedPath.afterFirst
    grind

end

/-! ### Constants -/

lemma takesFront_constant? : TakesFront constant? := by
  intro tokens
  unfold constant?
  grind

lemma takesFront_constantName? : TakesFront constantName? := by
  have hpath : TakesFront (simplePath fun _ => none) :=
    takesFront_simplePath fun _ => leavesEnd_none
  intro tokens
  unfold constantName?
  grind

lemma leavesEnd_whole (text : String) (joint : Bool) (tokens : List Token) :
    LeavesEnd tokens (operator?.whole text joint tokens) := by
  unfold operator?.whole
  grind

lemma takesFront_operator? : TakesFront operator? := by
  intro tokens
  unfold operator?
  split
  · exact LeavesEnd.cons (LeavesEnd.cons (leavesEnd_whole _ _ _))
  · exact LeavesEnd.cons (LeavesEnd.cons (leavesEnd_whole _ _ _))
  · split
    · exact LeavesEnd.cons (leavesEnd_whole _ _ _)
    · exact leavesEnd_none
  · exact leavesEnd_none

lemma takesFront_operand {inner : Reader Doc} (h : TakesFront inner) :
    TakesFront (operand inner) := by
  have hconstant := takesFront_constant?
  have hname := takesFront_constantName?
  intro tokens
  unfold operand
  grind

lemma takesFront_expression (fuel : Nat) : TakesFront (expression fuel) := by
  have hoperator := takesFront_operator?
  induction fuel with
  | zero => exact fun _ => leavesEnd_none
  | succ fuel ih =>
    have hoperand := takesFront_operand ih
    intro tokens
    unfold expression
    grind

lemma takesFront_constantValue? : TakesFront constantValue? := by
  have hconstant := takesFront_constant?
  intro tokens
  have hoperand := takesFront_operand (takesFront_expression tokens.length)
  unfold constantValue?
  grind

/-! ### Groups -/

lemma takesFront_untilClosed (depth : Nat) : TakesFront (untilClosed depth) := by
  intro tokens
  fun_induction untilClosed depth tokens <;> grind

lemma takesFront_expansion (name : Path) : TakesFront (expansion name) := by
  have hinside := takesFront_untilClosed
  intro tokens
  unfold expansion
  grind

/-! ### Bounds and arguments -/

@[grind →] lemma isEndOf_constMark? (h : constMark? tokens = some rest) : IsEndOf tokens rest := by
  unfold constMark? at h
  grind

lemma takesFront_outlived (fuel : Nat) : TakesFront (binder.outlived fuel) := by
  induction fuel with
  | zero => exact fun _ => leavesEnd_none
  | succ fuel ih =>
    intro tokens
    unfold binder.outlived
    grind

lemma takesFront_parameter : TakesFront binder.parameter := by
  have houtlived := takesFront_outlived
  intro tokens
  unfold binder.parameter
  grind

lemma takesFront_binder : TakesFront binder := by
  have hangled := takesFront_angled takesFront_parameter
  intro tokens
  unfold binder
  grind

section

variable {type : TypeReader} (htype : ∀ plus, TakesFront (type plus))
include htype

lemma takesFront_callArguments : TakesFront (callArguments type) := by
  have hinputs := takesFront_parenthesized (htype true)
  intro tokens
  unfold callArguments
  grind

section

variable {argument : Reader Argument} (hargument : TakesFront argument)
include hargument

lemma takesFront_traitBound (marks : Bool) : TakesFront (traitBound type argument marks) := by
  have hbinder := takesFront_binder
  have hpath := takesFront_simplePath hargument
  have hcall := takesFront_callArguments htype
  intro tokens
  unfold traitBound
  grind

lemma takesFront_bound (marks : Bool) : TakesFront (bound type argument marks) := by
  have htrait := takesFront_traitBound htype hargument marks
  intro tokens
  unfold bound
  grind

lemma takesFront_boundsAfter (marks : Bool) (fuel : Nat) :
    TakesFront (boundsAfter type argument marks fuel) := by
  have hbound := takesFront_bound htype hargument marks
  induction fuel with
  | zero => exact fun _ => leavesEnd_none
  | succ fuel ih =>
    intro tokens
    unfold boundsAfter
    grind

lemma takesFront_bounds (marks plus : Bool) : TakesFront (bounds type argument marks plus) := by
  have hbound := takesFront_bound htype hargument marks
  have hmore := takesFront_boundsAfter htype hargument marks
  intro tokens
  unfold bounds
  grind

lemma takesFront_constraint (fuel : Nat) : TakesFront (constraint type argument fuel) := by
  have hbound := takesFront_bound htype hargument
  induction fuel with
  | zero => exact fun _ => leavesEnd_none
  | succ fuel ih =>
    intro tokens
    unfold constraint
    grind

lemma takesFront_ofType : TakesFront (argumentAfter.ofType type argument) := by
  have hconstant := takesFront_constantValue?
  have hconstraint := takesFront_constraint htype hargument
  intro tokens
  unfold argumentAfter.ofType
  grind

lemma takesFront_argumentAfter : TakesFront (argumentAfter type argument) := by
  have hconstant := takesFront_constantValue?
  have htyped := takesFront_ofType htype hargument
  intro tokens
  unfold argumentAfter
  grind

end

lemma takesFront_argument (fuel : Nat) : TakesFront (argument type fuel) := by
  induction fuel with
  | zero => exact fun _ => leavesEnd_none
  | succ fuel ih => exact takesFront_argumentAfter htype ih

/-! ### Types -/

lemma takesFront_functionInput : TakesFront (functionInput type) := by
  have hinput : TakesFront (functionInput.input type) := by
    intro tokens
    unfold functionInput.input spread?
    grind
  intro tokens
  unfold functionInput
  grind

lemma takesFront_functionType (head : List Doc) : TakesFront (functionType type head) := by
  have hinputs := takesFront_parenthesized (takesFront_functionInput htype)
  intro tokens
  unfold functionType
  grind

lemma takesFront_sequenceType : TakesFront (sequenceType type) := by
  have hsize := takesFront_expression
  intro tokens
  unfold sequenceType
  grind

lemma takesFront_referenceType : TakesFront (referenceType type) := by
  intro tokens
  unfold referenceType
  grind

section

variable {argument : Reader Argument} (hargument : TakesFront argument)
include hargument

lemma takesFront_callsAfter (fuel : Nat) (path : Path) :
    TakesFront (callsAfter type argument fuel path) := by
  have hcall := takesFront_callArguments htype
  have hrest := takesFront_pathRest hargument
  induction fuel generalizing path with
  | zero => exact fun _ => leavesEnd_none
  | succ fuel ih =>
    intro tokens
    unfold callsAfter
    grind

lemma takesFront_qualifiedPath : TakesFront (qualifiedPath type argument) := by
  have hpath := takesFront_simplePath hargument
  have hsegment := takesFront_segment hargument
  have hmore := takesFront_afterFirst hargument
  intro tokens
  unfold qualifiedPath
  split
  · exact leavesEnd_none
  · split
    · exact leavesEnd_none
    · -- the type is seen as having a trait, or not
      split
      · dsimp only
        split <;> grind
      · grind

lemma takesFront_typePath : TakesFront (typePath type argument) := by
  have hqualified := takesFront_qualifiedPath htype hargument
  have hpath := takesFront_simplePath hargument
  have hcalls := takesFront_callsAfter htype hargument
  intro tokens
  unfold typePath
  grind

lemma takesFront_boundsType (word : String) (marks plus : Bool) :
    TakesFront (boundsType type word argument marks plus) := by
  have hbounds := takesFront_bounds htype hargument marks
  intro tokens
  unfold boundsType
  grind

lemma takesFront_dynType (plus : Bool) : TakesFront (dynType type argument plus) := by
  have hbounds := takesFront_boundsType htype hargument "dyn " false plus
  intro tokens
  unfold dynType
  grind

lemma takesFront_pathType (plus : Bool) (head : List Doc) :
    TakesFront (pathType type argument plus head) := by
  have hpath := takesFront_typePath htype hargument
  have hexpansion := takesFront_expansion
  have hbounds := takesFront_boundsAfter htype hargument
  intro tokens
  unfold pathType
  grind

lemma takesFront_strictBounds (fuel : Nat) : TakesFront (strictBounds type argument fuel) := by
  have hbound := takesFront_bound htype hargument
  induction fuel with
  | zero => exact fun _ => leavesEnd_none
  | succ fuel ih =>
    intro tokens
    unfold strictBounds
    grind

lemma takesFront_groupedBounds (first : Doc) :
    TakesFront (groupedBounds type argument first) := by
  have hbounds := takesFront_strictBounds htype hargument
  intro tokens
  unfold groupedBounds
  grind

lemma takesFront_groupType (plus : Bool) : TakesFront (groupType type argument plus) := by
  have hbounds := takesFront_boundsType htype hargument
  have htrait := takesFront_traitBound htype hargument
  have hgrouped := takesFront_groupedBounds htype hargument
  have hlist := takesFront_commaList (htype true)
  intro tokens
  unfold groupType
  grind

lemma takesFront_wordType (plus : Bool) (word : String) :
    TakesFront (wordType type argument plus word) := by
  have hbinder := takesFront_binder
  have hfunction := takesFront_functionType htype
  have hpath := takesFront_pathType htype hargument
  have hdyn := takesFront_dynType htype hargument
  have hbounds := takesFront_boundsType htype hargument
  intro tokens
  unfold wordType
  grind

end

lemma takesFront_typeAfter (plus : Bool) : TakesFront (typeAfter type plus) := by
  intro tokens
  have hargument := takesFront_argument htype (tokens.length + 1)
  have hword := takesFront_wordType htype hargument
  have hbounds := takesFront_boundsType htype hargument
  have hgroup := takesFront_groupType htype hargument
  have hsequence := takesFront_sequenceType htype
  have hpath := takesFront_pathType htype hargument
  have hreference := takesFront_referenceType htype
  unfold typeAfter
  grind

end

/-- A type is read off the front of the tokens. -/
theorem takesFront_typeAt (fuel : Nat) (plus : Bool) : TakesFront (typeAt fuel plus) := by
  induction fuel generalizing plus with
  | zero => exact fun _ => leavesEnd_none
  | succ fuel ih => exact takesFront_typeAfter ih plus

end Laminate.Companion.Grammar
