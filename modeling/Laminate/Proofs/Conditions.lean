import Laminate.Form.Types
import Laminate.Proofs.ExprMeaning
import Laminate.Proofs.RuleCalls

/-! When a field is required under a condition.
A condition is read and looked at as the generated code has it, over every inbound struct: it comes
to what its pairs say, and nothing behind a missing value is looked at. -/
namespace Laminate.Form

open Laminate.Text Laminate.Schema Laminate.Code Laminate.Annotation

variable {world : World}

/-! ### What pairs say -/

/-- Whether a value is the one that a text writes. -/
def IsValue (value : String) : Datum world → Prop
  | .text octets => octets = encode value
  | .truth b => value = toString b
  | .integer _ n => n = decimalNumber value.toList
  | .float type x =>
    ∃ y, world.round type (decimalNumber value.toList) = some y ∧ world.equal x y = true
  | _ => False

/-- What a pair of a condition says of the sibling's value. -/
def Says (env : Environment world) (value : String) (d : Datum world) : ConditionKind → Prop
  | .whenEqual => ∃ c, d.content? = some c ∧ IsValue value c
  | .whenDifferent => d.content? = none ∨ ∃ c, d.content? = some c ∧ ¬ IsValue value c
  | .whenGiven => env.isEmpty d = false
  | .whenMissing => env.isEmpty d = true

/-- The sibling is what a pair says, under its identifier. -/
def PairHolds (env : Environment world) (message : Message) (kind : ConditionKind)
    (pair : FieldValue) : Prop :=
  ∃ sibling d, message.field? pair.field = some sibling ∧
    env.field? (domainName sibling) = some d ∧ Says env pair.value d kind

/-- A value for each field of an inbound struct. -/
def IsInbound (env : Environment world) (view : Viewpoint) (message : Message) : Prop :=
  ∀ field ∈ message.fields, ∃ type d, view.typeOf field .inbound = .ok type ∧
    env.field? (domainName field) = some d ∧ d.Fits type

/-- A text that is a constant of a numeric type in the generated code, for the number that it
writes. -/
def IsConstant (world : World) (scalar : Builtin) (text : String) : Prop :=
  constantValue? text.toList = some (decimalNumber text.toList) ∧
    if (integerRange? scalar).isSome then
      (integerOf? scalar (decimalNumber text.toList)).isSome = true
    else (world.round scalar (decimalNumber text.toList)).isSome = true

/-- The name of the sibling is an identifier, and a number that it is compared with is one of its
type. -/
structure IsSound (letters : Letters) (world : World) (message : Message) (kind : ConditionKind)
    (pair : FieldValue) : Prop where
  identifier : ∀ sibling, message.field? pair.field = some sibling →
    letters.isIdentifier (domainName sibling) = true
  constant : kind.compares = true → ∀ sibling scalar, message.field? pair.field = some sibling →
    sibling.kind = .scalar scalar → scalar.isNumeric = true → IsConstant world scalar pair.value

/-! ### What terms come to -/

section

variable {letters : Letters} {env : Environment world} {message : Message} {field : Field}

/-- A number is compared with every value of its type. -/
lemma equals?_number {scalar : Builtin} {value : String} {d : Datum world}
    (hnumeric : scalar.isNumeric = true) (hconstant : IsConstant world scalar value)
    (hfits : d.Fits (.builtin scalar)) :
    ∃ b, Meaning.equals? (.datum d) (.number (decimalNumber value.toList)) = some b ∧
      (b = true ↔ IsValue value d) := by
  have hrepresented := hconstant.2
  cases hfits with
  | @integer _ n range =>
    have hsome : (integerRange? scalar).isSome = true := by
      cases hrange : integerRange? scalar with
      | none => simp [isIntegerOf, hrange] at range
      | some => rfl
    rw [if_pos hsome] at hrepresented
    obtain ⟨k, hk⟩ := Option.isSome_iff_exists.mp hrepresented
    refine ⟨decide (n = k), by simp only [Meaning.equals?, hk, Option.map_some], ?_⟩
    rw [decide_eq_true_iff, IsValue]
    unfold integerOf? at hk
    split at hk
    · next hwhole =>
      cases hk
      have hvalue : ((decimalNumber value.toList).num : ℚ) = decimalNumber value.toList :=
        Rat.coe_int_num_of_den_eq_one hwhole.1
      rw [← hvalue, Rat.intCast_inj]
      rfl
    · cases hk
  | float32 x =>
    obtain ⟨y, hy⟩ := Option.isSome_iff_exists.mp hrepresented
    exact ⟨world.equal x y, by simp only [Meaning.equals?, hy, Option.map_some],
      by simp [IsValue, hy]⟩
  | float64 x =>
    obtain ⟨y, hy⟩ := Option.isSome_iff_exists.mp hrepresented
    exact ⟨world.equal x y, by simp only [Meaning.equals?, hy, Option.map_some],
      by simp [IsValue, hy]⟩
  | text => cases hnumeric
  | truth => cases hnumeric
  | other _ _ compound => rcases compound scalar rfl with rfl | rfl <;> cases hnumeric

/-- A name that is no other than those below 128. -/
lemma says_word {word : String} (h : Letters.seven.isIdentifier word = true) :
    (Expr.verbatim word).Says letters env primaryLevel (Meaning.ofName word) :=
  ⟨_, .name (letters.isIdentifier_of_seven h), rfl⟩

/-- What a sibling is compared with is of the sibling's type, and it is what the text writes. -/
lemma says_comparand {sibling : Field} {value : String} {e : Expr}
    (h : comparand field sibling value = .ok e)
    (hconstant : ∀ scalar, sibling.kind = .scalar scalar → scalar.isNumeric = true →
      IsConstant world scalar value) :
    ∃ scalar m, (∀ view : Viewpoint, view.element .inbound sibling.kind = .builtin scalar) ∧
      isStructural sibling.kind = false ∧ e.Says letters env unaryLevel (.ok m) ∧
      ∀ d : Datum world, d.Fits (.builtin scalar) →
        ∃ b, Meaning.equals? (.datum d) m = some b ∧ (b = true ↔ IsValue value d) := by
  have htext : ∀ d : Datum world, d.Fits (.builtin .string) →
      ∃ b, Meaning.equals? (.datum d) (.datum (.text (encode value))) = some b ∧
        (b = true ↔ IsValue value d) := by
    intro d hfits
    cases hfits with
    | integer range => cases range
    | text octets => exact ⟨decide (octets = encode value), rfl, by simp [IsValue]⟩
    | other _ _ compound => rcases compound .string rfl with h | h <;> cases h
  have htruth : ∀ b' : Bool, value = toString b' → ∀ d : Datum world, d.Fits (.builtin .bool) →
      ∃ b, Meaning.equals? (.datum d) (.ofTruth b') = some b ∧ (b = true ↔ IsValue value d) := by
    intro b' hvalue d hfits
    cases hfits with
    | integer range => cases range
    | truth b =>
      have hsame : toString b' = toString b ↔ b = b' := by cases b <;> cases b' <;> decide
      exact ⟨decide (b = b'), rfl, by rw [decide_eq_true_iff, IsValue, hvalue, hsame]⟩
    | other _ _ compound => rcases compound .bool rfl with h | h <;> cases h
  unfold comparand at h
  dsimp only at h
  split at h
  · cases h
  · split at h
    · next hkind =>
      cases h
      exact ⟨.string, _, fun _ => by rw [hkind]; rfl, by rw [hkind]; rfl,
        (Expr.Says.text value).mono (by decide), htext⟩
    · next hkind =>
      cases h
      exact ⟨.string, _, fun _ => by rw [hkind]; rfl, by rw [hkind]; rfl,
        (Expr.Says.text value).mono (by decide), htext⟩
    · next hkind =>
      split at h
      · next hvalue =>
        cases h
        rcases hvalue with rfl | rfl
        · exact ⟨.bool, .ofTruth true, fun _ => by rw [hkind]; rfl, by rw [hkind]; rfl,
            (says_word (by decide)).mono (by decide), htruth true rfl⟩
        · exact ⟨.bool, .ofTruth false, fun _ => by rw [hkind]; rfl, by rw [hkind]; rfl,
            (says_word (by decide)).mono (by decide), htruth false rfl⟩
      · cases h
    · next scalar _ _ hkind =>
      split at h
      · next hnumber =>
        cases h
        rw [Bool.and_eq_true] at hnumber
        have hproper := hconstant scalar hkind hnumber.1
        exact ⟨scalar, _, fun _ => by rw [hkind]; rfl, by rw [hkind]; rfl,
          .constant hproper.1, fun d => equals?_number hnumber.1 hproper⟩
      · cases h
    · cases h

lemma says_nil : (Expr.ident "nil").Says letters env unaryLevel (.ok .null) :=
  (Expr.Says.ident (letters.isIdentifier_of_seven (by decide))).mono (by decide)

/-- A comparison of two values that can be compared. -/
lemma says_compared {e e' : Expr} {m m' : Meaning world} {b : Bool}
    (h : e.Says letters env unaryLevel (.ok m)) (h' : e'.Says letters env unaryLevel (.ok m'))
    (hequals : m.equals? m' = some b) :
    (Expr.binary .eq e e').Says letters env 3 (.ok (.ofTruth b)) ∧
      (Expr.binary .ne e e').Says letters env 3 (.ok (.ofTruth !b)) := by
  have hbinary : ∀ {op : BinaryOp}, op = .eq ∨ op = .ne →
      (Expr.binary op e e').Says letters env op.level (m.binary op m') := by
    intro op hop
    have := (h.mono (Nat.le_of_lt op.level_lt)).binary (h'.mono op.level_lt)
    rcases hop with rfl | rfl <;> exact this
  have heq := hbinary (.inl rfl)
  have hne := hbinary (.inr rfl)
  simp only [Meaning.binary, hequals] at heq hne
  exact ⟨heq, hne⟩

section

variable {target value : Expr} {m : Meaning world} {equal : Bool}
variable (hvalue : value.Says letters env unaryLevel (.ok m))

include hvalue

lemma says_comparison_single {d : Datum world} {b : Bool}
    (htarget : target.Says letters env unaryLevel (.ok (.datum d)))
    (hequals : Meaning.equals? (.datum d) m = some b) :
    (comparison false equal target value).Says letters env 1 (.ok (.ofTruth (b == equal))) := by
  obtain ⟨heq, hne⟩ := says_compared htarget hvalue hequals
  cases equal with
  | true => exact (beq_true b ▸ heq).mono (by decide)
  | false => exact (beq_false b ▸ hne).mono (by decide)

/-- Where there is a value, the one behind the pointer is compared. -/
lemma says_comparison_present {c : Datum world} {b : Bool}
    (htarget : target.Says letters env unaryLevel (.ok (.datum (.present c))))
    (hequals : Meaning.equals? (.datum c) m = some b) :
    (comparison true equal target value).Says letters env 1 (.ok (.ofTruth (b == equal))) := by
  obtain ⟨hmissing, hgiven⟩ := says_compared htarget says_nil rfl
  obtain ⟨heq, hne⟩ := says_compared htarget.deref hvalue hequals
  cases equal with
  | true =>
    have hand := Expr.Says.truths (hgiven.mono (Nat.le_succ BinaryOp.and.level)) heq
    exact (beq_true b ▸ hand).mono (by decide)
  | false =>
    have hor := Expr.Says.truths (hmissing.mono (by decide : BinaryOp.or.level ≤ 3))
      (hne.mono (by decide : BinaryOp.or.level + 1 ≤ 3))
    exact beq_false b ▸ hor

/-- Where there is none, the comparison is left out. -/
lemma says_comparison_absent
    (htarget : target.Says letters env unaryLevel (.ok (.datum .absent))) :
    (comparison true equal target value).Says letters env 1 (.ok (.ofTruth !equal)) := by
  obtain ⟨hmissing, hgiven⟩ := says_compared htarget says_nil rfl
  have hbehind : ∀ {op : BinaryOp}, op = .eq ∨ op = .ne →
      (Expr.binary op (.deref target) value).Says letters env 3 (.error .nilDereference) := by
    intro op hop
    have := (htarget.deref.mono (Nat.le_of_lt op.level_lt)).binary (hvalue.mono op.level_lt)
    rcases hop with rfl | rfl <;> exact this
  cases equal with
  | true =>
    have hand := (hgiven.mono (Nat.le_succ BinaryOp.and.level)).binary (hbehind (.inl rfl))
    exact hand.mono (by decide)
  | false =>
    exact (hmissing.mono (by decide : BinaryOp.or.level ≤ 3)).binary
      ((hbehind (.inr rfl)).mono (by decide : BinaryOp.or.level + 1 ≤ 3))

end

lemma says_inboundField {name : String} {d : Datum world} (hname : letters.isIdentifier name = true)
    (hfield : env.field? name = some d) :
    (Validation.inboundField name).Says letters env primaryLevel (.ok (.datum d)) := by
  have hin : (Expr.ident "in").Says letters env primaryLevel (Meaning.ofName "in") :=
    .ident (letters.isIdentifier_of_seven (by decide))
  have hselect := hin.select hname
  have hvalue : ((Meaning.ofName "in").bind fun m => m.select env name) = .ok (.datum d) := by
    simp [Meaning.ofName, Except.bind, Meaning.select, hfield]
  rwa [hvalue] at hselect

/-- A sibling compared with the constant of a pair. -/
lemma says_sibling {view : Viewpoint} {sibling : Field} {value : String} {v target : Expr}
    {d : Datum world} {type : TypeRef} (h : comparand field sibling value = .ok v)
    (hconstant : ∀ scalar, sibling.kind = .scalar scalar → scalar.isNumeric = true →
      IsConstant world scalar value)
    (htarget : target.Says letters env primaryLevel (.ok (.datum d)))
    (htype : view.typeOf sibling .inbound = .ok type) (hfits : d.Fits type) (equal : Bool) :
    ∃ b, (comparison sibling.isOptional equal target v).Says letters env 1
        (.ok (.ofTruth (b == equal))) ∧
      (b = true ↔ ∃ c, d.content? = some c ∧ IsValue value c) := by
  obtain ⟨scalar, m, helement, hplain, hvalue, hequals⟩ := says_comparand h hconstant
  have htarget := htarget.mono (Nat.le_succ unaryLevel)
  have hplainType : type = raise (.builtin scalar) sibling.cardinality := by
    have htype' : view.plainType sibling .inbound = type := by simpa [Viewpoint.typeOf] using htype
    rw [← htype', Viewpoint.plainType, if_neg (by simp [hplain]), helement]
  have hcardinality := ((comparand_isOk field).mp ⟨v, h⟩).1
  rcases hcardinality with hsingle | hoptional
  · rw [hplainType, hsingle] at hfits
    obtain ⟨b, hb, hiff⟩ := hequals d hfits
    have hoptional : sibling.isOptional = false := by simp [Field.isOptional, hsingle]
    rw [hoptional]
    refine ⟨b, says_comparison_single hvalue htarget hb, hiff.trans ?_⟩
    simp [hfits.content?_of_builtin]
  · rw [hplainType, hoptional] at hfits
    have hoptional : sibling.isOptional = true := by simp [Field.isOptional, hoptional]
    rw [hoptional]
    cases hfits with
    | absent =>
      refine ⟨false, ?_, by simp [Datum.content?]⟩
      rw [Bool.false_beq]
      exact says_comparison_absent hvalue htarget
    | @present _ c fits =>
      obtain ⟨b, hb, hiff⟩ := hequals c fits
      exact ⟨b, says_comparison_present hvalue htarget hb, hiff.trans (by simp [Datum.content?])⟩
    | other _ single => cases single

lemma says_isEmpty {e : Expr} {d : Datum world}
    (h : e.Says letters env primaryLevel (.ok (.datum d))) :
    (Expr.call (validationName "IsEmpty") [e]).Says letters env primaryLevel
      (.ok (.ofTruth (env.isEmpty d))) := by
  have hcallee : (validationName "IsEmpty").Says letters env primaryLevel (.ok .emptiness) :=
    .member (letters.isIdentifier_of_seven (by decide)) (letters.isIdentifier_of_seven (by decide))
  exact hcallee.call h

/-- A term of a condition comes to what its pair says. -/
lemma says_term {view : Viewpoint} {kind : ConditionKind} {pair : FieldValue} {e : Expr}
    (h : conditionTerm message field kind pair = .ok e) (hinbound : IsInbound env view message)
    (hsound : IsSound letters world message kind pair) :
    ∃ b, e.Says letters env 1 (.ok (.ofTruth b)) ∧
      (b = true ↔ PairHolds env message kind pair) := by
  unfold conditionTerm at h
  split at h
  · cases h
  · next sibling hsibling =>
    obtain ⟨type, d, htype, hfield, hfits⟩ := hinbound sibling (List.mem_of_find?_eq_some hsibling)
    have htarget : (Validation.inboundField (FieldNames.of message sibling).domain).Says letters env
        primaryLevel (.ok (.datum d)) :=
      says_inboundField (hsound.identifier sibling hsibling) hfield
    have hholds : PairHolds env message kind pair ↔ Says env pair.value d kind := by
      simp [PairHolds, hsibling, hfield]
    have hcompared : ∀ equal v, kind.compares = true → comparand field sibling pair.value = .ok v →
        ∃ b, (comparison sibling.isOptional equal
            (Validation.inboundField (FieldNames.of message sibling).domain) v).Says letters env 1
              (.ok (.ofTruth (b == equal))) ∧
          (b = true ↔ ∃ c, d.content? = some c ∧ IsValue pair.value c) :=
      fun equal v hcompares hv => says_sibling hv
        (fun scalar => hsound.constant hcompares sibling scalar hsibling) htarget htype hfits equal
    simp only [hholds]
    cases kind with
    | whenGiven =>
      cases h
      refine ⟨!env.isEmpty d, ?_, by simp [Says]⟩
      exact ((says_isEmpty htarget).mono (Nat.le_succ unaryLevel)).not.mono (by decide)
    | whenMissing =>
      cases h
      exact ⟨env.isEmpty d, (says_isEmpty htarget).mono (by decide), Iff.rfl⟩
    | whenEqual =>
      obtain ⟨v, hv, rfl⟩ := map_eq_ok.mp h
      obtain ⟨b, hb, hiff⟩ := hcompared true v rfl hv
      exact ⟨b, beq_true b ▸ hb, hiff⟩
    | whenDifferent =>
      obtain ⟨v, hv, rfl⟩ := map_eq_ok.mp h
      obtain ⟨b, hb, hiff⟩ := hcompared false v rfl hv
      refine ⟨!b, beq_false b ▸ hb, ?_⟩
      rw [Bool.not_eq_true', ← Bool.not_eq_true, hiff, Says]
      cases d.content? <;> simp

/-! ### What conditions come to -/

/-- Terms after the first one, each in parentheses. -/
lemma says_fold {op : BinaryOp} {terms : List Expr} {bs : List Bool}
    (h : List.Forall₂ (fun (e : Expr) b => e.Says letters env 1 (.ok (.ofTruth b))) terms bs)
    {left : Expr} {b : Bool} (hleft : left.Says letters env op.level (.ok (.ofTruth b))) :
    (terms.foldl (fun left right => .binary op left (.paren right)) left).Says letters env op.level
      (.ok (.ofTruth (bs.foldl (truthOf op) b))) := by
  induction h generalizing left b with
  | nil => exact hleft
  | cons hterm _ ih =>
    exact ih (hleft.truths (hterm.paren.mono (Nat.le_succ_of_le op.level_lt)))

/-- Terms that are joined come to what the operator makes of them, from the left. -/
lemma says_joined (op : BinaryOp) {first : Expr} {rest : List Expr} {b : Bool} {bs : List Bool}
    (hfirst : first.Says letters env 1 (.ok (.ofTruth b)))
    (hrest : List.Forall₂ (fun (e : Expr) b => e.Says letters env 1 (.ok (.ofTruth b))) rest bs) :
    ∃ e, Expr.joined op (first :: rest) = some e ∧
      e.Says letters env 1 (.ok (.ofTruth (bs.foldl (truthOf op) b))) := by
  have hlevel : 1 ≤ op.level := by cases op <;> decide
  cases hrest with
  | nil => exact ⟨first, rfl, hfirst⟩
  | cons hterm hmore =>
    refine ⟨_, rfl, (says_fold (.cons hterm hmore) ?_).mono hlevel⟩
    exact hfirst.paren.mono (Nat.le_of_lt (Nat.lt_succ_of_lt op.level_lt))

lemma foldl_and (b : Bool) (bs : List Bool) :
    bs.foldl (truthOf .and) b = true ↔ b = true ∧ ∀ b' ∈ bs, b' = true := by
  induction bs generalizing b with
  | nil => simp
  | cons b' bs ih => simp [ih, truthOf, and_assoc]

lemma foldl_or (b : Bool) (bs : List Bool) :
    bs.foldl (truthOf .or) b = true ↔ b = true ∨ ∃ b' ∈ bs, b' = true := by
  induction bs generalizing b with
  | nil => simp
  | cons b' bs ih => simp [ih, truthOf, or_assoc]

/-- Joined terms of pairs come to what all the pairs say, or any of them. -/
lemma says_pairs {view : Viewpoint} {kind : ConditionKind} {pairs : List FieldValue}
    {op : BinaryOp} {e : Expr} (hpairs : pairs ≠ [])
    (h : (pairs.mapM (conditionTerm message field kind)).map
      (fun es => (Expr.joined op es).getD (.ident "")) = .ok e)
    (hinbound : IsInbound env view message)
    (hsound : ∀ pair ∈ pairs, IsSound letters world message kind pair) :
    ∃ b, e.Says letters env 1 (.ok (.ofTruth b)) ∧
      (op = .and → (b = true ↔ ∀ pair ∈ pairs, PairHolds env message kind pair)) ∧
      (op = .or → (b = true ↔ ∃ pair ∈ pairs, PairHolds env message kind pair)) := by
  classical
  obtain ⟨es, hes, rfl⟩ := map_eq_ok.mp h
  have hterms : List.Forall₂ (fun pair (e : Expr) => e.Says letters env 1
      (.ok (.ofTruth (decide (PairHolds env message kind pair))))) pairs es := by
    refine ((List.forall₂_and_left _ _).mpr ⟨hsound, mapM_eq_ok.mp hes⟩).imp ?_
    rintro pair e ⟨hpair, hok⟩
    obtain ⟨b, hsays, hiff⟩ := says_term hok hinbound hpair
    obtain rfl : b = decide (PairHolds env message kind pair) := by
      rw [Bool.eq_iff_iff, hiff, decide_eq_true_iff]
    exact hsays
  cases hterms with
  | nil => exact absurd rfl hpairs
  | cons hfirst hrest =>
    obtain ⟨e, he, hsays⟩ := says_joined op hfirst (List.forall₂_map_right_iff.mpr hrest.flip)
    refine ⟨_, by rw [he]; exact hsays, ?_, ?_⟩
    · rintro rfl
      simp [foldl_and]
    · rintro rfl
      simp [foldl_or]

end

/-- A condition is read as an expression that comes to a truth value, whatever the inbound struct
holds: nothing behind a missing value is looked at, and the value is what all of the condition's
pairs say, or any of them. Siblings need names that are identifiers, and the numbers that they are
compared with have to be constants of their types. -/
theorem condition_holds_iff {letters : Letters} {env : Environment world} {view : Viewpoint}
    {message : Message} {field : Field} {kind : ConditionKind} {condition : Condition} {e : Expr}
    (h : conditionExpr message field kind condition = .ok e)
    (hinbound : IsInbound env view message)
    (hsound : ∀ pair ∈ condition.all ++ condition.any, IsSound letters world message kind pair) :
    ∃ tree b, readExpr? letters e.render.toList = some tree ∧ tree.eval env = .ok (.ofTruth b) ∧
      (condition.all ≠ [] →
        (b = true ↔ ∀ pair ∈ condition.all, PairHolds env message kind pair)) ∧
      (condition.any ≠ [] →
        (b = true ↔ ∃ pair ∈ condition.any, PairHolds env message kind pair)) := by
  have hread : ∀ {b}, e.Says letters env 1 (.ok (.ofTruth b)) →
      ∃ tree, readExpr? letters e.render.toList = some tree ∧ tree.eval env = .ok (.ofTruth b) := by
    rintro b ⟨tree, hreads, heval⟩
    exact ⟨tree, hreads.readExpr?_eq, heval⟩
  unfold conditionExpr at h
  cases hall : condition.all with
  | nil =>
    cases hany : condition.any with
    | nil => simp [hall, hany] at h
    | cons pair rest =>
      rw [hall, hany] at h hsound
      obtain ⟨b, hsays, -, hiff⟩ := says_pairs (List.cons_ne_nil pair rest) h hinbound hsound
      obtain ⟨tree, hread, heval⟩ := hread hsays
      exact ⟨tree, b, hread, heval, fun hne => absurd rfl hne, fun _ => hiff rfl⟩
  | cons pair rest =>
    cases hany : condition.any with
    | nil =>
      rw [hall, hany] at h hsound
      rw [List.append_nil] at hsound
      obtain ⟨b, hsays, hiff, -⟩ := says_pairs (List.cons_ne_nil pair rest) h hinbound hsound
      obtain ⟨tree, hread, heval⟩ := hread hsays
      exact ⟨tree, b, hread, heval, fun _ => hiff rfl, fun hne => absurd rfl hne⟩
    | cons pair' rest' => simp [hall, hany] at h

/-- Floating-point numbers without rounding. -/
def exactWorld : World where
  Float := ℚ
  round _ q := some q
  equal x y := x == y
  Other := Unit

/-- What the validation package finds empty. -/
def isEmptyDatum : Datum exactWorld → Bool
  | .integer _ n => n == 0
  | .float _ x => decide ((show ℚ from x) = 0)
  | .text octets => octets.isEmpty
  | .truth b => !b
  | .absent => true
  | .present target => isEmptyDatum target
  | .other _ => false

def levelField (cardinality : Cardinality) (scalar : Builtin) : Field where
  name := "level"
  number := 1
  goName := "Level"
  kind := .scalar scalar
  cardinality := cardinality
  message := "UserRequest"
  module := "acme"
  options := {}

def rankField : Field where
  name := "rank"
  number := 2
  goName := "Rank"
  kind := .enum ".acme.Rank" {}
  cardinality := .singular
  message := "UserRequest"
  module := "acme"
  options := {}

/-- A request with a level and a rank. -/
def levelMessage (cardinality : Cardinality) (scalar : Builtin) : Message where
  name := "UserRequest"
  fullName := "acme.UserRequest"
  kind := .request
  names := .derive {} "UserRequest" .request
  members := [.surfaced (levelField cardinality scalar), .surfaced rankField]
  options := {}

/-- A level that is missing, and the lowest rank. -/
def guestInbound : Environment exactWorld where
  field? name :=
    if name = "Level" then some .absent
    else if name = "Rank" then some (.text (encode "guest"))
    else none
  isEmpty := isEmptyDatum

theorem missing_level_differs :
    ∃ e, conditionExpr (levelMessage .optional .int32) rankField .whenDifferent
        { any := [⟨"level", "-3"⟩, ⟨"rank", "guest"⟩] } = .ok e ∧
      e.render = "(in.Level == nil || *in.Level != -3) || (in.Rank != \"guest\")" ∧
      ∃ tree, readExpr? .seven e.render.toList = some tree ∧
        tree.eval guestInbound = .ok (.ofTruth true) := by
  have hinbound : IsInbound guestInbound default (levelMessage .optional .int32) := by
    intro field hfield
    have hfields : (levelMessage .optional .int32).fields =
        [levelField .optional .int32, rankField] := rfl
    rw [hfields] at hfield
    rcases List.mem_pair.mp hfield with rfl | rfl
    · exact ⟨.pointer (.builtin .int32), .absent, rfl, rfl, .absent _⟩
    · exact ⟨.builtin .string, .text (encode "guest"), rfl, rfl, .text _⟩
  have hsound : ∀ pair ∈ [(⟨"level", "-3"⟩ : FieldValue), ⟨"rank", "guest"⟩],
      IsSound .seven exactWorld (levelMessage .optional .int32) .whenDifferent pair := by
    intro pair hpair
    rcases List.mem_pair.mp hpair with rfl | rfl
    · have hfound : (levelMessage .optional .int32).field? "level" =
          some (levelField .optional .int32) := by decide
      refine ⟨?_, ?_⟩
      · rintro _ hsibling
        cases hfound.symm.trans hsibling
        decide
      · rintro _ _ scalar hsibling hkind -
        cases hfound.symm.trans hsibling
        cases hkind
        exact ⟨by decide +kernel, by decide +kernel⟩
    · have hfound : (levelMessage .optional .int32).field? "rank" = some rankField := by decide
      refine ⟨?_, ?_⟩
      · rintro _ hsibling
        cases hfound.symm.trans hsibling
        decide
      · rintro _ _ scalar hsibling hkind -
        cases hfound.symm.trans hsibling
        cases hkind
  have h : (conditionExpr (levelMessage .optional .int32) rankField .whenDifferent
      { any := [⟨"level", "-3"⟩, ⟨"rank", "guest"⟩] }).toOption.any (fun e => e.render =
        "(in.Level == nil || *in.Level != -3) || (in.Rank != \"guest\")") = true := by
    decide +kernel
  obtain ⟨e, he, hrender⟩ := exists_of_check h
  obtain ⟨tree, b, hread, heval, -, hany⟩ := condition_holds_iff he hinbound hsound
  have hb : b = true := (hany (by simp)).mpr
    ⟨⟨"level", "-3"⟩, by simp, levelField .optional .int32, .absent, by decide, rfl, .inl rfl⟩
  exact ⟨e, he, of_decide_eq_true hrender, tree, hread, hb ▸ heval⟩

/-- A spelled-out number is taken for a constant, but it is a name that nothing has. -/
theorem spelled_level_senseless :
    ∃ e, conditionExpr (levelMessage .singular .float64) rankField .whenEqual
        { all := [⟨"level", "inf"⟩] } = .ok e ∧
      e.render = "in.Level == inf" ∧
      ∃ tree, readExpr? .seven e.render.toList = some tree ∧
        ∀ (world : World) (env : Environment world), tree.eval env = .error .senseless := by
  have h : (conditionExpr (levelMessage .singular .float64) rankField .whenEqual
      { all := [⟨"level", "inf"⟩] }).toOption.any
        (fun e => e.render = "in.Level == inf") = true := by
    decide +kernel
  obtain ⟨e, he, hrender⟩ := exists_of_check h
  have hread : readExpr? .seven "in.Level == inf".toList =
      some (.binary .eq (.select (.name "in") "Level") (.name "inf")) := by
    decide +kernel
  refine ⟨e, he, of_decide_eq_true hrender, _, of_decide_eq_true hrender ▸ hread, ?_⟩
  intro world env
  cases hfield : env.field? "Level" with
  | none => simp [Tree.eval, Meaning.ofName, Except.bind, Meaning.select, hfield]
  | some d =>
    simp [Tree.eval, Meaning.ofName, Except.bind, Meaning.select, hfield, Meaning.shortcut?]

end Laminate.Form
