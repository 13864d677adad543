import Laminate.Proofs.ExprReading

/-! What conditions come to, given the values of an inbound struct.
Operands are looked at from left to right, and no further than it takes; looking behind a pointer
that leads nowhere is a fault. -/
namespace Laminate.Code

open Laminate.Text

/-! ### Values -/

/-- What conditions do not look into, and how floating-point numbers compare. -/
structure World where
  Float : Type
  /-- What a constant becomes in a type of floating-point numbers, where that is possible. -/
  round : Builtin → ℚ → Option Float
  equal : Float → Float → Bool
  Other : Type

inductive Datum (world : World) where
  | integer (type : Builtin) (n : Int)
  | float (type : Builtin) (x : world.Float)
  | text (octets : List UInt8)
  | truth (b : Bool)
  /-- A pointer that leads nowhere. -/
  | absent
  /-- A pointer to a value. -/
  | present (target : Datum world)
  | other (x : world.Other)

/-- The integers of a type from the first to before the last. -/
def integerRange? : Builtin → Option (Int × Int)
  | .int32 => some (-0x80000000, 0x80000000)
  | .int64 => some (-0x8000000000000000, 0x8000000000000000)
  | .uint32 => some (0, 0x100000000)
  | .uint64 => some (0, 0x10000000000000000)
  | _ => none

def isIntegerOf (type : Builtin) (n : Int) : Bool :=
  (integerRange? type).any fun (first, last) => first ≤ n && n < last

/-- The integer that a constant is in a type. -/
def integerOf? (type : Builtin) (q : ℚ) : Option Int :=
  if q.den = 1 ∧ isIntegerOf type q.num then some q.num else none

variable {world : World}

/-- The values of a type. -/
inductive Datum.Fits : TypeRef → Datum world → Prop
  | integer {type : Builtin} {n : Int} (range : isIntegerOf type n = true) :
    Fits (.builtin type) (.integer type n)
  | float32 (x : world.Float) : Fits (.builtin .float32) (.float .float32 x)
  | float64 (x : world.Float) : Fits (.builtin .float64) (.float .float64 x)
  | text (octets : List UInt8) : Fits (.builtin .string) (.text octets)
  | truth (b : Bool) : Fits (.builtin .bool) (.truth b)
  | absent (target : TypeRef) : Fits (.pointer target) .absent
  | present {target : TypeRef} {d : Datum world} (fits : Fits target d) :
    Fits (.pointer target) (.present d)
  | other {type : TypeRef} (x : world.Other) (single : type.isPointer = false)
    (compound : ∀ scalar, type = .builtin scalar → scalar = .bytes ∨ scalar = .any) :
    Fits type (.other x)

/-- The value that there is behind a pointer, and any other value itself. -/
def Datum.content? : Datum world → Option (Datum world)
  | .absent => none
  | .present target => some target
  | d => some d

lemma Datum.Fits.content?_of_builtin {scalar : Builtin} {d : Datum world}
    (h : d.Fits (.builtin scalar)) : d.content? = some d := by
  cases h <;> rfl

/-! ### Expressions -/

/-- What an expression can look at. -/
structure Environment (world : World) where
  /-- The fields of the inbound struct by their identifiers. -/
  field? : String → Option (Datum world)
  /-- The function of the validation package that finds values empty. -/
  isEmpty : Datum world → Bool

/-- What an expression stands for. -/
inductive Meaning (world : World) where
  | inbound
  | validation
  | emptiness
  | null
  | number (value : ℚ)
  | datum (value : Datum world)

inductive ExprFault where
  /-- Looks behind a pointer that leads nowhere. -/
  | nilDereference
  /-- Is no expression that has a value. -/
  | senseless
  deriving Repr, DecidableEq

namespace Meaning

def ofTruth (b : Bool) : Meaning world := .datum (.truth b)

def ofName (name : String) : Except ExprFault (Meaning world) :=
  if name = "in" then .ok inbound
  else if name = "validation" then .ok validation
  else if name = "nil" then .ok null
  else if name = "true" then .ok (ofTruth true)
  else if name = "false" then .ok (ofTruth false)
  else .error .senseless

def select (env : Environment world) : Meaning world → String → Except ExprFault (Meaning world)
  | inbound, name =>
    match env.field? name with
    | some d => .ok (datum d)
    | none => .error .senseless
  | validation, name => if name = "IsEmpty" then .ok emptiness else .error .senseless
  | _, _ => .error .senseless

def call (env : Environment world) :
    Meaning world → Meaning world → Except ExprFault (Meaning world)
  | emptiness, datum d => .ok (ofTruth (env.isEmpty d))
  | _, _ => .error .senseless

def unary : UnaryOp → Meaning world → Except ExprFault (Meaning world)
  | .not, datum (.truth b) => .ok (ofTruth !b)
  | .deref, datum (.present d) => .ok (datum d)
  | .deref, datum .absent => .error .nilDereference
  | .minus, number q => .ok (number (-q))
  | .plus, number q => .ok (number q)
  | _, _ => .error .senseless

/-- Whether two values are equal, where they can be compared. A constant is compared in the type of
the value before it. -/
def equals? : Meaning world → Meaning world → Option Bool
  | datum .absent, null => some true
  | datum (.present _), null => some false
  | datum (.text octets), datum (.text octets') => some (octets = octets')
  | datum (.truth b), datum (.truth b') => some (b = b')
  | datum (.integer type n), number q => (integerOf? type q).map (n = ·)
  | datum (.float type x), number q => (world.round type q).map (world.equal x)
  | _, _ => none

/-- What an operator comes to by its left operand alone. -/
def shortcut? : BinaryOp → Meaning world → Option Bool
  | .and, datum (.truth false) => some false
  | .or, datum (.truth true) => some true
  | _, _ => none

def binary : BinaryOp → Meaning world → Meaning world → Except ExprFault (Meaning world)
  | .and, datum (.truth b), datum (.truth b') => .ok (ofTruth (b && b'))
  | .or, datum (.truth b), datum (.truth b') => .ok (ofTruth (b || b'))
  | .eq, left, right =>
    match equals? left right with
    | some b => .ok (ofTruth b)
    | none => .error .senseless
  | .ne, left, right =>
    match equals? left right with
    | some b => .ok (ofTruth !b)
    | none => .error .senseless
  | _, _, _ => .error .senseless

end Meaning

/-- What an operator makes of two truth values. -/
def truthOf : BinaryOp → Bool → Bool → Bool
  | .and, b, b' => b && b'
  | .or, b, b' => b || b'
  | .eq, b, b' => b == b'
  | .ne, b, b' => b != b'

/-- What a tree comes to. -/
def Tree.eval (env : Environment world) : Tree → Except ExprFault (Meaning world)
  | .name word => Meaning.ofName word
  | .select base word => (eval env base).bind fun m => m.select env word
  | .call callee arg => (eval env callee).bind fun f => (eval env arg).bind fun m => f.call env m
  | .number value => .ok (.number value)
  | .text octets => .ok (.datum (.text octets))
  | .unary op operand => (eval env operand).bind fun m => m.unary op
  | .binary op left right => (eval env left).bind fun m =>
    match m.shortcut? op with
    | some b => .ok (.ofTruth b)
    | none => (eval env right).bind fun m' => m.binary op m'

/-! ### Constants -/

/-- A number under the sign of a text. -/
def signed (text : List Char) (value : ℚ) : ℚ := if text.head? = some '-' then -value else value

/-- The number that a text writes in decimal, perhaps with a sign. -/
def decimalNumber (text : List Char) : ℚ := signed text (decimalValue (unsigned text))

/-- The number that a text is in the generated code, where it is one. -/
def constantValue? (text : List Char) : Option ℚ := (numberValue? (unsigned text)).map (signed text)

lemma eval_constantTree (env : Environment world) (text : List Char) (value : ℚ) :
    (constantTree text value).eval env = .ok (.number (signed text value)) := by
  unfold constantTree signed
  split
  · rfl
  · rfl
  · next hminus =>
    rw [if_neg]
    · rfl
    · intro hhead
      obtain ⟨rest, htext⟩ := List.head?_eq_some_iff.mp hhead
      exact hminus rest htext

/-! ### What expressions say -/

/-- The text of an expression is read as one of some level, and comes to something. -/
def Expr.Says (letters : Letters) (env : Environment world) (level : Nat) (e : Expr)
    (m : Except ExprFault (Meaning world)) : Prop :=
  ∃ tree, Reads letters level e.render tree ∧ tree.eval env = m

namespace Expr.Says

variable {letters : Letters} {env : Environment world} {level low : Nat} {e e' : Expr}
variable {m m' : Except ExprFault (Meaning world)}

lemma mono (h : e.Says letters env level m) (hle : low ≤ level) : e.Says letters env low m := by
  obtain ⟨tree, hreads, hm⟩ := h
  exact ⟨tree, hreads.mono hle, hm⟩

lemma ident {name : String} (h : letters.isIdentifier name = true) :
    (Expr.ident name).Says letters env primaryLevel (Meaning.ofName name) :=
  ⟨_, .name h, rfl⟩

lemma select (h : e.Says letters env primaryLevel m) {name : String}
    (hname : letters.isIdentifier name = true) :
    (Expr.select e name).Says letters env primaryLevel (m.bind fun m => m.select env name) := by
  obtain ⟨tree, hreads, rfl⟩ := h
  exact ⟨_, by simpa only [Expr.render] using hreads.select hname, rfl⟩

lemma member {package name : String} (hpackage : letters.isIdentifier package = true)
    (hname : letters.isIdentifier name = true) :
    (Expr.member package name).Says letters env primaryLevel
      ((Meaning.ofName package).bind fun m => m.select env name) :=
  ⟨_, by simpa only [Expr.render] using (Reads.name hpackage).select hname, rfl⟩

lemma call (h : e.Says letters env primaryLevel m) (h' : e'.Says letters env level m') :
    (Expr.call e [e']).Says letters env primaryLevel
      (m.bind fun f => m'.bind fun m => f.call env m) := by
  obtain ⟨tree, hreads, rfl⟩ := h
  obtain ⟨tree', hreads', rfl⟩ := h'
  exact ⟨_, by simpa only [Expr.render_call_one] using hreads.call hreads', rfl⟩

lemma paren (h : e.Says letters env level m) :
    (Expr.paren e).Says letters env primaryLevel m := by
  obtain ⟨tree, hreads, rfl⟩ := h
  exact ⟨_, by simpa only [Expr.render] using hreads.paren, rfl⟩

lemma deref (h : e.Says letters env unaryLevel m) :
    (Expr.deref e).Says letters env unaryLevel (m.bind fun m => m.unary .deref) := by
  obtain ⟨tree, hreads, rfl⟩ := h
  exact ⟨_, by simpa only [Expr.render, UnaryOp.symbol] using hreads.unary .deref (by simp), rfl⟩

lemma not (h : e.Says letters env unaryLevel m) :
    (Expr.not e).Says letters env unaryLevel (m.bind fun m => m.unary .not) := by
  obtain ⟨tree, hreads, rfl⟩ := h
  exact ⟨_, by simpa only [Expr.render, UnaryOp.symbol] using hreads.unary .not (by simp), rfl⟩

lemma binary {op : BinaryOp} (h : e.Says letters env op.level m)
    (h' : e'.Says letters env (op.level + 1) m') :
    (Expr.binary op e e').Says letters env op.level (m.bind fun m =>
      match m.shortcut? op with
      | some b => .ok (.ofTruth b)
      | none => m'.bind fun m' => m.binary op m') := by
  obtain ⟨tree, hreads, rfl⟩ := h
  obtain ⟨tree', hreads', rfl⟩ := h'
  exact ⟨_, by simpa only [Expr.render] using hreads.binary hreads', rfl⟩

/-- Between truth values an operator looks no further than it takes, which makes no difference. -/
lemma truths {op : BinaryOp} {b b' : Bool} (h : e.Says letters env op.level (.ok (.ofTruth b)))
    (h' : e'.Says letters env (op.level + 1) (.ok (.ofTruth b'))) :
    (Expr.binary op e e').Says letters env op.level (.ok (.ofTruth (truthOf op b b'))) := by
  obtain ⟨tree, hreads, hm⟩ := h.binary h'
  refine ⟨tree, hreads, hm.trans ?_⟩
  cases op <;> cases b <;> cases b' <;> rfl

lemma text (s : String) :
    (Expr.text s).Says letters env primaryLevel (.ok (.datum (.text (encode s)))) :=
  ⟨_, .ofLiteral s, rfl⟩

lemma constant {token : String} {q : ℚ} (h : constantValue? token.toList = some q) :
    (Expr.verbatim token).Says letters env unaryLevel (.ok (.number q)) := by
  obtain ⟨value, hvalue, rfl⟩ := Option.map_eq_some_iff.mp h
  exact ⟨_, .constant hvalue, eval_constantTree env _ value⟩

end Expr.Says

end Laminate.Code
