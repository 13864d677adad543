import Laminate.Code.Literal
import Laminate.Code.Type

/-! Expressions of the generated code, and their text. -/
namespace Laminate.Code

inductive BinaryOp where
  | eq | ne | and | or
  deriving Repr, DecidableEq, Inhabited

def BinaryOp.symbol : BinaryOp → String
  | eq => "==" | ne => "!=" | and => "&&" | or => "||"

inductive Expr where
  | ident (name : String)
  /-- An exported name of another package. -/
  | member (package name : String)
  | select (base : Expr) (name : String)
  | call (callee : Expr) (args : List Expr)
  | index (base key : Expr)
  | address (target : Expr)
  | deref (pointer : Expr)
  | not (operand : Expr)
  | binary (op : BinaryOp) (left right : Expr)
  | paren (inner : Expr)
  /-- A method as a function of its receiver. -/
  | methodOf (owner : TypeRef) (name : String)
  | text (value : String)
  | rawText (value : String)
  /-- A number or truth value as it was written. -/
  | verbatim (token : String)
  deriving Repr, Inhabited

namespace Expr

/-- A name of another package, or of this one where the package is empty. -/
def inPackage (package name : String) : Expr :=
  if package.isEmpty then ident name else member package name

mutual

def render : Expr → String
  | ident name => name
  | member package name => package ++ "." ++ name
  | select base name => render base ++ "." ++ name
  | call callee args => render callee ++ "(" ++ ", ".intercalate (renderAll args) ++ ")"
  | index base i => render base ++ "[" ++ render i ++ "]"
  | address target => "&" ++ render target
  | deref pointer => "*" ++ render pointer
  | not operand => "!" ++ render operand
  | binary op left right => render left ++ " " ++ op.symbol ++ " " ++ render right
  | paren inner => "(" ++ render inner ++ ")"
  | methodOf owner name => "(" ++ owner.text ++ ")." ++ name
  | text value => literal value
  | rawText value => rawLiteral value
  | verbatim token => token

def renderAll : List Expr → List String
  | [] => []
  | e :: rest => render e :: renderAll rest

end

theorem renderAll_eq_map (es : List Expr) : renderAll es = es.map render := by
  induction es with
  | nil => rfl
  | cons e es ih => simp [renderAll, ih]

/-- A call of one argument. -/
theorem render_call_one (callee arg : Expr) :
    (call callee [arg]).render = callee.render ++ "(" ++ arg.render ++ ")" := by
  rw [render, renderAll, renderAll, String.intercalate_singleton]

/-- The parts joined by an operator, each in parentheses; a single part stands bare. -/
def joined (op : BinaryOp) : List Expr → Option Expr
  | [] => none
  | [single] => some single
  | first :: rest =>
    some (rest.foldl (fun left right => binary op left (paren right)) (paren first))

end Expr

end Laminate.Code
