import Laminate.Text.Echo

/-! Annotation values as they are written: bare tokens, quoted text, nested messages and lists. -/
namespace Laminate.Annotation

inductive Value where
  /-- An identifier, a number or a truth value. -/
  | token (text : String)
  /-- Text with its escapes resolved. -/
  | quoted (text : String)
  | message (entries : List (String × Value))
  | list (items : List Value)
  deriving Repr, BEq, Inhabited

/-- A key and what is written for it. -/
abbrev Entry := String × Value

namespace Value

/-- The items of a list; anything else stands for itself. -/
def items : Value → List Value
  | list items => items
  | other => [other]

@[simp] theorem items_list (vs : List Value) : (list vs).items = vs := rfl
@[simp] theorem items_token (s : String) : (token s).items = [token s] := rfl
@[simp] theorem items_quoted (s : String) : (quoted s).items = [quoted s] := rfl
@[simp] theorem items_message (es : List Entry) : (message es).items = [message es] := rfl

mutual

/-- How messages show a value. -/
def echo : Value → String
  | token text => "Scalar(" ++ Text.echo text ++ ")"
  | quoted text => "Quoted(" ++ Text.echo text ++ ")"
  | message entries => "Message([" ++ ", ".intercalate (echoEntries entries) ++ "])"
  | list items => "List([" ++ ", ".intercalate (echoItems items) ++ "])"

def echoEntries : List (String × Value) → List String
  | [] => []
  | (key, value) :: rest => ("(" ++ Text.echo key ++ ", " ++ echo value ++ ")") :: echoEntries rest

def echoItems : List Value → List String
  | [] => []
  | value :: rest => echo value :: echoItems rest

end

end Value

end Laminate.Annotation
