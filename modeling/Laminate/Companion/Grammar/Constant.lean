import Laminate.Companion.Grammar.Path

/-! Constants in types: literals, names, and expressions of them. -/
namespace Laminate.Companion.Grammar

open Laminate.Companion

/-- A literal, which may be negative. -/
def constant? : Reader Doc
  | .literal text :: rest => some (.text text, rest)
  | .word "true" :: rest => some (.text "true", rest)
  | .word "false" :: rest => some (.text "false", rest)
  | .sign '-' _ :: .literal text :: rest =>
    if text.toList.head?.any Char.isDigit then some (.text ("-" ++ text), rest) else none
  | _ => none

/-- A constant by its name, in plain words. -/
def constantName? (tokens : List Token) : Option (Doc × List Token) :=
  match simplePath (fun _ => none) tokens with
  | some (path, rest) => if path.isPlain then some (path.doc, rest) else none
  | none => none

/-- A sign of arithmetic between two constants; with an equals sign after it, it is none. -/
def operator? : Reader String
  | .sign '<' true :: .sign '<' joint :: rest => whole "<<" joint rest
  | .sign '>' true :: .sign '>' joint :: rest => whole ">>" joint rest
  | .sign c joint :: rest =>
    if "+-*/%&|^".toList.contains c && !(joint && (opensWith '&' rest || opensWith '|' rest)) then
      whole (String.singleton c) joint rest
    else none
  | _ => none
where
  whole (text : String) (joint : Bool) (rest : List Token) : Option (String × List Token) :=
    if joint && opensWith '=' rest then none else some (text, rest)

/-- One constant: a literal, a name, or another expression in brackets. -/
def operand (inner : Reader Doc) : Reader Doc
  | .opening '(' :: rest =>
    match inner rest with
    | some (doc, .closing ')' :: rest) => some (.sequence [.text "(", doc, .text ")"], rest)
    | _ => none
  | .opening '\x7b' :: .closing '\x7d' :: rest => some (.text "\x7b\x7d", rest)
  | .opening '\x7b' :: rest =>
    match inner rest with
    | some (doc, .closing '\x7d' :: rest) =>
      some (.sequence [.text "\x7b ", doc, .text " \x7d"], rest)
    | _ => none
  | tokens => (constant? tokens).orElse fun _ => constantName? tokens

/-- Constants with signs between them; each may have a sign of its own. -/
def expression : Nat → Reader Doc
  | 0, _ => none
  | fuel + 1, tokens =>
    let (mark, rest) := match tokens with
      | .sign '-' _ :: rest => ([Doc.text "-"], rest)
      | .sign '!' _ :: rest => ([Doc.text "!"], rest)
      | _ => ([], tokens)
    match operand (expression fuel) rest with
    | none => none
    | some (first, rest) =>
      let first := .sequence (mark ++ [first])
      match operator? rest with
      | none => some (first, rest)
      | some (sign, rest) =>
        (expression fuel rest).map fun (others, rest) =>
          (.sequence [first, .text (" " ++ sign ++ " "), others], rest)

/-- A constant that stands for a value among types: a literal, or an expression in a block. -/
def constantValue? (tokens : List Token) : Option (Doc × List Token) :=
  match tokens with
  | .opening '\x7b' :: _ => operand (expression tokens.length) tokens
  | _ => constant? tokens

end Laminate.Companion.Grammar
