import Laminate.Companion.Grammar.Constant

/-! What a type may be asked for: bounds, and the arguments of paths, which nest through them. Types
nest too, so these readers are given the reader `type` of the types inside. -/
namespace Laminate.Companion.Grammar

open Laminate.Companion

structure Reading where
  doc : Doc
  look : Look
  deriving Repr, Inhabited

/-- The reader of types inside another. The flag says whether a sum of bounds may be read. -/
abbrev TypeReader := Bool → Reader Reading

section Parts

variable (type : TypeReader)

/-- Names after `for`, in angle brackets. -/
def binder : Reader Doc
  | .word "for" :: rest =>
    (angled parameter rest).map fun (names, rest) =>
      (.text ("for<" ++ ", ".intercalate names ++ "> "), rest)
  | _ => none
where
  /-- The lifetimes that another one outlives. -/
  outlived : Nat → Reader (List String)
    | 0, _ => none
    | fuel + 1, tokens =>
      match tokens with
      | .lifetime name :: rest =>
        match dropSign '+' rest with
        | some rest =>
          (outlived fuel rest).map fun (others, rest) => (("'" ++ name) :: others, rest)
        | none => some (["'" ++ name], rest)
      | _ => some ([], tokens)
  parameter : Reader String
    | .lifetime name :: rest =>
      match dropSign ':' rest with
      | some rest =>
        (outlived (rest.length + 1) rest).map fun (others, rest) =>
          ("'" ++ name ++ (if others.isEmpty then "" else ": " ++ " + ".intercalate others), rest)
      | none => some ("'" ++ name, rest)
    | .word name :: rest => if reservedWords.contains name then none else some (name, rest)
    | _ => none

/-- The inputs of a function between parentheses, and its output. The flag says whether a path may
go on after them. -/
def callArguments (tokens : List Token) : Option ((Arguments × Bool) × List Token) :=
  match parenthesized (type true) tokens with
  | none => none
  | some (inputs, rest) =>
    let docs := inputs.map (·.doc)
    if opensWithBoth '-' '>' rest then
      (type false (rest.drop 2)).map fun (output, rest) =>
        let isGrouped := match output.look with
          | .grouped => true
          | _ => false
        ((.call docs [.text " -> ", output.doc], isGrouped), rest)
    else some ((.call docs [], true), rest)

/-- The mark of a trait that must be there when constants are worked out; in brackets, only where
the type is used for one. -/
def constMark? : List Token → Option (List Token)
  | .word "const" :: rest => some rest
  | .opening '[' :: .word "const" :: .closing ']' :: rest => some rest
  | _ => none

/-- A trait that a type must have, without parentheses of its own. The flag says whether it may have
a mark for constants; a trait that has one is kept as it came. -/
def traitBound (argument : Reader Argument) (marks : Bool) (tokens : List Token) :
    Option (Doc × List Token) :=
  let (head, rest) := match binder tokens with
    | some (doc, rest) => ([doc], rest)
    | none => ([], tokens)
  let (isMarked, rest) := match if marks then constMark? rest else none with
    | some rest => (true, rest)
    | none => (false, rest)
  let (mark, rest) := match dropSign '?' rest with
    | some rest => ([Doc.text "?"], rest)
    | none => ([], rest)
  if !head.isEmpty && !mark.isEmpty then none
  else
    match simplePath argument rest with
    | none => none
    | some (path, rest) =>
      if path.isOpen && opensCall rest then
        (callArguments type (skipColons rest)).map fun ((call, _), rest) =>
          (if isMarked then .verbatim else .sequence (head ++ mark ++ (path.setLast call).docs),
            rest)
      else some (if isMarked then .verbatim else .sequence (head ++ mark ++ path.docs), rest)

/-- A bound's layout, and whether it is a trait. -/
structure Bound where
  doc : Doc
  isTrait : Bool
  deriving Repr, Inhabited

def grouped (doc : Doc) : Doc := .sequence [.text "(", doc, .text ")"]

def bound (argument : Reader Argument) (marks : Bool) : Reader Bound
  | .lifetime name :: rest => some (⟨.text ("'" ++ name), false⟩, rest)
  | .opening '(' :: rest =>
    match traitBound type argument marks rest with
    | some (doc, .closing ')' :: rest) => some (⟨grouped doc, true⟩, rest)
    | _ => none
  | tokens => (traitBound type argument marks tokens).map fun (doc, rest) => (⟨doc, true⟩, rest)

/-- Whether a bound may follow a plus sign. -/
def opensBound (marks : Bool) (tokens : List Token) : Bool :=
  opensWord tokens || opensColons tokens || opensWith '?' tokens || opensLifetime tokens ||
    opensGroup tokens || (marks && opensBrackets tokens)

/-- What follows a bound: others, each after a plus sign; the last sign may end them. -/
def boundsAfter (argument : Reader Argument) (marks : Bool) : Nat → Reader (List Bound)
  | 0, _ => none
  | fuel + 1, tokens =>
    match dropSign '+' tokens with
    | none => some ([], tokens)
    | some rest =>
      if !opensBound marks rest then some ([], rest)
      else
        match bound type argument marks rest with
        | none => none
        | some (next, rest) =>
          (boundsAfter argument marks fuel rest).map fun (others, rest) => (next :: others, rest)

/-- Bounds with plus signs between them, or a single one. -/
def bounds (argument : Reader Argument) (marks plus : Bool) (tokens : List Token) :
    Option (List Bound × List Token) :=
  match bound type argument marks tokens with
  | none => none
  | some (first, rest) =>
    if plus then
      (boundsAfter type argument marks (rest.length + 1) rest).map fun (others, rest) =>
        (first :: others, rest)
    else some ([first], rest)

/-- The bounds that a named argument must meet. -/
def constraint (argument : Reader Argument) : Nat → Reader (List Bound)
  | 0, _ => none
  | fuel + 1, tokens =>
    if opensWith ',' tokens || opensWith '>' tokens then some ([], tokens)
    else
      match bound type argument true tokens with
      | none => none
      | some (first, rest) =>
        match dropSign '+' rest with
        | some rest =>
          (constraint argument fuel rest).map fun (others, rest) => (first :: others, rest)
        | none => some ([first], rest)

/-- Bounds in a row. -/
def joinBounds (docs : List Doc) : Doc :=
  .sequence (docs.intersperse (.text " + "))

/-- What an argument in angle brackets may be: a lifetime, a literal, a type, or a name with its
type, its literal or its bounds. -/
def argumentAfter (argument : Reader Argument) (tokens : List Token) :
    Option (Argument × List Token) :=
  match tokens with
  | .lifetime name :: rest =>
    if opensWith '+' rest then ofType tokens else some (⟨.text ("'" ++ name), true⟩, rest)
  | _ =>
    match constantValue? tokens with
    | some (doc, rest) => some (⟨doc, false⟩, rest)
    | none => ofType tokens
where
  ofType (tokens : List Token) : Option (Argument × List Token) :=
    match type true tokens with
    | none => none
    | some (⟨doc, .name⟩, rest) =>
      match dropSign '=' rest, dropSign ':' rest with
      | some rest, _ =>
        match constantValue? rest with
        | some (value, rest) => some (⟨.sequence [doc, .text " = ", value], false⟩, rest)
        | none =>
          (type true rest).map fun (value, rest) =>
            (⟨.sequence [doc, .text " = ", value.doc], false⟩, rest)
      | none, some rest =>
        (constraint type argument (rest.length + 1) rest).map fun (bounds, rest) =>
          let docs := bounds.map (·.doc)
          (⟨if docs.isEmpty then doc else .sequence [doc, .text ": ", joinBounds docs], false⟩,
            rest)
      | none, none => some (⟨doc, false⟩, rest)
    | some (⟨doc, _⟩, rest) => some (⟨doc, false⟩, rest)

/-- Arguments nest through bounds, each time with fewer tokens. -/
def argument : Nat → Reader Argument
  | 0, _ => none
  | fuel + 1, tokens => argumentAfter type (argument fuel) tokens

end Parts

end Laminate.Companion.Grammar
