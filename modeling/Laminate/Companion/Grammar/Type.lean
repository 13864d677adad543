import Laminate.Companion.Spelling
import Laminate.Companion.Grammar.Bound

/-! Types of the companion language, each read into its layout. Types nest, so the readers of their
parts are given the reader `type` of the types inside. -/
namespace Laminate.Companion.Grammar

open Laminate.Companion

section Parts

variable (type : TypeReader)

/-- The inputs of functions that follow a path, and the segments after them. -/
def callsAfter (argument : Reader Argument) : Nat → Path → Reader Path
  | 0, _, _ => none
  | fuel + 1, path, tokens =>
    if path.isOpen && opensCall tokens then
      match callArguments type (skipColons tokens) with
      | none => none
      | some ((call, goesOn), rest) =>
        if goesOn then
          match pathRest argument (rest.length + 1) (path.setLast call) rest with
          | none => none
          | some (path, rest) => callsAfter argument fuel path rest
        else some (path.setLast call, rest)
    else some (path, tokens)

/-- A path that starts from a type, which may be seen as having a trait. -/
def qualifiedPath (argument : Reader Argument) (tokens : List Token) :
    Option (Path × List Token) :=
  match dropSign '<' tokens with
  | none => none
  | some rest =>
    match type true rest with
    | none => none
    | some (base, rest) =>
      let seen : Option (List Doc × List Token) := match rest with
        | .word "as" :: rest =>
          (simplePath argument rest).map fun ((path, rest) : Path × List Token) =>
            (.text " as " :: path.docs, rest)
        | _ => some ([], rest)
      match seen with
      | none => none
      | some (view, rest) =>
        match dropSign '>' rest with
        | none => none
        | some rest =>
          if !opensColons rest then none
          else
            match segment argument (rest.drop 2) with
            | none => none
            | some (first, rest) =>
              afterFirst (rest.length + 1)
                ⟨Doc.text "<" :: base.doc :: view ++ [.text ">"], true, [first]⟩ rest
where
  afterFirst : Nat → Path → Reader Path
    | 0, _, _ => none
    | fuel + 1, path, tokens =>
      if opensColons tokens then
        match segment argument (tokens.drop 2) with
        | some (next, rest) => afterFirst fuel (path.push next) rest
        | none => none
      else some (path, tokens)

/-- A path that stands for a type. -/
def typePath (argument : Reader Argument) (tokens : List Token) : Option (Path × List Token) :=
  let start := if opensWith '<' tokens then qualifiedPath type argument tokens
    else simplePath argument tokens
  match start with
  | none => none
  | some (path, rest) => callsAfter type argument (rest.length + 1) path rest

/-! ### Types by their first token -/

/-- A trait type; the word for it is always written. -/
def traitType (bounds : List Doc) : Doc := .sequence [.text "dyn ", joinBounds bounds]

/-- A trait type of the bounds that follow; a lifetime alone is none. -/
def boundsType (word : String) (argument : Reader Argument) (marks plus : Bool)
    (tokens : List Token) : Option (Reading × List Token) :=
  match bounds type argument marks plus tokens with
  | none => none
  | some (bounds, rest) =>
    if bounds.any (·.isTrait) then
      some (⟨.sequence [.text word, joinBounds (bounds.map (·.doc))], .other⟩, rest)
    else none

/-- A trait type after the word for it. With a star behind the word it is kept as it came. -/
def dynType (argument : Reader Argument) (plus : Bool) (tokens : List Token) :
    Option (Reading × List Token) :=
  match dropSign '*' tokens with
  | some rest =>
    (boundsType type "dyn " argument false plus rest).map fun (_, rest) =>
      (⟨.verbatim, .other⟩, rest)
  | none => boundsType type "dyn " argument false plus tokens

/-- The tokens up to the end of the group that they stand in, with what follows it. -/
def untilClosed : Nat → Reader (List Token)
  | depth, .opening c :: rest =>
    (untilClosed (depth + 1) rest).map fun (inner, rest) => (.opening c :: inner, rest)
  | 0, .closing _ :: rest => some ([], rest)
  | depth + 1, .closing c :: rest =>
    (untilClosed depth rest).map fun (inner, rest) => (.closing c :: inner, rest)
  | depth, token :: rest =>
    (untilClosed depth rest).map fun (inner, rest) => (token :: inner, rest)
  | _, [] => none

/-- What a macro expands to, after its name and mark: its tokens are given in a group. -/
def expansion (name : Path) : Reader Reading
  | .opening c :: rest =>
    match untilClosed 0 rest with
    | none => none
    | some (inner, rest) =>
      let text := spelled inner
      let head := Doc.sequence [name.doc, .text "!"]
      if c = '\x7b' then
        if inner.isEmpty then some (⟨.sequence [head, .text " \x7b\x7d"], .other⟩, rest) else none
      else
        let group : Doc := match c, inner.isEmpty with
          | '(', true => .text "()"
          | '(', false => .bracketed "(" [.text text] ")" false
          | _, true => .text "[]"
          | _, false => .bracketed "[" [.text text] "]" false
        some (⟨.sequence [head, group], .other⟩, rest)
  | _ => none

/-- A type that opens with a path: the path, the expansion of a macro, or a trait type where bounds
follow it or names are bound before it. -/
def pathType (argument : Reader Argument) (plus : Bool) (head : List Doc)
    (tokens : List Token) : Option (Reading × List Token) :=
  match typePath type argument tokens with
  | none => none
  | some (path, rest) =>
    if !path.lead.isEmpty then some (⟨path.doc, .other⟩, rest)
    else if opensWith '!' rest && !opensWithBoth '!' '=' rest && path.isPlain then
      expansion path (rest.drop 1)
    else if !head.isEmpty || (plus && opensWith '+' rest) then
      let first : Doc := .sequence (head ++ path.docs)
      if plus && opensWith '+' rest then
        (boundsAfter type argument false (rest.length + 1) rest).map fun (others, rest) =>
          (⟨traitType (first :: others.map (·.doc)), .other⟩, rest)
      else some (⟨traitType [first], .bound first⟩, rest)
    else some (⟨path.doc, path.look⟩, rest)

/-- Bounds after a bound in parentheses; none may be missing. -/
def strictBounds (argument : Reader Argument) : Nat → Reader (List Bound)
  | 0, _ => none
  | fuel + 1, tokens =>
    match dropSign '+' tokens with
    | none => some ([], tokens)
    | some rest =>
      match bound type argument false rest with
      | none => none
      | some (next, rest) =>
        (strictBounds argument fuel rest).map fun (others, rest) => (next :: others, rest)

/-- A trait type whose first bound stands in parentheses. -/
def groupedBounds (argument : Reader Argument) (first : Doc) (tokens : List Token) :
    Option (Reading × List Token) :=
  (strictBounds type argument (tokens.length + 1) tokens).map fun (others, rest) =>
    let look := if others.isEmpty then .bound first else .other
    (⟨traitType (grouped first :: others.map (·.doc)), look⟩, rest)

/-- A type that opens with a parenthesis: a tuple, a bound, or a type in parentheses. -/
def groupType (argument : Reader Argument) (plus : Bool) (inner : List Token) :
    Option (Reading × List Token) :=
  match inner with
  | .closing ')' :: rest => some (⟨.text "()", .other⟩, rest)
  | .lifetime _ :: _ =>
    match boundsType type "dyn " argument false true inner with
    | some (⟨doc, _⟩, .closing ')' :: rest) => some (⟨grouped doc, .grouped⟩, rest)
    | _ => none
  | .sign '?' _ :: _ =>
    match traitBound type argument false inner with
    | some (doc, .closing ')' :: rest) => groupedBounds type argument doc rest
    | _ => none
  | _ =>
    match type true inner with
    | some (first, .closing ')' :: rest) =>
      if plus && opensWith '+' rest then
        match first.look with
        | .name => groupedBounds type argument first.doc rest
        | .path => groupedBounds type argument first.doc rest
        | .bound doc => groupedBounds type argument doc rest
        | _ => some (⟨grouped first.doc, .grouped⟩, rest)
      else some (⟨grouped first.doc, .grouped⟩, rest)
    | some (first, .sign ',' _ :: rest) =>
      match commaList (type true) closesGroup (rest.length + 1) rest with
      | some ([], .closing ')' :: rest) =>
        some (⟨.bracketed "(" [.sequence [first.doc, .text ","]] ")" false, .other⟩, rest)
      | some (others, .closing ')' :: rest) =>
        some (⟨.bracketed "(" (first.doc :: others.map (·.doc)) ")" true, .other⟩, rest)
      | _ => none
    | _ => none

/-- The mark for inputs of any number, which stands at the end. -/
def spread? : Reader Doc
  | .sign '.' true :: .sign '.' true :: .sign '.' _ :: .closing ')' :: rest =>
    some (.text "...", .closing ')' :: rest)
  | _ => none

/-- An input of a function type. -/
structure Input where
  doc : Doc
  /-- There may be any number of it. -/
  isMany : Bool
  /-- It is what the function belongs to, which comes first. -/
  isSelf : Bool
  deriving Repr, Inhabited

/-- An input of a function type, which may have a name. What the function belongs to is kept as it
came where it may be changed. -/
def functionInput (tokens : List Token) : Option (Input × List Token) :=
  match tokens with
  | .word "mut" :: .word "self" :: rest =>
    if opensWith ':' rest && !opensColons rest then
      (type true (rest.drop 1)).map fun (_, rest) => (⟨.verbatim, false, true⟩, rest)
    else some (⟨.verbatim, false, true⟩, rest)
  | .word name :: rest =>
    if opensWith ':' rest && !opensColons rest &&
        (name == "_" || name == "self" || !reservedWords.contains name) then
      match name != "self", rest.drop 1 with
      | true, .word "mut" :: .word "self" :: rest => some (⟨.verbatim, false, true⟩, rest)
      | _, rest =>
        (input rest).map fun (typed, rest) =>
          (⟨.sequence [.text (name ++ ": "), typed.doc], typed.isMany, name == "self"⟩, rest)
    else input tokens
  | _ => input tokens
where
  input (tokens : List Token) : Option (Input × List Token) :=
    match spread? tokens with
    | some (doc, rest) => some (⟨doc, true, false⟩, rest)
    | none => (type true tokens).map fun (input, rest) => (⟨input.doc, false, false⟩, rest)

/-- A function type, after the words that say how it is called. -/
def functionType (head : List Doc) (tokens : List Token) : Option (Reading × List Token) :=
  let (mark, rest) := match tokens with
    | .word "unsafe" :: rest => ([Doc.text "unsafe "], rest)
    | _ => ([], tokens)
  let (convention, rest) := match rest with
    | .word "extern" :: .literal name :: rest =>
      if name.toList.head? = some '"' then ([Doc.text ("extern " ++ name ++ " ")], rest)
      else ([Doc.text "extern "], .literal name :: rest)
    | .word "extern" :: rest => ([Doc.text "extern "], rest)
    | _ => ([], rest)
  match rest with
  | .word "fn" :: rest =>
    match parenthesized (functionInput type) rest with
    | none => none
    | some (inputs, rest) =>
      let call := if inputs.isEmpty then Doc.text "fn()"
        else .bracketed "fn(" (inputs.map (·.doc)) ")" (!inputs.any (·.isMany))
      let docs := head ++ mark ++ convention ++ [call]
      if inputs.tail.any (·.isSelf) then none
      else if opensWithBoth '-' '>' rest then
        (type false (rest.drop 2)).map fun (output, rest) =>
          (⟨.sequence (docs ++ [.text " -> ", output.doc]), .other⟩, rest)
      else some (⟨.sequence docs, .other⟩, rest)
  | _ => none

/-- A slice or an array, after its bracket. -/
def sequenceType (tokens : List Token) : Option (Reading × List Token) :=
  match type true tokens with
  | some (element, .closing ']' :: rest) =>
    some (⟨.sequence [.text "[", element.doc, .text "]"], .other⟩, rest)
  | some (element, .sign ';' _ :: rest) =>
    match expression (rest.length + 1) rest with
    | some (size, .closing ']' :: rest) =>
      some (⟨.sequence [.text "[", element.doc, .text "; ", size, .text "]"], .other⟩, rest)
    | _ => none
  | _ => none

/-- What stands between the sign of a reference and the type it refers to. -/
def referenceType (tokens : List Token) : Option (Reading × List Token) :=
  let (span, rest) := match tokens with
    | .lifetime name :: rest => ([Doc.text ("'" ++ name ++ " ")], rest)
    | _ => ([], tokens)
  let (mark, rest) := match rest with
    | .word "mut" :: rest => ([Doc.text "mut "], rest)
    | _ => ([], rest)
  (type false rest).map fun (target, rest) =>
    (⟨.sequence (.text "&" :: span ++ mark ++ [target.doc]), .other⟩, rest)

/-- A type whose first token is a word. -/
def wordType (argument : Reader Argument) (plus : Bool) (word : String)
    (tokens : List Token) : Option (Reading × List Token) :=
  if word = "for" then
    match binder tokens with
    | some (head, .word word :: rest) =>
      if ["fn", "unsafe", "extern"].contains word then functionType type [head] (.word word :: rest)
      else if pathWords.contains word || !reservedWords.contains word then
        pathType type argument plus [head] (.word word :: rest)
      else none
    | _ => none
  else if ["fn", "unsafe", "extern"].contains word then functionType type [] tokens
  else if pathWords.contains word || !reservedWords.contains word then
    pathType type argument plus [] tokens
  else if word = "dyn" then dynType type argument plus (tokens.drop 1)
  else if word = "impl" then boundsType type "impl " argument true plus (tokens.drop 1)
  else if word = "_" then some (⟨.text "_", .other⟩, tokens.drop 1)
  else none

/-- A type, once the types inside it can be read. -/
def typeAfter (plus : Bool) (tokens : List Token) : Option (Reading × List Token) :=
  let argument := argument type (tokens.length + 1)
  match tokens with
  | .word word :: _ => wordType type argument plus word tokens
  | .lifetime _ :: _ => boundsType type "dyn " argument false true tokens
  | .opening '(' :: inner => groupType type argument plus inner
  | .opening '[' :: inner => sequenceType type inner
  | .sign '<' _ :: _ => pathType type argument plus [] tokens
  | .sign '*' _ :: .word "const" :: rest =>
    (type false rest).map fun (target, rest) =>
      (⟨.sequence [.text "*const ", target.doc], .other⟩, rest)
  | .sign '*' _ :: .word "mut" :: rest =>
    (type false rest).map fun (target, rest) =>
      (⟨.sequence [.text "*mut ", target.doc], .other⟩, rest)
  | .sign '&' _ :: rest => referenceType type rest
  | .sign '!' _ :: rest => some (⟨.text "!", .other⟩, rest)
  | _ => if opensColons tokens then pathType type argument plus [] tokens else none

end Parts

/-- A type that opens some tokens, with others nested in it to a depth of `fuel`. -/
def typeAt : Nat → TypeReader
  | 0 => fun _ _ => none
  | fuel + 1 => typeAfter (typeAt fuel)

end Grammar

/-- The layout of the type that a text spells, if it spells one. -/
def typeLayout? (text : String) : Option Doc :=
  match tokens? text with
  | none => none
  | some tokens =>
    match Grammar.typeAt (tokens.length + 1) true tokens with
    | some (reading, []) => some reading.doc
    | _ => none

end Laminate.Companion
