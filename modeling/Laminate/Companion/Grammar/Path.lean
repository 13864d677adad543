import Laminate.Companion.Grammar.Reader
import Laminate.Companion.Layout

/-! Paths: words with double colons between them, each with arguments of its own. -/
namespace Laminate.Companion.Grammar

open Laminate.Companion

/-- What follows the word of a segment. -/
inductive Arguments where
  | none
  | angles (items : List Doc)
  | call (inputs : List Doc) (output : List Doc)
  deriving Repr, Inhabited

def Arguments.isNone : Arguments → Bool
  | none => true
  | _ => false

/-- Whether nothing is said by them, though brackets may be there. -/
def Arguments.isEmpty : Arguments → Bool
  | none => true
  | angles items => items.isEmpty
  | call _ _ => false

/-- An argument's layout, and whether it is a lifetime. -/
structure Argument where
  doc : Doc
  isLifetime : Bool
  deriving Repr, Inhabited

/-- Lifetimes stand before all other arguments. -/
def Arguments.ofList (arguments : List Argument) : Arguments :=
  .angles (((arguments.filter (·.isLifetime)) ++ arguments.filter (!·.isLifetime)).map (·.doc))

structure Segment where
  word : String
  arguments : Arguments
  deriving Repr, Inhabited

def Segment.docs (segment : Segment) : List Doc :=
  .text segment.word ::
    match segment.arguments with
    | .none => []
    | .angles [] => []
    | .angles items => [.bracketed "<" items ">" true]
    | .call inputs output => .bracketed "(" inputs ")" true :: output.map .deeper

/-- What the readers of larger phrases want to know of a type. -/
inductive Look where
  /-- A single word, with or without arguments in angle brackets. -/
  | name
  /-- Another path. -/
  | path
  /-- A trait without the word for it: the layout of its one bound. -/
  | bound (inner : Doc)
  | grouped
  | other
  deriving Repr, Inhabited

structure Path where
  /-- The type that the path starts from, in angle brackets. -/
  lead : List Doc
  /-- Whether a double colon stands before the first segment. -/
  isRooted : Bool
  segments : List Segment
  deriving Repr, Inhabited

namespace Path

def docs (path : Path) : List Doc :=
  path.lead ++
    match path.segments.map Segment.docs with
    | [] => []
    | first :: rest =>
      (if path.isRooted then Doc.text "::" :: first else first) ++
        rest.flatMap (Doc.text "::" :: ·)

def doc (path : Path) : Doc := .sequence path.docs

def push (path : Path) (segment : Segment) : Path :=
  { path with segments := path.segments ++ [segment] }

/-- Whether inputs of a function may follow the last segment. -/
def isOpen (path : Path) : Bool := path.segments.getLast?.any (·.arguments.isEmpty)

/-- The path with the arguments of its last segment replaced. -/
def setLast (path : Path) (arguments : Arguments) : Path :=
  match path.segments.getLast? with
  | some last =>
    { path with segments := path.segments.dropLast ++ [⟨last.word, arguments⟩] }
  | none => path

def look (path : Path) : Look :=
  if !path.lead.isEmpty then .other
  else
    match path.isRooted, path.segments with
    | false, [⟨_, .call _ _⟩] => .path
    | false, [_] => .name
    | _, _ => .path

/-- Whether no segment has arguments. -/
def isPlain (path : Path) : Bool := path.segments.all (·.arguments.isNone)

end Path

/-! ### Reading -/

/-- Whether arguments in angle brackets follow a segment: not so at the signs of a comparison or a
shift. -/
def opensArguments (tokens : List Token) : Bool :=
  match tokens with
  | .sign '<' true :: .sign '=' _ :: _ => false
  | .sign '<' true :: .sign '<' true :: .sign '=' _ :: _ => false
  | .sign '<' _ :: _ => true
  | _ => opensColons tokens && opensWith '<' (tokens.drop 2)

/-- Whether the inputs of a function follow a segment. -/
def opensCall (tokens : List Token) : Bool :=
  opensGroup tokens || (opensColons tokens && opensGroup (tokens.drop 2))

def skipColons (tokens : List Token) : List Token :=
  if opensColons tokens then tokens.drop 2 else tokens

/-- A segment, with its arguments read by `argument`. -/
def segment (argument : Reader Argument) : Reader Segment
  | .word word :: rest =>
    if ["super", "self", "crate", "try"].contains word then some (⟨word, .none⟩, rest)
    else if word != "Self" && reservedWords.contains word then none
    else if opensArguments rest then
      (angled argument (skipColons rest)).map fun (items, rest) => (⟨word, .ofList items⟩, rest)
    else some (⟨word, .none⟩, rest)
  | _ => none

/-- The segments that follow a path. -/
def pathRest (argument : Reader Argument) : Nat → Path → Reader Path
  | 0, _, _ => none
  | fuel + 1, path, tokens =>
    if opensColons tokens && !opensGroup (tokens.drop 2) then
      match segment argument (tokens.drop 2) with
      | some (next, rest) => pathRest argument fuel (path.push next) rest
      | none => none
    else some (path, tokens)

/-- A path without the inputs of functions. -/
def simplePath (argument : Reader Argument) (tokens : List Token) : Option (Path × List Token) :=
  match segment argument (skipColons tokens) with
  | some (first, rest) =>
    pathRest argument (rest.length + 1) ⟨[], opensColons tokens, [first]⟩ rest
  | none => none

end Laminate.Companion.Grammar
