import Laminate.Companion.Token

/-! Tokens without a grammar of their own, such as those handed to a macro, spelled out one after
another. What stands before a token decides whether a space does. -/
namespace Laminate.Companion

namespace Token

/-- What a token leaves behind for the next one. -/
inductive Before where
  | start | dollar | repeated | separated | pound | poundBang | dot | colon | colons
  /-- A name or a literal. -/
  | name
  | nameBang
  /-- A group in parentheses or brackets. -/
  | group
  | other
  deriving Repr, DecidableEq, Inhabited

/-- Reserved words that are set apart like signs. -/
def spacedWords : List String := [
  "as", "async", "await", "box", "break", "const", "continue", "crate", "dyn", "else", "enum",
  "extern", "fn", "for", "if", "impl", "in", "let", "loop", "macro", "match", "mod", "move",
  "mut", "pub", "ref", "return", "static", "struct", "trait", "type", "unsafe", "use", "where",
  "while", "yield"]

/-- Whether a sign needs a space before it, and what it leaves behind. -/
def besideSign (before : Before) (c : Char) (joint : Bool) : Bool × Before :=
  match before with
  | .repeated =>
    if !joint && "+*?".toList.contains c then (false, .other)
    else if joint then (false, .repeated)
    else (false, .separated)
  | _ =>
    if before = .separated && (c = '+' || c = '*') then (false, .other)
    else if before = .pound && c = '!' then (false, .poundBang)
    else if before = .name && c = '!' && !joint then (false, .nameBang)
    else if before = .colon && c = ':' then (false, .colons)
    else if c = ',' || c = ';' then (false, .other)
    else if c = '.' then (before != .name && before != .group, .dot)
    else if c = ':' && joint then (before != .name, .colon)
    else if c = '$' then (true, .dollar)
    else if c = '#' then (true, .pound)
    else (true, .other)

/-- Whether a group needs a space before its bracket, and what it leaves behind. -/
def besideGroup (before : Before) (c : Char) : Bool × Before :=
  if c = '(' && before = .dollar then (false, .repeated)
  else if c = '[' && (before = .pound || before = .poundBang) then (false, .other)
  else if c = '\x7b' then (true, .other)
  else if before = .name then (false, .group)
  else if before = .nameBang then (false, .other)
  else (true, .group)

/-- Whether a name or a literal needs a space before it, and what it leaves behind. -/
def besideWord (before : Before) (text : String) (isLiteral : Bool) : Bool × Before :=
  match before with
  | .dollar => if isLiteral then (true, .name) else (false, .other)
  | .repeated => (false, .separated)
  | _ =>
    if isLiteral then (before != .dot, if text.endsWith "." then .other else .name)
    else if spacedWords.contains text then (true, .other)
    else (before != .dot && before != .colons, .name)

/-- A token after its neighbour: a space where it needs one and no sign holds on to it. -/
def spaced (needsSpace holds : Bool) (text : String) : String :=
  if needsSpace && !holds then " " ++ text else text

/-- Tokens spelled out. `holds` says whether the sign before holds on to the next token, `around`
what the groups that are open leave behind. -/
def spell (before : Before) (holds : Bool) (around : List Before) : List Token → String
  | [] => ""
  | .word name :: rest =>
    let (space, next) := besideWord before name false
    spaced space holds name ++ spell next false around rest
  | .literal text :: rest =>
    let (space, next) := besideWord before text true
    spaced space holds text ++ spell next false around rest
  | .lifetime name :: rest =>
    let (space, next) := besideSign before '\'' true
    spaced space holds "'" ++ name ++ spell (besideWord next name false).2 false around rest
  | .sign c joint :: rest =>
    let (space, next) := besideSign before c joint
    spaced space holds (String.singleton c) ++ spell next (joint || c == '$') around rest
  | .opening c :: rest =>
    let (space, next) := besideGroup before c
    let inner := if c = '\x7b' && !rest.head?.any (· matches .closing _) then " " else ""
    spaced space holds (String.singleton c ++ inner) ++ spell .start true (next :: around) rest
  | .closing c :: rest =>
    let inner := if c = '\x7d' && before != .start then " " else ""
    inner ++ String.singleton c ++ spell (around.headD .other) false around.tail rest

end Token

/-- Tokens spelled out from the start. -/
def spelled (tokens : List Token) : String := Token.spell .start true [] tokens

example : spelled [.word "a", .sign '.' false, .word "b", .opening '(', .literal "1",
    .sign ',' false, .lifetime "c", .closing ')', .opening '\x7b', .word "if", .closing '\x7d'] =
    "a.b(1, 'c) \x7b if \x7d" := by decide +kernel

end Laminate.Companion
