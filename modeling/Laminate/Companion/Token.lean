import Laminate.Companion.Name
import Laminate.Text.Number

/-! Tokens of the companion language, as far as types need them. Comments are passed over; a text
with documentation in it has no tokens, because no type holds any. -/
namespace Laminate.Companion

open Laminate.Text

inductive Token where
  /-- An identifier, a reserved word or the underscore; raw ones with their mark. -/
  | word (name : String)
  | lifetime (name : String)
  /-- A sign, and whether another sign follows it at once. -/
  | sign (c : Char) (joint : Bool)
  | literal (text : String)
  | opening (c : Char)
  | closing (c : Char)
  deriving Repr, DecidableEq, Inhabited

namespace Token

/-! ### What stands between tokens -/

/-- What follows a block comment, which may hold others; `depth` counts the open ones. -/
def afterBlock : Nat → List Char → Option (List Char)
  | depth, '/' :: '*' :: rest => afterBlock (depth + 1) rest
  | depth, '*' :: '/' :: rest => if depth ≤ 1 then some rest else afterBlock (depth - 1) rest
  | depth, _ :: rest => afterBlock depth rest
  | _, [] => none

/-- Whether a text opens with a line comment that documents nothing. -/
def opensLine : List Char → Bool
  | '/' :: '/' :: '/' :: '/' :: _ => true
  | '/' :: '/' :: '/' :: _ => false
  | '/' :: '/' :: '!' :: _ => false
  | '/' :: '/' :: _ => true
  | _ => false

/-- Whether a text opens with a block comment that documents nothing. -/
def opensBlock : List Char → Bool
  | '/' :: '*' :: '*' :: '/' :: _ => true
  | '/' :: '*' :: '*' :: '*' :: _ => true
  | '/' :: '*' :: '*' :: _ => false
  | '/' :: '*' :: '!' :: _ => false
  | '/' :: '*' :: _ => true
  | _ => false

/-! ### Words and signs -/

/-- The signs that tokens are made of. -/
def isSign (c : Char) : Bool := "~!@#$%^&*-=+|;:,<.>/?'".toList.contains c

/-- Whether a text opens with a sign; the slash of a comment is none. -/
def opensSign : List Char → Bool
  | '/' :: '/' :: _ => false
  | '/' :: '*' :: _ => false
  | c :: _ => isSign c
  | [] => false

def isWordStart (c : Char) : Bool := c == '_' || isNameStart c

/-- A word that opens a text, raw or not, with what follows it. -/
def readWord : List Char → Option (String × List Char)
  | 'r' :: '#' :: c :: rest =>
    if isWordStart c then
      let name := String.ofList (c :: rest.takeWhile isNameContinue)
      if ("_" :: pathWords).contains name then none
      else some ("r#" ++ name, rest.dropWhile isNameContinue)
    else none
  | c :: rest =>
    if isWordStart c then
      some (String.ofList (c :: rest.takeWhile isNameContinue), rest.dropWhile isNameContinue)
    else none
  | [] => none

/-- What opens a literal of some kind, so that no word is read there. -/
def literalHeads : List String :=
  ["r\"", "r#\"", "r##", "b\"", "b'", "br\"", "br#", "c\"", "cr\"", "cr#"]

/-! ### Literals -/

/-- What follows the digits of a number: a suffix goes with it, and no digit may be left over. -/
def afterSuffix (text : List Char) : Option (List Char) :=
  match text with
  | c :: rest =>
    let rest := if isNameStart c then rest.dropWhile isNameContinue else text
    if rest.head?.any isNameContinue then none else some rest
  | [] => some []

/-- What follows an exponent's digits; none without a digit. -/
def afterExponent (text : List Char) : Option (List Char) :=
  let digits := match text with
    | '+' :: rest => rest
    | '-' :: rest => rest
    | _ => text
  let run := digits.takeWhile fun c => c.isDigit || c == '_'
  if run.any Char.isDigit then some (digits.dropWhile fun c => c.isDigit || c == '_') else none

/-- What follows a fractional number: one with a point or an exponent. -/
def afterFraction (text : List Char) : Option (List Char) :=
  let isPart := fun c : Char => c.isDigit || c == '_'
  if !text.head?.any Char.isDigit then none
  else
    match text.dropWhile isPart with
    | '.' :: rest =>
      if rest.head?.any fun c => c == '.' || isWordStart c then none
      else
        match rest.dropWhile isPart with
        | 'e' :: tail => (afterExponent tail).getD ('e' :: tail)
        | 'E' :: tail => (afterExponent tail).getD ('E' :: tail)
        | tail => some tail
    | 'e' :: tail => afterExponent tail
    | 'E' :: tail => afterExponent tail
    | _ => none

/-- What follows the digits of a whole number. -/
def afterDigits (text : List Char) : Option (List Char) :=
  match text with
  | '0' :: 'x' :: rest =>
    after rest fun c => c.isDigit || ('a' ≤ c && c ≤ 'f') || ('A' ≤ c && c ≤ 'F')
  | '0' :: 'o' :: rest => after rest fun c => '0' ≤ c && c ≤ '7'
  | '0' :: 'b' :: rest => after rest fun c => c == '0' || c == '1'
  | c :: _ => if c.isDigit then after text Char.isDigit else none
  | [] => none
where
  after (digits : List Char) (isDigit : Char → Bool) : Option (List Char) :=
    let rest := digits.dropWhile fun c => isDigit c || c == '_'
    if (digits.takeWhile fun c => isDigit c || c == '_').any isDigit &&
        !rest.head?.any Char.isDigit then some rest
    else none

/-- Whether a character in hexadecimal stands between braces, with underscores after its first
digit. -/
def isBracedCode : List Char → Bool
  | '\x7b' :: rest =>
    let inside := rest.takeWhile (· != '\x7d')
    let digits := inside.filter (· != '_')
    let code := digits.foldl (fun n c => n * 16 + (hexDigit? c).getD 0) 0
    inside.length < rest.length && inside.head? != some '_' &&
      digits.all (fun c => (hexDigit? c).isSome) && 1 ≤ digits.length && digits.length ≤ 6 &&
      code.isValidChar
  | _ => false

/-- Whether an escape is sound: the character after the backslash, and what follows that. Octets
have no escapes beyond their range. -/
def isEscape (isOctet : Bool) (c : Char) (rest : List Char) : Bool :=
  if c = 'x' then
    match rest with
    | high :: low :: _ =>
      (hexDigit? high).isSome && (hexDigit? low).isSome && (isOctet || high ≤ '7')
    | _ => false
  else if c = 'u' then !isOctet && isBracedCode rest
  else ['n', 'r', 't', '\\', '\'', '"', '0'].contains c

/-- Whether a character may stand for itself. -/
def isPlain (isOctet : Bool) (c : Char) : Bool := !isOctet || c.toNat < 128

/-- What follows the inside of a string and its closing quote. A backslash at the end of a line
passes over the line break. -/
def afterString (isOctet : Bool) : List Char → Option (List Char)
  | '"' :: rest => some rest
  | '\\' :: '\n' :: rest => afterString isOctet rest
  | '\\' :: '\r' :: '\n' :: rest => afterString isOctet rest
  | '\\' :: c :: rest => if isEscape isOctet c rest then afterString isOctet rest else none
  | '\r' :: '\n' :: rest => afterString isOctet rest
  | '\r' :: _ => none
  | c :: rest => if isPlain isOctet c then afterString isOctet rest else none
  | [] => none

/-- What follows the inside of a raw string and its closing quote, which has `hashes` behind it. -/
def afterRawString (isOctet : Bool) (hashes : List Char) : List Char → Option (List Char)
  | '\r' :: '\n' :: rest => afterRawString isOctet hashes rest
  | '\r' :: _ => none
  | c :: rest =>
    if c = '"' && hashes.isPrefixOf rest then some (rest.drop hashes.length)
    else if isPlain isOctet c then afterRawString isOctet hashes rest
    else none
  | [] => none

/-- What follows a raw string after its mark. -/
def afterHashes (isOctet : Bool) (text : List Char) : Option (List Char) :=
  match text.dropWhile (· == '#') with
  | '"' :: rest => afterRawString isOctet (text.takeWhile (· == '#')) rest
  | _ => none

/-- What follows the inside of a character literal and its closing quote. -/
def afterChar (isOctet : Bool) : List Char → Option (List Char)
  | '\\' :: c :: rest =>
    if !isEscape isOctet c rest then none
    else
      let rest := if c = 'x' then rest.drop 2
        else if c = 'u' then (rest.dropWhile (· != '\x7d')).drop 1
        else rest
      if rest.head? = some '\'' then some (rest.drop 1) else none
  | c :: '\'' :: rest => if c != '\\' && isPlain isOctet c then some rest else none
  | _ => none

/-- A suffix of a quoted literal is part of it. -/
def dropSuffix : List Char → List Char
  | c :: rest => if isWordStart c then rest.dropWhile isNameContinue else c :: rest
  | [] => []

/-- What follows a literal that opens a text. -/
def afterLiteral? (text : List Char) : Option (List Char) :=
  match text with
  | '"' :: rest => (afterString false rest).map dropSuffix
  | '\'' :: rest => (afterChar false rest).map dropSuffix
  | 'r' :: rest => (afterHashes false rest).map dropSuffix
  | 'b' :: '"' :: rest => (afterString true rest).map dropSuffix
  | 'b' :: '\'' :: rest => (afterChar true rest).map dropSuffix
  | 'b' :: 'r' :: rest => (afterHashes true rest).map dropSuffix
  | _ =>
    match (afterFraction text).bind afterSuffix with
    | some rest => some rest
    | none => (afterDigits text).bind afterSuffix

/-! ### Token by token -/

/-- The token that opens a text, with what follows it. -/
def readOne (text : List Char) : Option (Token × List Char) :=
  match afterLiteral? text with
  | some rest => some (literal (String.ofList (text.take (text.length - rest.length))), rest)
  | none =>
    match text with
    | '\'' :: rest =>
      match readWord rest with
      | some (name, after) =>
        if after.head? = some '\'' || after.head? = some '#' then none
        else some (lifetime name, after)
      | none => none
    | c :: rest =>
      if opensSign text then some (sign c (opensSign rest), rest)
      else if literalHeads.any fun head => head.toList.isPrefixOf text then none
      else (readWord text).map fun (name, rest) => (word name, rest)
    | [] => none

/-- The tokens of a text; none where a character belongs to no token, or the text runs out of
`fuel`. `opened` lists the brackets to be closed, the innermost first. -/
def readAll : Nat → List Char → List Char → Option (List Token)
  | _, opened, [] => if opened.isEmpty then some [] else none
  | 0, _, _ => none
  | fuel + 1, opened, c :: rest =>
    if isSpacing c then readAll fuel opened rest
    else if opensLine (c :: rest) then readAll fuel opened (rest.dropWhile (· != '\n'))
    else if opensBlock (c :: rest) then
      match afterBlock 0 (c :: rest) with
      | some rest => readAll fuel opened rest
      | none => none
    else if c = '(' then (readAll fuel (')' :: opened) rest).map (opening c :: ·)
    else if c = '[' then (readAll fuel (']' :: opened) rest).map (opening c :: ·)
    else if c = '\x7b' then (readAll fuel ('\x7d' :: opened) rest).map (opening c :: ·)
    else if c = ')' || c = ']' || c = '\x7d' then
      match opened with
      | last :: opened =>
        if last = c then (readAll fuel opened rest).map (closing c :: ·) else none
      | [] => none
    else
      match readOne (c :: rest) with
      | some (token, rest) => (readAll fuel opened rest).map (token :: ·)
      | none => none

end Token

/-- The tokens of a text. A byte order mark at its start does not count. -/
def tokens? (text : String) : Option (List Token) :=
  let chars := match text.toList with
    | '\ufeff' :: rest => rest
    | chars => chars
  Token.readAll (chars.length + 1) [] chars

example : tokens? "a/* x */::B<'c, 1>" = some [.word "a", .sign ':' true, .sign ':' false,
    .word "B", .sign '<' true, .lifetime "c", .sign ',' false, .literal "1", .sign '>' false] := by
  decide +kernel

end Laminate.Companion
