import Laminate.Companion.Token

/-! Readers of phrases of the companion language: a phrase is taken off the front of some tokens. -/
namespace Laminate.Companion.Grammar

open Laminate.Companion

abbrev Reader (α : Type) := List Token → Option (α × List Token)

def opensWith (c : Char) : List Token → Bool
  | .sign d _ :: _ => c == d
  | _ => false

def dropSign (c : Char) : List Token → Option (List Token)
  | .sign d _ :: rest => if c = d then some rest else none
  | _ => none

/-- Two signs without anything between them. -/
def opensWithBoth (c d : Char) : List Token → Bool
  | .sign x true :: .sign y _ :: _ => c == x && d == y
  | _ => false

def opensColons : List Token → Bool := opensWithBoth ':' ':'

def opensGroup : List Token → Bool
  | .opening '(' :: _ => true
  | _ => false

def opensBrackets : List Token → Bool
  | .opening '[' :: _ => true
  | _ => false

def closesGroup : List Token → Bool
  | .closing ')' :: _ => true
  | _ => false

def opensLifetime : List Token → Bool
  | .lifetime _ :: _ => true
  | _ => false

def opensWord : List Token → Bool
  | .word _ :: _ => true
  | _ => false

/-- Phrases separated by commas, up to where `isEnd` holds; a comma may follow the last one. -/
def commaList {α : Type} (phrase : Reader α) (isEnd : List Token → Bool) :
    Nat → Reader (List α)
  | 0, _ => none
  | fuel + 1, tokens =>
    if isEnd tokens then some ([], tokens)
    else
      match phrase tokens with
      | none => none
      | some (first, rest) =>
        if isEnd rest then some ([first], rest)
        else
          match dropSign ',' rest with
          | none => none
          | some rest =>
            (commaList phrase isEnd fuel rest).map fun (others, rest) => (first :: others, rest)

/-- What stands between parentheses, separated by commas. -/
def parenthesized {α : Type} (phrase : Reader α) : Reader (List α)
  | .opening '(' :: rest =>
    match commaList phrase closesGroup (rest.length + 1) rest with
    | some (items, .closing ')' :: rest) => some (items, rest)
    | _ => none
  | _ => none

/-- What stands between angle brackets, separated by commas. -/
def angled {α : Type} (phrase : Reader α) (tokens : List Token) :
    Option (List α × List Token) :=
  match dropSign '<' tokens with
  | none => none
  | some rest =>
    match commaList phrase (opensWith '>') (rest.length + 1) rest with
    | none => none
    | some (items, rest) => (dropSign '>' rest).map (items, ·)

end Laminate.Companion.Grammar
