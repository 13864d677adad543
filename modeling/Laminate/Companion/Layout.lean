import Laminate.Text.Split

/-! Line breaking of the companion file. A bracketed list stands on one line when it fits there up
to the next place where the line may break; otherwise each item has a line of its own. -/
namespace Laminate.Companion

open Laminate.Text

inductive Doc where
  | text (content : String)
  /-- A phrase known by its tokens alone, which there is no way to lay out. -/
  | verbatim
  /-- One after another, with no place to break between them. -/
  | sequence (parts : List Doc)
  /-- Items between brackets; `lastComma` asks for a comma after the last item where the list is
  broken. -/
  | bracketed (opening : String) (items : List Doc) (closing : String) (lastComma : Bool)
  /-- Lines that follow within it stand one step further in. -/
  | deeper (content : Doc)
  deriving Repr, Inhabited

namespace Doc

mutual

/-- Everything on one line. -/
def flat : Doc → String
  | text content => content
  | verbatim => ""
  | sequence parts => flatParts parts
  | bracketed opening items closing _ => opening ++ flatItems items ++ closing
  | deeper content => flat content

def flatParts : List Doc → String
  | [] => ""
  | part :: rest => flat part ++ flatParts rest

def flatItems : List Doc → String
  | [] => ""
  | [last] => flat last
  | first :: second :: rest => flat first ++ ", " ++ flatItems (second :: rest)

end

mutual

/-- Whether all of it can be laid out. -/
def isPrintable : Doc → Bool
  | text _ => true
  | verbatim => false
  | sequence parts => arePrintable parts
  | bracketed _ items _ _ => arePrintable items
  | deeper content => isPrintable content

def arePrintable : List Doc → Bool
  | [] => true
  | part :: rest => isPrintable part && arePrintable rest

end

/-- Octets on a line, as far as they can be helped. -/
def margin : Nat := 89

/-- Octets left on a new line; deep lines are granted some in any case. -/
def roomAt (indent : Nat) : Int := max (margin - indent : Int) 60

def indentation (indent : Nat) : String := String.ofList (List.replicate indent ' ')

/-- A text with the octets left on its last line. -/
structure Placed where
  text : String
  room : Int
  deriving Repr, Inhabited

mutual

/-- Laid out on a line with `room` left, `after` octets following before the line may break. -/
def place (indent : Nat) (room : Int) (after : Nat) : Doc → Placed
  | text content => ⟨content, room - octets content⟩
  | verbatim => ⟨"", room⟩
  | sequence parts => placeParts indent room after parts
  | bracketed opening items closing lastComma =>
    let line := opening ++ flatItems items ++ closing
    if (octets line + after : Int) ≤ room then ⟨line, room - octets line⟩
    else
      let block := placeItems (indent + 4) lastComma items
      ⟨opening ++ "\n" ++ block ++ indentation indent ++ closing, roomAt indent - octets closing⟩
  | deeper content => place (indent + 4) room after content

def placeParts (indent : Nat) (room : Int) (after : Nat) : List Doc → Placed
  | [] => ⟨"", room⟩
  | part :: rest =>
    let first := place indent room (octets (flatParts rest) + after) part
    let others := placeParts indent first.room after rest
    ⟨first.text ++ others.text, others.room⟩

/-- Items on lines of their own. -/
def placeItems (indent : Nat) (lastComma : Bool) : List Doc → String
  | [] => ""
  | [last] =>
    indentation indent ++ (place indent (roomAt indent) 0 last).text ++
      (if lastComma then ",\n" else "\n")
  | first :: second :: rest =>
    indentation indent ++ (place indent (roomAt indent) 1 first).text ++ ",\n" ++
      placeItems indent lastComma (second :: rest)

end

/-- A document after a piece of text, on a line at a depth. -/
def line (indent : Nat) (before : String) (doc : Doc) (after : String) : String :=
  indentation indent ++ before ++
    (doc.place indent (roomAt indent - octets before) (octets after)).text ++ after ++ "\n"

end Doc

example : (Doc.bracketed "Vec<" [.text "u8"] ">" true).line 4 "pub a: " "," =
    "    pub a: Vec<u8>,\n" := by decide +kernel

end Laminate.Companion
