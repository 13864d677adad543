import Laminate.Annotation.Source
import Laminate.Schema.Kind

/-! What is known of every message in a request, by full name. -/
namespace Laminate.Schema

open Laminate.Descriptor Laminate.Annotation

structure Symbol where
  desc : MessageDesc
  kind : MessageKind
  outboundHidden : Bool
  deriving Repr, Inhabited

/-- Symbols under full names with their leading dot; the first entry of a name counts. -/
abbrev SymbolTable := List (String × Symbol)

/-- Whether annotations hide a message from the outbound layer. -/
def hidesOutbound (options : MessageOptions) : Bool := options.outbound.any (·.hide)

mutual

/-- A message and the messages in it added to a table, on top of what is there. -/
def addSymbols (suffixes : Suffixes) (index : Index) (scope : String) :
    MessageTree → SymbolTable → Except GenError SymbolTable
  | .node desc nested, table =>
    let fullName := qualify scope desc.name
    match index.ofMessage fullName desc.options with
    | .error e => .error e
    | .ok options =>
      match addAllSymbols suffixes index fullName nested table with
      | .error e => .error e
      | .ok table =>
        .ok (("." ++ fullName,
          ⟨desc, MessageKind.ofName suffixes desc.name, options.any hidesOutbound⟩) :: table)

def addAllSymbols (suffixes : Suffixes) (index : Index) (scope : String) :
    List MessageTree → SymbolTable → Except GenError SymbolTable
  | [], table => .ok table
  | tree :: rest, table =>
    match addSymbols suffixes index scope tree table with
    | .error e => .error e
    | .ok table => addAllSymbols suffixes index scope rest table

end

/-- The symbols of files, a later one in front of an earlier one of its name. -/
def symbolsOf (suffixes : Suffixes) (index : Index) :
    List FileDesc → SymbolTable → Except GenError SymbolTable
  | [], table => .ok table
  | file :: rest, table =>
    match addAllSymbols suffixes index file.package file.messages table with
    | .error e => .error e
    | .ok table => symbolsOf suffixes index rest table

end Laminate.Schema
