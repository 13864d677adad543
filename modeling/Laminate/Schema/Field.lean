import Laminate.Annotation.Source
import Laminate.Schema.Kind

/-! Fields of a message with what their annotations say about them. -/
namespace Laminate.Schema

open Laminate.Text Laminate.Code Laminate.Descriptor Laminate.Annotation

structure Field where
  /-- Name in the schema. -/
  name : String
  number : Int
  /-- Identifier in the wire struct. -/
  goName : String
  kind : FieldKind
  cardinality : Cardinality
  /-- Wire name of the message it belongs to. -/
  message : String
  /-- Schema package of the message it belongs to. -/
  module : String
  options : FieldOptions
  deriving Repr, DecidableEq, Inhabited

namespace Field

variable (field : Field)

/-- How messages name the field. -/
def path : String := field.message ++ "." ++ field.name

def isRepeated : Bool := field.cardinality == .repeated

def isMap : Bool :=
  match field.cardinality with
  | .map _ => true
  | _ => false

def isOptional : Bool := field.cardinality == .optional

def isEnum : Bool :=
  match field.kind with
  | .enum .. => true
  | _ => false

/-- Holds messages of the user's own. -/
def isMessage : Bool :=
  match field.kind with
  | .message _ => true
  | _ => false

def isWrapper : Bool :=
  match field.kind with
  | .wellKnown (.wrapper _) => true
  | _ => false

def isTimestamp : Bool := field.kind == .wellKnown .timestamp
def isStruct : Bool := field.kind == .wellKnown .struct
def isValue : Bool := field.kind == .wellKnown .value

/-- Where the element's type lies, for messages and enums. -/
def placement? : Option Placement :=
  match field.kind with
  | .message target => some target.placement
  | .enum _ placement => some placement
  | _ => none

/-- Holds messages or enums of another module. -/
def isForeign : Bool := field.placement?.any (!·.isLocal)

def bitflag? : Option Bitflag := field.options.outbound.bind (·.bitflag)

/-- Left out of the outbound form. -/
def isOutboundHidden : Bool := field.options.outbound.any (·.hide)

end Field

/-- The first thing wrong with a bitflag on a field of this kind and cardinality. -/
def bitflagFault? (kind : FieldKind) (cardinality : Cardinality) (bitflag : Bitflag) :
    Option AnnotationFault :=
  if kind ≠ .scalar .uint64 then some .bitflagKind
  else if cardinality ≠ .singular then some .bitflagCardinality
  else if bitflag.enum.isEmpty then some .bitflagWithoutEnum
  else none

/-- Whether a character may not stand in the name of a struct tag. -/
def breaksTagName (c : Char) : Bool :=
  c == ':' || c == '"' || c == Char.ofNat 96 || isBlank c || isControl c

/-- The first thing wrong with a custom tag. -/
def tagFault? (tag : Tag) : Option AnnotationFault :=
  if tag.name = "json" then some .jsonTag
  else if tag.name.isEmpty then some .namelessTag
  else if tag.name.toList.any breaksTagName then some (.tagName tag.name)
  else if tag.value.toList.any fun c => c == '"' || c == Char.ofNat 96 then
    some (.tagValue tag.name)
  else none

/-- The first thing wrong with the annotations of a field. -/
def Field.fault? (field : Field) : Option AnnotationFault :=
  match field.bitflag?.bind (bitflagFault? field.kind field.cardinality) with
  | some fault => some fault
  | none => field.options.tags.findSome? tagFault?

end Laminate.Schema
