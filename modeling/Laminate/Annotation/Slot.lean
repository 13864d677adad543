import Laminate.Annotation.Basic
import Laminate.Error
import Laminate.Text.Number
import Laminate.Wire.Field

/-! The settable parts of an annotation.
One slot serves both sources: its key reads a written value, its number merges a binary one. -/
namespace Laminate.Annotation

namespace Value

def asText : Value → Except OptionFault String
  | token text => .ok text
  | quoted text => .ok text
  | other => .error (.wantedText other)

def asFlag : Value → Except OptionFault Bool
  | token text =>
    if text ∈ ["true", "True", "t", "1"] then .ok true
    else if text ∈ ["false", "False", "f", "0"] then .ok false
    else .error (.wantedFlagToken text)
  | other => .error (.wantedFlag other)

def asInteger : Value → Except OptionFault Int
  | token text =>
    match Text.readInt64? text with
    | some n => .ok n
    | none => .error (.wantedIntegerToken text)
  | other => .error (.wantedInteger other)

def asEntries : Value → Except OptionFault (List Entry)
  | message entries => .ok entries
  | other => .error (.wantedMessage other)

@[simp] theorem asText_token (s : String) : (token s).asText = .ok s := rfl
@[simp] theorem asText_quoted (s : String) : (quoted s).asText = .ok s := rfl
@[simp] theorem asEntries_message (es : List Entry) : (message es).asEntries = .ok es := rfl

end Value

/-- One settable part of an `α`. -/
structure Slot (α : Type) where
  key : String
  number : Nat
  /-- Take a written value. -/
  read : Value → α → Except OptionFault α
  /-- Take a binary value, with some levels left below it; none where its octets do not decode. -/
  merge : Nat → Wire.Value → α → Option α

/-- The slots of an annotation, and what messages call it. -/
structure Table (α : Type) where
  owner : String
  slots : List (Slot α)

namespace Table

variable {α : Type}

def read (table : Table α) (entry : Entry) (a : α) : Except OptionFault α :=
  match table.slots.find? (·.key == entry.1) with
  | some slot => slot.read entry.2 a
  | none => .error (.unknownKey table.owner entry.1)

/-- Later entries act on the result of earlier ones. -/
def readAll (table : Table α) : List Entry → α → Except OptionFault α
  | [], a => .ok a
  | entry :: rest, a =>
    match table.read entry a with
    | .error fault => .error fault
    | .ok a => readAll table rest a

@[simp] theorem readAll_nil (table : Table α) (a : α) : table.readAll [] a = .ok a := rfl

theorem readAll_append (table : Table α) (es fs : List Entry) (a : α) :
    table.readAll (es ++ fs) a = table.readAll es a >>= table.readAll fs := by
  induction es generalizing a with
  | nil => rfl
  | cons e es ih =>
    simp only [List.cons_append, readAll]
    split
    · rfl
    · exact ih _

/-- Fields without a slot are passed over. -/
def mergeAll (table : Table α) (levels : Nat) : List Wire.Field → α → Option α
  | [], a => some a
  | (number, value) :: rest, a =>
    match table.slots.find? (·.number == number) with
    | none => if Wire.staysWithin true levels value then mergeAll table levels rest a else none
    | some slot =>
      match slot.merge levels value a with
      | none => none
      | some a => mergeAll table levels rest a

/-- A binary message taken into what is there already, one level further down. -/
def mergeOctets (table : Table α) (levels : Nat) (octets : List UInt8) (a : α) : Option α :=
  match levels, Wire.readFields octets with
  | levels + 1, some fields => table.mergeAll levels fields a
  | _, _ => none

end Table

namespace Slot

variable {α β : Type}

def text (key : String) (number : Nat) (set : String → α → α) : Slot α where
  key := key
  number := number
  read value a := value.asText.map (set · a)
  merge
    | _, .octets contents, a => (Text.decode? contents).map (set · a)
    | _, _, _ => none

def flag (key : String) (number : Nat) (set : Bool → α → α) : Slot α where
  key := key
  number := number
  read value a := value.asFlag.map (set · a)
  merge
    | _, .varint bits, a => some (set (bits != 0) a)
    | _, _, _ => none

def integer (key : String) (number : Nat) (set : Int → α → α) : Slot α where
  key := key
  number := number
  read value a := value.asInteger.map (set · a)
  merge
    | _, .varint bits, a => some (set (Wire.signed64 bits) a)
    | _, _, _ => none

/-- An enumerated part, written by name and stored by number. -/
def choice (key : String) (number : Nat) (choose : String → Except OptionFault Int)
    (set : Int → α → α) : Slot α where
  key := key
  number := number
  read value a :=
    match value.asText with
    | .error fault => .error fault
    | .ok name => (choose name).map (set · a)
  merge
    | _, .varint bits, a => some (set (Wire.signed32 bits) a)
    | _, _, _ => none

/-- The items of a value pushed one by one. -/
def pushAll (push : Value → α → Except OptionFault α) : List Value → α → Except OptionFault α
  | [], a => .ok a
  | item :: rest, a =>
    match push item a with
    | .error fault => .error fault
    | .ok a => pushAll push rest a

/-- Repeated text, written as a list or one by one. -/
def texts (key : String) (number : Nat) (push : String → α → α) : Slot α where
  key := key
  number := number
  read value a := pushAll (fun item a => item.asText.map (push · a)) value.items a
  merge
    | _, .octets contents, a => (Text.decode? contents).map (push · a)
    | _, _, _ => none

/-- A part with slots of its own; what was set in it before stays. -/
def part [Inhabited β] (key : String) (number : Nat) (table : Table β) (get : α → Option β)
    (set : β → α → α) : Slot α where
  key := key
  number := number
  read value a :=
    match value.asEntries with
    | .error fault => .error fault
    | .ok entries => (table.readAll entries ((get a).getD default)).map (set · a)
  merge
    | levels, .octets contents, a =>
      (table.mergeOctets levels contents ((get a).getD default)).map (set · a)
    | _, _, _ => none

/-- Repeated parts; each starts afresh. -/
def parts [Inhabited β] (key : String) (number : Nat) (table : Table β) (push : β → α → α) :
    Slot α where
  key := key
  number := number
  read value a :=
    pushAll (fun item a =>
      match item.asEntries with
      | .error fault => .error fault
      | .ok entries => (table.readAll entries default).map (push · a)) value.items a
  merge
    | levels, .octets contents, a => (table.mergeOctets levels contents default).map (push · a)
    | _, _, _ => none

end Slot

end Laminate.Annotation
