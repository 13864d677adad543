import Laminate.Annotation.TextForm
import Laminate.Annotation.Tables
import Laminate.Descriptor.Basic
import Laminate.Text.Decimal

/-! Where annotations come from: an index of decoded ones first, then the options as written. -/
namespace Laminate.Annotation

open Descriptor

/-- The value of a written option; an aggregate wins over text, text over an identifier, and
numbers come last. -/
def optionValue (option : WrittenOption) : Except OptionFault Value :=
  match option.aggregate, option.text, option.identifier, option.positive, option.negative,
    option.double with
  | some text, _, _, _, _, _ => (readText text).map .message
  | none, some octets, _, _, _, _ => .ok (.quoted (Text.decodeLossy octets))
  | none, none, some name, _, _, _ => .ok (.token name)
  | none, none, none, some n, _, _ => .ok (.token (toString n))
  | none, none, none, none, some n, _ => .ok (.token (toString n))
  | none, none, none, none, none, some bits => .ok (.token (Text.binary64Text bits))
  | none, none, none, none, none, none => .error .noValue

/-- A value under a path of keys. -/
def underPath (value : Value) : List String → Value
  | [] => value
  | key :: rest => .message [(key, underPath value rest)]

/-- The top-level entries of a written option; the steps after the extension are a path. -/
def optionEntries (option : WrittenOption) : Except OptionFault (List Entry) :=
  match optionValue option with
  | .error fault => .error fault
  | .ok value =>
    match underPath value (option.name.tail.map (·.text)) with
    | .message entries => .ok entries
    | _ => .error .notAggregate

/-- Whether an option belongs to an extension. -/
def isFor (extension : String) (option : WrittenOption) : Bool :=
  match option.name.head? with
  | some part => part.isExtension && part.text == extension
  | none => false

variable {α : Type}

/-- Every entry of some options, one option after the other. -/
def readOptions (table : Table α) : List WrittenOption → α → Except OptionFault α
  | [], a => .ok a
  | option :: rest, a =>
    match optionEntries option with
    | .error fault => .error fault
    | .ok entries =>
      match table.readAll entries a with
      | .error fault => .error fault
      | .ok a => readOptions table rest a

/-- The annotation that the written options of an extension make up together. -/
def readWritten [Inhabited α] (table : Table α) (extension : String)
    (written : List WrittenOption) : Except OptionFault (Option α) :=
  match written.filter (isFor extension) with
  | [] => .ok none
  | mine => (readOptions table mine default).map some

def fieldExtension : String := "strata.field"
def messageExtension : String := "strata.message"
def methodExtension : String := "strata.method"

/-- Decoded annotations: of messages and methods by full name, of fields by the full name of
their message and their number. -/
structure Index where
  messages : List (String × MessageOptions) := []
  fields : List ((String × Int) × FieldOptions) := []
  methods : List (String × MethodOptions) := []
  deriving Repr, Inhabited

namespace Index

/-- A key's value replaced or added. -/
def put {κ β : Type} [BEq κ] (key : κ) (value : β) (entries : List (κ × β)) : List (κ × β) :=
  (key, value) :: entries.filter fun entry => !(entry.1 == key)

def putMessage (index : Index) (name : String) (options : MessageOptions) : Index :=
  { index with messages := put name options index.messages }

def putField (index : Index) (message : String) (number : Int) (options : FieldOptions) : Index :=
  { index with fields := put (message, number) options index.fields }

def putMethod (index : Index) (name : String) (options : MethodOptions) : Index :=
  { index with methods := put name options index.methods }

/-- How many descriptors have an entry. -/
def size (index : Index) : Nat :=
  index.messages.length + index.fields.length + index.methods.length

def isEmpty (index : Index) : Bool := index.size == 0

/-- Annotations of the message `name`. -/
def ofMessage (index : Index) (name : String) (written : List WrittenOption) :
    Except GenError (Option MessageOptions) :=
  match index.messages.lookup name with
  | some options => .ok (some options)
  | none =>
    (readWritten messageTable messageExtension written).mapError (.options (.ofMessage name))

/-- Annotations of a field of the message `message`. -/
def ofField (index : Index) (message : String) (field : FieldDesc) :
    Except GenError (Option FieldOptions) :=
  match index.fields.lookup (message, field.number) with
  | some options => .ok (some options)
  | none =>
    (readWritten fieldTable fieldExtension field.options).mapError
      (.options (.ofField message field.name))

/-- Annotations of the method `name`. -/
def ofMethod (index : Index) (name : String) (written : List WrittenOption) :
    Except GenError (Option MethodOptions) :=
  match index.methods.lookup name with
  | some options => .ok (some options)
  | none =>
    (readWritten methodTable methodExtension written).mapError (.options (.ofMethod name))

end Index

end Laminate.Annotation
