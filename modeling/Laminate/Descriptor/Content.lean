import Laminate.Descriptor.Shape

/-! What a binary message holds, read by its declaration. Later values of a singular field replace
earlier ones, parts are merged, and a choice keeps its latest alternative. Written again, fields
stand in the order of their numbers, and values that say no more than none are left out. -/
namespace Laminate.Descriptor

open Laminate.Wire

inductive Content where
  /-- A single value, and whether it says more than none would. -/
  | scalar (value : Wire.Value) (counts : Bool)
  /-- A message, as a group or with its length in front. -/
  | part (isGroup : Bool) (fields : List (Nat × Content))
  | list (isPacked : Bool) (items : List Content)
  /-- Values of a number that is not declared. -/
  | unknown (values : List Wire.Value)
  deriving Repr, Inhabited

/-- What a message holds, by number; no number stands twice. -/
abbrev Contents := List (Nat × Content)

namespace Contents

/-- What is held at a number replaced. -/
def put (number : Nat) (content : Content) (held : Contents) : Contents :=
  match held with
  | [] => [(number, content)]
  | first :: rest =>
    if first.1 = number then (number, content) :: rest
    else first :: put number content rest

theorem lookup_put (number : Nat) (content : Content) (held : Contents) :
    (put number content held).lookup number = some content := by
  induction held with
  | nil => simp [put]
  | cons first rest ih =>
    simp only [put]
    split
    · simp
    · next h =>
      have hne : (number == first.1) = false := by simpa using fun e => h e.symm
      cases first
      rw [List.lookup_cons, hne]
      exact ih

/-- The message held at a number. -/
def partAt (number : Nat) (held : Contents) : Contents :=
  match held.lookup number with
  | some (.part _ fields) => fields
  | _ => []

/-- What is left when another alternative of a choice is taken. -/
def withoutRivals (declared : List FieldShape) (shape : FieldShape) (held : Contents) : Contents :=
  if shape.oneof.isNone then held
  else
    held.filter fun (number, _) =>
      number == shape.number ||
        !declared.any fun other => other.number == number && other.oneof == shape.oneof

end Contents

/-- Whether something is held. -/
def Content.isSet : Content → Bool
  | .scalar _ counts => counts
  | .part _ _ => true
  | .list _ items => !items.isEmpty
  | .unknown _ => false

/-! ### Reading -/

namespace FieldShape

variable (shape : FieldShape)

/-- A single value of the field, in canonical form. -/
def single (value : Wire.Value) : Content :=
  .scalar value (shape.hasPresence || !shape.type.isSame value shape.absent)

/-- An entry of a map: its key and its value, which are there in any case. -/
def entry (declared : List FieldShape) (held : Contents) : Contents :=
  [1, 2].filterMap fun number =>
    (declared.find? (·.number == number)).map fun field =>
      (number, (held.lookup number).getD
        (if field.type.holdsMessage then .part (field.type == .group) []
          else field.single field.absent))

/-- Whether two entries of a map have one key. -/
def haveSameKey (a b : Content) : Bool :=
  match a, b with
  | .part _ a, .part _ b =>
    match a.lookup 1, b.lookup 1 with
    | some (.scalar v _), some (.scalar w _) => bareOctets v == bareOctets w
    | _, _ => false
  | _, _ => false

/-- An item put into a list; an entry of a map replaces the one of its key. -/
def push (item : Content) (items : List Content) : List Content :=
  if shape.isMap then items.filter (fun other => !haveSameKey item other) ++ [item]
  else items ++ [item]

/-- What the field holds once a value has come, over what it held before. The reader of messages
inside it is given. -/
def take (shapes : Shapes) (inner : String → Contents → List Wire.Field → Option Contents)
    (before : Option Content) (value : Wire.Value) : Option Content :=
  if shape.isRepeated then
    let items := match before with
      | some (.list _ items) => items
      | _ => []
    let more : Option (List Content) :=
      if shape.type.holdsMessage then
        match (contents? shape.type value).bind (inner shape.target []) with
        | none => none
        | some held =>
          let held := if shape.isMap then entry ((shapes shape.target).getD []) held else held
          some [.part (shape.type == .group) held]
      else
        (shape.type.expand value).bind fun values =>
          (values.mapM shape.type.canonical).map fun values => values.map (Content.scalar · true)
    more.map fun more =>
      .list shape.isPacked (more.foldl (fun items item => shape.push item items) items)
  else if shape.type.holdsMessage then
    let held := match before with
      | some (.part _ fields) => fields
      | _ => []
    ((contents? shape.type value).bind (inner shape.target held)).map (.part (shape.type == .group))
  else (shape.type.canonical value).map shape.single

end FieldShape

/-- A value of an undeclared field kept. -/
def keepUnknown (number : Nat) (value : Wire.Value) (held : Contents) : Contents :=
  match held.lookup number with
  | some (.unknown values) => held.put number (.unknown (values ++ [value]))
  | _ => held.put number (.unknown [value])

/-- The fields of a message taken into what it holds, with some levels left below it. -/
def takeFields (shapes : Shapes) : Nat → String → Contents → List Wire.Field → Option Contents
  | levels, name, held, fields =>
    match shapes name with
    | none => none
    | some declared =>
      let inner := match levels with
        | 0 => fun _ _ _ => none
        | levels + 1 => takeFields shapes levels
      fields.foldlM (fun held (number, value) =>
        match declared.find? (·.number == number) with
        | none =>
          if staysWithin false levels value then some (keepUnknown number value held) else none
        | some shape =>
          let held := held.withoutRivals declared shape
          (shape.take shapes inner (held.lookup number) value).map (held.put number ·)) held

/-! ### Writing -/

/-- Fields as a value that holds a message. -/
def wrapped (isGroup : Bool) (fields : List Wire.Field) : Wire.Value :=
  if isGroup then .group fields else .octets (writeFields fields)

def inOrder (fields : List Wire.Field) : List Wire.Field :=
  fields.mergeSort fun a b => a.1 ≤ b.1

mutual

/-- The values that stand for what is held. -/
def Content.values : Content → List Wire.Value
  | .scalar value counts => if counts then [value] else []
  | .part isGroup fields => [wrapped isGroup (inOrder (allFields fields))]
  | .list isPacked items =>
    let values := allValues items
    if isPacked && !values.isEmpty then [.octets (values.flatMap bareOctets)] else values
  | .unknown values => values

def allValues : List Content → List Wire.Value
  | [] => []
  | content :: rest => content.values ++ allValues rest

def allFields : List (Nat × Content) → List Wire.Field
  | [] => []
  | (number, content) :: rest => content.values.map (number, ·) ++ allFields rest

end

/-- The fields of a message, in the order of their numbers. -/
def Contents.toFields (held : Contents) : List Wire.Field := inOrder (allFields held)

end Laminate.Descriptor
