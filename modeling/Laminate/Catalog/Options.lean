import Laminate.Catalog.Types
import Laminate.Descriptor.Content
import Laminate.Descriptor.Encoded

/-! Options as the declarations of the request define them. Stored options have to fit these
declarations, and written ones are added to them by name. -/
namespace Laminate.Catalog

open Text Descriptor Wire

variable (catalog : Catalog)

/-! ### Shapes of declared messages -/

/-- The shape of a field or an extension declared in a scope of a file. -/
def shapeOf? (visible : List String) (scope : String) (isProto2 : Bool) (field : FieldDesc) :
    Option FieldShape :=
  let isRepeated := field.label == .repeated
  (catalog.typeOf? visible (qualify scope field.name) field).map fun (type, target) => {
    name := field.name
    number := field.number.toNat
    type := type
    target := (target.map (·.name)).getD ""
    isRepeated := isRepeated
    isPacked := isRepeated && type.isPackable && field.isPacked.getD !isProto2
    isMap := isRepeated && (target.bind (·.declared.messageDesc?)).any (·.isMapEntry)
    hasPresence := field.proto3Optional || field.oneofIndex.isSome ||
      (!isRepeated && (type.holdsMessage || isProto2))
    absent := absentOf field target type
    oneof := field.oneofIndex }

/-- The shape that a message declares, without its extensions. -/
def declaredShape? (name : String) : Option (List FieldShape) :=
  match catalog.symbols.find? fun s => s.name == name && s.declared.isMessage with
  | some ⟨_, file, isProto2, .message desc⟩ =>
    let visible := ((catalog.file? file).map catalog.visibleFrom).getD []
    some (desc.fields.filterMap (catalog.shapeOf? visible name isProto2))
  | _ => none

/-- The fields of a message; the messages that describe schema files are known in any case. -/
def fieldsOf (name : String) : Option (List FieldShape) :=
  (catalog.declaredShape? name).orElse fun _ => Meta.shapes name

/-- An extension with the message that it extends and its full name. -/
structure Extension where
  extendee : String
  name : String
  shape : FieldShape
  deriving Repr, Inhabited

/-- Every extension that is declared, in order. An extension is no alternative of a choice, and a
single value of it is always told apart from none. -/
def extensions : List Extension :=
  catalog.symbols.filterMap fun s =>
    match s.declared with
    | .extension desc scope =>
      let visible := ((catalog.file? s.file).map catalog.visibleFrom).getD []
      match (desc.extendee.bind fun name =>
            catalog.resolve? visible Declared.isMessage (qualify scope desc.name) name),
        catalog.shapeOf? visible scope s.isProto2 desc with
      | some extendee, some shape =>
        some ⟨extendee.name, s.name,
          { shape with hasPresence := !shape.isRepeated, oneof := none }⟩
      | _, _ => none
    | _ => none

/-- The shapes of messages with their extensions. -/
def shapes (extensions : List Extension) : Shapes := fun name =>
  (catalog.fieldsOf name).map fun fields =>
    fields ++ (extensions.filter (·.extendee == name)).map (·.shape)

/-! ### Written options -/

/-- The number of an enum value by name. -/
def choice? (enum value : String) : Option Int :=
  match (catalog.symbols.find? fun s => s.name == enum && s.declared.isEnum).bind
      (·.declared.enumDesc?) with
  | some desc => (desc.values.find? (·.name == value)).map (·.number)
  | none =>
    (dropHead? Meta.metaPackage enum).bind fun name =>
      (Meta.choices.lookup name).bind fun values => values.lookup value

def integerOf? (option : WrittenOption) : Option Int :=
  match option.positive with
  | some n => some n
  | none => option.negative

/-- The bits of a floating-point option. -/
def floatBits? (option : WrittenOption) : Option UInt64 :=
  match option.double with
  | some bits => some bits
  | none => (integerOf? option).map fun n => (Float.ofInt n).toBits

/-- What a written option gives to a field. A message is given as an aggregate, whose entries are
not looked at. -/
def contentOf? (shape : FieldShape) (option : WrittenOption) : Option Content :=
  let item (value : Wire.Value) : Content :=
    if shape.isRepeated then .scalar value true else shape.single value
  match shape.type with
  | .message | .group => option.aggregate.map fun _ => .part (shape.type == .group) []
  | .string => option.text.bind fun o => (decode? o).map fun _ => item (.octets o)
  | .bytes => option.text.map fun o => item (.octets o)
  | .bool =>
    match option.identifier with
    | some "true" => some (item (.varint 1))
    | some "false" => some (item (.varint 0))
    | _ => none
  | .enum =>
    option.identifier.bind fun name =>
      (catalog.choice? shape.target name).map fun n => item (integerValue .enum n)
  | .double | .float => (floatBits? option).map fun bits => item (floatValue shape.type bits)
  | type => (integerOf? option).bind fun n => (integerValue? type n).map item

/-- The field of a message that a step of an option's name stands for. -/
def stepShape? (extensions : List Extension) (visible : List String) (scope message : String)
    (part : NamePart) : Option FieldShape :=
  if part.isExtension then
    (catalog.resolve? visible Declared.isExtension scope part.text).bind fun symbol =>
      (extensions.find? fun e => e.name == symbol.name && e.extendee == message).map (·.shape)
  else ((catalog.fieldsOf message).getD []).find? (·.name == part.text)

/-- A written option added to what a message holds, at the end of a path of names. A singular field
that is set cannot be set again; an option without a name sets nothing. -/
def setOption (extensions : List Extension) (visible : List String) (scope : String)
    (option : WrittenOption) : List NamePart → String → Contents → Option Contents
  | [], _, held => some held
  | part :: rest, message, held =>
    match catalog.stepShape? extensions visible scope message part with
    | none => none
    | some shape =>
      let before := held.lookup shape.number
      let others := held.withoutRivals ((catalog.shapes extensions message).getD []) shape
      if rest.isEmpty then
        match catalog.contentOf? shape option with
        | none => none
        | some content =>
          if shape.isRepeated then
            let items := match before with
              | some (.list _ items) => items
              | _ => []
            some (others.put shape.number (.list shape.isPacked (shape.push content items)))
          else if before.any (·.isSet) then none
          else some (others.put shape.number content)
      else if shape.isRepeated || !shape.type.holdsMessage then none
      else
        (setOption extensions visible scope option rest shape.target
            (held.partAt shape.number)).map fun inner =>
          others.put shape.number (.part (shape.type == .group) inner)

/-! ### All options -/

/-- Options of one descriptor. -/
structure Holder where
  /-- Where names are looked for. -/
  scope : String
  /-- The message that defines the options, by its name in the descriptor package. -/
  kind : String
  written : List WrittenOption
  stored : List UInt8
  deriving Repr, Inhabited

/-- What the options of a descriptor hold, with the written ones among them. -/
def optionsOf? (extensions : List Extension) (visible : List String) (holder : Holder) :
    Option Contents :=
  let message := Meta.metaPackage ++ holder.kind
  match readFields holder.stored with
  | none => none
  | some stored =>
    match takeFields (catalog.shapes extensions) maxLevels message [] stored with
    | none => none
    | some held =>
      (holder.written.foldlM
        (fun held option =>
          catalog.setOption extensions visible holder.scope option option.name message held)
        held).map fun held => held.filter (·.1 != Meta.writtenNumber)

def fieldHolder (scope : String) (f : FieldDesc) : Holder :=
  ⟨qualify scope f.name, "FieldOptions", f.options, f.optionData⟩

def messageHolder (name : String) (desc : MessageDesc) : Holder :=
  ⟨name, "MessageOptions", desc.options, desc.optionData⟩

def methodHolder (scope : String) (m : MethodDesc) : Holder :=
  ⟨qualify scope m.name, "MethodOptions", m.options, m.optionData⟩

/-- The options of what a symbol stands for and of its members. -/
def symbolHolders (symbol : Symbol) : List Holder :=
  let name := symbol.name
  match symbol.declared with
  | .message desc =>
    messageHolder name desc :: desc.fields.map (fieldHolder name) ++
      (desc.extensionRanges.map fun r =>
        ⟨name, "ExtensionRangeOptions", r.options, r.optionData⟩) ++
      desc.oneofs.map fun o => ⟨qualify name o.name, "OneofOptions", o.options, o.optionData⟩
  | .enum desc =>
    ⟨name, "EnumOptions", desc.options, desc.optionData⟩ ::
      desc.values.map fun v => ⟨name, "EnumValueOptions", v.options, v.optionData⟩
  | .service desc =>
    ⟨name, "ServiceOptions", desc.options, desc.optionData⟩ ::
      desc.methods.map (methodHolder name)
  | .extension desc scope => [fieldHolder scope desc]
  | .package | .member => []

def fileHolders (file : FileDesc) : List Holder :=
  ⟨file.package, "FileOptions", file.options, file.optionData⟩ ::
    (fileSymbols file).flatMap symbolHolders

/-- Whether all options fit their declarations. -/
def hasSoundOptions : Bool :=
  let extensions := catalog.extensions
  catalog.files.all fun file =>
    (fileHolders file).all fun holder =>
      (catalog.optionsOf? extensions (catalog.visibleFrom file) holder).isSome

end Laminate.Catalog
