import Laminate.Catalog.Types

/-! What the files of a request must satisfy to be understood together. -/
namespace Laminate.Catalog

open Text Descriptor

variable (catalog : Catalog)

/-! ### Names -/

/-- Whether no name is declared twice; only packages may be. -/
def hasDistinctNames : Bool :=
  let sorted := catalog.symbols.mergeSort fun a b => a.name ≤ b.name
  (sorted.zip sorted.tail).all fun (a, b) =>
    a.name != b.name || (a.declared.isPackage && b.declared.isPackage)

def areDistinct {α : Type} [BEq α] : List α → Bool
  | [] => true
  | a :: rest => !rest.contains a && areDistinct rest

def hasDistinctFiles : Bool := areDistinct (catalog.files.map (·.name))

/-! ### Files -/

/-- Whether a position lies within a list. -/
def isPosition (length : Nat) (i : Int) : Bool := 0 ≤ i && i < length

def importsExist (file : FileDesc) : Bool :=
  file.dependencies.all (fun name => (catalog.file? name).isSome) &&
    (file.publicDependencies ++ file.weakDependencies).all (isPosition file.dependencies.length)

def hasKnownVersion (file : FileDesc) : Bool :=
  file.version.all fun v => v == "proto2" || v == "proto3"

/-- Whether a field or an extension has a type, and a default value of that type. -/
def isTypedField (visible : List String) (scope : String) (field : FieldDesc) : Bool :=
  match catalog.typeOf? visible scope field with
  | none => false
  | some (type, target) =>
    field.defaultValue.all fun text => (defaultOf? text target type).isSome

/-! ### Messages -/

def maxNumber : Int := 536870911

def isFieldNumber (n : Int) : Bool := 1 ≤ n && n ≤ maxNumber && !(19000 ≤ n && n ≤ 19999)

/-- Ranges of field numbers exclude their end. -/
def isWithin (n : Int) (range : Int × Int) : Bool := range.1 ≤ n && n < range.2

/-- The name of a field in the textual encoding, unless one is given. -/
def camelName (capital : Bool) : List Char → List Char
  | [] => []
  | c :: rest =>
    if c = '_' then camelName true rest
    else (if capital then c.toUpper else c) :: camelName false rest

def jsonNameOf (field : FieldDesc) : String :=
  field.jsonName.getD (String.ofList (camelName false field.name.toList))

/-- A name without what tells apart the casings of the same words. -/
def plainName (name : String) : String :=
  String.ofList ((name.toList.filter (· != '_')).map Char.toLower)

/-- Whether the fields of a message can be told apart in every encoding. -/
def hasDistinctFields (isProto2 : Bool) (desc : MessageDesc) : Bool :=
  areDistinct (desc.fields.map (·.number)) && areDistinct (desc.fields.map jsonNameOf) &&
    (isProto2 || areDistinct (desc.fields.map fun f => plainName f.name))

/-- Whether a message has a number for a field. Fields that extend a message have numbers in the
ranges that it leaves to extensions, and other fields have none of these. -/
def isFreeNumber (desc : MessageDesc) (field : FieldDesc) : Bool :=
  let n := field.number
  isFieldNumber n && !desc.reserved.any (isWithin n) &&
    desc.extensionRanges.any (fun r => isWithin n (r.first, r.stop)) == field.extendee.isSome

def isSoundField (visible : List String) (scope : String) (desc : MessageDesc)
    (field : FieldDesc) : Bool :=
  isFreeNumber desc field && field.oneofIndex.all (isPosition desc.oneofs.length) &&
    catalog.isTypedField visible (qualify scope field.name) field

/-- Whether an extension extends a message at a number that the message leaves open. -/
def isSoundExtension (visible : List String) (scope : String) (field : FieldDesc) : Bool :=
  let inner := qualify scope field.name
  let extendee := (field.extendee.bind (catalog.resolve? visible Declared.isMessage inner)).bind
    (·.declared.messageDesc?)
  extendee.any (isFreeNumber · field) && catalog.isTypedField visible inner field

/-! ### Enums and services -/

/-- Whether the values of an enum may share numbers, as its options say, stored or written. -/
def allowsAlias (desc : EnumDesc) : Bool :=
  desc.allowsAlias || desc.options.any fun option =>
    option.name == [⟨"allow_alias", false⟩] && option.identifier == some "true"

/-- An enum has values, told apart by number unless it allows aliases; outside the older language
its first value is zero. -/
def isSoundEnum (isProto2 : Bool) (desc : EnumDesc) : Bool :=
  !desc.values.isEmpty && (isProto2 || (desc.values.head?.map (·.number)) == some 0) &&
    (allowsAlias desc || areDistinct (desc.values.map (·.number))) &&
    desc.values.all fun v => !desc.reserved.any fun (low, high) => low ≤ v.number && v.number ≤ high

def isSoundMethod (visible : List String) (scope : String) (method : MethodDesc) : Bool :=
  [method.input, method.output].all fun name =>
    (catalog.resolve? visible Declared.isMessage (qualify scope method.name) name).isSome

def isSoundSymbol (visible : List String) (symbol : Symbol) : Bool :=
  match symbol.declared with
  | .message desc =>
    hasDistinctFields symbol.isProto2 desc &&
      desc.fields.all (catalog.isSoundField visible symbol.name desc)
  | .enum desc => isSoundEnum symbol.isProto2 desc
  | .service desc => desc.methods.all (catalog.isSoundMethod visible symbol.name)
  | .extension desc scope => catalog.isSoundExtension visible scope desc
  | .package | .member => true

def isSoundFile (file : FileDesc) : Bool :=
  let visible := catalog.visibleFrom file
  hasKnownVersion file && catalog.importsExist file &&
    (fileSymbols file).all (catalog.isSoundSymbol visible)

/-- Whether everything that is named is declared, and nothing is declared twice. -/
def isSound : Bool :=
  catalog.hasDistinctFiles && catalog.hasDistinctNames && catalog.files.all catalog.isSoundFile

end Laminate.Catalog
