import Laminate.Catalog.Index
import Laminate.Catalog.Rules
import Laminate.Generate

/-! The exchange with the schema compiler: a binary request in, a binary response out. -/
namespace Laminate

open Wire Descriptor Annotation

namespace Request

/-- The octets of every value of a field; none where one is of another wire type. -/
def octetsOf? (number : Nat) (fields : List Wire.Field) : Option (List (List UInt8)) :=
  (valuesOf number fields).mapM fun
    | .octets o => some o
    | _ => none

def textsOf? (number : Nat) (fields : List Wire.Field) : Option (List String) :=
  (octetsOf? number fields).bind fun values => values.mapM Text.decode?

/-- The version of the compiler, which is read and not used. -/
def versionShape : List FieldShape :=
  [Meta.integer "major" 1, Meta.integer "minor" 2, Meta.integer "patch" 3, Meta.text "suffix" 4]

/-- Whether the versions in a request are well formed. They stand one level below it. -/
def hasSoundVersion (fields : List Wire.Field) : Bool :=
  (valuesOf 3 fields).all fun value =>
    (contents? .message value).any
      (agrees (fun _ => some versionShape) (fun _ => false) (maxLevels - 1) "")

/-- Whether what a request holds beside its own fields stays within the levels of a message. -/
def hasSoundRest (fields : List Wire.Field) : Bool :=
  fields.all fun (number, value) =>
    [1, 2, 15].contains number || staysWithin true maxLevels value

/-- The files of a request; they have to be sound together. -/
def readFiles (files : List (List UInt8)) : Except GenError Catalog :=
  match files.mapM FileDesc.ofOctets? with
  | none => .error (.decode .descriptors)
  | some files =>
    let catalog := Catalog.ofFiles files
    if catalog.isSound && catalog.hasSoundOptions then .ok catalog
    else .error (.decode .descriptors)

/-- A binary request, with the annotations that are stored in it. -/
def ofOctets (octets : List UInt8) : Except GenError (Request × Index) := do
  let malformed : GenError := .decode .request
  match readFields octets with
  | none => throw malformed
  | some fields =>
    if !hasSoundRest fields then throw malformed
    match textsOf? 1 fields, textsOf? 2 fields, octetsOf? 15 fields with
    | some generate, some parameters, some files =>
      let catalog ← readFiles files
      let index ← catalog.index
      if hasSoundVersion fields then
        return (⟨catalog.files, parameters.getLast?, generate⟩, index)
      else throw malformed
    | _, _, _ => throw malformed

/-- The answer to a binary request. -/
def runOctets (octets : List UInt8) : Except GenError Response := do
  let (request, index) ← ofOctets octets
  request.run index

end Request

def OutputFile.toFields (file : OutputFile) : List Wire.Field :=
  [textField 1 file.name, textField 15 file.content]

namespace Response

/-- The binary form of a response. -/
def toOctets (response : Response) : List UInt8 :=
  writeFields ((2, .varint supportedFeatures) ::
    response.files.map fun file => (15, .octets (writeFields file.toFields)))

/-- The binary form of a failure. -/
def failure (e : GenError) : List UInt8 := writeFields [textField 1 e.message]

end Response

/-- What is written for a binary request. There is nothing to write when a name or a type cannot be
spoken in the companion language. -/
def reply? (octets : List UInt8) : Option (List UInt8) :=
  match Request.runOctets octets with
  | .ok response => some response.toOctets
  | .error .unspeakable => none
  | .error e => some (Response.failure e)

end Laminate
