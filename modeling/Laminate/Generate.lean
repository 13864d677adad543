import Laminate.Settings.Parameter
import Laminate.Template.Render

/-! One run of the generator: from the files of a request to the files to write. -/
namespace Laminate

open Descriptor Annotation Form

/-- What the compiler hands over. -/
structure Request where
  /-- Every file, those to generate and those they import. -/
  files : List FileDesc
  parameter : Option String := none
  /-- Names of the files to generate. -/
  generate : List String
  deriving Repr, Inhabited

/-- The answer of a successful run. -/
structure Response where
  files : List OutputFile
  deriving Repr, DecidableEq, Inhabited

/-- Optional fields of the newer schema syntax are understood. -/
def supportedFeatures : Nat := 1

namespace Request

/-- The first file of a name. -/
def file? (request : Request) (name : String) : Option FileDesc :=
  request.files.find? (·.name == name)

/-- The plan of a file of the request. -/
def plan (request : Request) (settings : Settings) (index : Index) (file : FileDesc) :
    Except GenError Plan :=
  match FileSchema.load settings index request.files file with
  | .error e => .error e
  | .ok schema => Plan.of settings schema

/-- The files written for the file of a name. -/
def outputs (request : Request) (settings : Settings) (index : Index) (name : String) :
    Except GenError (List OutputFile) :=
  match request.file? name with
  | none => .error (.schema name .missingFile)
  | some file =>
    match request.plan settings index file with
    | .error e => .error e
    | .ok plan => plan.files

/-- Generate every file asked for, in order, with annotations from an index first. -/
def run (request : Request) (index : Index) : Except GenError Response :=
  match Settings.ofParameter request.parameter with
  | .error e => .error e
  | .ok settings =>
    if request.generate.isEmpty then .error (.code .nothingToGenerate)
    else (request.generate.mapM (request.outputs settings index)).map fun files => ⟨files.flatten⟩

end Request

end Laminate
