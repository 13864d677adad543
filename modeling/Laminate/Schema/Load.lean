import Laminate.Schema.Service

/-! The schema of one file, read against all files of the request. -/
namespace Laminate

open Laminate.Schema Laminate.Descriptor Laminate.Annotation

structure FileSchema where
  fileName : String
  module : Module
  registry : Registry
  /-- In order of declaration, a message before the ones nested in it. -/
  messages : List Message
  enums : List Enum
  services : List Service
  deriving Repr, Inhabited

namespace FileSchema

/-- Load `file`; the module must have a name before anything else is looked at. -/
def load (settings : Settings) (index : Index) (files : List FileDesc) (file : FileDesc) :
    Except GenError FileSchema := do
  let module := Module.ofFile file
  if module.goName.isEmpty then
    throw (.schema file.name .noModuleName)
  let registry := Registry.ofFiles files
  let symbols ← symbolsOf settings.suffixes index files []
  let scope : Scope := ⟨module, registry, symbols, index, settings, file.isProto2⟩
  let (messages, enums) ← scope.trees file.package "" file.messages
  let services ← file.services.mapM (Service.ofDesc index file.package)
  return {
    fileName := file.name
    module := module
    registry := registry
    messages := messages
    enums := enums ++ file.enums.map (Enum.ofDesc file.package "")
    services := services }

variable (schema : FileSchema)

/-- A message of the file by its type name. -/
def message? (typeName : String) : Option Message :=
  let name := Text.dropLeading '.' typeName
  schema.messages.find? (·.fullName == name)

/-- What loading had to say, in order. -/
def warnings : List Warning := schema.messages.flatMap (·.warnings)

end FileSchema

end Laminate
