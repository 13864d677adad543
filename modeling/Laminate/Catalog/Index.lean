import Laminate.Annotation.Source
import Laminate.Catalog.Options

/-! Annotations that a compiler has stored in the options of a request's files. -/
namespace Laminate.Catalog

open Descriptor Annotation Wire

variable (catalog : Catalog)

/-- The number of the extension of a name. -/
def numberOfExtension? (extensions : List Extension) (name : String) : Option Nat :=
  (extensions.find? (·.name == name)).map (·.shape.number)

variable {α : Type}

/-- The annotation among some options: it has to be a single message. -/
def annotation? [Inhabited α] (name : String) (number : Nat) (table : Table α)
    (options : Contents) : Except GenError (Option α) :=
  match options.lookup number with
  | some (.part _ fields) =>
    match table.mergeAll maxLevels (Contents.toFields fields) default with
    | some a => .ok (some a)
    | none => .error (.extension name)
  | _ => .ok none

/-- The annotation of a descriptor, in the file that declares it. -/
def stored? [Inhabited α] (extensions : List Extension) (file name : String) (table : Table α)
    (holder : Holder) : Except GenError (Option α) :=
  match numberOfExtension? extensions name, catalog.file? file with
  | some number, some file =>
    annotation? name number table
      ((catalog.optionsOf? extensions (catalog.visibleFrom file) holder).getD [])
  | _, _ => .ok none

/-- The annotations of a message and of its fields. -/
def indexMessage (extensions : List Extension) (index : Index) (symbol : Symbol)
    (desc : MessageDesc) : Except GenError Index := do
  let ofMessage ← catalog.stored? extensions symbol.file messageExtension messageTable
    (messageHolder symbol.name desc)
  let index := ofMessage.elim index (index.putMessage symbol.name)
  desc.fields.foldlM (fun index field => do
    let ofField ← catalog.stored? extensions symbol.file fieldExtension fieldTable
      (fieldHolder symbol.name field)
    return ofField.elim index (index.putField symbol.name field.number)) index

/-- The annotations of the methods of a service. -/
def indexService (extensions : List Extension) (index : Index) (symbol : Symbol)
    (desc : ServiceDesc) : Except GenError Index :=
  desc.methods.foldlM (fun index method => do
    let ofMethod ← catalog.stored? extensions symbol.file methodExtension methodTable
      (methodHolder symbol.name method)
    return ofMethod.elim index (index.putMethod (qualify symbol.name method.name))) index

/-- Every stored annotation: messages first, then services. -/
def index : Except GenError Index := do
  let extensions := catalog.extensions
  let ofMessages ← catalog.symbols.foldlM (fun index symbol =>
    match symbol.declared with
    | .message desc => catalog.indexMessage extensions index symbol desc
    | _ => .ok index) {}
  catalog.symbols.foldlM (fun index symbol =>
    match symbol.declared with
    | .service desc => catalog.indexService extensions index symbol desc
    | _ => .ok index) ofMessages

end Laminate.Catalog
