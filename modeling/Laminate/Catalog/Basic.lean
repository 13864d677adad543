import Laminate.Descriptor.Basic
import Laminate.Text.Split

/-! Everything that the files of a request declare, by full name, and what names stand for. -/
namespace Laminate

open Text Descriptor

namespace Catalog

inductive Declared where
  | package
  | message (desc : MessageDesc)
  | enum (desc : EnumDesc)
  | service (desc : ServiceDesc)
  /-- An extension and the scope it is declared in. -/
  | extension (desc : FieldDesc) (scope : String)
  /-- A field, an alternative, an enum value or a method. -/
  | member
  deriving Repr, Inhabited

namespace Declared

def isPackage : Declared → Bool
  | package => true
  | _ => false

def isMessage : Declared → Bool
  | message _ => true
  | _ => false

def isEnum : Declared → Bool
  | enum _ => true
  | _ => false

def isType (d : Declared) : Bool := d.isMessage || d.isEnum

def isExtension : Declared → Bool
  | extension .. => true
  | _ => false

def enumDesc? : Declared → Option EnumDesc
  | enum desc => some desc
  | _ => none

def messageDesc? : Declared → Option MessageDesc
  | message desc => some desc
  | _ => none

/-- Whether further names may follow after a dot. -/
def isScope : Declared → Bool
  | package | message _ | enum _ | service _ => true
  | extension .. | member => false

end Declared

structure Symbol where
  /-- Full name without a leading dot. -/
  name : String
  file : String
  isProto2 : Bool
  declared : Declared
  deriving Repr, Inhabited

/-! ### Declarations -/

/-- A package and the packages around it. -/
def packageNames (package : String) : List String :=
  if package.isEmpty then []
  else
    let parts := pieces (· == '.') package
    (List.range parts.length).map fun k => ".".intercalate (parts.take (k + 1))

def extensionEntries (scope : String) (extensions : List FieldDesc) : List (String × Declared) :=
  extensions.map fun e => (qualify scope e.name, .extension e scope)

/-- An enum and its values, which are named beside it. -/
def enumEntries (scope : String) (desc : EnumDesc) : List (String × Declared) :=
  (qualify scope desc.name, .enum desc) ::
    desc.values.map fun v => (qualify scope v.name, .member)

mutual

def messageEntries (scope : String) : MessageTree → List (String × Declared)
  | .node desc nested =>
    let name := qualify scope desc.name
    (name, .message desc) ::
      (desc.fields.map fun f => (qualify name f.name, .member)) ++
      (desc.oneofs.map fun o => (qualify name o.name, .member)) ++
      messagesEntries name nested ++
      desc.enums.flatMap (enumEntries name) ++ extensionEntries name desc.extensions

def messagesEntries (scope : String) : List MessageTree → List (String × Declared)
  | [] => []
  | tree :: rest => messageEntries scope tree ++ messagesEntries scope rest

end

def serviceEntries (scope : String) (desc : ServiceDesc) : List (String × Declared) :=
  let name := qualify scope desc.name
  (name, .service desc) :: desc.methods.map fun m => (qualify name m.name, .member)

/-- Everything that a file declares, a message before what is in it. -/
def fileSymbols (file : FileDesc) : List Symbol :=
  let entries :=
    (packageNames file.package).map (·, Declared.package) ++
      messagesEntries file.package file.messages ++
      file.enums.flatMap (enumEntries file.package) ++
      extensionEntries file.package file.extensions ++
      file.services.flatMap (serviceEntries file.package)
  entries.map fun (name, declared) =>
    ⟨name, file.name, file.version.isNone || file.isProto2, declared⟩

end Catalog

/-- The declarations of some files. -/
structure Catalog where
  files : List FileDesc
  symbols : List Catalog.Symbol
  deriving Repr, Inhabited

namespace Catalog

def ofFiles (files : List FileDesc) : Catalog := ⟨files, files.flatMap fileSymbols⟩

variable (catalog : Catalog)

/-! ### Visibility -/

def file? (name : String) : Option FileDesc := catalog.files.find? (·.name == name)

/-- The files whose declarations a file passes on, as it names them. -/
def passedOn (name : String) : List String :=
  match catalog.file? name with
  | none => []
  | some file => file.publicDependencies.filterMap fun i => file.dependencies[i.toNat]?

/-- The files that a file passes on put among those already seen. What one of them passes on in turn
counts only if it had been seen before. -/
def passOn : Nat → List String → String → List String
  | 0, seen, _ => seen
  | fuel + 1, seen, name =>
    (catalog.passedOn name).foldl
      (fun seen next => if seen.contains next then passOn fuel seen next else next :: seen) seen

/-- The files whose declarations can be named in a file: its own, those it imports, and those that
they pass on. -/
def visibleFrom (file : FileDesc) : List String :=
  file.dependencies.foldl
    (fun seen name =>
      catalog.passOn catalog.files.length (if seen.contains name then seen else name :: seen) name)
    [file.name]

/-! ### Names -/

/-- What a full name stands for, among the files that are visible. -/
def find? (visible : List String) (wanted : Declared → Bool) (name : String) : Option Symbol :=
  catalog.symbols.find? fun s =>
    s.name == name && wanted s.declared && (s.declared.isPackage || visible.contains s.file)

/-- A scope and the scopes around it, innermost first. -/
def scopesOf (scope : String) : List String := (packageNames scope).reverse ++ [""]

/-- Whether names may follow a full name after a dot, wherever it is declared. -/
def opensScope (name : String) : Bool :=
  catalog.symbols.any fun s => s.name == name && s.declared.isScope

/-- What a name stands for in a scope. A leading dot makes a name absolute; the first part of a
dotted name is looked for from the inside out, and the rest has to follow it there. -/
def resolve? (visible : List String) (wanted : Declared → Bool) (scope name : String) :
    Option Symbol :=
  match dropHead? "." name with
  | some absolute => catalog.find? visible wanted absolute
  | none =>
    match around? '.' name with
    | none => (scopesOf scope).findSome? fun s => catalog.find? visible wanted (qualify s name)
    | some (first, _) =>
      match (scopesOf scope).find? fun s => catalog.opensScope (qualify s first) with
      | some s => catalog.find? visible wanted (qualify s name)
      | none => none

end Catalog

end Laminate
