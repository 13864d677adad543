import Laminate.Code.Path
import Laminate.Code.Name
import Laminate.Descriptor.Basic
import Laminate.Text.Keyed

/-! Modules: a schema package and its place among the generated packages. -/
namespace Laminate.Schema

open Laminate.Text Laminate.Code

structure Module where
  /-- Schema package, such as `acme.user.v1`. -/
  package : String
  /-- Identifier of the generated package. -/
  goName : String
  /-- Import path of the generated package. -/
  goPath : String
  deriving Repr, DecidableEq, Inhabited

/-- The module of a file, from its package option or else from its schema package. -/
def Module.ofFile (file : Descriptor.FileDesc) : Module :=
  match file.goPackage.filter (!·.isEmpty) with
  | some option =>
    match around? ';' option with
    | some (path, name) => ⟨file.package, name, path⟩
    | none =>
      ⟨file.package, replaceAll (fun c => c == '-' || c == '.') '_' (lastPiece '/' option), option⟩
  | none => ⟨file.package, lastPiece '.' file.package, replaceAll (· == '.') '/' file.package⟩

/-- Where a type lies, seen from the module being generated. -/
structure Placement where
  /-- Schema package of the type; empty when it cannot be told. -/
  module : String := ""
  /-- Identifier of the type in its generated package. -/
  localName : String := ""
  /-- Whether the type needs no qualifier. -/
  isLocal : Bool := false
  /-- Qualifier of the type's generated package. -/
  goName : String := ""
  deriving Repr, DecidableEq, Inhabited

/-- The qualifier to write; none is needed within the module. -/
def Placement.qualifier (placement : Placement) : String :=
  if placement.isLocal then "" else placement.goName

/-- Every module of a request. -/
structure Registry where
  /-- Longest package first, so that the first one a name starts with is the longest. -/
  modules : List Module := []
  /-- Qualifier of each import path. -/
  qualifiers : List (String × String) := []
  deriving Repr, DecidableEq, Inhabited

namespace Registry

/-- Modules with distinct packages; the first file of a package decides. -/
def distinct : List Module → List Module → List Module
  | known, [] => known
  | known, m :: rest =>
    if known.any (·.package == m.package) then distinct known rest else distinct (known ++ [m]) rest

/-- Longer packages first; packages of one length in increasing order. -/
def precedes (a b : Module) : Bool :=
  octets b.package < octets a.package ||
    (octets a.package == octets b.package && a.package ≤ b.package)

/-- The lower-case letters and digits of a path's segments, without versions and empty ones. -/
def aliasSegments (path : String) : List String :=
  (((segments path).filter fun s => !s.isEmpty && !isVersionSegment s).map fun s =>
    String.ofList ((s.toList.filter Char.isAlphanum).map Char.toLower)).filter (!·.isEmpty)

/-- Alias candidates in order of preference: the last two segments, the last three and so on. -/
def aliasCandidates (path : String) : List String :=
  let parts := aliasSegments path
  ((List.range (parts.length - 1)).map fun k =>
    String.join (parts.drop (parts.length - (k + 2)))).filter fun candidate =>
      candidate.toList.head?.any Char.isAlpha

/-- The package name with the first free number after it; one of the first so many is free. -/
def numberedAlias (name : String) (taken : List String) : String :=
  (((List.range (taken.length + 1)).map fun k => name ++ toString (k + 2)).find?
    fun candidate => !taken.contains candidate).getD name

/-- The first free identifier made of trailing segments of a path. -/
def pathAlias (path name : String) (taken : List String) : String :=
  ((aliasCandidates path).find? fun candidate => !taken.contains candidate).getD
    (numberedAlias name taken)

/-- A path's qualifier recorded; a later one replaces an earlier one. -/
def putQualifier (path name : String) (qualifiers : List (String × String)) :
    List (String × String) :=
  (path, name) :: qualifiers.filter (·.1 != path)

/-- Aliases for the paths that share a package name. -/
def aliasPaths (name : String) :
    List String → List String × List (String × String) → List String × List (String × String)
  | [], state => state
  | path :: rest, (taken, qualifiers) =>
    let found := pathAlias path name taken
    aliasPaths name rest (found :: taken, putQualifier path found qualifiers)

/-- The import paths under a package name, in increasing order. -/
def pathsOf (modules : List Module) (name : String) : List String :=
  sortedNames ((modules.filter (·.goName == name)).map (·.goPath))

/-- One qualifier for each import path. Paths that share a package name are all aliased, so that
none of them is mistaken for the package being generated. -/
def assignQualifiers (modules : List Module) : List (String × String) :=
  let names := sortedNames (modules.map (·.goName))
  (names.foldl (fun state name =>
    match pathsOf modules name with
    | [path] => (state.1, putQualifier path name state.2)
    | paths => aliasPaths name paths state) (names, [])).2

/-- The modules of some files. -/
def ofFiles (files : List Descriptor.FileDesc) : Registry :=
  let modules := (distinct [] (files.map Module.ofFile)).mergeSort precedes
  ⟨modules, assignQualifiers modules⟩

/-- What other modules call a module. -/
def qualifier (registry : Registry) (m : Module) : String :=
  (registry.qualifiers.lookup m.goPath).getD m.goName

def find? (registry : Registry) (package : String) : Option Module :=
  registry.modules.find? (·.package == package)

/-- The module whose package a full type name starts with, and the name within it. -/
def owner? (registry : Registry) (name : String) : Option (Module × String) :=
  registry.modules.findSome? fun m =>
    if m.package.isEmpty then none else (dropHead? (m.package ++ ".") name).map (m, ·)

/-- Where a fully qualified type name lies. A name of fewer than two segments is in no module. -/
def place (registry : Registry) (current : Module) (typeName : String) : Placement :=
  let name := dropLeading '.' typeName
  let parts := pieces (· == '.') name
  if parts.length < 2 || parts.any (·.isEmpty) then { localName := flattened name }
  else match registry.owner? name with
    | some (m, rest) =>
      { module := m.package
        localName := flattened rest
        isLocal := m.package == current.package || m.goPath == current.goPath
        goName := registry.qualifier m }
    | none =>
      let (package, last) := (aroundLast? '.' name).getD ("", name)
      { module := package
        localName := last
        isLocal := package == current.package ||
          replaceAll (· == '.') '/' package == current.goPath
        goName := lastPiece '.' package }

end Registry

end Laminate.Schema
