import Laminate.Code.Columns
import Laminate.Code.Import

/-! Source files as declarations, and their layout: tabs for depth, columns for rows. -/
namespace Laminate.Code

structure Param where
  name : String
  type : String
  deriving Repr, DecidableEq, Inhabited

structure StructField where
  name : String
  type : String
  tag : String
  deriving Repr, DecidableEq, Inhabited

inductive Stmt where
  | ret (value : String)
  /-- A pointer to a new struct, by field name. -/
  | retStruct (type : String) (entries : List (String × String))
  /-- A call whose further arguments have lines of their own. -/
  | retCall (callee first : String) (args : List String)
  | nilGuard (name : String)
  | define (name value : String)
  /-- Leave with the error of a call, if there is one. -/
  | errorGuard (call : String)
  deriving Repr, DecidableEq, Inhabited

inductive Decl where
  | struct (doc name : String) (fields : List StructField)
  | constant (doc name value : String)
  | function (doc : String) (receiver : Option Param) (name : String) (params : List Param)
      (result : String) (body : List Stmt)
  | verbatim (lines : List String)
  deriving Repr, DecidableEq, Inhabited

/-- The name that a declaration binds in its package; methods and free text bind none. -/
def Decl.binds? : Decl → Option String
  | struct _ name _ => some name
  | constant _ name _ => some name
  | function _ none name _ _ _ => some name
  | function _ (some _) _ _ _ _ => none
  | verbatim _ => none

/-- A line at a depth. -/
structure Line where
  depth : Nat
  text : String
  deriving Repr, DecidableEq, Inhabited

/-- An empty line has no depth. -/
def Line.chars (line : Line) : List Char :=
  (if line.text.isEmpty then [] else List.replicate line.depth '\t' ++ line.text.toList) ++ ['\n']

def blank : Line := ⟨0, ""⟩

def rowsAt (depth : Nat) (rows : List (List String)) : List Line :=
  (aligned rows).map (⟨depth, ·⟩)

def Stmt.lines : Stmt → List Line
  | ret value => [⟨1, "return " ++ value⟩]
  | retStruct type entries =>
    if entries.isEmpty then [⟨1, "return &" ++ type ++ "\x7b\x7d"⟩]
    else
      ⟨1, "return &" ++ type ++ "\x7b"⟩ ::
        rowsAt 2 (entries.map fun (key, value) => [key ++ ":", value ++ ","]) ++ [⟨1, "\x7d"⟩]
  | retCall callee first args =>
    ⟨1, "return " ++ callee ++ "(" ++ first ++ ","⟩ :: args.map (fun a => ⟨2, a ++ ","⟩) ++
      [⟨1, ")"⟩]
  | nilGuard name =>
    [⟨1, "if " ++ name ++ " == nil \x7b"⟩, ⟨2, "return nil"⟩, ⟨1, "\x7d"⟩]
  | define name value => [⟨1, name ++ " := " ++ value⟩]
  | errorGuard call =>
    [⟨1, "if err := " ++ call ++ "; err != nil \x7b"⟩, ⟨2, "return nil, err"⟩, ⟨1, "\x7d"⟩]

def paramText (p : Param) : String := p.name ++ " " ++ p.type

/-- The first line of a function. -/
def signature (receiver : Option Param) (name : String) (params : List Param) (result : String) :
    String :=
  let owner := match receiver with
    | some p => "(" ++ p.name ++ " *" ++ p.type ++ ") "
    | none => ""
  "func " ++ owner ++ name ++ "(" ++ ", ".intercalate (params.map paramText) ++ ") " ++ result ++
    " \x7b"

/-- A declaration after an empty line. -/
def Decl.lines : Decl → List Line
  | struct doc name fields =>
    [blank, ⟨0, "// " ++ doc⟩] ++
      if fields.isEmpty then [⟨0, "type " ++ name ++ " struct\x7b\x7d"⟩]
      else
        ⟨0, "type " ++ name ++ " struct \x7b"⟩ ::
          rowsAt 1 (fields.map fun f => [f.name, f.type, "`" ++ f.tag ++ "`"]) ++ [⟨0, "\x7d"⟩]
  | constant doc name value =>
    [blank, ⟨0, "// " ++ doc⟩, ⟨0, "const " ++ name ++ " = " ++ value⟩]
  | function doc receiver name params result body =>
    [blank, ⟨0, "// " ++ doc⟩, ⟨0, signature receiver name params result⟩] ++
      body.flatMap Stmt.lines ++ [⟨0, "\x7d"⟩]
  | verbatim lines => blank :: lines.map (⟨0, ·⟩)

structure SourceFile where
  /-- The schema file it is made from. -/
  origin : String
  package : String
  imports : List Import
  decls : List Decl
  deriving Repr, DecidableEq, Inhabited

namespace SourceFile

def notice : String := "Code generated by protoc-gen-strata. DO NOT EDIT."

def header (file : SourceFile) : List Line :=
  [⟨0, "// " ++ notice⟩, ⟨0, "// source: " ++ file.origin⟩, blank, ⟨0, "package " ++ file.package⟩]

def importBlock (imports : List Import) : List Line :=
  if imports.isEmpty then []
  else [blank, ⟨0, "import ("⟩] ++ imports.map (fun i => ⟨1, i.text⟩) ++ [⟨0, ")"⟩]

def lines (file : SourceFile) : List Line :=
  file.header ++ importBlock file.imports ++ file.decls.flatMap Decl.lines

def text (file : SourceFile) : String := String.ofList (file.lines.flatMap Line.chars)

end SourceFile

end Laminate.Code
