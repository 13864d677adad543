import Laminate.Code.Path
import Laminate.Error
import Laminate.Text.Keyed

/-! Imports of a generated file. They are inferred from its text: every qualifier in a type or an
expression must stand for a known package, or there is an error. -/
namespace Laminate.Code

open Laminate.Text

/-- One import line. -/
structure Import where
  /-- The alias that the line gives to the package, if it gives one. -/
  localName : Option String := none
  path : String
  deriving Repr, DecidableEq, Inhabited

namespace Import

/-- An import of `path` as `qualifier`, with an alias only where the path says otherwise. -/
def asQualifier (qualifier path : String) : Import :=
  ⟨if pathName path = qualifier then none else some qualifier, path⟩

def text (i : Import) : String :=
  match i.localName with
  | some name => name ++ " \"" ++ i.path ++ "\""
  | none => "\"" ++ i.path ++ "\""

/-- Imports without an alias come first; each group is in order of what it is called. -/
def precedes (a b : Import) : Bool :=
  match a.localName, b.localName with
  | none, none => a.path ≤ b.path
  | none, some _ => true
  | some _, none => false
  | some x, some y => x ≤ y

end Import

/-- Collected imports under their qualifiers, in increasing order. -/
structure ImportSet where
  entries : List (String × Import) := []
  deriving Repr, DecidableEq, Inhabited

namespace ImportSet

def insert (set : ImportSet) (key : String) (i : Import) : ImportSet :=
  ⟨putKeyed key i set.entries⟩

def size (set : ImportSet) : Nat := set.entries.length

/-- The first import of each path. -/
def distinctPaths : List Import → List String → List Import
  | [], _ => []
  | i :: rest, seen =>
    if i.path ∈ seen then distinctPaths rest seen else i :: distinctPaths rest (i.path :: seen)

/-- The lines of an import block. -/
def sorted (set : ImportSet) : List Import :=
  (distinctPaths (set.entries.map (·.2)) []).mergeSort Import.precedes

end ImportSet

/-- What qualifiers stand for. -/
structure Qualifiers where
  /-- Names that look like qualifiers and need no import. -/
  ignored : List String
  /-- Imports under their qualifiers; the first entry of a name counts. -/
  known : List (String × Import)
  deriving Repr, DecidableEq, Inhabited

namespace Qualifiers

/-- Variables of the generated functions. -/
def receivers : List String := ["w", "d", "in", "r"]

/-- Packages that generated code may always use. -/
def standard : List (String × Import) := [
  ("validation", ⟨some "validation", "github.com/go-ozzo/ozzo-validation/v4"⟩),
  ("time", { path := "time" }),
  ("regexp", { path := "regexp" }),
  ("json", { path := "encoding/json" }),
  ("http", { path := "net/http" }),
  ("timestamppb", { path := "google.golang.org/protobuf/types/known/timestamppb" }),
  ("structpb", { path := "google.golang.org/protobuf/types/known/structpb" }),
  ("wrapperspb", { path := "google.golang.org/protobuf/types/known/wrapperspb" }),
  ("is", { path := "github.com/go-ozzo/ozzo-validation/v4/is" })]

/-- A package made known under a name, in place of what the name stood for. -/
def learn (qualifiers : Qualifiers) (name path : String) : Qualifiers :=
  { qualifiers with known := (name, .asQualifier name path) :: qualifiers.known }

/-- A package made known under a name that stands for nothing yet. -/
def learnNew (qualifiers : Qualifiers) (name path : String) : Qualifiers :=
  if (qualifiers.known.lookup name).isSome then qualifiers else qualifiers.learn name path

/-- The package of a reference made known, unless its name is ignored. -/
def learnReference (qualifiers : Qualifiers) (reference : Reference) : Qualifiers :=
  if qualifiers.ignored.contains reference.package then qualifiers
  else qualifiers.learn reference.package reference.path

/-- Segments of a reference between its dots and slashes. -/
def referenceSegments (text : String) : List String :=
  (pieces (fun c => c == '.' || c == '/') text).filter (!·.isEmpty)

/-- The package of a written reference made known; a reference of fewer than five segments is
left to fail where it is used. -/
def learnText (qualifiers : Qualifiers) (text : String) : Qualifiers :=
  if (referenceSegments text).length < 5 then qualifiers
  else match Reference.parse? text with
    | some reference => qualifiers.learnReference reference
    | none => qualifiers

variable (qualifiers : Qualifiers)

/-- The imports with the one that `name` needs. -/
def require (name : String) (set : ImportSet) : Except GenError ImportSet :=
  if qualifiers.ignored.contains name then .ok set
  else match qualifiers.known.lookup name with
    | some i => .ok (set.insert name i)
    | none => .error (.lookup (.unknownPackage name))

/-- The imports that several names need, up to the first unknown one. The imports collected before
a failure are returned beside it. -/
def requireAll : List String → ImportSet → ImportSet × Option GenError
  | [], set => (set, none)
  | name :: rest, set =>
    match qualifiers.require name set with
    | .ok set => requireAll rest set
    | .error e => (set, some e)

end Qualifiers

/-! ### Qualifiers in text -/

/-- The text after pointer and slice marks. -/
def stripMarks : List Char → List Char
  | '*' :: rest => stripMarks rest
  | '[' :: ']' :: rest => stripMarks rest
  | text => text

/-- What stands before the bracket that closes `depth + 1` open ones, and what stands after. -/
def closeBracket : Nat → List Char → Option (List Char × List Char)
  | _, [] => none
  | depth, c :: rest =>
    if c = ']' then
      match depth with
      | 0 => some ([], rest)
      | depth + 1 => (closeBracket depth rest).map fun (inner, after) => (c :: inner, after)
    else
      (closeBracket (if c = '[' then depth + 1 else depth) rest).map
        fun (inner, after) => (c :: inner, after)

theorem closeBracket_length {depth : Nat} {text inner after : List Char}
    (h : closeBracket depth text = some (inner, after)) :
    inner.length + after.length < text.length := by
  fun_induction closeBracket depth text generalizing inner after with
  | case1 => simp at h
  | case2 =>
    simp only [Option.some.injEq, Prod.mk.injEq] at h
    obtain ⟨rfl, rfl⟩ := h
    simp
  | case3 rest depth ih =>
    simp only [Option.map_eq_some_iff, Prod.exists, Prod.mk.injEq] at h
    obtain ⟨i, a, heq, rfl, rfl⟩ := h
    have := ih heq
    simp; omega
  | case4 depth c rest hc ih =>
    simp only [Option.map_eq_some_iff, Prod.exists, Prod.mk.injEq] at h
    obtain ⟨i, a, heq, rfl, rfl⟩ := h
    have := ih heq
    simp; omega

theorem stripMarks_length (text : List Char) : (stripMarks text).length ≤ text.length := by
  fun_induction stripMarks text with
  | case1 rest ih => simp; omega
  | case2 rest ih => simp; omega
  | case3 => simp

theorem trimBoth_length (drop : Char → Bool) (text : List Char) :
    (trimBoth drop text).length ≤ text.length := by
  simp only [trimBoth, List.length_reverse]
  refine Nat.le_trans (List.dropWhile_sublist _).length_le ?_
  simp only [List.length_reverse]
  exact (List.dropWhile_sublist _).length_le

/-- The qualifiers of a type's text, up to a map whose key does not end; that map is returned. -/
def typeQualifiers (text : List Char) : List String × Option String :=
  match _hs : stripMarks (trimBoth isBlank text) with
  | 'm' :: 'a' :: 'p' :: '[' :: rest =>
    match _hc : closeBracket 0 rest with
    | none => ([], some (String.ofList text))
    | some (key, value) =>
      match typeQualifiers key with
      | (found, some fault) => (found, some fault)
      | (found, none) =>
        let (more, fault) := typeQualifiers value
        (found ++ more, fault)
  | rest =>
    match cutFirst '.' rest with
    | some (qualifier, _) => ([String.ofList qualifier], none)
    | none => ([], none)
termination_by text.length
decreasing_by
  all_goals
    have h₁ := closeBracket_length _hc
    have h₂ := stripMarks_length (trimBoth isBlank text)
    have h₃ := trimBoth_length isBlank text
    rw [_hs] at h₂
    simp at h₂
    omega

def isIdentChar (c : Char) : Bool := isAlphanumeric c || c == '_'

/-- Where a scan of an expression stands. -/
inductive ScanState where
  /-- Between names; `joined` after a character that a name cannot follow. -/
  | code (joined : Bool)
  /-- Within a name, which is kept in reverse. -/
  | name (reversed : List Char)
  /-- Within a literal that `quote` closes. -/
  | literal (quote : Char)
  deriving Repr, DecidableEq

/-- Names that stand before a dot and an upper-case letter, unless they are part of a longer
selector or of a literal. -/
def scanQualifiers : ScanState → List Char → List String
  | _, [] => []
  | .literal quote, c :: rest =>
    if c = '\\' ∧ quote = '"' then
      match rest with
      | [] => []
      | _ :: rest => scanQualifiers (.literal quote) rest
    else if c = quote then scanQualifiers (.code false) rest
    else scanQualifiers (.literal quote) rest
  | .name reversed, c :: rest =>
    if isIdentChar c then scanQualifiers (.name (c :: reversed)) rest
    else
      let found :=
        if c = '.' ∧ rest.head?.any isUpper then [String.ofList reversed.reverse] else []
      found ++
        if c = '"' ∨ c = Char.ofNat 96 then scanQualifiers (.literal c) rest
        else scanQualifiers (.code (c == '.')) rest
  | .code joined, c :: rest =>
    if c = '"' ∨ c = Char.ofNat 96 then scanQualifiers (.literal c) rest
    else if (isAlphabetic c || c == '_') && !joined then scanQualifiers (.name [c]) rest
    else scanQualifiers (.code (isIdentChar c || c == '.')) rest

/-- The qualifiers of an expression's text. -/
def exprQualifiers (text : String) : List String := scanQualifiers (.code false) text.toList

namespace Qualifiers

variable (qualifiers : Qualifiers)

/-- The imports that a type's text needs. -/
def scanType (text : String) (set : ImportSet) : ImportSet × Option GenError :=
  let (names, fault) := typeQualifiers text.toList
  match qualifiers.requireAll names set with
  | (set, some e) => (set, some e)
  | (set, none) => (set, fault.map fun t => .code (.unbalancedMap t))

/-- The imports that an expression's text needs. -/
def scanExpr (text : String) (set : ImportSet) : ImportSet × Option GenError :=
  qualifiers.requireAll (exprQualifiers text) set

end Qualifiers

end Laminate.Code
