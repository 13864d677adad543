import Laminate.Settings.Basic

/-! The kinds of files that are written for a schema file. -/
namespace Laminate

inductive Template where
  | enums | domain | domainConvert | outbound | inbound | http
  /-- Domain structs in the companion language. -/
  | companion
  | fixtures
  deriving Repr, DecidableEq, Inhabited

/-- The part of a plan whose mentions decide a file's imports. -/
inductive ImportScope where
  | none | domain | domainConvert | outbound | inbound | http | fixtures
  deriving Repr, DecidableEq, Inhabited

namespace Template

/-- In the order of output. -/
def all : List Template :=
  [enums, domain, domainConvert, outbound, inbound, http, companion, fixtures]

/-- Language of the file. -/
def group : Template → String
  | companion => "rust"
  | _ => "go"

def name : Template → String
  | enums => "enum"
  | domain => "domain"
  | domainConvert => "domain_convert"
  | outbound => "outbound"
  | inbound => "inbound"
  | http => "http"
  | companion => "domain"
  | fixtures => "fixtures"

/-- The addon that has to be enabled. -/
def addon : Template → Option Addon
  | companion => some .rust
  | fixtures => some .fixtures
  | _ => none

/-- Whether a template can tell that it has nothing to say. -/
def isGated : Template → Bool
  | fixtures => false
  | _ => true

def scope : Template → ImportScope
  | enums => .none
  | domain => .domain
  | domainConvert => .domainConvert
  | outbound => .outbound
  | inbound => .inbound
  | http => .http
  | companion => .none
  | fixtures => .fixtures

/-- Qualifiers that are imported whatever the plan mentions. -/
def fixedImports : Template → List String := fun _ => []

def find? (group name : String) : Option Template :=
  all.find? fun t => t.group == group && t.name == name

def isAvailable (settings : Settings) (t : Template) : Bool :=
  match t.addon with
  | some addon => settings.hasAddon addon
  | none => true

/-- The file written for a schema file. -/
def outputName (t : Template) (file : String) : String :=
  let stem := (Text.dropTail? ".proto" file).getD file
  match t with
  | companion => stem ++ "_" ++ t.name ++ ".rs"
  | fixtures => stem ++ "." ++ t.name ++ ".strata_test.go"
  | _ => stem ++ "." ++ t.name ++ ".strata.go"

end Template

/-- What an addon brings. -/
def Addon.capabilities : Addon → List String
  | rust => ["rust-domain"]
  | fixtures => ["go-test-fixtures"]

def Addon.templates (addon : Addon) : List Template :=
  Template.all.filter fun t => t.addon == some addon

end Laminate
