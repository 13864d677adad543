import Laminate.Code.Path

/-! The settings of one generation run. -/
namespace Laminate

/-- The database whose column tags domain structs carry. -/
inductive Database where
  | none | document | relational
  deriving Repr, DecidableEq, Inhabited

/-- Name endings that mark a message's kind and its forms. -/
structure Suffixes where
  wire : String := "Wire"
  request : String := "Request"
  response : String := "Response"
  domain : String := "Domain"
  outbound : String := "Outbound"
  inbound : String := "Inbound"
  deriving Repr, DecidableEq, Inhabited

/-- The package that holds the conversion helpers. -/
structure Converters where
  path : String
  name : String
  deriving Repr, DecidableEq, Inhabited

def Converters.ofPath (path : String) : Converters :=
  ⟨path, Code.withoutHyphens (Code.pathName path)⟩

/-- A helper of the package as the callee of a call. -/
def Converters.callee (converters : Converters) (helper : String) : String :=
  converters.name ++ "." ++ helper

def defaultConvertersPath : String := "github.com/strata-dev/strata/runtime/convert"

/-- A validation rule that annotations name. -/
structure Rule where
  name : String
  package : String
  function : String
  /-- Where a registered rule comes from; the built-in ones have none. -/
  reference : Option String := none
  requiresArgs : Bool := false
  deriving Repr, DecidableEq, Inhabited

def Rule.callee (rule : Rule) : String := rule.package ++ "." ++ rule.function

def builtinRules : List Rule := [
  { name := "email", package := "is", function := "Email" },
  { name := "url", package := "is", function := "URL" },
  { name := "uuid", package := "is", function := "UUID" },
  { name := "alpha", package := "is", function := "Alpha" },
  { name := "alphanumeric", package := "is", function := "Alphanumeric" },
  { name := "digit", package := "is", function := "Digit" },
  { name := "ip", package := "is", function := "IP" },
  { name := "in", package := "validation", function := "In", requiresArgs := true },
  { name := "not_in", package := "validation", function := "NotIn", requiresArgs := true }]

/-- Output beyond the layers themselves. -/
inductive Addon where
  | rust | fixtures
  deriving Repr, DecidableEq, Inhabited

def Addon.all : List Addon := [rust, fixtures]

def Addon.name : Addon → String
  | rust => "rust"
  | fixtures => "fixtures"

def Addon.ofName? (name : String) : Option Addon := all.find? (·.name == name)

structure Settings where
  suffixes : Suffixes := {}
  database : Database := .none
  converters : Converters := .ofPath defaultConvertersPath
  /-- Built-in rules first, then registered ones in order of registration. -/
  rules : List Rule := builtinRules
  /-- Templates that cannot tell whether they have anything to say stay silent. -/
  strict : Bool := true
  addons : List Addon := []
  debug : Bool := false
  deriving Repr, DecidableEq, Inhabited

namespace Settings

def rule? (settings : Settings) (name : String) : Option Rule :=
  settings.rules.find? (·.name == name)

def hasAddon (settings : Settings) (addon : Addon) : Bool := settings.addons.contains addon

end Settings

/-- A rule put in the place of the one with its name, or at the end. -/
def replaceRule (rule : Rule) : List Rule → List Rule
  | [] => [rule]
  | first :: rest => if first.name = rule.name then rule :: rest else first :: replaceRule rule rest

theorem replaceRule_map_name (rule : Rule) (rules : List Rule) :
    (replaceRule rule rules).map (·.name) =
      if rule.name ∈ rules.map (·.name) then rules.map (·.name)
      else rules.map (·.name) ++ [rule.name] := by
  induction rules with
  | nil => simp [replaceRule]
  | cons first rest ih =>
    by_cases h : first.name = rule.name
    · simp [replaceRule, h]
    · simp only [replaceRule, if_neg h, List.map_cons, ih, List.mem_cons, Ne.symm h, false_or]
      split <;> simp

end Laminate
