import Laminate.Settings.Basic
import Laminate.Error

/-! Reading settings from the plugin parameter, a comma-separated list of `key=value` parts. -/
namespace Laminate

open Laminate.Text

def Database.parse (value : String) : Except GenError Database :=
  if value = "" ∨ value = "none" then .ok .none
  else if value = "mongo" ∨ value = "document" then .ok .document
  else if value = "gorm" ∨ value = "relational" then .ok .relational
  else .error (.config (.unknownDatabase value))

def parseBool (key value : String) : Except GenError Bool :=
  if value ∈ ["true", "1", "yes"] then .ok true
  else if value ∈ ["false", "0", "no"] then .ok false
  else .error (.config (.notBoolean key value))

def nonEmpty (key value : String) : Except GenError String :=
  if value.isEmpty then .error (.config (.emptyValue key)) else .ok value

/-- The name, reference and flag of a rule, cut at the first two colons. -/
def Rule.parts (spec : String) : String × String × Option String :=
  match around? ':' spec with
  | none => (trim spec, "", none)
  | some (name, rest) =>
    match around? ':' rest with
    | none => (trim name, trim rest, none)
    | some (reference, flag) => (trim name, trim reference, some (trim flag))

/-- Read `name:path.Function` with an optional `:args`. -/
def Rule.parse (spec : String) : Except GenError Rule :=
  let (name, reference, flag) := parts spec
  let finish (requiresArgs : Bool) : Except GenError Rule :=
    if name.isEmpty || reference.isEmpty then .error (.config (.malformedRule spec))
    else match Code.Reference.parse? reference with
      | none => .error (.lookup (.ruleReference name reference))
      | some found => .ok ⟨name, found.package, found.name, some reference, requiresArgs⟩
  match flag with
  | none => finish false
  | some flag =>
    if flag = "args" then finish true else .error (.config (.unknownRuleFlag name flag))

/-- Addons by name, after those already there; each is listed once. -/
def addAddons : List String → List Addon → Except GenError (List Addon)
  | [], addons => .ok addons
  | name :: rest, addons =>
    match Addon.ofName? name with
    | none => .error (.config (.unknownAddon name))
    | some addon => addAddons rest (if addon ∈ addons then addons else addons ++ [addon])

/-- Trimmed pieces of a text, without the empty ones. -/
def trimmedPieces (mark : Char) (s : String) : List String :=
  ((pieces (· == mark) s).map trim).filter (!·.isEmpty)

/-- Key and value of a part; a key alone is switched on. -/
def keyValue (part : String) : String × String :=
  match around? '=' part with
  | some (key, value) => (trim key, trim value)
  | none => (part, "true")

namespace Settings

/-- One key set to a value. -/
def set (settings : Settings) (key value : String) : Except GenError Settings :=
  let suffix (update : String → Suffixes) : Except GenError Settings :=
    (nonEmpty key value).map fun v => { settings with suffixes := update v }
  match key with
  | "wire_suffix" => suffix fun v => { settings.suffixes with wire := v }
  | "request_suffix" => suffix fun v => { settings.suffixes with request := v }
  | "response_suffix" => suffix fun v => { settings.suffixes with response := v }
  | "domain_suffix" => suffix fun v => { settings.suffixes with domain := v }
  | "outbound_suffix" => suffix fun v => { settings.suffixes with outbound := v }
  | "inbound_suffix" => suffix fun v => { settings.suffixes with inbound := v }
  | "db" => (Database.parse value).map fun v => { settings with database := v }
  | "converters" =>
    (nonEmpty key value).map fun v => { settings with converters := .ofPath v }
  | "rule" =>
    (Rule.parse value).map fun rule => { settings with rules := replaceRule rule settings.rules }
  | "strict" => (parseBool key value).map fun v => { settings with strict := v }
  | "debug" => (parseBool key value).map fun v => { settings with debug := v }
  | "addons" =>
    (addAddons (trimmedPieces '+' value) settings.addons).map fun v => { settings with addons := v }
  | other => .error (.config (.unknownKey other))

/-- The parts set in order, each on top of the ones before. -/
def setAll : List (String × String) → Settings → Except GenError Settings
  | [], settings => .ok settings
  | (key, value) :: rest, settings =>
    match settings.set key value with
    | .error e => .error e
    | .ok settings => setAll rest settings

/-- The settings that a parameter asks for; no parameter asks for the defaults. -/
def ofParameter (parameter : Option String) : Except GenError Settings :=
  match parameter with
  | none => .ok {}
  | some text => setAll ((trimmedPieces ',' text).map keyValue) {}

end Settings

end Laminate
