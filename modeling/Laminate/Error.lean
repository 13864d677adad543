import Laminate.Annotation.Value

/-! Everything that can stop a generation, by cause, and the wording of each cause. -/
namespace Laminate

/-- What is wrong with the plugin parameter. -/
inductive ConfigFault where
  | unknownDatabase (value : String)
  | unknownRuleFlag (rule flag : String)
  | malformedRule (spec : String)
  | emptyValue (key : String)
  | notBoolean (key value : String)
  | unknownAddon (name : String)
  | unknownKey (key : String)
  deriving Repr

/-- What is wrong with an option's value. -/
inductive OptionFault where
  | noValue
  | notAggregate
  | unknownKey (owner key : String)
  | wantedText (found : Annotation.Value)
  | wantedFlagToken (found : String)
  | wantedFlag (found : Annotation.Value)
  | wantedIntegerToken (found : String)
  | wantedInteger (found : Annotation.Value)
  | wantedMessage (found : Annotation.Value)
  | unknownNaming (name : String)
  | unknownAuthMode (name : String)
  | unclosedMessage
  | unclosedList
  | unclosedText
  | unclosedEscape
  | wantedKey (offset : Nat) (found : Char)
  | wantedValue
  | wantedValueAt (offset : Nat)
  deriving Repr

/-- The descriptor whose options are at fault. -/
inductive OptionSite where
  | ofField (message name : String)
  | ofMessage (name : String)
  | ofMethod (name : String)
  deriving Repr, DecidableEq

/-- A reference or shape in the schema that cannot be resolved. -/
inductive SchemaFault where
  | missingFile
  | noModuleName
  | malformedMapEntry
  | missingForm (target form : String)
  | unknownSibling (rule field : String)
  | noInbound (request : String)
  | unknownPathParameter (name request : String)
  | compositePathParameter (name : String)
  | unknownHeader (name request : String)
  | unknownBody (selector request : String)
  deriving Repr, DecidableEq

/-- An annotation that contradicts another one or what it annotates. -/
inductive AnnotationFault where
  | bitflagKind
  | bitflagCardinality
  | bitflagWithoutEnum
  | jsonTag
  | namelessTag
  | tagName (name : String)
  | tagValue (name : String)
  | customTypeAlone
  | diveOnSingle
  | severalPresenceRules (names : List String)
  | emptyCondition (rule : String)
  | mixedCondition (rule : String)
  | incomparableCollection (sibling : String)
  | incomparable (sibling value : String)
  | boundOnNonNumber
  | negativeBound (bound : String) (value : Int)
  | matchWithoutPattern
  | ruleWithoutArguments (rule : String)
  | ruleWithArguments (rule : String)
  | unsupportedVerb (verb : String)
  | relativePath (path : String)
  | namelessScheme
  deriving Repr, DecidableEq

/-- A name that stands for nothing known. -/
inductive LookupFault where
  | ruleReference (rule reference : String)
  | customType (field reference : String)
  | customBind (field reference : String)
  | unregisteredRule (field rule : String)
  | unknownPackage (qualifier : String)
  deriving Repr, DecidableEq

/-- A field type outside the supported ones. -/
inductive TypeFault where
  | mapKey (field kind : String)
  | unknownMessage (field target : String)
  deriving Repr, DecidableEq

/-- A fault of the output rather than of the input. -/
inductive CodeFault where
  | nothingToGenerate
  | unbalancedMap (type : String)
  | companionType (field type : String)
  | companionFile
  deriving Repr, DecidableEq

/-- A request that cannot be read. -/
inductive DecodeFault where
  | request
  | descriptors
  deriving Repr, DecidableEq

inductive GenError where
  | options (site : OptionSite) (fault : OptionFault)
  | extension (name : String)
  | fieldType (fault : TypeFault)
  | config (fault : ConfigFault)
  | code (fault : CodeFault)
  | decode (fault : DecodeFault)
  | schema (subject : String) (fault : SchemaFault)
  | annotated (subject : String) (fault : AnnotationFault)
  | lookup (fault : LookupFault)
  /-- A name that is no identifier of the companion language, or a type that has no layout. -/
  | unspeakable
  deriving Repr

def ConfigFault.message : ConfigFault → String
  | unknownDatabase value => "unknown db kind `" ++ value ++ "` (expected none, mongo or gorm)"
  | unknownRuleFlag rule flag =>
    "rule `" ++ rule ++ "`: unknown flag `" ++ flag ++ "` (expected `args`)"
  | malformedRule spec => "rule `" ++ spec ++ "` must have the form name:qualified.Ref[:args]"
  | emptyValue key => "`" ++ key ++ "` must not be empty"
  | notBoolean key value => "`" ++ key ++ "` expects a boolean, got `" ++ value ++ "`"
  | unknownAddon name => "unknown addon `" ++ name ++ "`"
  | unknownKey key => "unknown parameter `" ++ key ++ "`"

def OptionFault.message : OptionFault → String
  | noValue => "option has no value"
  | notAggregate => "expected an aggregate value"
  | unknownKey owner key => "unknown " ++ owner ++ " option `" ++ key ++ "`"
  | wantedText found => "expected a string, found " ++ found.echo
  | wantedFlagToken found => "expected a boolean, found `" ++ found ++ "`"
  | wantedFlag found => "expected a boolean, found " ++ found.echo
  | wantedIntegerToken found => "expected an integer, found `" ++ found ++ "`"
  | wantedInteger found => "expected an integer, found " ++ found.echo
  | wantedMessage found => "expected a message, found " ++ found.echo
  | unknownNaming name => "unknown naming `" ++ name ++ "`"
  | unknownAuthMode name => "unknown auth mode `" ++ name ++ "`"
  | unclosedMessage => "unterminated message"
  | unclosedList => "unterminated list"
  | unclosedText => "unterminated string"
  | unclosedEscape => "unterminated escape"
  | wantedKey offset found =>
    "expected a field name at offset " ++ toString offset ++ ", found Some(" ++
      Text.echoChar found ++ ")"
  | wantedValue => "expected a value"
  | wantedValueAt offset => "expected a value at offset " ++ toString offset

def OptionSite.label : OptionSite → String
  | ofField message name => "field " ++ message ++ "." ++ name
  | ofMessage name => "message " ++ name
  | ofMethod name => "method " ++ name

def SchemaFault.message : SchemaFault → String
  | missingFile => "file to generate is missing from the request"
  | noModuleName => "cannot resolve a module name: set `package` or `option go_package`"
  | malformedMapEntry => "malformed map entry"
  | missingForm target form =>
    "references " ++ target ++ " which has no " ++ form ++
      " form; rename it with a layer suffix or hide the field"
  | unknownSibling rule field => rule ++ " references unknown field `" ++ field ++ "`"
  | noInbound request =>
    "request type " ++ request ++ " has no inbound form; name it with the request suffix"
  | unknownPathParameter name request =>
    "path parameter `" ++ name ++ "` is not a field of " ++ request
  | compositePathParameter name => "path parameter `" ++ name ++ "` must bind a scalar field"
  | unknownHeader name request => "header `" ++ name ++ "` is not a field of " ++ request
  | unknownBody selector request =>
    "body selector `" ++ selector ++ "` is not a field of " ++ request

def AnnotationFault.message : AnnotationFault → String
  | bitflagKind => "bitflag fields must be uint64"
  | bitflagCardinality => "bitflag fields cannot be optional, repeated or maps"
  | bitflagWithoutEnum => "bitflag requires the enum holding the flag values"
  | jsonTag => "custom json tags are not allowed; json tags are generated from field names"
  | namelessTag => "custom tag without a name"
  | tagName name => "custom tag name `" ++ name ++ "` is not a valid struct tag key"
  | tagValue name => "custom tag `" ++ name ++ "` value cannot contain quotes or backticks"
  | customTypeAlone => "custom_type requires a custom_bind converter"
  | diveOnSingle => "dive is only valid on repeated fields"
  | severalPresenceRules names => "more than one presence rule set: " ++ ", ".intercalate names
  | emptyCondition rule => rule ++ " needs at least one field"
  | mixedCondition rule => rule ++ " cannot combine `all` and `any`"
  | incomparableCollection sibling =>
    "cannot compare repeated or map field `" ++ sibling ++ "` with a value in a presence condition"
  | incomparable sibling value =>
    "cannot compare field `" ++ sibling ++ "` with `" ++ value ++ "` in a presence condition"
  | boundOnNonNumber => "min/max require a numeric field"
  | negativeBound bound value =>
    bound ++ " bound " ++ toString value ++ " is negative on an unsigned field"
  | matchWithoutPattern => "match requires at least one pattern"
  | ruleWithoutArguments rule => "rule `" ++ rule ++ "` requires arguments"
  | ruleWithArguments rule => "rule `" ++ rule ++ "` takes no arguments"
  | unsupportedVerb verb => "unsupported HTTP method `" ++ verb ++ "`"
  | relativePath path => "endpoint path `" ++ path ++ "` must start with `/`"
  | namelessScheme => "custom auth mode requires a custom scheme name"

def LookupFault.message : LookupFault → String
  | ruleReference rule reference =>
    "rule `" ++ rule ++ "`: `" ++ reference ++ "` is not a fully qualified reference"
  | customType field reference =>
    field ++ ": custom_type `" ++ reference ++ "` is not a fully qualified reference"
  | customBind field reference =>
    field ++ ": custom_bind `" ++ reference ++ "` is not a fully qualified reference"
  | unregisteredRule field rule =>
    field ++ ": validation rule `" ++ rule ++ "` is not registered"
  | unknownPackage qualifier => "no import known for package `" ++ qualifier ++ "`"

def TypeFault.message : TypeFault → String
  | mapKey field kind => field ++ ": map key " ++ kind
  | unknownMessage field target => field ++ " references unknown message " ++ target

def CodeFault.message : CodeFault → String
  | nothingToGenerate => "request names no files to generate"
  | unbalancedMap type => "unbalanced map type `" ++ type ++ "`"
  | companionType field type => field ++ ": cannot render `" ++ type ++ "` as a Rust type: "
  | companionFile => "rust/domain: "

def DecodeFault.message : DecodeFault → String
  | request => "CodeGeneratorRequest: "
  | descriptors => "Failed to build descriptor pool: "

def GenError.message : GenError → String
  | options site fault =>
    "Failed to parse options: " ++ site.label ++ ": " ++ fault.message
  | extension name => "Failed to parse options: " ++ name ++ ": "
  | fieldType fault => "Unknown field type: " ++ fault.message
  | config fault => "Invalid configuration: " ++ fault.message
  | code fault => "Code generation failed: " ++ fault.message
  | decode fault => "Decode error: " ++ fault.message
  | schema subject fault => "Schema error in " ++ subject ++ ": " ++ fault.message
  | annotated subject fault => "Invalid annotation on " ++ subject ++ ": " ++ fault.message
  | lookup fault => "Lookup failed: " ++ fault.message
  | unspeakable => ""

end Laminate
