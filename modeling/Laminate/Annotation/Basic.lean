/-! What a schema author may annotate: fields, messages and methods.
An empty text, a false flag and an empty list mean that nothing was said. -/
namespace Laminate.Annotation

/-- Name and emptiness of a field in the domain or the inbound layer. -/
structure LayerField where
  name : String := ""
  allowEmpty : Bool := false
  deriving Repr, DecidableEq, Inhabited

/-- The enum whose values name the bits of an integer field. -/
structure Bitflag where
  enum : String := ""
  flagPrefix : String := ""
  deriving Repr, DecidableEq, Inhabited

structure OutboundField where
  name : String := ""
  allowEmpty : Bool := false
  hide : Bool := false
  customType : String := ""
  customBind : String := ""
  bitflag : Option Bitflag := none
  deriving Repr, DecidableEq, Inhabited

/-- A sibling field and the value it is compared with. -/
structure FieldValue where
  field : String := ""
  value : String := ""
  deriving Repr, DecidableEq, Inhabited

structure Condition where
  all : List FieldValue := []
  any : List FieldValue := []
  deriving Repr, DecidableEq, Inhabited

structure MatchRule where
  patterns : List String := []
  deriving Repr, DecidableEq, Inhabited

/-- A registered rule by name, with its arguments as written. -/
structure NamedRule where
  name : String := ""
  args : List String := []
  deriving Repr, DecidableEq, Inhabited

structure ValidateRules where
  required : Bool := false
  requiredIf : Option Condition := none
  requiredIfNot : Option Condition := none
  requiredWith : Option Condition := none
  requiredWithout : Option Condition := none
  minLen : Option Int := none
  maxLen : Option Int := none
  min : Option Int := none
  max : Option Int := none
  dive : Bool := false
  matching : Option MatchRule := none
  rules : List NamedRule := []
  deriving Repr, DecidableEq, Inhabited

structure ColumnOptions where
  columnName : String := ""
  primaryKey : Bool := false
  autoIncrement : Bool := false
  unique : Bool := false
  index : Bool := false
  ignore : Bool := false
  deriving Repr, DecidableEq, Inhabited

/-- A custom struct tag. -/
structure Tag where
  name : String := ""
  value : String := ""
  deriving Repr, DecidableEq, Inhabited

structure FieldOptions where
  domain : Option LayerField := none
  inbound : Option LayerField := none
  outbound : Option OutboundField := none
  validate : Option ValidateRules := none
  column : Option ColumnOptions := none
  tags : List Tag := []
  deriving Repr, DecidableEq, Inhabited

/-- Key casing and visibility of a message in one layer; the casing is kept by number. -/
structure LayerOptions where
  naming : Int := 0
  hide : Bool := false
  deriving Repr, DecidableEq, Inhabited

structure MessageOptions where
  domain : Option LayerOptions := none
  outbound : Option LayerOptions := none
  inbound : Option LayerOptions := none
  customCode : List String := []
  deriving Repr, DecidableEq, Inhabited

structure EndpointOptions where
  method : String := ""
  path : String := ""
  body : String := ""
  headers : List String := []
  deriving Repr, DecidableEq, Inhabited

/-- Authentication of a method; the mode is kept by number. -/
structure AuthOptions where
  mode : Int := 0
  custom : String := ""
  deriving Repr, DecidableEq, Inhabited

structure MethodOptions where
  endpoint : Option EndpointOptions := none
  auth : Option AuthOptions := none
  deriving Repr, DecidableEq, Inhabited

end Laminate.Annotation
