import Laminate.Annotation.Slot

/-! The slots of every annotation: keys as written, numbers as encoded. -/
namespace Laminate.Annotation

open Slot

def layerFieldTable (owner : String) : Table LayerField where
  owner := owner
  slots := [
    text "name" 1 fun v o => { o with name := v },
    flag "allow_empty" 2 fun v o => { o with allowEmpty := v }]

def bitflagTable : Table Bitflag where
  owner := "bitflag"
  slots := [
    text "enum" 1 fun v o => { o with enum := v },
    text "prefix" 2 fun v o => { o with flagPrefix := v }]

def outboundTable : Table OutboundField where
  owner := "outbound"
  slots := [
    text "name" 1 fun v o => { o with name := v },
    flag "allow_empty" 2 fun v o => { o with allowEmpty := v },
    flag "hide" 3 fun v o => { o with hide := v },
    text "custom_type" 4 fun v o => { o with customType := v },
    text "custom_bind" 5 fun v o => { o with customBind := v },
    part "bitflag" 6 bitflagTable (·.bitflag) fun v o => { o with bitflag := some v }]

def fieldValueTable : Table FieldValue where
  owner := "condition pair"
  slots := [
    text "field" 1 fun v o => { o with field := v },
    text "value" 2 fun v o => { o with value := v }]

def conditionTable : Table Condition where
  owner := "condition"
  slots := [
    parts "all" 1 fieldValueTable fun v o => { o with all := o.all ++ [v] },
    parts "any" 2 fieldValueTable fun v o => { o with any := o.any ++ [v] }]

def matchTable : Table MatchRule where
  owner := "match"
  slots := [texts "patterns" 1 fun v o => { o with patterns := o.patterns ++ [v] }]

def namedRuleTable : Table NamedRule where
  owner := "rule"
  slots := [
    text "name" 1 fun v o => { o with name := v },
    texts "args" 2 fun v o => { o with args := o.args ++ [v] }]

def validateTable : Table ValidateRules where
  owner := "validate"
  slots := [
    flag "required" 1 fun v o => { o with required := v },
    part "required_if" 2 conditionTable (·.requiredIf) fun v o => { o with requiredIf := some v },
    part "required_if_not" 3 conditionTable (·.requiredIfNot)
      fun v o => { o with requiredIfNot := some v },
    part "required_with" 4 conditionTable (·.requiredWith)
      fun v o => { o with requiredWith := some v },
    part "required_without" 5 conditionTable (·.requiredWithout)
      fun v o => { o with requiredWithout := some v },
    integer "min_len" 6 fun v o => { o with minLen := some v },
    integer "max_len" 7 fun v o => { o with maxLen := some v },
    integer "min" 8 fun v o => { o with min := some v },
    integer "max" 9 fun v o => { o with max := some v },
    flag "dive" 10 fun v o => { o with dive := v },
    part "match" 11 matchTable (·.matching) fun v o => { o with matching := some v },
    parts "rules" 12 namedRuleTable fun v o => { o with rules := o.rules ++ [v] }]

def columnTable : Table ColumnOptions where
  owner := "db"
  slots := [
    text "column_name" 1 fun v o => { o with columnName := v },
    flag "primary_key" 2 fun v o => { o with primaryKey := v },
    flag "auto_increment" 3 fun v o => { o with autoIncrement := v },
    flag "unique" 4 fun v o => { o with unique := v },
    flag "index" 5 fun v o => { o with index := v },
    flag "ignore" 6 fun v o => { o with ignore := v }]

def tagTable : Table Tag where
  owner := "tag"
  slots := [
    text "name" 1 fun v o => { o with name := v },
    text "value" 2 fun v o => { o with value := v }]

def fieldTable : Table FieldOptions where
  owner := "field"
  slots := [
    part "domain" 1 (layerFieldTable "domain") (·.domain) fun v o => { o with domain := some v },
    part "inbound" 2 (layerFieldTable "inbound") (·.inbound)
      fun v o => { o with inbound := some v },
    part "outbound" 3 outboundTable (·.outbound) fun v o => { o with outbound := some v },
    part "validate" 4 validateTable (·.validate) fun v o => { o with validate := some v },
    part "db" 5 columnTable (·.column) fun v o => { o with column := some v },
    parts "tags" 6 tagTable fun v o => { o with tags := o.tags ++ [v] }]

/-- The casing number of a name or short alias. -/
def namingNumber (name : String) : Except OptionFault Int :=
  if name = "NAMING_UNSPECIFIED" then .ok 0
  else if name ∈ ["NAMING_SNAKE_CASE", "SNAKE_CASE", "snake_case", "snake"] then .ok 1
  else if name ∈ ["NAMING_CAMEL_CASE", "CAMEL_CASE", "camel_case", "camel"] then .ok 2
  else .error (.unknownNaming name)

/-- The authentication number of a name or short alias. -/
def authModeNumber (name : String) : Except OptionFault Int :=
  if name = "AUTH_MODE_UNSPECIFIED" then .ok 0
  else if name ∈ ["AUTH_MODE_PUBLIC", "PUBLIC", "public"] then .ok 1
  else if name ∈ ["AUTH_MODE_BEARER", "BEARER", "bearer"] then .ok 2
  else if name ∈ ["AUTH_MODE_CUSTOM", "CUSTOM", "custom"] then .ok 3
  else .error (.unknownAuthMode name)

def layerTable : Table LayerOptions where
  owner := "layer"
  slots := [
    choice "naming" 1 namingNumber fun v o => { o with naming := v },
    flag "hide" 2 fun v o => { o with hide := v }]

def messageTable : Table MessageOptions where
  owner := "message"
  slots := [
    part "domain" 1 layerTable (·.domain) fun v o => { o with domain := some v },
    part "outbound" 2 layerTable (·.outbound) fun v o => { o with outbound := some v },
    part "inbound" 3 layerTable (·.inbound) fun v o => { o with inbound := some v },
    texts "custom_code" 4 fun v o => { o with customCode := o.customCode ++ [v] }]

def endpointTable : Table EndpointOptions where
  owner := "endpoint"
  slots := [
    text "method" 1 fun v o => { o with method := v },
    text "path" 2 fun v o => { o with path := v },
    text "body" 3 fun v o => { o with body := v },
    texts "headers" 4 fun v o => { o with headers := o.headers ++ [v] }]

def authTable : Table AuthOptions where
  owner := "auth"
  slots := [
    choice "mode" 1 authModeNumber fun v o => { o with mode := v },
    text "custom" 2 fun v o => { o with custom := v }]

def methodTable : Table MethodOptions where
  owner := "method"
  slots := [
    part "endpoint" 1 endpointTable (·.endpoint) fun v o => { o with endpoint := some v },
    part "auth" 2 authTable (·.auth) fun v o => { o with auth := some v }]

end Laminate.Annotation
