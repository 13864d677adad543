import Laminate.Code.Expr
import Laminate.Form.Names
import Laminate.Text.Number

/-! Validation of inbound fields: when a field must be present, and what its content must be. -/
namespace Laminate.Form

open Laminate.Text Laminate.Schema Laminate.Code Laminate.Annotation

/-- A conditional way of being required. -/
inductive ConditionKind where
  | whenEqual | whenDifferent | whenGiven | whenMissing
  deriving Repr, DecidableEq, Inhabited

def ConditionKind.key : ConditionKind → String
  | whenEqual => "required_if"
  | whenDifferent => "required_if_not"
  | whenGiven => "required_with"
  | whenMissing => "required_without"

/-- Always required, or under a condition. -/
inductive Presence where
  | always
  | under (condition : Expr)
  deriving Repr, Inhabited

inductive ContentRule where
  | length (min max : Int)
  /-- `Min` or `Max`, for a numeric type. -/
  | bound (name : String) (scalar : Builtin) (value : Int)
  | pattern (text : String)
  /-- A registered rule; without arguments it is a rule itself, with arguments it makes one. -/
  | named (package function : String) (args : List Expr)
  deriving Repr, Inhabited

structure Validation where
  /-- Identifier of the field in the inbound struct. -/
  target : String
  presence : Option Presence
  content : List ContentRule
  /-- Whether the content rules hold for each item. -/
  dive : Bool
  /-- Where the registered rules in use come from, each once. -/
  references : List String
  deriving Repr, Inhabited

/-! ### As code -/

/-- A name of the validation package. -/
def validationName (name : String) : Expr := .member "validation" name

def Presence.expr : Presence → Expr
  | always => validationName "Required"
  | under condition => .call (.select (validationName "Required") "When") [condition]

/-- An integer constant. -/
def integerExpr (n : Int) : Expr := .verbatim (toString n)

def ContentRule.expr : ContentRule → Expr
  | length min max => .call (validationName "Length") [integerExpr min, integerExpr max]
  | bound name scalar value =>
    .call (validationName name) [.call (.ident scalar.text) [integerExpr value]]
  | pattern text =>
    .call (validationName "Match") [.call (.member "regexp" "MustCompile") [.rawText text]]
  | named package function [] => .member package function
  | named package function args => .call (.member package function) args

namespace Validation

/-- The rules in order, content rules wrapped where they hold for each item. -/
def rules (validation : Validation) : List Expr :=
  let content := validation.content.map ContentRule.expr
  (validation.presence.map Presence.expr).toList ++
    if validation.dive ∧ content ≠ [] then [.call (validationName "Each") content] else content

/-- The field of the inbound struct that is validated. -/
def inboundField (name : String) : Expr := .select (.ident "in") name

def expr (validation : Validation) : Expr :=
  .call (validationName "Field") (.address (inboundField validation.target) :: validation.rules)

end Validation

/-! ### From annotations -/

/-- The constant that a sibling's value is compared with. -/
def comparand (field sibling : Field) (value : String) : Except GenError Expr :=
  let incomparable : Except GenError Expr :=
    .error (.annotated field.path (.incomparable sibling.name value))
  if sibling.isRepeated || sibling.isMap then
    .error (.annotated field.path (.incomparableCollection sibling.name))
  else match sibling.kind with
    | .enum .. => .ok (.text value)
    | .scalar .string => .ok (.text value)
    | .scalar .bool =>
      if value = "true" ∨ value = "false" then .ok (.verbatim value) else incomparable
    | .scalar scalar =>
      if scalar.isNumeric && isNumber value then .ok (.verbatim value) else incomparable
    | _ => incomparable

/-- A sibling compared with a constant; an optional sibling is looked behind only when there. -/
def comparison (isOptional equal : Bool) (target value : Expr) : Expr :=
  match isOptional, equal with
  | false, true => .binary .eq target value
  | false, false => .binary .ne target value
  | true, true =>
    .binary .and (.binary .ne target (.ident "nil")) (.binary .eq (.deref target) value)
  | true, false =>
    .binary .or (.binary .eq target (.ident "nil")) (.binary .ne (.deref target) value)

/-- One pair of a condition as code. -/
def conditionTerm (message : Message) (field : Field) (kind : ConditionKind) (pair : FieldValue) :
    Except GenError Expr :=
  match message.field? pair.field with
  | none => .error (.schema field.path (.unknownSibling kind.key pair.field))
  | some sibling =>
    let target := Validation.inboundField (FieldNames.of message sibling).domain
    let isEmpty := Expr.call (validationName "IsEmpty") [target]
    match kind with
    | .whenGiven => .ok (.not isEmpty)
    | .whenMissing => .ok isEmpty
    | .whenEqual =>
      (comparand field sibling pair.value).map (comparison sibling.isOptional true target)
    | .whenDifferent =>
      (comparand field sibling pair.value).map (comparison sibling.isOptional false target)

/-- A condition as code: either all of its pairs or any of them. -/
def conditionExpr (message : Message) (field : Field) (kind : ConditionKind)
    (condition : Condition) : Except GenError Expr :=
  let terms (op : BinaryOp) (pairs : List FieldValue) : Except GenError Expr :=
    (pairs.mapM (conditionTerm message field kind)).map fun es =>
      (Expr.joined op es).getD (.ident "")
  match condition.all, condition.any with
  | [], [] => .error (.annotated field.path (.emptyCondition kind.key))
  | all, [] => terms .and all
  | [], any => terms .or any
  | _ :: _, _ :: _ => .error (.annotated field.path (.mixedCondition kind.key))

/-- The ways in which a field is declared required, in a fixed order. -/
def declaredPresence (rules : ValidateRules) : List (String × Option (ConditionKind × Condition)) :=
  let conditional (kind : ConditionKind) (condition : Option Condition) :=
    (condition.map fun c => (kind.key, some (kind, c))).toList
  (if rules.required then [("required", none)] else []) ++
    conditional .whenEqual rules.requiredIf ++
    conditional .whenDifferent rules.requiredIfNot ++
    conditional .whenGiven rules.requiredWith ++
    conditional .whenMissing rules.requiredWithout

def presenceOf (message : Message) (field : Field) (rules : ValidateRules) :
    Except GenError (Option Presence) :=
  match declaredPresence rules with
  | [] => .ok none
  | [(_, none)] => .ok (some .always)
  | [(_, some (kind, condition))] =>
    (conditionExpr message field kind condition).map fun e => some (.under e)
  | several => .error (.annotated field.path (.severalPresenceRules (several.map (·.1))))

/-- A bound on a numeric field. -/
def boundRule (field : Field) (name : String) (value : Int) : Except GenError ContentRule :=
  match field.kind with
  | .scalar scalar =>
    if !scalar.isNumeric then .error (.annotated field.path .boundOnNonNumber)
    else if value < 0 ∧ scalar.isUnsigned then
      .error (.annotated field.path (.negativeBound name value))
    else .ok (.bound name scalar value)
  | _ => .error (.annotated field.path .boundOnNonNumber)

def boundRules (field : Field) (name : String) : Option Int → Except GenError (List ContentRule)
  | none => .ok []
  | some value => (boundRule field name value).map ([·])

def lengthRules (rules : ValidateRules) : List ContentRule :=
  if rules.minLen.isSome || rules.maxLen.isSome then
    [.length (rules.minLen.getD 0) (rules.maxLen.getD 0)]
  else []

def patternRules (field : Field) : Option MatchRule → Except GenError (List ContentRule)
  | none => .ok []
  | some rule =>
    if rule.patterns.isEmpty then .error (.annotated field.path .matchWithoutPattern)
    else .ok (rule.patterns.map .pattern)

/-- Numbers pass as they are; everything else is text. -/
def ruleArgument (arg : String) : Expr := if isNumber arg then .verbatim arg else .text arg

/-- The registered rule that an annotation names, with arguments exactly if it wants some. -/
def namedRule (settings : Settings) (field : Field) (named : NamedRule) :
    Except GenError (Rule × ContentRule) :=
  match settings.rule? named.name with
  | none => .error (.lookup (.unregisteredRule field.path named.name))
  | some rule =>
    if rule.requiresArgs && named.args.isEmpty then
      .error (.annotated field.path (.ruleWithoutArguments named.name))
    else if !rule.requiresArgs && !named.args.isEmpty then
      .error (.annotated field.path (.ruleWithArguments named.name))
    else .ok (rule, .named rule.package rule.function (named.args.map ruleArgument))

/-- Texts without repetitions, in order of first occurrence. -/
def firstOccurrences (texts : List String) : List String :=
  texts.foldl (fun seen t => if t ∈ seen then seen else seen ++ [t]) []

/-- The validation of a field of a request, if it declares any rule. -/
def Validation.of (settings : Settings) (message : Message) (field : Field) (names : FieldNames) :
    Except GenError (Option Validation) :=
  match field.options.validate with
  | none => .ok none
  | some rules => do
    let presence ← presenceOf message field rules
    let min ← boundRules field "Min" rules.min
    let max ← boundRules field "Max" rules.max
    let patterns ← patternRules field rules.matching
    let named ← rules.rules.mapM (namedRule settings field)
    let content := lengthRules rules ++ min ++ max ++ patterns ++ named.map (·.2)
    if rules.dive && !field.isRepeated then
      throw (.annotated field.path .diveOnSingle)
    if presence.isNone && content.isEmpty then return none
    return some {
      target := names.domain
      presence := presence
      content := content
      dive := rules.dive
      references := firstOccurrences (named.filterMap (·.1.reference)) }

end Laminate.Form
