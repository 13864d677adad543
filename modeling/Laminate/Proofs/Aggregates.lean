import Laminate.Annotation.Source
import Laminate.Proofs.Facets
import Laminate.Proofs.Rendering

/-! What annotations are made of, and that an aggregate option is read as the annotation that it
lists. The keys are those of the schema of annotations, in its order. -/
namespace Laminate.Annotation

open Slot.Follows

def layerFieldFacets : List (Facet LayerField) := [
  .text "name" rfl (·.name) fun v o => { o with name := v },
  .flag "allow_empty" rfl (·.allowEmpty) fun v o => { o with allowEmpty := v }]

lemma layerField_isMadeOf (owner : String) : (layerFieldTable owner).IsMadeOf layerFieldFacets where
  follows := by
    repeat' first | exact .nil | apply List.Forall₂.cons
    exacts [text, flag]
  nodup := by decide
  lens := by
    simp only [layerFieldFacets, List.forall_mem_cons]
    and_intros <;> first | exact ⟨fun _ _ => rfl, fun _ => rfl, fun _ _ _ => rfl⟩ | exact nofun
  frame := by
    simp only [layerFieldFacets, List.pairwise_cons, List.forall_mem_cons]
    and_intros <;> first | exact fun _ _ => rfl | exact .nil | exact nofun
  rebuild := fun _ _ => rfl
  get_default := by
    simp only [layerFieldFacets, List.forall_mem_cons]
    and_intros <;> first | rfl | exact nofun

def bitflagFacets : List (Facet Bitflag) := [
  .text "enum" rfl (·.enum) fun v o => { o with enum := v },
  .text "prefix" rfl (·.flagPrefix) fun v o => { o with flagPrefix := v }]

lemma bitflag_isMadeOf : bitflagTable.IsMadeOf bitflagFacets where
  follows := by
    repeat' first | exact .nil | apply List.Forall₂.cons
    exacts [text, text]
  nodup := by decide
  lens := by
    simp only [bitflagFacets, List.forall_mem_cons]
    and_intros <;> first | exact ⟨fun _ _ => rfl, fun _ => rfl, fun _ _ _ => rfl⟩ | exact nofun
  frame := by
    simp only [bitflagFacets, List.pairwise_cons, List.forall_mem_cons]
    and_intros <;> first | exact fun _ _ => rfl | exact .nil | exact nofun
  rebuild := fun _ _ => rfl
  get_default := by
    simp only [bitflagFacets, List.forall_mem_cons]
    and_intros <;> first | rfl | exact nofun

def outboundFacets : List (Facet OutboundField) := [
  .text "name" rfl (·.name) fun v o => { o with name := v },
  .flag "allow_empty" rfl (·.allowEmpty) fun v o => { o with allowEmpty := v },
  .flag "hide" rfl (·.hide) fun v o => { o with hide := v },
  .text "custom_type" rfl (·.customType) fun v o => { o with customType := v },
  .text "custom_bind" rfl (·.customBind) fun v o => { o with customBind := v },
  .part "bitflag" rfl bitflag_isMadeOf (·.bitflag) fun v o => { o with bitflag := v }]

lemma outbound_isMadeOf : outboundTable.IsMadeOf outboundFacets where
  follows := by
    repeat' first | exact .nil | apply List.Forall₂.cons
    exacts [text, flag, flag, text, text, part fun _ => rfl]
  nodup := by decide
  lens := by
    simp only [outboundFacets, List.forall_mem_cons]
    and_intros <;> first | exact ⟨fun _ _ => rfl, fun _ => rfl, fun _ _ _ => rfl⟩ | exact nofun
  frame := by
    simp only [outboundFacets, List.pairwise_cons, List.forall_mem_cons]
    and_intros <;> first | exact fun _ _ => rfl | exact .nil | exact nofun
  rebuild := fun _ _ => rfl
  get_default := by
    simp only [outboundFacets, List.forall_mem_cons]
    and_intros <;> first | rfl | exact nofun

def fieldValueFacets : List (Facet FieldValue) := [
  .text "field" rfl (·.field) fun v o => { o with field := v },
  .text "value" rfl (·.value) fun v o => { o with value := v }]

lemma fieldValue_isMadeOf : fieldValueTable.IsMadeOf fieldValueFacets where
  follows := by
    repeat' first | exact .nil | apply List.Forall₂.cons
    exacts [text, text]
  nodup := by decide
  lens := by
    simp only [fieldValueFacets, List.forall_mem_cons]
    and_intros <;> first | exact ⟨fun _ _ => rfl, fun _ => rfl, fun _ _ _ => rfl⟩ | exact nofun
  frame := by
    simp only [fieldValueFacets, List.pairwise_cons, List.forall_mem_cons]
    and_intros <;> first | exact fun _ _ => rfl | exact .nil | exact nofun
  rebuild := fun _ _ => rfl
  get_default := by
    simp only [fieldValueFacets, List.forall_mem_cons]
    and_intros <;> first | rfl | exact nofun

def conditionFacets : List (Facet Condition) := [
  .repeated "all" rfl (.message fieldValue_isMadeOf) (·.all) fun v o => { o with all := v },
  .repeated "any" rfl (.message fieldValue_isMadeOf) (·.any) fun v o => { o with any := v }]

lemma condition_isMadeOf : conditionTable.IsMadeOf conditionFacets where
  follows := by
    repeat' first | exact .nil | apply List.Forall₂.cons
    exacts [parts fun _ _ => rfl, parts fun _ _ => rfl]
  nodup := by decide
  lens := by
    simp only [conditionFacets, List.forall_mem_cons]
    and_intros <;> first | exact ⟨fun _ _ => rfl, fun _ => rfl, fun _ _ _ => rfl⟩ | exact nofun
  frame := by
    simp only [conditionFacets, List.pairwise_cons, List.forall_mem_cons]
    and_intros <;> first | exact fun _ _ => rfl | exact .nil | exact nofun
  rebuild := fun _ _ => rfl
  get_default := by
    simp only [conditionFacets, List.forall_mem_cons]
    and_intros <;> first | rfl | exact nofun

def matchRuleFacets : List (Facet MatchRule) := [
  .repeated "patterns" rfl .text (·.patterns) fun v o => { o with patterns := v }]

lemma matchRule_isMadeOf : matchTable.IsMadeOf matchRuleFacets where
  follows := by
    repeat' first | exact .nil | apply List.Forall₂.cons
    exacts [texts fun _ _ => rfl]
  nodup := by decide
  lens := by
    simp only [matchRuleFacets, List.forall_mem_cons]
    and_intros <;> first | exact ⟨fun _ _ => rfl, fun _ => rfl, fun _ _ _ => rfl⟩ | exact nofun
  frame := List.pairwise_singleton _ _
  rebuild := fun _ _ => rfl
  get_default := by
    simp only [matchRuleFacets, List.forall_mem_cons]
    and_intros <;> first | rfl | exact nofun

def namedRuleFacets : List (Facet NamedRule) := [
  .text "name" rfl (·.name) fun v o => { o with name := v },
  .repeated "args" rfl .text (·.args) fun v o => { o with args := v }]

lemma namedRule_isMadeOf : namedRuleTable.IsMadeOf namedRuleFacets where
  follows := by
    repeat' first | exact .nil | apply List.Forall₂.cons
    exacts [text, texts fun _ _ => rfl]
  nodup := by decide
  lens := by
    simp only [namedRuleFacets, List.forall_mem_cons]
    and_intros <;> first | exact ⟨fun _ _ => rfl, fun _ => rfl, fun _ _ _ => rfl⟩ | exact nofun
  frame := by
    simp only [namedRuleFacets, List.pairwise_cons, List.forall_mem_cons]
    and_intros <;> first | exact fun _ _ => rfl | exact .nil | exact nofun
  rebuild := fun _ _ => rfl
  get_default := by
    simp only [namedRuleFacets, List.forall_mem_cons]
    and_intros <;> first | rfl | exact nofun

def validateFacets : List (Facet ValidateRules) := [
  .flag "required" rfl (·.required) fun v o => { o with required := v },
  .part "required_if" rfl condition_isMadeOf (·.requiredIf) fun v o => { o with requiredIf := v },
  .part "required_if_not" rfl condition_isMadeOf (·.requiredIfNot)
    fun v o => { o with requiredIfNot := v },
  .part "required_with" rfl condition_isMadeOf (·.requiredWith)
    fun v o => { o with requiredWith := v },
  .part "required_without" rfl condition_isMadeOf (·.requiredWithout)
    fun v o => { o with requiredWithout := v },
  .integer "min_len" rfl (·.minLen) fun v o => { o with minLen := v },
  .integer "max_len" rfl (·.maxLen) fun v o => { o with maxLen := v },
  .integer "min" rfl (·.min) fun v o => { o with min := v },
  .integer "max" rfl (·.max) fun v o => { o with max := v },
  .flag "dive" rfl (·.dive) fun v o => { o with dive := v },
  .part "match" rfl matchRule_isMadeOf (·.matching) fun v o => { o with matching := v },
  .repeated "rules" rfl (.message namedRule_isMadeOf) (·.rules) fun v o => { o with rules := v }]

lemma validate_isMadeOf : validateTable.IsMadeOf validateFacets where
  follows := by
    repeat' first | exact .nil | apply List.Forall₂.cons
    exacts [flag, part fun _ => rfl, part fun _ => rfl, part fun _ => rfl, part fun _ => rfl,
      integer fun _ => rfl, integer fun _ => rfl, integer fun _ => rfl, integer fun _ => rfl,
      flag, part fun _ => rfl, parts fun _ _ => rfl]
  nodup := by decide
  lens := by
    simp only [validateFacets, List.forall_mem_cons]
    and_intros <;> first | exact ⟨fun _ _ => rfl, fun _ => rfl, fun _ _ _ => rfl⟩ | exact nofun
  frame := by
    simp only [validateFacets, List.pairwise_cons, List.forall_mem_cons]
    and_intros <;> first | exact fun _ _ => rfl | exact .nil | exact nofun
  rebuild := by
    intro a b
    cases b
    rfl
  get_default := by
    simp only [validateFacets, List.forall_mem_cons]
    and_intros <;> first | rfl | exact nofun

def columnFacets : List (Facet ColumnOptions) := [
  .text "column_name" rfl (·.columnName) fun v o => { o with columnName := v },
  .flag "primary_key" rfl (·.primaryKey) fun v o => { o with primaryKey := v },
  .flag "auto_increment" rfl (·.autoIncrement) fun v o => { o with autoIncrement := v },
  .flag "unique" rfl (·.unique) fun v o => { o with unique := v },
  .flag "index" rfl (·.index) fun v o => { o with index := v },
  .flag "ignore" rfl (·.ignore) fun v o => { o with ignore := v }]

lemma column_isMadeOf : columnTable.IsMadeOf columnFacets where
  follows := by
    repeat' first | exact .nil | apply List.Forall₂.cons
    exacts [text, flag, flag, flag, flag, flag]
  nodup := by decide
  lens := by
    simp only [columnFacets, List.forall_mem_cons]
    and_intros <;> first | exact ⟨fun _ _ => rfl, fun _ => rfl, fun _ _ _ => rfl⟩ | exact nofun
  frame := by
    simp only [columnFacets, List.pairwise_cons, List.forall_mem_cons]
    and_intros <;> first | exact fun _ _ => rfl | exact .nil | exact nofun
  rebuild := fun _ _ => rfl
  get_default := by
    simp only [columnFacets, List.forall_mem_cons]
    and_intros <;> first | rfl | exact nofun

def tagFacets : List (Facet Tag) := [
  .text "name" rfl (·.name) fun v o => { o with name := v },
  .text "value" rfl (·.value) fun v o => { o with value := v }]

lemma tag_isMadeOf : tagTable.IsMadeOf tagFacets where
  follows := by
    repeat' first | exact .nil | apply List.Forall₂.cons
    exacts [text, text]
  nodup := by decide
  lens := by
    simp only [tagFacets, List.forall_mem_cons]
    and_intros <;> first | exact ⟨fun _ _ => rfl, fun _ => rfl, fun _ _ _ => rfl⟩ | exact nofun
  frame := by
    simp only [tagFacets, List.pairwise_cons, List.forall_mem_cons]
    and_intros <;> first | exact fun _ _ => rfl | exact .nil | exact nofun
  rebuild := fun _ _ => rfl
  get_default := by
    simp only [tagFacets, List.forall_mem_cons]
    and_intros <;> first | rfl | exact nofun

def fieldFacets : List (Facet FieldOptions) := [
  .part "domain" rfl (layerField_isMadeOf "domain") (·.domain) fun v o => { o with domain := v },
  .part "inbound" rfl (layerField_isMadeOf "inbound") (·.inbound)
    fun v o => { o with inbound := v },
  .part "outbound" rfl outbound_isMadeOf (·.outbound) fun v o => { o with outbound := v },
  .part "validate" rfl validate_isMadeOf (·.validate) fun v o => { o with validate := v },
  .part "db" rfl column_isMadeOf (·.column) fun v o => { o with column := v },
  .repeated "tags" rfl (.message tag_isMadeOf) (·.tags) fun v o => { o with tags := v }]

lemma field_isMadeOf : fieldTable.IsMadeOf fieldFacets where
  follows := by
    repeat' first | exact .nil | apply List.Forall₂.cons
    exacts [part fun _ => rfl, part fun _ => rfl, part fun _ => rfl, part fun _ => rfl, part
      fun _ => rfl, parts fun _ _ => rfl]
  nodup := by decide
  lens := by
    simp only [fieldFacets, List.forall_mem_cons]
    and_intros <;> first | exact ⟨fun _ _ => rfl, fun _ => rfl, fun _ _ _ => rfl⟩ | exact nofun
  frame := by
    simp only [fieldFacets, List.pairwise_cons, List.forall_mem_cons]
    and_intros <;> first | exact fun _ _ => rfl | exact .nil | exact nofun
  rebuild := fun _ _ => rfl
  get_default := by
    simp only [fieldFacets, List.forall_mem_cons]
    and_intros <;> first | rfl | exact nofun

/-- The names that the schema of annotations gives to casings. -/
def namingNames : Facet.Names namingNumber where
  names := [(0, "NAMING_UNSPECIFIED"), (1, "NAMING_SNAKE_CASE"), (2, "NAMING_CAMEL_CASE")]
  writable := by decide
  chosen := by
    simp only [List.forall_mem_cons]
    and_intros <;> first | rfl | exact nofun

def layerFacets : List (Facet LayerOptions) := [
  .choice "naming" rfl namingNames (·.naming) fun v o => { o with naming := v },
  .flag "hide" rfl (·.hide) fun v o => { o with hide := v }]

lemma layer_isMadeOf : layerTable.IsMadeOf layerFacets where
  follows := by
    repeat' first | exact .nil | apply List.Forall₂.cons
    exacts [choice, flag]
  nodup := by decide
  lens := by
    simp only [layerFacets, List.forall_mem_cons]
    and_intros <;> first | exact ⟨fun _ _ => rfl, fun _ => rfl, fun _ _ _ => rfl⟩ | exact nofun
  frame := by
    simp only [layerFacets, List.pairwise_cons, List.forall_mem_cons]
    and_intros <;> first | exact fun _ _ => rfl | exact .nil | exact nofun
  rebuild := fun _ _ => rfl
  get_default := by
    simp only [layerFacets, List.forall_mem_cons]
    and_intros <;> first | rfl | exact nofun

def messageFacets : List (Facet MessageOptions) := [
  .part "domain" rfl layer_isMadeOf (·.domain) fun v o => { o with domain := v },
  .part "outbound" rfl layer_isMadeOf (·.outbound) fun v o => { o with outbound := v },
  .part "inbound" rfl layer_isMadeOf (·.inbound) fun v o => { o with inbound := v },
  .repeated "custom_code" rfl .text (·.customCode) fun v o => { o with customCode := v }]

lemma message_isMadeOf : messageTable.IsMadeOf messageFacets where
  follows := by
    repeat' first | exact .nil | apply List.Forall₂.cons
    exacts [part fun _ => rfl, part fun _ => rfl, part fun _ => rfl, texts fun _ _ => rfl]
  nodup := by decide
  lens := by
    simp only [messageFacets, List.forall_mem_cons]
    and_intros <;> first | exact ⟨fun _ _ => rfl, fun _ => rfl, fun _ _ _ => rfl⟩ | exact nofun
  frame := by
    simp only [messageFacets, List.pairwise_cons, List.forall_mem_cons]
    and_intros <;> first | exact fun _ _ => rfl | exact .nil | exact nofun
  rebuild := fun _ _ => rfl
  get_default := by
    simp only [messageFacets, List.forall_mem_cons]
    and_intros <;> first | rfl | exact nofun

def endpointFacets : List (Facet EndpointOptions) := [
  .text "method" rfl (·.method) fun v o => { o with method := v },
  .text "path" rfl (·.path) fun v o => { o with path := v },
  .text "body" rfl (·.body) fun v o => { o with body := v },
  .repeated "headers" rfl .text (·.headers) fun v o => { o with headers := v }]

lemma endpoint_isMadeOf : endpointTable.IsMadeOf endpointFacets where
  follows := by
    repeat' first | exact .nil | apply List.Forall₂.cons
    exacts [text, text, text, texts fun _ _ => rfl]
  nodup := by decide
  lens := by
    simp only [endpointFacets, List.forall_mem_cons]
    and_intros <;> first | exact ⟨fun _ _ => rfl, fun _ => rfl, fun _ _ _ => rfl⟩ | exact nofun
  frame := by
    simp only [endpointFacets, List.pairwise_cons, List.forall_mem_cons]
    and_intros <;> first | exact fun _ _ => rfl | exact .nil | exact nofun
  rebuild := fun _ _ => rfl
  get_default := by
    simp only [endpointFacets, List.forall_mem_cons]
    and_intros <;> first | rfl | exact nofun

/-- The names that the schema of annotations gives to modes of authentication. -/
def authModeNames : Facet.Names authModeNumber where
  names := [(0, "AUTH_MODE_UNSPECIFIED"), (1, "AUTH_MODE_PUBLIC"), (2, "AUTH_MODE_BEARER"),
    (3, "AUTH_MODE_CUSTOM")]
  writable := by decide
  chosen := by
    simp only [List.forall_mem_cons]
    and_intros <;> first | rfl | exact nofun

def authFacets : List (Facet AuthOptions) := [
  .choice "mode" rfl authModeNames (·.mode) fun v o => { o with mode := v },
  .text "custom" rfl (·.custom) fun v o => { o with custom := v }]

lemma auth_isMadeOf : authTable.IsMadeOf authFacets where
  follows := by
    repeat' first | exact .nil | apply List.Forall₂.cons
    exacts [choice, text]
  nodup := by decide
  lens := by
    simp only [authFacets, List.forall_mem_cons]
    and_intros <;> first | exact ⟨fun _ _ => rfl, fun _ => rfl, fun _ _ _ => rfl⟩ | exact nofun
  frame := by
    simp only [authFacets, List.pairwise_cons, List.forall_mem_cons]
    and_intros <;> first | exact fun _ _ => rfl | exact .nil | exact nofun
  rebuild := fun _ _ => rfl
  get_default := by
    simp only [authFacets, List.forall_mem_cons]
    and_intros <;> first | rfl | exact nofun

def methodFacets : List (Facet MethodOptions) := [
  .part "endpoint" rfl endpoint_isMadeOf (·.endpoint) fun v o => { o with endpoint := v },
  .part "auth" rfl auth_isMadeOf (·.auth) fun v o => { o with auth := v }]

lemma method_isMadeOf : methodTable.IsMadeOf methodFacets where
  follows := by
    repeat' first | exact .nil | apply List.Forall₂.cons
    exacts [part fun _ => rfl, part fun _ => rfl]
  nodup := by decide
  lens := by
    simp only [methodFacets, List.forall_mem_cons]
    and_intros <;> first | exact ⟨fun _ _ => rfl, fun _ => rfl, fun _ _ _ => rfl⟩ | exact nofun
  frame := by
    simp only [methodFacets, List.pairwise_cons, List.forall_mem_cons]
    and_intros <;> first | exact fun _ _ => rfl | exact .nil | exact nofun
  rebuild := fun _ _ => rfl
  get_default := by
    simp only [methodFacets, List.forall_mem_cons]
    and_intros <;> first | rfl | exact nofun

/-! ### What can be written -/

/-- The bounds of a field's rules are signed 64-bit integers. -/
def FieldOptions.FitsBounds (o : FieldOptions) : Prop :=
  ∀ rules ∈ o.validate, ∀ bound ∈ [rules.minLen, rules.maxLen, rules.min, rules.max],
    ∀ n ∈ bound, -0x8000000000000000 ≤ n ∧ n < 0x8000000000000000

/-- The casings of a message are declared ones. -/
def MessageOptions.DeclaresCasings (o : MessageOptions) : Prop :=
  ∀ layer ∈ [o.domain, o.outbound, o.inbound], ∀ l ∈ layer, l.naming ∈ [0, 1, 2]

/-- The mode of a method's authentication is a declared one. -/
def MethodOptions.DeclaresMode (o : MethodOptions) : Prop :=
  ∀ auth ∈ o.auth, auth.mode ∈ [0, 1, 2, 3]

lemma isValid_field {o : FieldOptions} : IsValid fieldFacets o ↔ o.FitsBounds := by
  simp [IsValid, fieldFacets, layerFieldFacets, outboundFacets, bitflagFacets, validateFacets,
    conditionFacets, fieldValueFacets, matchRuleFacets, namedRuleFacets, columnFacets, tagFacets,
    Facet.part, Facet.repeated, Facet.text, Facet.flag, Facet.integer, Element.text,
    Element.message, FieldOptions.FitsBounds]

lemma isValid_message {o : MessageOptions} : IsValid messageFacets o ↔ o.DeclaresCasings := by
  simp [IsValid, messageFacets, layerFacets, namingNames, Facet.part, Facet.repeated, Facet.flag,
    Facet.choice, Element.text, MessageOptions.DeclaresCasings, exists_or]

lemma isValid_method {o : MethodOptions} : IsValid methodFacets o ↔ o.DeclaresMode := by
  simp [IsValid, methodFacets, endpointFacets, authFacets, authModeNames, Facet.part,
    Facet.repeated, Facet.text, Facet.choice, Element.text, MethodOptions.DeclaresMode, exists_or]

/-! ### Aggregate options -/

/-- An aggregate as an option. -/
def aggregateOption (extension text : String) : Descriptor.WrittenOption :=
  { name := [⟨extension, true⟩], aggregate := some text }

lemma optionEntries_aggregate {extension text : String} {es : List Entry}
    (h : readText text = .ok es) : optionEntries (aggregateOption extension text) = .ok es := by
  simp only [optionEntries, optionValue, aggregateOption, h]
  rfl

/-- Among some options there is a single one of an extension: an aggregate, whose text lists an
annotation. -/
def IsAggregateOf {α : Type} (extension : String) (facets : List (Facet α)) (a : α)
    (written : List Descriptor.WrittenOption) : Prop :=
  ∃ option text es, written.filter (isFor extension) = [option] ∧ option.name.tail = [] ∧
    option.aggregate = some text ∧ IsLayout es text ∧ Lists facets a es

/-- An aggregate is read as just the annotation that it lists. -/
theorem readWritten_of_isAggregate {α : Type} [Inhabited α] {table : Table α}
    {facets : List (Facet α)} (made : table.IsMadeOf facets) {extension : String} {a : α}
    {written : List Descriptor.WrittenOption} (valid : IsValid facets a)
    (h : IsAggregateOf extension facets a written) :
    readWritten table extension written = .ok (some a) := by
  obtain ⟨option, text, es, hmine, hname, haggregate, layout, lists⟩ := h
  have hvalue : optionValue option = .ok (.message es) := by
    rw [optionValue, haggregate]
    simp only
    have readable := Value.areReadable_of_areWritable es (lists.areWritable valid)
    rw [readText_of_isLayout readable layout]
    rfl
  have hentries : optionEntries option = .ok es := by
    rw [optionEntries, hvalue, hname]
    rfl
  rw [readWritten, hmine]
  simp only
  rw [readOptions, hentries]
  simp only
  rw [made.readAll valid lists]
  rfl

/-- Every valid annotation has an aggregate. -/
theorem exists_isAggregate {α : Type} [Inhabited α] {table : Table α} {facets : List (Facet α)}
    (made : table.IsMadeOf facets) (extension : String) {a : α} (valid : IsValid facets a) :
    ∃ text, IsAggregateOf extension facets a [aggregateOption extension text] := by
  obtain ⟨es, lists⟩ := exists_lists made.nodup valid
  refine ⟨renderEntries es, _, _, es, List.filter_eq_self.mpr ?_, rfl, rfl,
    isLayout_renderEntries es, lists⟩
  exact List.forall_mem_singleton.mpr (by simp [aggregateOption, isFor])

end Laminate.Annotation
