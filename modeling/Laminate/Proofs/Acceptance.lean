import Laminate.Proofs.FileOrder
import Laminate.Proofs.References

/-! What may be written as an annotation.
The options schema gives every field a type, and a value is read just where it fits the type of its
key, whatever was read before it. A run does not pass over an annotation that fits nowhere. -/
namespace Laminate

open Descriptor Annotation Schema Form

namespace Annotation

/-! ### The options schema -/

/-- The types of the options schema. -/
inductive ValueType where
  | bool | int64 | string
  /-- An enumeration by the names that are accepted for its values. -/
  | enum (names : List String)
  | message (fields : List (String × ValueType))
  | strings
  | messages (fields : List (String × ValueType))
  deriving Repr, Inhabited

/-- The fields of a message by name. -/
abbrev Fields := List (String × ValueType)

def layerFieldFields : Fields := [("name", .string), ("allow_empty", .bool)]

def bitflagFields : Fields := [("enum", .string), ("prefix", .string)]

def outboundFields : Fields :=
  [("name", .string), ("allow_empty", .bool), ("hide", .bool), ("custom_type", .string),
    ("custom_bind", .string), ("bitflag", .message bitflagFields)]

def fieldValueFields : Fields := [("field", .string), ("value", .string)]

def conditionFields : Fields :=
  [("all", .messages fieldValueFields), ("any", .messages fieldValueFields)]

def matchFields : Fields := [("patterns", .strings)]

def namedRuleFields : Fields := [("name", .string), ("args", .strings)]

def validateFields : Fields :=
  [("required", .bool), ("required_if", .message conditionFields),
    ("required_if_not", .message conditionFields), ("required_with", .message conditionFields),
    ("required_without", .message conditionFields), ("min_len", .int64), ("max_len", .int64),
    ("min", .int64), ("max", .int64), ("dive", .bool), ("match", .message matchFields),
    ("rules", .messages namedRuleFields)]

def columnFields : Fields :=
  [("column_name", .string), ("primary_key", .bool), ("auto_increment", .bool), ("unique", .bool),
    ("index", .bool), ("ignore", .bool)]

def tagFields : Fields := [("name", .string), ("value", .string)]

def fieldFields : Fields :=
  [("domain", .message layerFieldFields), ("inbound", .message layerFieldFields),
    ("outbound", .message outboundFields), ("validate", .message validateFields),
    ("db", .message columnFields), ("tags", .messages tagFields)]

def acceptedNamings : List String :=
  ["NAMING_UNSPECIFIED", "NAMING_SNAKE_CASE", "SNAKE_CASE", "snake_case", "snake",
    "NAMING_CAMEL_CASE", "CAMEL_CASE", "camel_case", "camel"]

def acceptedModes : List String :=
  ["AUTH_MODE_UNSPECIFIED", "AUTH_MODE_PUBLIC", "PUBLIC", "public", "AUTH_MODE_BEARER", "BEARER",
    "bearer", "AUTH_MODE_CUSTOM", "CUSTOM", "custom"]

def layerFields : Fields := [("naming", .enum acceptedNamings), ("hide", .bool)]

def messageFields : Fields :=
  [("domain", .message layerFields), ("outbound", .message layerFields),
    ("inbound", .message layerFields), ("custom_code", .strings)]

def endpointFields : Fields :=
  [("method", .string), ("path", .string), ("body", .string), ("headers", .strings)]

def authFields : Fields := [("mode", .enum acceptedModes), ("custom", .string)]

def methodFields : Fields := [("endpoint", .message endpointFields), ("auth", .message authFields)]

/-! ### Fitting -/

def truthTokens : List String := ["true", "True", "t", "1", "false", "False", "f", "0"]

/-- Whether a text, quoted or not, is a value of a type. -/
def ValueType.takesText : ValueType → String → Bool
  | string, _ => true
  | strings, _ => true
  | enum names, text => decide (text ∈ names)
  | _, _ => false

namespace Value

def isText : Value → Bool
  | token _ => true
  | quoted _ => true
  | _ => false

mutual

/-- Whether a value fits a type, at every level below it too. -/
def fits : Value → ValueType → Bool
  | token text, .bool => decide (text ∈ truthTokens)
  | token text, .int64 => (Text.readInt64? text).isSome
  | token text, type => type.takesText text
  | quoted text, type => type.takesText text
  | message entries, .message fields => entriesFit entries fields
  | message entries, .messages fields => entriesFit entries fields
  | message _, _ => false
  | list items, .strings => items.all isText
  | list items, .messages fields => itemsFit items fields
  | list _, _ => false

def entriesFit : List (String × Value) → Fields → Bool
  | [], _ => true
  | (key, value) :: rest, fields =>
    ((fields.lookup key).any fun type => fits value type) && entriesFit rest fields

/-- Whether the items of a list are messages that fit; no item is a list itself. -/
def itemsFit : List Value → Fields → Bool
  | [], _ => true
  | message entries :: rest, fields => entriesFit entries fields && itemsFit rest fields
  | _ :: _, _ => false

end

section

variable {text : String} {entries : List Entry} {items : List Value} {fields : Fields}
  {names : List String}

lemma token_fits_bool : (token text).fits .bool = decide (text ∈ truthTokens) := rfl

lemma token_fits_int64 : (token text).fits .int64 = (Text.readInt64? text).isSome := rfl

lemma token_fits_enum : (token text).fits (.enum names) = decide (text ∈ names) := rfl

lemma quoted_fits_enum : (quoted text).fits (.enum names) = decide (text ∈ names) := rfl

lemma message_fits : (message entries).fits (.message fields) = entriesFit entries fields := rfl

lemma message_fits_messages :
    (message entries).fits (.messages fields) = entriesFit entries fields := rfl

lemma list_fits_messages : (list items).fits (.messages fields) = itemsFit items fields := rfl

end

end Value

/-- The key of an entry is a field, and its value fits the field's type. -/
def Fits (fields : Fields) (entry : Entry) : Prop :=
  ∃ type, fields.lookup entry.1 = some type ∧ entry.2.fits type = true

instance (fields : Fields) (entry : Entry) : Decidable (Fits fields entry) :=
  decidable_of_iff ((fields.lookup entry.1).any fun type => entry.2.fits type)
    (Option.any_eq_true _ _)

lemma entriesFit_iff {entries : List Entry} {fields : Fields} :
    Value.entriesFit entries fields = true ↔ ∀ entry ∈ entries, Fits fields entry := by
  induction entries with
  | nil => simp [Value.entriesFit]
  | cons entry rest ih =>
    rw [Value.entriesFit, Bool.and_eq_true, ih, List.forall_mem_cons, Fits, Option.any_eq_true]

/-! ### Slots and tables -/

variable {α β : Type}

/-- A slot reads the values of a type and no others, whatever is there already. -/
def Slot.Takes (slot : Slot α) (type : ValueType) : Prop :=
  ∀ value a, (slot.read value a).isOk = value.fits type

/-- A table has a slot for each field of a message, under the field's name. -/
def Table.Takes (table : Table α) (fields : Fields) : Prop :=
  List.Forall₂ (fun slot field => slot.key = field.1 ∧ slot.Takes field.2) table.slots fields

namespace Table

variable {table : Table α} {fields : Fields}

lemma read_isOk (h : table.Takes fields) (entry : Entry) (a : α) :
    (table.read entry a).isOk = (fields.lookup entry.1).any fun type => entry.2.fits type := by
  unfold Table.read
  obtain ⟨owner, slots⟩ := table
  change List.Forall₂ _ slots fields at h
  induction h with
  | nil => rfl
  | cons hfirst _ ih =>
    obtain ⟨hkey, htakes⟩ := hfirst
    rw [List.find?_cons, List.lookup_cons, hkey, BEq.comm]
    cases hhere : (entry.1 == _) with
    | true => exact htakes entry.2 a
    | false => exact ih

/-- Entries are read just where each of them fits, from any annotation on. -/
theorem readAll_isOk (h : table.Takes fields) (entries : List Entry) (a : α) :
    (table.readAll entries a).isOk = Value.entriesFit entries fields := by
  induction entries generalizing a with
  | nil => rfl
  | cons entry rest ih =>
    rw [readAll, Value.entriesFit, ← read_isOk h entry a]
    cases table.read entry a with
    | error fault => rfl
    | ok next => exact ih next

end Table

namespace Slot

variable {key : String} {number : Nat}

lemma text_takes {set : String → α → α} : (text key number set).Takes .string := by
  intro value a
  cases value <;> rfl

lemma flag_takes {set : Bool → α → α} : (flag key number set).Takes .bool := by
  intro value a
  cases value with
  | token text =>
    have hsplit : truthTokens = ["true", "True", "t", "1"] ++ ["false", "False", "f", "0"] := rfl
    simp only [flag, isOk_map, Value.asFlag, Value.token_fits_bool, hsplit, List.mem_append]
    split_ifs with htrue hfalse
    · simp [htrue, Except.isOk, Except.toBool]
    · simp [hfalse, Except.isOk, Except.toBool]
    · simp [htrue, hfalse, Except.isOk, Except.toBool]
  | quoted text => rfl
  | message entries => rfl
  | list items => rfl

lemma integer_takes {set : Int → α → α} : (integer key number set).Takes .int64 := by
  intro value a
  cases value with
  | token text =>
    simp only [integer, isOk_map, Value.asInteger, Value.token_fits_int64]
    cases Text.readInt64? text <;> rfl
  | quoted text => rfl
  | message entries => rfl
  | list items => rfl

lemma choice_takes {choose : String → Except OptionFault Int} {set : Int → α → α}
    {names : List String} (h : ∀ name, (choose name).isOk = decide (name ∈ names)) :
    (choice key number choose set).Takes (.enum names) := by
  intro value a
  cases value with
  | token text => simp [choice, Value.token_fits_enum, h]
  | quoted text => simp [choice, Value.quoted_fits_enum, h]
  | message entries => rfl
  | list items => rfl

variable [Inhabited β] {table : Table β} {fields : Fields}

lemma part_takes {get : α → Option β} {set : β → α → α} (h : table.Takes fields) :
    (part key number table get set).Takes (.message fields) := by
  intro value a
  cases value with
  | message entries => simp [part, Value.message_fits, Table.readAll_isOk h]
  | token text => rfl
  | quoted text => rfl
  | list items => rfl

/-- Items are pushed just where each of them can be, if what was pushed before has no say in it. -/
lemma pushAll_isOk {push : Value → α → Except OptionFault α} {fit : Value → Bool}
    (h : ∀ item a, (push item a).isOk = fit item) (items : List Value) (a : α) :
    (pushAll push items a).isOk = items.all fit := by
  induction items generalizing a with
  | nil => rfl
  | cons item rest ih =>
    rw [pushAll, List.all_cons, ← h item a]
    cases push item a with
    | error fault => rfl
    | ok next => exact ih next

lemma texts_takes {push : String → α → α} : (texts key number push).Takes .strings := by
  have hpush : ∀ (item : Value) (a : α), (item.asText.map (push · a)).isOk = item.isText := by
    intro item a
    cases item <;> rfl
  intro value a
  simp only [texts]
  rw [pushAll_isOk hpush]
  cases value <;> rfl

lemma itemsFit_eq (items : List Value) :
    Value.itemsFit items fields = items.all fun item => item.fits (.message fields) := by
  induction items with
  | nil => rfl
  | cons item rest ih =>
    cases item with
    | message entries => rw [Value.itemsFit, ih, List.all_cons, Value.message_fits]
    | token text => rfl
    | quoted text => rfl
    | list items => rfl

/-- An item read as a message of its own and pushed. -/
def pushMessage (table : Table β) (push : β → α → α) (item : Value) (a : α) :
    Except OptionFault α :=
  match item.asEntries with
  | .error fault => .error fault
  | .ok entries => (table.readAll entries default).map (push · a)

lemma parts_read (push : β → α → α) (v : Value) (a : α) :
    (parts key number table push).read v a = pushAll (pushMessage table push) v.items a := rfl

lemma parts_takes {push : β → α → α} (h : table.Takes fields) :
    (parts key number table push).Takes (.messages fields) := by
  have hpush : ∀ (item : Value) (a : α),
      (pushMessage table push item a).isOk = item.fits (.message fields) := by
    intro item a
    cases item with
    | message entries => simp [pushMessage, Value.message_fits, Table.readAll_isOk h]
    | token text => rfl
    | quoted text => rfl
    | list items => rfl
  intro value a
  rw [parts_read, pushAll_isOk hpush]
  cases value with
  | list items => rw [Value.items_list, Value.list_fits_messages, itemsFit_eq]
  | message entries => simp [Value.message_fits_messages, Value.message_fits]
  | token text => rfl
  | quoted text => rfl

end Slot

open Slot

lemma layerFieldTable_takes (owner : String) : (layerFieldTable owner).Takes layerFieldFields :=
  .cons ⟨rfl, text_takes⟩ <| .cons ⟨rfl, flag_takes⟩ .nil

lemma bitflagTable_takes : bitflagTable.Takes bitflagFields :=
  .cons ⟨rfl, text_takes⟩ <| .cons ⟨rfl, text_takes⟩ .nil

lemma outboundTable_takes : outboundTable.Takes outboundFields :=
  .cons ⟨rfl, text_takes⟩ <| .cons ⟨rfl, flag_takes⟩ <| .cons ⟨rfl, flag_takes⟩ <|
    .cons ⟨rfl, text_takes⟩ <| .cons ⟨rfl, text_takes⟩ <|
    .cons ⟨rfl, part_takes bitflagTable_takes⟩ .nil

lemma fieldValueTable_takes : fieldValueTable.Takes fieldValueFields :=
  .cons ⟨rfl, text_takes⟩ <| .cons ⟨rfl, text_takes⟩ .nil

lemma conditionTable_takes : conditionTable.Takes conditionFields :=
  .cons ⟨rfl, parts_takes fieldValueTable_takes⟩ <|
    .cons ⟨rfl, parts_takes fieldValueTable_takes⟩ .nil

lemma matchTable_takes : matchTable.Takes matchFields := .cons ⟨rfl, texts_takes⟩ .nil

lemma namedRuleTable_takes : namedRuleTable.Takes namedRuleFields :=
  .cons ⟨rfl, text_takes⟩ <| .cons ⟨rfl, texts_takes⟩ .nil

lemma validateTable_takes : validateTable.Takes validateFields :=
  .cons ⟨rfl, flag_takes⟩ <| .cons ⟨rfl, part_takes conditionTable_takes⟩ <|
    .cons ⟨rfl, part_takes conditionTable_takes⟩ <| .cons ⟨rfl, part_takes conditionTable_takes⟩ <|
    .cons ⟨rfl, part_takes conditionTable_takes⟩ <| .cons ⟨rfl, integer_takes⟩ <|
    .cons ⟨rfl, integer_takes⟩ <| .cons ⟨rfl, integer_takes⟩ <| .cons ⟨rfl, integer_takes⟩ <|
    .cons ⟨rfl, flag_takes⟩ <| .cons ⟨rfl, part_takes matchTable_takes⟩ <|
    .cons ⟨rfl, parts_takes namedRuleTable_takes⟩ .nil

lemma columnTable_takes : columnTable.Takes columnFields :=
  .cons ⟨rfl, text_takes⟩ <| .cons ⟨rfl, flag_takes⟩ <| .cons ⟨rfl, flag_takes⟩ <|
    .cons ⟨rfl, flag_takes⟩ <| .cons ⟨rfl, flag_takes⟩ <| .cons ⟨rfl, flag_takes⟩ .nil

lemma tagTable_takes : tagTable.Takes tagFields :=
  .cons ⟨rfl, text_takes⟩ <| .cons ⟨rfl, text_takes⟩ .nil

lemma fieldTable_takes : fieldTable.Takes fieldFields :=
  .cons ⟨rfl, part_takes (layerFieldTable_takes _)⟩ <|
    .cons ⟨rfl, part_takes (layerFieldTable_takes _)⟩ <|
    .cons ⟨rfl, part_takes outboundTable_takes⟩ <| .cons ⟨rfl, part_takes validateTable_takes⟩ <|
    .cons ⟨rfl, part_takes columnTable_takes⟩ <| .cons ⟨rfl, parts_takes tagTable_takes⟩ .nil

lemma namingNumber_isOk (name : String) :
    (namingNumber name).isOk = decide (name ∈ acceptedNamings) := by
  unfold namingNumber
  split_ifs <;> simp_all [acceptedNamings, Except.isOk, Except.toBool]
  tauto

lemma authModeNumber_isOk (name : String) :
    (authModeNumber name).isOk = decide (name ∈ acceptedModes) := by
  unfold authModeNumber
  split_ifs <;> simp_all [acceptedModes, Except.isOk, Except.toBool] <;> tauto

lemma layerTable_takes : layerTable.Takes layerFields :=
  .cons ⟨rfl, choice_takes namingNumber_isOk⟩ <| .cons ⟨rfl, flag_takes⟩ .nil

lemma messageTable_takes : messageTable.Takes messageFields :=
  .cons ⟨rfl, part_takes layerTable_takes⟩ <| .cons ⟨rfl, part_takes layerTable_takes⟩ <|
    .cons ⟨rfl, part_takes layerTable_takes⟩ <| .cons ⟨rfl, texts_takes⟩ .nil

lemma endpointTable_takes : endpointTable.Takes endpointFields :=
  .cons ⟨rfl, text_takes⟩ <| .cons ⟨rfl, text_takes⟩ <| .cons ⟨rfl, text_takes⟩ <|
    .cons ⟨rfl, texts_takes⟩ .nil

lemma authTable_takes : authTable.Takes authFields :=
  .cons ⟨rfl, choice_takes authModeNumber_isOk⟩ <| .cons ⟨rfl, text_takes⟩ .nil

lemma methodTable_takes : methodTable.Takes methodFields :=
  .cons ⟨rfl, part_takes endpointTable_takes⟩ <| .cons ⟨rfl, part_takes authTable_takes⟩ .nil

/-! ### Options of descriptors -/

/-- What an option holds can be told, and each of its entries fits. -/
def Accepts (fields : Fields) (option : WrittenOption) : Prop :=
  ∃ entries, optionEntries option = .ok entries ∧ ∀ entry ∈ entries, Fits fields entry

/-- A table reads the entries that fit and no others, whatever is set already. -/
def Table.ReadsJust (table : Table α) (fields : Fields) : Prop :=
  ∀ entries a, (∃ b, table.readAll entries a = .ok b) ↔ ∀ entry ∈ entries, Fits fields entry

variable {table : Table α} {fields : Fields}

lemma Table.Takes.readsJust (h : table.Takes fields) : table.ReadsJust fields := by
  intro entries a
  rw [← isOk_iff, Table.readAll_isOk h, entriesFit_iff]

lemma exists_readOptions_iff (h : table.ReadsJust fields) (options : List WrittenOption) (a : α) :
    (∃ b, readOptions table options a = .ok b) ↔ ∀ option ∈ options, Accepts fields option := by
  induction options generalizing a with
  | nil => simp [readOptions]
  | cons option rest ih =>
    rw [List.forall_mem_cons, readOptions, Accepts]
    cases optionEntries option with
    | error fault => simp
    | ok entries =>
      simp only [Except.ok.injEq, exists_eq_left']
      rw [← h entries a]
      cases table.readAll entries a with
      | error fault => simp
      | ok next => simp [ih]

variable [Inhabited α]

/-- The options of a descriptor are read just where each one of the extension is accepted. -/
theorem exists_readWritten_iff (h : table.ReadsJust fields) (extension : String)
    (written : List WrittenOption) :
    (∃ result, readWritten table extension written = .ok result) ↔
      ∀ option ∈ written, isFor extension option = true → Accepts fields option := by
  have hfilter : (∀ option ∈ written, isFor extension option = true → Accepts fields option) ↔
      ∀ option ∈ written.filter (isFor extension), Accepts fields option := by
    simp only [List.mem_filter, and_imp]
  rw [hfilter, readWritten]
  split
  · next hnone => simp [hnone]
  · rw [← exists_readOptions_iff h _ default]
    simp

end Annotation

/-! ### Runs -/

/-- An option of an extension is one that the options schema has no place for. -/
def IsMisfit (extension : String) (fields : Fields) (option : WrittenOption) : Prop :=
  isFor extension option = true ∧ ¬ Accepts fields option

/-- A misfit on something in a file that an index has no entry for. -/
inductive HoldsMisfit (index : Index) (file : FileDesc) : Prop
  | field {d : Declaration} (declared : d ∈ file.loaded) {desc : FieldDesc}
    (member : desc ∈ d.desc.fields) (surfaced : isOneofMember desc = false)
    (unindexed : index.fields.lookup (d.fullName, desc.number) = none) {option : WrittenOption}
    (written : option ∈ desc.options) (misfit : IsMisfit fieldExtension fieldFields option)
  | message {d : Declaration} (declared : d ∈ file.declarations)
    (unindexed : index.messages.lookup d.fullName = none) {option : WrittenOption}
    (written : option ∈ d.desc.options) (misfit : IsMisfit messageExtension messageFields option)
  | method {service : ServiceDesc} (declared : service ∈ file.services) {desc : MethodDesc}
    (member : desc ∈ service.methods)
    (unindexed :
      index.methods.lookup (qualify (qualify file.package service.name) desc.name) = none)
    {option : WrittenOption} (written : option ∈ desc.options)
    (misfit : IsMisfit methodExtension methodFields option)

section

variable {α ε : Type} [Inhabited α] {table : Table α} {fields : Fields} {extension : String}
variable {index : Index} {settings : Settings} {file : FileDesc}

/-- Options with a misfit are not read. -/
lemma not_read_of_misfit (h : table.ReadsJust fields) {option : WrittenOption}
    {options : List WrittenOption} (hoption : option ∈ options)
    (misfit : IsMisfit extension fields option) (fault : OptionFault → ε) (result : Option α) :
    (readWritten table extension options).mapError fault ≠ .ok result := by
  intro hread
  obtain ⟨hfor, hmisfit⟩ := misfit
  refine hmisfit ((exists_readWritten_iff h extension options).mp ?_ option hoption hfor)
  cases hwritten : readWritten table extension options with
  | ok result => exact ⟨result, rfl⟩
  | error e =>
    rw [hwritten] at hread
    cases hread

lemma not_holdsMisfit_of_load {files : List FileDesc} (hfile : file ∈ files) {schema : FileSchema}
    (h : FileSchema.load settings index files file = .ok schema) : ¬ HoldsMisfit index file := by
  obtain ⟨-, -, symbols, hsymbols, hloaded⟩ := FileSchema.load_ok h
  rintro (⟨declared, member, surfaced, unindexed, written, misfit⟩ |
    ⟨declared, unindexed, written, misfit⟩ | ⟨declared, member, unindexed, written, misfit⟩)
  case field =>
    obtain ⟨message, -, hmessage⟩ := exists_of_forall₂_mem hloaded declared
    obtain ⟨-, -, -, -, -, hmembers⟩ := message_of_declared hmessage
    obtain ⟨field, hfield, -⟩ := Scope.exists_field_of_mem hmembers member surfaced
    unfold Scope.field at hfield
    simp only [Index.ofField, FileSchema.scope, unindexed] at hfield
    split at hfield
    · cases hfield
    · next options hoptions =>
      exact not_read_of_misfit fieldTable_takes.readsJust written misfit _ _ hoptions
  case message =>
    have hreadable := (symbolsOf_isOk files []).mp ⟨symbols, hsymbols⟩ file hfile _ declared
    obtain ⟨options, hoptions⟩ := hreadable
    rw [Index.ofMessage, unindexed] at hoptions
    exact not_read_of_misfit messageTable_takes.readsJust written misfit _ _ hoptions
  case method =>
    obtain ⟨service, -, hservice⟩ :=
      exists_of_forall₂_mem (FileSchema.services_of_load h) declared
    obtain ⟨methods, hmethods, -⟩ := map_eq_ok.mp hservice
    obtain ⟨method, -, hmethod⟩ := exists_of_forall₂_mem (mapM_eq_ok.mp hmethods) member
    obtain ⟨options, hoptions, -⟩ := bind_eq_ok.mp hmethod
    rw [Index.ofMethod, unindexed] at hoptions
    exact not_read_of_misfit methodTable_takes.readsJust written misfit _ _ hoptions

end

/-- Annotations are read just where every key is a field of the options schema and every value fits
its field, at every level; nothing else about them counts, neither their order nor what is set
already. And a run never passes over a misfit: it fails. -/
theorem misfits_rejected :
    fieldTable.ReadsJust fieldFields ∧ messageTable.ReadsJust messageFields ∧
      methodTable.ReadsJust methodFields ∧
      ∀ (request : Request) (index : Index) (name : String) (file : FileDesc),
        name ∈ request.generate → request.file? name = some file → HoldsMisfit index file →
          ∃ e, request.run index = .error e := by
  refine ⟨fieldTable_takes.readsJust, messageTable_takes.readsJust, methodTable_takes.readsJust, ?_⟩
  intro request index name file hname hfile hmisfit
  cases hrun : request.run index with
  | error e => exact ⟨e, rfl⟩
  | ok response =>
    unfold Request.run at hrun
    split at hrun
    · cases hrun
    · next settings hsettings =>
      split at hrun
      · cases hrun
      · obtain ⟨outputs, houtputs, -⟩ := map_eq_ok.mp hrun
        obtain ⟨files, -, hfiles⟩ := exists_of_forall₂_mem (mapM_eq_ok.mp houtputs) hname
        rw [Request.outputs, hfile] at hfiles
        simp only at hfiles
        split at hfiles
        · cases hfiles
        · next plan hplan =>
          obtain ⟨schema, hschema, -⟩ := plan_ok hplan
          exact absurd hmisfit (not_holdsMisfit_of_load (List.mem_of_find?_eq_some hfile) hschema)

/-- A field with a rule under a misspelt key. -/
def misspeltRequest : Request :=
  optionsRequest
    [{ name := [⟨fieldExtension, true⟩, ⟨"validate", false⟩, ⟨"requried", false⟩]
       identifier := some "true" }] [] []

theorem misspelt_rejected :
    (∃ file ∈ misspeltRequest.files, HoldsMisfit {} file) ∧
      ∃ e, misspeltRequest.run {} = .error e := by
  have hmisfit : ¬ ∀ entry ∈ [(("validate", .message [("requried", .token "true")]) : Entry)],
      Fits fieldFields entry := by decide
  have hholds : HoldsMisfit {} misspeltRequest.files.head! :=
    .field (d := ⟨"acme", [], _, false⟩) List.mem_cons_self List.mem_cons_self rfl rfl
      List.mem_cons_self ⟨by decide, fun ⟨_, hentries, hfits⟩ => by
        cases hentries
        exact hmisfit hfits⟩
  exact ⟨⟨_, List.mem_cons_self, hholds⟩,
    misfits_rejected.2.2.2 misspeltRequest {} "user.proto" _ List.mem_cons_self rfl hholds⟩

end Laminate
