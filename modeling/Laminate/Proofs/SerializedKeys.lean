import Laminate.Proofs.Decoding
import Laminate.Proofs.NameWords

/-! The serialized keys of the fields of a message under snake naming. -/
namespace Laminate.Form

open Laminate.Text Laminate.Schema Laminate.Code Laminate.Descriptor Laminate.Annotation

/-! ### Fields -/

/-- No layer is given a name of its own. -/
structure Unnamed (field : Field) : Prop where
  domain : ∀ o, field.options.domain = some o → o.name = ""
  inbound : ∀ o, field.options.inbound = some o → o.name = ""
  outbound : ∀ o, field.options.outbound = some o → o.name = ""

lemma said_eq_none {α : Type} {options : Option α} {name : α → String}
    (h : ∀ o, options = some o → name o = "") : (options.bind fun o => said (name o)) = none := by
  cases options with
  | none => rfl
  | some o => simp [h o rfl, said]

/-- The keys of a field without names of its own are one text in all layers. -/
lemma keys_of_unnamed {message : Message} {field : Field}
    (hnaming : ∀ layer, message.naming layer = .snake) (hunnamed : Unnamed field)
    (hgoName : field.goName = exportedName field.name)
    (hname : ∀ c ∈ field.name.toList, isSnakeChar c = true) :
    FieldKeys.of message field (FieldNames.of message field) =
      ⟨keyText field.name, keyText field.name, keyText field.name⟩ := by
  have hdomain := said_eq_none hunnamed.domain
  have hinbound := said_eq_none hunnamed.inbound
  have houtbound := said_eq_none hunnamed.outbound
  simp [FieldKeys.of, FieldNames.of, domainName, hdomain, hinbound, houtbound, hnaming,
    serializedKey, hgoName, snakeCase_exportedName hname]

/-- In a message under snake naming whose fields are called in lower case with underscores, and
nothing else in any layer, the keys of a layer are the words read off the names. They are distinct
just where those are, as they are where the names differ in more than their underscores, with one at
the front standing for an `x`. -/
theorem keys_nodup_iff {settings : Settings} {index : Index} {files : List FileDesc}
    {file : FileDesc} {schema : FileSchema}
    (hload : FileSchema.load settings index files file = .ok schema) {message : Message}
    (hmessage : message ∈ schema.messages) (hnaming : ∀ layer, message.naming layer = .snake)
    (hnames : ∀ field ∈ message.fields, ∀ c ∈ field.name.toList, isSnakeChar c = true)
    (hunnamed : ∀ field ∈ message.fields, Unnamed field) :
    let keys := message.fields.map fun field =>
      FieldKeys.of message field (FieldNames.of message field)
    ∀ key ∈ [FieldKeys.domain, FieldKeys.inbound, FieldKeys.outbound],
      keys.map key = message.fields.map (fun field => keyText field.name) ∧
      ((keys.map key).Nodup ↔ (message.fields.map fun field => keyWords field.name).Nodup) ∧
      ((message.fields.map fun field => (readable field.name.toList).filter (· != '_')).Nodup →
        (keys.map key).Nodup) := by
  intro keys key hkey
  have hgoName : ∀ field ∈ message.fields, field.goName = exportedName field.name := by
    intro field hfield
    obtain ⟨_, _, _, _, hmade⟩ := FileSchema.field_made hload hmessage hfield
    exact Scope.field_goName hmade
  have hkeys : keys = message.fields.map fun field =>
      ⟨keyText field.name, keyText field.name, keyText field.name⟩ :=
    List.map_congr_left fun field hfield => keys_of_unnamed hnaming (hunnamed field hfield)
      (hgoName field hfield) (hnames field hfield)
  have htexts : keys.map key = message.fields.map fun field => keyText field.name := by
    rw [hkeys, List.map_map]
    simp only [List.mem_cons, List.not_mem_nil, or_false] at hkey
    rcases hkey with rfl | rfl | rfl <;> rfl
  have hiff : (message.fields.map fun field => keyText field.name).Nodup ↔
      (message.fields.map fun field => keyWords field.name).Nodup := by
    rw [List.Nodup, List.Nodup, List.pairwise_map, List.pairwise_map]
    exact List.Pairwise.iff_of_mem fun {field field'} hfield hfield' =>
      not_congr (keyText_inj (hnames field hfield) (hnames field' hfield'))
  refine ⟨htexts, htexts ▸ hiff, fun hdistinct => ?_⟩
  rw [htexts, hiff]
  rw [List.Nodup, List.pairwise_map] at hdistinct ⊢
  refine hdistinct.imp fun hne heq => hne ?_
  rw [← flatten_keyWords, heq, flatten_keyWords]

/-- A request for one message, which has texts under some names. -/
def textsRequest (version : String) (names : List String) : Request where
  files := [{ packageFile "user" "acme"
    [.node
      { name := "UserWire"
        fields := names.map fun name => { name := name, type := .string } } []] with
    version := some version }]
  generate := []

/-- The message that is made of it. -/
def textsMessage (cardinality : Cardinality) (names : List String) : Message where
  name := "UserWire"
  fullName := "acme.UserWire"
  kind := .wire
  names := .derive {} "UserWire" .wire
  members := names.map fun name => .surfaced {
    name := name
    number := 0
    goName := exportedName name
    kind := .scalar .string
    cardinality := cardinality
    message := "UserWire"
    module := "acme"
    options := {} }
  options := {}

theorem texts_keys_nodup :
    let names := ["user_id", "v2_name", "_id"]
    ∃ schema, FileSchema.load {} {} (textsRequest "proto3" names).files
        (textsRequest "proto3" names).files[0] = .ok schema ∧
      schema.messages = [textsMessage .singular names] ∧
      let keys := (textsMessage .singular names).fields.map fun field =>
        FieldKeys.of (textsMessage .singular names) field
          (FieldNames.of (textsMessage .singular names) field)
      ∀ key ∈ [FieldKeys.domain, FieldKeys.inbound, FieldKeys.outbound],
        keys.map key = ["user_id", "v2_name", "x_id"] ∧ (keys.map key).Nodup := by
  intro names
  have hmessages : (FileSchema.load {} {} (textsRequest "proto3" names).files
      (textsRequest "proto3" names).files[0]).toOption.any (fun schema =>
        decide (schema.messages = [textsMessage .singular names])) = true := by
    decide
  obtain ⟨schema, hload, hmessages⟩ := exists_of_check hmessages
  replace hmessages := of_decide_eq_true hmessages
  refine ⟨schema, hload, hmessages, fun key hkey => ?_⟩
  have hunnamed : ∀ field ∈ (textsMessage .singular names).fields, Unnamed field := by
    have hoptions : ∀ field ∈ (textsMessage .singular names).fields, field.options = {} := by
      decide
    intro field hfield
    have := hoptions field hfield
    exact ⟨by simp [this], by simp [this], by simp [this]⟩
  have hmessage : textsMessage .singular names ∈ schema.messages := by simp [hmessages]
  have hnames : ∀ field ∈ (textsMessage .singular names).fields,
      field.name.toList.all isSnakeChar = true := by
    decide
  obtain ⟨hkeys, -, hdistinct⟩ := keys_nodup_iff hload hmessage
    (fun layer => by cases layer <;> rfl)
    (fun field hfield => List.all_eq_true.mp (hnames field hfield)) hunnamed key hkey
  exact ⟨hkeys.trans (by decide), hdistinct (by decide)⟩

/-- Single letters are one word of an identifier, whatever stood between them. -/
theorem single_letters_meet :
    let names := ["a_b", "ab"]
    ∃ schema, FileSchema.load {} {} (textsRequest "proto2" names).files
        (textsRequest "proto2" names).files[0] = .ok schema ∧
      schema.messages = [textsMessage .optional names] ∧ names.Nodup ∧
      (∀ layer, (textsMessage .optional names).naming layer = .snake) ∧
      (textsMessage .optional names).fields.map (fun field => (field.name, field.options)) =
        [("a_b", {}), ("ab", {})] ∧
      (textsMessage .optional names).fields.map (fun field =>
        FieldKeys.of (textsMessage .optional names) field
          (FieldNames.of (textsMessage .optional names) field)) =
        [⟨"ab", "ab", "ab"⟩, ⟨"ab", "ab", "ab"⟩] := by
  intro names
  have hmessages : (FileSchema.load {} {} (textsRequest "proto2" names).files
      (textsRequest "proto2" names).files[0]).toOption.any (fun schema =>
        decide (schema.messages = [textsMessage .optional names])) = true := by
    decide
  obtain ⟨schema, hload, hmessages⟩ := exists_of_check hmessages
  exact ⟨schema, hload, of_decide_eq_true hmessages, by decide,
    fun layer => by cases layer <;> rfl, by decide, by decide⟩

end Laminate.Form
