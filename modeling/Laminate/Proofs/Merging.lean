import Laminate.Proofs.Acceptance
import Laminate.Proofs.Rereading
import Laminate.Proofs.WrittenOptions

/-! Entries are merged.
What counts are the values under each key in their order: a part may be written in pieces and a list
one item after the other, within one option or over several. -/
namespace Laminate.Annotation

open Descriptor

/-! ### The same entries in another order -/

/-- Values that differ in the order of entries under different keys at most, at every level. -/
inductive Reorders : Value → Value → Prop
  | token (text : String) : Reorders (.token text) (.token text)
  | quoted (text : String) : Reorders (.quoted text) (.quoted text)
  | message {es es' : List Entry}
    (values : ∀ key, List.Forall₂ Reorders (valuesOf key es) (valuesOf key es')) :
    Reorders (.message es) (.message es')
  | list {vs vs' : List Value} (items : List.Forall₂ Reorders vs vs') :
    Reorders (.list vs) (.list vs')

/-- Entries whose values under each key are the same in the same order, but for the order of entries
within them. -/
def EntriesReorder (es es' : List Entry) : Prop :=
  ∀ key, List.Forall₂ Reorders (valuesOf key es) (valuesOf key es')

mutual

lemma Reorders.refl : ∀ v : Value, Reorders v v
  | .token text => .token text
  | .quoted text => .quoted text
  | .message es => .message fun key => List.forall₂_same.mpr fun v hv => by
    obtain ⟨e, he, rfl⟩ := List.mem_map.mp hv
    exact reorders_entry es e (List.mem_of_mem_filter he)
  | .list vs => .list (List.forall₂_same.mpr (reorders_item vs))

lemma reorders_entry : ∀ es : List Entry, ∀ e ∈ es, Reorders e.2 e.2
  | [] => nofun
  | (_, v) :: es => List.forall_mem_cons.mpr ⟨.refl v, reorders_entry es⟩

lemma reorders_item : ∀ vs : List Value, ∀ v ∈ vs, Reorders v v
  | [] => nofun
  | v :: vs => List.forall_mem_cons.mpr ⟨.refl v, reorders_item vs⟩

end

lemma entriesReorder_of_valuesOf {es es' : List Entry}
    (h : ∀ key, valuesOf key es = valuesOf key es') : EntriesReorder es es' := by
  intro key
  rw [h key]
  exact List.forall₂_same.mpr fun v _ => .refl v

/-- Entries under different keys may change places. -/
lemma entriesReorder_swap {e e' : Entry} (h : e.1 ≠ e'.1) (es : List Entry) :
    EntriesReorder (e :: e' :: es) (e' :: e :: es) := by
  refine entriesReorder_of_valuesOf fun key => ?_
  by_cases hkey : e.1 = key
  · have hother : e'.1 ≠ key := fun heq => h (hkey.trans heq.symm)
    simp [valuesOf, hkey, hother]
  · simp [valuesOf, List.filter_cons, hkey]

/-! ### The same entries in pieces -/

mutual

/-- A value of a type, and values that are written one after the other in its place. -/
inductive Restates : ValueType → Value → List Value → Prop
  /-- A part in two pieces. -/
  | split {fields : Fields} (xs ys : List Entry) :
    Restates (.message fields) (.message (xs ++ ys)) [.message xs, .message ys]
  /-- A list as its items, none of which is a list. -/
  | strings {vs : List Value} (single : ∀ v ∈ vs, ∀ items, v ≠ .list items) :
    Restates .strings (.list vs) vs
  | messages {fields : Fields} {vs : List Value} (single : ∀ v ∈ vs, ∀ items, v ≠ .list items) :
    Restates (.messages fields) (.list vs) vs
  | within {fields : Fields} {es es' : List Entry} (inner : EntriesRestate fields es es') :
    Restates (.message fields) (.message es) [.message es']
  | withinItem {fields : Fields} {es es' : List Entry} (inner : EntriesRestate fields es es') :
    Restates (.messages fields) (.message es) [.message es']
  | withinList {fields : Fields} {es es' : List Entry} (before after : List Value)
    (inner : EntriesRestate fields es es') :
    Restates (.messages fields) (.list (before ++ .message es :: after))
      [.list (before ++ .message es' :: after)]

/-- Entries of which one is written as several under its key, at some level. -/
inductive EntriesRestate : Fields → List Entry → List Entry → Prop
  | entry {fields : Fields} {key : String} {type : ValueType} {v : Value} {vs : List Value}
    (field : fields.lookup key = some type) (values : Restates type v vs)
    (before after : List Entry) :
    EntriesRestate fields (before ++ (key, v) :: after) (before ++ vs.map (key, ·) ++ after)

end

/-! ### Slots and tables that merge -/

variable {α β : Type}

/-- A slot for values of a type does not see the order of entries, nor the pieces. -/
structure Slot.Merges (slot : Slot α) (type : ValueType) : Prop where
  reorder : ∀ {v v'}, Reorders v v' → ∀ a b, slot.read v a = .ok b ↔ slot.read v' a = .ok b
  restate : ∀ {v vs}, Restates type v vs →
    ∀ a, slot.read v a = vs.foldlM (fun a v => slot.read v a) a

/-- A table does not see the order of entries under different keys, nor the pieces. -/
structure Table.Merges (table : Table α) (fields : Fields) : Prop where
  reorder : ∀ {es es'}, EntriesReorder es es' →
    ∀ a b, table.readAll es a = .ok b ↔ table.readAll es' a = .ok b
  restate : ∀ {es es'}, EntriesRestate fields es es' →
    ∀ a, table.readAll es a = table.readAll es' a

/-- A table with a slot that merges for each field, under the field's name. -/
def Table.SlotsMerge (table : Table α) (fields : Fields) : Prop :=
  List.Forall₂ (fun slot field => slot.key = field.1 ∧ slot.Merges field.2) table.slots fields

/-- Steps that agree on values agree on values one after the other. -/
lemma foldlM_eq_ok_congr {γ : Type} {R : Value → Value → Prop}
    {read : Value → γ → Except OptionFault γ}
    (h : ∀ {v v'}, R v v' → ∀ c c', read v c = .ok c' ↔ read v' c = .ok c') {vs vs' : List Value}
    (hvs : List.Forall₂ R vs vs') (c c' : γ) :
    vs.foldlM (fun c v => read v c) c = .ok c' ↔ vs'.foldlM (fun c v => read v c) c = .ok c' := by
  induction hvs generalizing c with
  | nil => rfl
  | cons hv _ ih =>
    rw [List.foldlM_cons, List.foldlM_cons, bind_eq_ok, bind_eq_ok]
    exact exists_congr fun next => and_congr (h hv c next) (ih next)

namespace Table

variable {table : Table α} {fields : Fields}

lemma SlotsMerge.find (h : table.SlotsMerge fields) {key : String} {type : ValueType}
    (hfield : fields.lookup key = some type) :
    ∃ slot, table.slots.find? (·.key == key) = some slot ∧ slot.Merges type := by
  obtain ⟨owner, slots⟩ := table
  change List.Forall₂ _ slots fields at h
  induction h with
  | nil => cases hfield
  | @cons slot field slots fields hfirst _ ih =>
    obtain ⟨hkey, hmerges⟩ := hfirst
    rw [List.lookup_cons] at hfield
    rw [List.find?_cons, hkey, BEq.comm]
    cases hhere : (key == field.1) with
    | true =>
      rw [hhere] at hfield
      cases hfield
      exact ⟨slot, rfl, hmerges⟩
    | false =>
      rw [hhere] at hfield
      exact ih hfield

/-- Reading values under one key, one after the other. -/
lemma readAll_map (key : String) (vs : List Value) (a : α) :
    table.readAll (vs.map (key, ·)) a = vs.foldlM (fun a v => table.read (key, v) a) a := by
  induction vs generalizing a with
  | nil => rfl
  | cons v vs ih =>
    rw [List.map_cons, readAll, List.foldlM_cons]
    cases table.read (key, v) a with
    | error fault => rfl
    | ok next => exact ih next

lemma readAll_of_restates (h : table.SlotsMerge fields) {es es' : List Entry}
    (hes : EntriesRestate fields es es') (a : α) : table.readAll es a = table.readAll es' a := by
  obtain ⟨field, values, before, after⟩ := hes
  rename_i key type v vs
  obtain ⟨slot, hfind, hmerges⟩ := h.find field
  have hread : ∀ w a, table.read (key, w) a = slot.read w a := by
    intro w a
    simp only [Table.read, hfind]
  have hpieces : ∀ a, table.readAll [(key, v)] a = table.readAll (vs.map (key, ·)) a := by
    intro a
    rw [readAll_map, show [(key, v)] = [v].map (key, ·) from rfl, readAll_map]
    simp only [hread, List.foldlM_cons, List.foldlM_nil, bind_pure]
    exact hmerges.restate values a
  rw [← List.singleton_append, ← List.append_assoc, readAll_append, readAll_append, readAll_append,
    readAll_append, funext hpieces]

/-- Keys that entries have are those with values under them. -/
lemma valuesOf_ne_nil {key : String} {es : List Entry} :
    valuesOf key es ≠ [] ↔ ∃ e ∈ es, e.1 = key := by
  simp [valuesOf, List.filter_eq_nil_iff]

section

variable [Inhabited α] {facets : List (Facet α)} (made : table.IsMadeOf facets)

include made

/-- A facet does not see the order of entries where its slot does not. -/
lemma IsMadeOf.facet_reorder (h : table.SlotsMerge fields) {f : Facet α} (hf : f ∈ facets)
    {v v' : Value} (hv : Reorders v v') (c c' : f.Content) :
    f.read v c = .ok c' ↔ f.read v' c = .ok c' := by
  obtain ⟨slot, hfind, hfollows⟩ := Slot.Follows.find made.follows made.nodup hf
  obtain ⟨field, -, -, hmerges⟩ := exists_of_forall₂_mem h (List.mem_of_find?_eq_some hfind)
  have lens := made.lens f hf
  have hslot : ∀ w, f.read w c = .ok c' ↔
      slot.read w (f.set c default) = .ok (f.set c' default) := by
    intro w
    rw [hfollows.read lens, lens.get_set, map_eq_ok]
    simp only [lens.set_set]
    constructor
    · exact fun hread => ⟨c', hread, rfl⟩
    · rintro ⟨d, hread, heq⟩
      have hsame := congrArg f.get heq
      rw [lens.get_set, lens.get_set] at hsame
      rw [hread, hsame]
  rw [hslot, hslot, hmerges.reorder hv]

lemma IsMadeOf.readAll_of_reorders (h : table.SlotsMerge fields) {es es' : List Entry}
    (hes : EntriesReorder es es') (a b : α) :
    table.readAll es a = .ok b ↔ table.readAll es' a = .ok b := by
  have hknown : ∀ es : List Entry, (∀ e ∈ es, ∃ f ∈ facets, f.key = e.1) ↔
      ∀ key, valuesOf key es ≠ [] → ∃ f ∈ facets, f.key = key := by
    intro es
    simp only [valuesOf_ne_nil]
    constructor
    · rintro known key ⟨e, he, rfl⟩
      exact known e he
    · exact fun known e he => known e.1 ⟨e, he, rfl⟩
  have hnil : ∀ key, valuesOf key es ≠ [] ↔ valuesOf key es' ≠ [] := fun key => by
    rw [not_iff_not, ← List.length_eq_zero_iff, (hes key).length_eq, List.length_eq_zero_iff]
  rw [made.readAll_eq_ok, made.readAll_eq_ok, hknown, hknown]
  refine and_congr (forall_congr' fun key => imp_congr_left (hnil key)) ?_
  exact forall₂_congr fun f hf =>
    foldlM_eq_ok_congr (fun hv => made.facet_reorder h hf hv) (hes f.key) _ _

/-- A table merges where its slots do. -/
theorem IsMadeOf.merges (h : table.SlotsMerge fields) : table.Merges fields where
  reorder := made.readAll_of_reorders h
  restate := readAll_of_restates h

end

end Table

namespace Slot

variable {key : String} {number : Nat}

/-- A reader of tokens and quoted text alone does not see the order of entries. -/
lemma scalar_reorder {read : Value → α → Except OptionFault α}
    (message : ∀ es a b, read (.message es) a ≠ .ok b)
    (list : ∀ vs a b, read (.list vs) a ≠ .ok b) {v v' : Value} (hv : Reorders v v') (a b : α) :
    read v a = .ok b ↔ read v' a = .ok b := by
  cases hv with
  | token text => rfl
  | quoted text => rfl
  | message values => exact iff_of_false (message _ a b) (message _ a b)
  | list items => exact iff_of_false (list _ a b) (list _ a b)

lemma text_merges {set : String → α → α} : (text key number set).Merges .string where
  reorder := scalar_reorder nofun nofun
  restate := nofun

lemma flag_merges {set : Bool → α → α} : (flag key number set).Merges .bool where
  reorder := scalar_reorder nofun nofun
  restate := nofun

lemma integer_merges {set : Int → α → α} : (integer key number set).Merges .int64 where
  reorder := scalar_reorder nofun nofun
  restate := nofun

lemma choice_merges {choose : String → Except OptionFault Int} {set : Int → α → α}
    {names : List String} : (choice key number choose set).Merges (.enum names) where
  reorder := scalar_reorder nofun nofun
  restate := nofun

lemma pushAll_eq_foldlM (push : Value → α → Except OptionFault α) (vs : List Value) (a : α) :
    pushAll push vs a = vs.foldlM (fun a v => push v a) a := by
  induction vs generalizing a with
  | nil => rfl
  | cons v vs ih =>
    rw [pushAll, List.foldlM_cons]
    cases push v a with
    | error fault => rfl
    | ok next => exact ih next

/-- Items are pushed alike where they are the same but for the order of entries. -/
lemma items_reorder {push : Value → α → Except OptionFault α}
    (hpush : ∀ {v v'}, Reorders v v' → ∀ a b, push v a = .ok b ↔ push v' a = .ok b) {v v' : Value}
    (hv : Reorders v v') (a b : α) :
    pushAll push v.items a = .ok b ↔ pushAll push v'.items a = .ok b := by
  have hall : List.Forall₂ Reorders v.items v'.items := by
    cases hv with
    | list items => exact items
    | token text => exact .cons (.token text) .nil
    | quoted text => exact .cons (.quoted text) .nil
    | message values => exact .cons (.message values) .nil
  rw [pushAll_eq_foldlM, pushAll_eq_foldlM]
  exact foldlM_eq_ok_congr (fun hv => hpush hv) hall a b

/-- A list is pushed as its items are, one after the other. -/
lemma pushAll_single (push : Value → α → Except OptionFault α) {vs : List Value}
    (single : ∀ v ∈ vs, ∀ items, v ≠ .list items) (a : α) :
    pushAll push vs a = vs.foldlM (fun a v => pushAll push v.items a) a := by
  have hitems : vs.flatMap Value.items = vs := by
    refine (List.flatMap_congr fun v hv => ?_).trans (List.flatMap_singleton' vs)
    cases v with
    | list items => exact absurd rfl (single _ hv items)
    | token text => rfl
    | quoted text => rfl
    | message es => rfl
  rw [foldlM_pushAll, hitems]

/-- One item is pushed in the place of another. -/
lemma pushAll_replace {push : Value → α → Except OptionFault α} {v v' : Value}
    (h : ∀ a, push v a = push v' a) (before after : List Value) (a : α) :
    pushAll push (before ++ v :: after) a = pushAll push (before ++ v' :: after) a := by
  have hafter : pushAll push (v :: after) = pushAll push (v' :: after) := by
    funext a
    rw [pushAll, pushAll, h]
  rw [pushAll_append, pushAll_append, hafter]

lemma texts_merges {push : String → α → α} : (texts key number push).Merges .strings where
  reorder := items_reorder (scalar_reorder nofun nofun)
  restate hv a := by
    cases hv with
    | strings single => exact pushAll_single _ single a

variable {table : Table β} {fields : Fields}

lemma map_reorder (h : table.Merges fields) {es es' : List Entry} (hes : EntriesReorder es es')
    (start : β) (finish : β → α) (a : α) :
    (table.readAll es start).map finish = .ok a ↔ (table.readAll es' start).map finish = .ok a := by
  rw [map_eq_ok, map_eq_ok]
  exact exists_congr fun next => and_congr_left fun _ => h.reorder hes start next

variable [Inhabited β]

/-- A part merges where reading goes on with what was set in it before. -/
lemma part_merges {get : α → Option β} {set : β → α → α} (h : table.Merges fields)
    (get_set : ∀ b a, get (set b a) = some b) (set_set : ∀ b b' a, set b (set b' a) = set b a) :
    (part key number table get set).Merges (.message fields) where
  reorder hv a b := by
    cases hv with
    | message values => exact map_reorder h values _ _ b
    | token text => rfl
    | quoted text => rfl
    | list items => exact iff_of_false nofun nofun
  restate hv a := by
    cases hv with
    | split xs ys =>
      change (table.readAll (xs ++ ys) _).map _ =
        (table.readAll xs _).map _ >>= fun a => (table.readAll ys _).map _ >>= pure
      rw [Table.readAll_append]
      cases table.readAll xs ((get a).getD default) with
      | error fault => rfl
      | ok first =>
        simp only [bind, Except.bind, Except.map, get_set, Option.getD_some]
        cases table.readAll ys first with
        | error fault => rfl
        | ok second => exact congrArg Except.ok (set_set second first a).symm
    | within inner =>
      change (table.readAll _ _).map _ = (table.readAll _ _).map _ >>= pure
      rw [h.restate inner, bind_pure]

lemma parts_merges {push : β → α → α} (h : table.Merges fields) :
    (parts key number table push).Merges (.messages fields) where
  reorder := by
    refine items_reorder fun hv a b => ?_
    cases hv with
    | message values => exact map_reorder h values _ _ b
    | token text => rfl
    | quoted text => rfl
    | list items => exact iff_of_false nofun nofun
  restate hv a := by
    have hpush : ∀ {es es'}, EntriesRestate fields es es' → ∀ a,
        pushMessage table push (.message es) a = pushMessage table push (.message es') a :=
      fun inner a => congrArg (Except.map (push · a)) (h.restate inner default)
    cases hv with
    | messages single => exact pushAll_single _ single a
    | withinItem inner =>
      simp only [List.foldlM_cons, List.foldlM_nil, bind_pure, parts_read]
      exact pushAll_replace (hpush inner) [] [] a
    | withinList before after inner =>
      simp only [List.foldlM_cons, List.foldlM_nil, bind_pure, parts_read]
      exact pushAll_replace (hpush inner) before after a

end Slot

open Slot Table.IsMadeOf

lemma layerFieldTable_merges (owner : String) : (layerFieldTable owner).Merges layerFieldFields :=
  (layerField_isMadeOf owner).merges <| .cons ⟨rfl, text_merges⟩ <| .cons ⟨rfl, flag_merges⟩ .nil

lemma bitflagTable_merges : bitflagTable.Merges bitflagFields :=
  bitflag_isMadeOf.merges <| .cons ⟨rfl, text_merges⟩ <| .cons ⟨rfl, text_merges⟩ .nil

lemma outboundTable_merges : outboundTable.Merges outboundFields :=
  outbound_isMadeOf.merges <| .cons ⟨rfl, text_merges⟩ <| .cons ⟨rfl, flag_merges⟩ <|
    .cons ⟨rfl, flag_merges⟩ <| .cons ⟨rfl, text_merges⟩ <| .cons ⟨rfl, text_merges⟩ <|
    .cons ⟨rfl, part_merges bitflagTable_merges (fun _ _ => rfl) fun _ _ _ => rfl⟩ .nil

lemma fieldValueTable_merges : fieldValueTable.Merges fieldValueFields :=
  fieldValue_isMadeOf.merges <| .cons ⟨rfl, text_merges⟩ <| .cons ⟨rfl, text_merges⟩ .nil

lemma conditionTable_merges : conditionTable.Merges conditionFields :=
  condition_isMadeOf.merges <| .cons ⟨rfl, parts_merges fieldValueTable_merges⟩ <|
    .cons ⟨rfl, parts_merges fieldValueTable_merges⟩ .nil

lemma matchTable_merges : matchTable.Merges matchFields :=
  matchRule_isMadeOf.merges <| .cons ⟨rfl, texts_merges⟩ .nil

lemma namedRuleTable_merges : namedRuleTable.Merges namedRuleFields :=
  namedRule_isMadeOf.merges <| .cons ⟨rfl, text_merges⟩ <| .cons ⟨rfl, texts_merges⟩ .nil

lemma validateTable_merges : validateTable.Merges validateFields :=
  validate_isMadeOf.merges <| .cons ⟨rfl, flag_merges⟩ <|
    .cons ⟨rfl, part_merges conditionTable_merges (fun _ _ => rfl) fun _ _ _ => rfl⟩ <|
    .cons ⟨rfl, part_merges conditionTable_merges (fun _ _ => rfl) fun _ _ _ => rfl⟩ <|
    .cons ⟨rfl, part_merges conditionTable_merges (fun _ _ => rfl) fun _ _ _ => rfl⟩ <|
    .cons ⟨rfl, part_merges conditionTable_merges (fun _ _ => rfl) fun _ _ _ => rfl⟩ <|
    .cons ⟨rfl, integer_merges⟩ <| .cons ⟨rfl, integer_merges⟩ <| .cons ⟨rfl, integer_merges⟩ <|
    .cons ⟨rfl, integer_merges⟩ <| .cons ⟨rfl, flag_merges⟩ <|
    .cons ⟨rfl, part_merges matchTable_merges (fun _ _ => rfl) fun _ _ _ => rfl⟩ <|
    .cons ⟨rfl, parts_merges namedRuleTable_merges⟩ .nil

lemma columnTable_merges : columnTable.Merges columnFields :=
  column_isMadeOf.merges <| .cons ⟨rfl, text_merges⟩ <| .cons ⟨rfl, flag_merges⟩ <|
    .cons ⟨rfl, flag_merges⟩ <| .cons ⟨rfl, flag_merges⟩ <| .cons ⟨rfl, flag_merges⟩ <|
    .cons ⟨rfl, flag_merges⟩ .nil

lemma tagTable_merges : tagTable.Merges tagFields :=
  tag_isMadeOf.merges <| .cons ⟨rfl, text_merges⟩ <| .cons ⟨rfl, text_merges⟩ .nil

lemma fieldTable_merges : fieldTable.Merges fieldFields :=
  field_isMadeOf.merges <|
    .cons ⟨rfl, part_merges (layerFieldTable_merges _) (fun _ _ => rfl) fun _ _ _ => rfl⟩ <|
    .cons ⟨rfl, part_merges (layerFieldTable_merges _) (fun _ _ => rfl) fun _ _ _ => rfl⟩ <|
    .cons ⟨rfl, part_merges outboundTable_merges (fun _ _ => rfl) fun _ _ _ => rfl⟩ <|
    .cons ⟨rfl, part_merges validateTable_merges (fun _ _ => rfl) fun _ _ _ => rfl⟩ <|
    .cons ⟨rfl, part_merges columnTable_merges (fun _ _ => rfl) fun _ _ _ => rfl⟩ <|
    .cons ⟨rfl, parts_merges tagTable_merges⟩ .nil

lemma layerTable_merges : layerTable.Merges layerFields :=
  layer_isMadeOf.merges <| .cons ⟨rfl, choice_merges⟩ <| .cons ⟨rfl, flag_merges⟩ .nil

lemma messageTable_merges : messageTable.Merges messageFields :=
  message_isMadeOf.merges <|
    .cons ⟨rfl, part_merges layerTable_merges (fun _ _ => rfl) fun _ _ _ => rfl⟩ <|
    .cons ⟨rfl, part_merges layerTable_merges (fun _ _ => rfl) fun _ _ _ => rfl⟩ <|
    .cons ⟨rfl, part_merges layerTable_merges (fun _ _ => rfl) fun _ _ _ => rfl⟩ <|
    .cons ⟨rfl, texts_merges⟩ .nil

lemma endpointTable_merges : endpointTable.Merges endpointFields :=
  endpoint_isMadeOf.merges <| .cons ⟨rfl, text_merges⟩ <| .cons ⟨rfl, text_merges⟩ <|
    .cons ⟨rfl, text_merges⟩ <| .cons ⟨rfl, texts_merges⟩ .nil

lemma authTable_merges : authTable.Merges authFields :=
  auth_isMadeOf.merges <| .cons ⟨rfl, choice_merges⟩ <| .cons ⟨rfl, text_merges⟩ .nil

lemma methodTable_merges : methodTable.Merges methodFields :=
  method_isMadeOf.merges <|
    .cons ⟨rfl, part_merges endpointTable_merges (fun _ _ => rfl) fun _ _ _ => rfl⟩ <|
    .cons ⟨rfl, part_merges authTable_merges (fun _ _ => rfl) fun _ _ _ => rfl⟩ .nil

/-! ### Options -/

/-- Options of an extension, at least one, whose entries can be told; `es` are all of them, one
option after the other. -/
structure Hold (extension : String) (written : List WrittenOption) (es : List Entry) : Prop where
  ne_nil : written ≠ []
  mine : ∀ option ∈ written, isFor extension option = true
  entries : (written.mapM optionEntries).map List.flatten = .ok es

/-- Options of an extension merge: the order of entries under different keys makes no difference to
what is read, the pieces that entries are in make no difference at all, within an option or over
several, and neither does what belongs to something else, if only it can be told by its name. -/
structure Table.OptionsMerge [Inhabited α] (table : Table α) (fields : Fields)
    (extension : String) : Prop where
  reorder : ∀ {written written' es es'}, Hold extension written es → Hold extension written' es' →
    EntriesReorder es es' → ∀ before after result,
      readWritten table extension (before ++ written ++ after) = .ok result ↔
        readWritten table extension (before ++ written' ++ after) = .ok result
  restate : ∀ {written written' es es'}, Hold extension written es → Hold extension written' es' →
    EntriesRestate fields es es' → ∀ before after,
      readWritten table extension (before ++ written ++ after) =
        readWritten table extension (before ++ written' ++ after)
  insert : ∀ {foreign : List WrittenOption},
    (∀ option ∈ foreign, option.name.head? ≠ some ⟨extension, true⟩) → ∀ before after,
      readWritten table extension (before ++ foreign ++ after) =
        readWritten table extension (before ++ after)

section

variable {table : Table α} {fields : Fields} {extension : String}

variable [Inhabited α]

/-- What is read of options among others goes by their entries. -/
lemma Hold.readWritten {written : List WrittenOption} {es : List Entry}
    (h : Hold extension written es) (before after : List WrittenOption) :
    readWritten table extension (before ++ written ++ after) =
      (readOptions table (before.filter (isFor extension)) default >>= fun a =>
        table.readAll es a >>= readOptions table (after.filter (isFor extension))).map some := by
  have hmine : written.filter (isFor extension) = written := List.filter_eq_self.mpr h.mine
  have hfilter : (before ++ written ++ after).filter (isFor extension) =
      before.filter (isFor extension) ++ (written ++ after.filter (isFor extension)) := by
    rw [List.filter_append, List.filter_append, hmine, List.append_assoc]
  have hne : (before ++ written ++ after).filter (isFor extension) ≠ [] := by
    rw [hfilter]
    simp [h.ne_nil]
  rw [readWritten_of_ne_nil hne, hfilter, readOptions_append]
  simp only [funext (readOptions_append written _), readOptions_eq h.entries]

/-- What merges as a table merges as options. -/
lemma Table.Merges.options (h : table.Merges fields) (extension : String) :
    table.OptionsMerge fields extension where
  reorder hold hold' hes before after result := by
    rw [hold.readWritten, hold'.readWritten]
    simp only [map_eq_ok, bind_eq_ok, h.reorder hes]
  restate hold hold' hes before after := by
    rw [hold.readWritten, hold'.readWritten, funext (h.restate hes)]
  insert {foreign} hforeign before after := by
    have hnone : foreign.filter (isFor extension) = [] :=
      List.filter_eq_nil_iff.mpr fun option hoption hfor =>
        hforeign option hoption (isFor_iff.mp hfor)
    have hfilter : (before ++ foreign ++ after).filter (isFor extension) =
        (before ++ after).filter (isFor extension) := by
      simp only [List.filter_append, hnone, List.append_nil]
    unfold readWritten
    rw [hfilter]

end

/-- Options of fields, messages and methods merge. -/
theorem options_merge :
    fieldTable.OptionsMerge fieldFields fieldExtension ∧
      messageTable.OptionsMerge messageFields messageExtension ∧
      methodTable.OptionsMerge methodFields methodExtension :=
  ⟨fieldTable_merges.options _, messageTable_merges.options _, methodTable_merges.options _⟩

/-- Aggregates with some entries each. -/
def aggregates (extension : String) (ess : List (List Entry)) : List WrittenOption :=
  ess.map fun es => aggregateOption extension (renderEntries es)

lemma hold_aggregates {extension : String} {ess : List (List Entry)} (ne_nil : ess ≠ [])
    (readable : ∀ es ∈ ess, Value.areReadable es = true) :
    Hold extension (aggregates extension ess) ess.flatten where
  ne_nil := by simpa [aggregates] using ne_nil
  mine := by
    intro option hoption
    obtain ⟨es, -, rfl⟩ := List.mem_map.mp hoption
    simp [aggregateOption, isFor]
  entries := by
    refine map_eq_ok.mpr ⟨ess, mapM_eq_ok.mpr ?_, rfl⟩
    refine List.forall₂_map_left_iff.mpr (List.forall₂_same.mpr fun es hes => ?_)
    exact optionEntries_aggregate (readText_renderEntries (readable es hes))

def namingEntry : Entry := ("naming", .token "snake")
def hideEntry : Entry := ("hide", .token "true")
def codeEntry : Entry := ("custom_code", .list [.token "a", .quoted "b"])

/-- A message in snake case, hidden, with two pieces of code. -/
def snakeMessage : MessageOptions :=
  { domain := some { naming := 1, hide := true }, customCode := ["a", "b"] }

/-- It is read of one aggregate, of two that share the part between them, of one with its list as
items, of one in another order at both levels, and after an option of something else that has no
value. -/
theorem snakeMessage_merges :
    readWritten messageTable messageExtension (aggregates messageExtension
        [[("domain", .message [namingEntry, hideEntry]), codeEntry]]) = .ok (some snakeMessage) ∧
      readWritten messageTable messageExtension (aggregates messageExtension
        [[("domain", .message [namingEntry])], [("domain", .message [hideEntry]), codeEntry]]) =
        .ok (some snakeMessage) ∧
      readWritten messageTable messageExtension (aggregates messageExtension
        [[("domain", .message [namingEntry, hideEntry]), ("custom_code", .token "a"),
          ("custom_code", .quoted "b")]]) = .ok (some snakeMessage) ∧
      readWritten messageTable messageExtension (aggregates messageExtension
        [[codeEntry, ("domain", .message [hideEntry, namingEntry])]]) = .ok (some snakeMessage) ∧
      readWritten messageTable messageExtension ([{ name := [⟨"deprecated", false⟩] }] ++
        aggregates messageExtension
          [[("domain", .message [namingEntry, hideEntry]), codeEntry]]) =
        .ok (some snakeMessage) := by
  obtain ⟨-, hmerge, -⟩ := options_merge
  have hwhole : Hold messageExtension (aggregates messageExtension
      [[("domain", .message [namingEntry, hideEntry]), codeEntry]])
      [("domain", .message [namingEntry, hideEntry]), codeEntry] :=
    hold_aggregates (by simp) (by decide)
  have hsplit : Hold messageExtension (aggregates messageExtension
      [[("domain", .message [namingEntry])], [("domain", .message [hideEntry]), codeEntry]])
      [("domain", .message [namingEntry]), ("domain", .message [hideEntry]), codeEntry] :=
    hold_aggregates (by simp) (by decide)
  have hitems : Hold messageExtension (aggregates messageExtension
      [[("domain", .message [namingEntry, hideEntry]), ("custom_code", .token "a"),
        ("custom_code", .quoted "b")]])
      [("domain", .message [namingEntry, hideEntry]), ("custom_code", .token "a"),
        ("custom_code", .quoted "b")] :=
    hold_aggregates (by simp) (by decide)
  have hordered : Hold messageExtension (aggregates messageExtension
      [[codeEntry, ("domain", .message [hideEntry, namingEntry])]])
      [codeEntry, ("domain", .message [hideEntry, namingEntry])] :=
    hold_aggregates (by simp) (by decide)
  have hread : readWritten messageTable messageExtension ([] ++ aggregates messageExtension
      [[("domain", .message [namingEntry, hideEntry]), codeEntry]] ++ []) =
      .ok (some snakeMessage) := by
    rw [hwhole.readWritten]
    rfl
  refine ⟨hread, ?_, ?_, ?_, ?_⟩
  · refine Eq.trans (hmerge.restate hwhole hsplit ?_ [] []).symm hread
    exact .entry rfl (.split [namingEntry] [hideEntry]) [] [codeEntry]
  · refine Eq.trans (hmerge.restate hwhole hitems ?_ [] []).symm hread
    exact .entry rfl (.strings (by simp)) [("domain", .message [namingEntry, hideEntry])] []
  · refine (hmerge.reorder hwhole hordered (fun key => ?_) [] [] _).mp hread
    by_cases hdomain : key = "domain"
    · subst hdomain
      exact .cons (.message (entriesReorder_swap (by decide) [])) .nil
    · have hsame : valuesOf key [("domain", .message [namingEntry, hideEntry]), codeEntry] =
          valuesOf key [codeEntry, ("domain", .message [hideEntry, namingEntry])] := by
        simp [valuesOf, List.filter_cons, Ne.symm hdomain]
      rw [hsame]
      exact List.forall₂_same.mpr fun v _ => .refl v
  · have hforeign : ∀ option ∈ [{ name := [⟨"deprecated", false⟩] : WrittenOption }],
        option.name.head? ≠ some ⟨messageExtension, true⟩ := by decide
    exact (hmerge.insert hforeign [] _).trans hread

end Laminate.Annotation
