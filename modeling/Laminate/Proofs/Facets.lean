import Laminate.Proofs.Listing
import Laminate.Proofs.Outcome
import Laminate.Proofs.Tokens

/-! The kinds of parts that annotations have.
There is one for each kind of slot: it says how a content of its kind is listed, and the slot
follows it. -/
namespace Laminate.Annotation

open Laminate.Text

/-! ### Integers -/

lemma digitsValue_toDigits (n : Nat) : digitsValue (Nat.toDigits 10 n) = n := by
  have heq : ∀ text, digitsValue text = Nat.ofDigitChars 10 text 0 := by
    intro text
    unfold digitsValue Nat.ofDigitChars
    congr 1
    funext value c
    rw [Nat.mul_comm]
  rw [heq, Nat.ofDigitChars_ten_toDigits]

/-- A number is written as its digits, of which there is a first one. -/
lemma digits_toDigits (n : Nat) :
    (∀ c ∈ Nat.toDigits 10 n, c.isDigit = true) ∧
      ∃ c rest, Nat.toDigits 10 n = c :: rest ∧ c.isDigit = true := by
  have hall : ∀ c ∈ Nat.toDigits 10 n, c.isDigit = true :=
    fun c hc => Nat.isDigit_of_mem_toDigits (by decide) (by decide) hc
  obtain ⟨c, rest, h⟩ := List.exists_cons_of_ne_nil (Nat.toDigits_ne_nil (n := n) (b := 10))
  exact ⟨hall, c, rest, h, hall c (by simp [h])⟩

lemma toList_toString (n : Int) :
    (toString n).toList =
      if 0 ≤ n then Nat.toDigits 10 n.natAbs else '-' :: Nat.toDigits 10 n.natAbs := by
  rw [Int.toString_eq_repr, Int.repr_eq_if]
  split
  · next h =>
    rw [Nat.toList_repr, show n.toNat = n.natAbs by omega]
  · next h =>
    rw [String.toList_append, Nat.toList_repr, show (-n).toNat = n.natAbs by omega]
    rfl

lemma ne_sign_of_isDigit {c : Char} (h : c.isDigit = true) : c ≠ '+' ∧ c ≠ '-' := by
  constructor <;> rintro rfl <;> revert h <;> decide

lemma unsigned_toDigits (n : Nat) : unsigned (Nat.toDigits 10 n) = Nat.toDigits 10 n := by
  obtain ⟨-, c, rest, hcons, hc⟩ := digits_toDigits n
  obtain ⟨hplus, hminus⟩ := ne_sign_of_isDigit hc
  rw [hcons, unsigned]
  · exact fun _ heq => hplus (List.cons.inj heq).1
  · exact fun _ heq => hminus (List.cons.inj heq).1

/-- The decimal text of an integer is read as the integer. -/
lemma readInteger?_toString (n : Int) : readInteger? (toString n) = some n := by
  obtain ⟨hall, c, rest, hcons, hc⟩ := digits_toDigits n.natAbs
  have hminus := (ne_sign_of_isDigit hc).2
  have hdigits : isDigits (Nat.toDigits 10 n.natAbs) = true := by
    simp only [isDigits, Bool.and_eq_true, Bool.not_eq_true', List.isEmpty_eq_false_iff,
      List.all_eq_true]
    exact ⟨Nat.toDigits_ne_nil, hall⟩
  have hvalue := digitsValue_toDigits n.natAbs
  unfold readInteger?
  rw [toList_toString]
  split
  · next h =>
    simp only [unsigned_toDigits, hdigits, hvalue, if_true]
    rw [if_neg (by simp [hcons, hminus])]
    congr 1
    omega
  · next h =>
    simp only [unsigned, hdigits, hvalue, if_true, List.head?_cons]
    congr 1
    omega

lemma readInt64?_toString {n : Int} (h : -0x8000000000000000 ≤ n ∧ n < 0x8000000000000000) :
    readInt64? (toString n) = some n := by
  rw [readInt64?, readInteger?_toString]
  simp [h.1, h.2]

/-- What may stand in a key may stand in a token, and in front of it. -/
lemma isTokenChar_of_isKeyChar {c : Char} (h : isKeyChar c = true) :
    isTokenChar c = true ∧ isOpener c = false := by
  have hne : c ≠ '\x7b' ∧ c ≠ '\x7d' ∧ c ≠ '<' ∧ c ≠ '>' ∧ c ≠ '[' ∧ c ≠ ']' := by
    refine ⟨?_, ?_, ?_, ?_, ?_, ?_⟩ <;> rintro rfl <;> revert h <;> decide
  obtain ⟨hopen, hclose, hless, hgreater, hleft, hright⟩ := hne
  obtain ⟨hseparator, hcomment, hquote⟩ := isSeparator_of_isKeyChar h
  simp only [isSeparator, Bool.or_eq_false_iff, beq_eq_false_iff_ne] at hseparator
  obtain ⟨⟨hblank, hcomma⟩, hsemicolon⟩ := hseparator
  simp [isTokenChar, isOpener, *]

lemma isWritableToken_toString (n : Int) : isWritableToken (toString n) = true := by
  obtain ⟨hall, c, rest, hcons, hc⟩ := digits_toDigits n.natAbs
  have hplain : ∀ c : Char, c.isDigit = true → isTokenChar c = true ∧ isOpener c = false := by
    intro c hc
    have hident := (Code.isIdentChar_of_isDigit hc).1
    exact isTokenChar_of_isKeyChar (by simp_all [isKeyChar, Code.isIdentChar])
  simp only [isWritableToken, Bool.and_eq_true, List.all_eq_true, toList_toString]
  split
  · exact ⟨fun c hc => (hplain c (hall c hc)).1, by simp [hcons, (hplain c hc).2]⟩
  · refine ⟨List.forall_mem_cons.mpr ⟨by decide, fun c hc => (hplain c (hall c hc)).1⟩, ?_⟩
    simp only [List.head?_cons, Option.any_some]
    decide

/-! ### Single contents -/

lemma areWritable_eq (es : List Entry) :
    Value.areWritable es = es.all fun e => isWritableKey e.1 && e.2.isWritable := by
  induction es with
  | nil => rfl
  | cons e es ih => rw [Value.areWritable, ih, List.all_cons]

lemma areWritableItems_eq (vs : List Value) :
    Value.areWritableItems vs = vs.all Value.isWritable := by
  induction vs with
  | nil => rfl
  | cons v vs ih => rw [Value.areWritableItems, ih, List.all_cons]

variable {α β : Type}

/-- A listing can be written as text. -/
lemma Lists.areWritable {facets : List (Facet α)} {a : α} {es : List Entry}
    (valid : IsValid facets a) (lists : Lists facets a es) : Value.areWritable es = true := by
  rw [areWritable_eq, List.all_eq_true]
  intro e he
  obtain ⟨f, hf, hkey⟩ := lists.known e he
  have hvalue : e.2 ∈ valuesOf f.key es := by
    rw [valuesOf, hkey]
    exact List.mem_map_of_mem (List.mem_filter.mpr ⟨he, by simp⟩)
  rw [Bool.and_eq_true, ← hkey]
  exact ⟨f.writableKey, f.writable (valid f hf) (lists.values f hf) e.2 hvalue⟩

namespace Facet

variable (key : String) (writableKey : isWritableKey key = true)

/-- Text, which may be left out where it is empty. -/
def text (get : α → String) (set : String → α → α) : Facet α where
  key := key
  Content := String
  get := get
  set := set
  initial := ""
  read v _ := v.asText
  IsValid _ := True
  Lists s vs := vs = [.quoted s] ∨ s = "" ∧ vs = []
  writableKey := writableKey
  writable := by rintro s vs - (rfl | ⟨-, rfl⟩) <;> simp [Value.isWritable]
  reads := by rintro s vs - (rfl | ⟨rfl, rfl⟩) <;> rfl
  exists_lists _ := ⟨_, .inl rfl⟩

def flagToken (b : Bool) : Value := .token (if b then "true" else "false")

/-- A flag, which may be left out where it is false. -/
def flag (get : α → Bool) (set : Bool → α → α) : Facet α where
  key := key
  Content := Bool
  get := get
  set := set
  initial := false
  read v _ := v.asFlag
  IsValid _ := True
  Lists b vs := vs = [flagToken b] ∨ b = false ∧ vs = []
  writableKey := writableKey
  writable := by
    rintro b vs - (rfl | ⟨-, rfl⟩)
    · cases b <;> simp [flagToken, Value.isWritable] <;> decide
    · simp
  reads := by
    rintro b vs - (rfl | ⟨rfl, rfl⟩)
    · cases b <;> rfl
    · rfl
  exists_lists _ := ⟨_, .inl rfl⟩

/-- A signed 64-bit integer that may be absent. -/
def integer (get : α → Option Int) (set : Option Int → α → α) : Facet α where
  key := key
  Content := Option Int
  get := get
  set := set
  initial := none
  read v _ := v.asInteger.map some
  IsValid bound := ∀ n ∈ bound, -0x8000000000000000 ≤ n ∧ n < 0x8000000000000000
  Lists bound vs := vs = (bound.map fun n => Value.token (toString n)).toList
  writableKey := writableKey
  writable := by
    rintro (_ | n) vs - rfl
    · simp
    · exact List.forall_mem_singleton.mpr (isWritableToken_toString n)
  reads := by
    rintro (_ | n) vs valid rfl
    · rfl
    · have hread : (Value.token (toString n)).asInteger = .ok n := by
        rw [Value.asInteger, readInt64?_toString (valid n rfl)]
      simp only [Option.map_some, Option.toList_some, List.foldlM_cons, hread]
      rfl
  exists_lists _ := ⟨_, rfl⟩

/-- The names of an enumeration, each chosen for its number. -/
structure Names (choose : String → Except OptionFault Int) where
  names : List (Int × String)
  writable : ∀ entry ∈ names, isWritableToken entry.2 = true
  chosen : ∀ entry ∈ names, choose entry.2 = .ok entry.1

/-- A number of an enumeration, written by its name; zero may be left out. -/
def choice {choose : String → Except OptionFault Int} (names : Names choose) (get : α → Int)
    (set : Int → α → α) : Facet α where
  key := key
  Content := Int
  get := get
  set := set
  initial := 0
  read v _ := v.asText.bind choose
  IsValid n := ∃ name, (n, name) ∈ names.names
  Lists n vs := (∃ name, (n, name) ∈ names.names ∧ vs = [.token name]) ∨ n = 0 ∧ vs = []
  writableKey := writableKey
  writable := by
    rintro n vs - (⟨name, hname, rfl⟩ | ⟨-, rfl⟩)
    · simpa [Value.isWritable] using names.writable _ hname
    · simp
  reads := by
    rintro n vs - (⟨name, hname, rfl⟩ | ⟨rfl, rfl⟩)
    · simp only [List.foldlM_cons, Value.asText_token, Except.bind, names.chosen _ hname]
      rfl
    · rfl
  exists_lists := fun ⟨name, hname⟩ => ⟨_, .inl ⟨name, hname, rfl⟩⟩

end Facet

/-! ### Parts with parts of their own -/

/-- Every valid `α` can be listed. -/
lemma exists_lists {facets : List (Facet α)} {a : α} (nodup : (facets.map (·.key)).Nodup)
    (valid : IsValid facets a) : ∃ es, Lists facets a es := by
  induction facets with
  | nil => exact ⟨[], nofun, nofun⟩
  | cons f facets ih =>
    rw [List.map_cons, List.nodup_cons] at nodup
    obtain ⟨hf, hfacets⟩ := List.forall_mem_cons.mp valid
    obtain ⟨vs, hvs⟩ := f.exists_lists hf
    obtain ⟨es, known, values⟩ := ih nodup.2 hfacets
    have hself : valuesOf f.key (vs.map (f.key, ·)) = vs := by
      simp [valuesOf, List.filter_map, Function.comp_def]
    have happend : ∀ key, valuesOf key (vs.map (f.key, ·) ++ es) =
        valuesOf key (vs.map (f.key, ·)) ++ valuesOf key es := by
      simp [valuesOf]
    refine ⟨vs.map (f.key, ·) ++ es, ?_, List.forall_mem_cons.mpr ⟨?_, ?_⟩⟩
    · intro e he
      rcases List.mem_append.mp he with he | he
      · obtain ⟨v, -, rfl⟩ := List.mem_map.mp he
        exact ⟨f, List.mem_cons_self, rfl⟩
      · obtain ⟨g, hg, hkey⟩ := known e he
        exact ⟨g, List.mem_cons_of_mem _ hg, hkey⟩
    · have hnone : valuesOf f.key es = [] := by
        simp only [valuesOf, List.map_eq_nil_iff, List.filter_eq_nil_iff, beq_iff_eq]
        intro e he heq
        obtain ⟨g, hg, hkey⟩ := known e he
        exact nodup.1 (List.mem_map.mpr ⟨g, hg, hkey.trans heq⟩)
      rw [happend, hself, hnone, List.append_nil]
      exact hvs
    · intro g hg
      have hne : f.key ≠ g.key := fun heq => nodup.1 (List.mem_map.mpr ⟨g, hg, heq.symm⟩)
      have hnone : valuesOf g.key (vs.map (f.key, ·)) = [] := by
        simp [valuesOf, hne]
      rw [happend, hnone, List.nil_append]
      exact values g hg

/-- What repeated parts are made of, each written as a value of its own. -/
structure Element (β : Type) where
  read : Value → Except OptionFault β
  IsValid : β → Prop
  Lists : β → Value → Prop
  single : ∀ {b v}, Lists b v → v.items = [v]
  writable : ∀ {b v}, IsValid b → Lists b v → v.isWritable = true
  reads : ∀ {b v}, IsValid b → Lists b v → read v = .ok b
  exists_lists : ∀ {b}, IsValid b → ∃ v, Lists b v

namespace Element

def text : Element String where
  read := Value.asText
  IsValid _ := True
  Lists s v := v = .quoted s
  single := by rintro s v rfl; rfl
  writable := by rintro s v - rfl; rfl
  reads := by rintro s v - rfl; rfl
  exists_lists _ := ⟨_, rfl⟩

/-- A message that lists a part. -/
def message [Inhabited β] {table : Table β} {facets : List (Facet β)}
    (made : table.IsMadeOf facets) : Element β where
  read v := v.asEntries.bind fun es => table.readAll es default
  IsValid := Annotation.IsValid facets
  Lists b v := ∃ es, v = .message es ∧ Annotation.Lists facets b es
  single := by rintro b v ⟨es, rfl, -⟩; rfl
  writable := by
    rintro b v valid ⟨es, rfl, lists⟩
    exact lists.areWritable valid
  reads := by
    rintro b v valid ⟨es, rfl, lists⟩
    exact made.readAll valid lists
  exists_lists := by
    intro b valid
    obtain ⟨es, lists⟩ := Annotation.exists_lists made.nodup valid
    exact ⟨_, es, rfl, lists⟩

end Element

lemma pushAll_append (push : Value → α → Except OptionFault α) (vs ws : List Value) (a : α) :
    Slot.pushAll push (vs ++ ws) a = (Slot.pushAll push vs a).bind (Slot.pushAll push ws) := by
  induction vs generalizing a with
  | nil => rfl
  | cons v vs ih =>
    simp only [List.cons_append, Slot.pushAll]
    cases push v a with
    | error fault => rfl
    | ok a => exact ih a

lemma foldlM_pushAll (push : Value → α → Except OptionFault α) (vs : List Value) (a : α) :
    vs.foldlM (fun a v => Slot.pushAll push v.items a) a =
      Slot.pushAll push (vs.flatMap Value.items) a := by
  induction vs generalizing a with
  | nil => rfl
  | cons v vs ih =>
    rw [List.foldlM_cons, List.flatMap_cons, pushAll_append]
    exact congrArg _ (funext ih)

namespace Facet

variable (key : String) (writableKey : isWritableKey key = true)

/-- Several elements, under the key as often as one likes, each time one of them or a list. -/
def repeated (element : Element β) (get : α → List β) (set : List β → α → α) : Facet α where
  key := key
  Content := List β
  get := get
  set := set
  initial := []
  read v bs := Slot.pushAll (fun item bs => (element.read item).map (bs ++ [·])) v.items bs
  IsValid bs := ∀ b ∈ bs, element.IsValid b
  Lists bs vs := List.Forall₂ element.Lists bs (vs.flatMap Value.items)
  writableKey := writableKey
  writable := by
    intro bs vs valid lists v hv
    have hitems : ∀ item ∈ v.items, item.isWritable = true := by
      intro item hitem
      obtain ⟨b, hb, hlists⟩ :=
        exists_of_mem_forall₂ lists (List.mem_flatMap.mpr ⟨v, hv, hitem⟩)
      exact element.writable (valid b hb) hlists
    cases v with
    | list items =>
      rw [Value.isWritable, areWritableItems_eq, List.all_eq_true]
      exact hitems
    | _ => exact hitems _ List.mem_cons_self
  reads := by
    intro bs vs valid lists
    have hread : ∀ {bs items}, (∀ b ∈ bs, element.IsValid b) →
        List.Forall₂ element.Lists bs items → ∀ before,
        Slot.pushAll (fun item bs => (element.read item).map (bs ++ [·])) items before =
          .ok (before ++ bs) := by
      intro bs items valid lists
      induction lists with
      | nil => exact fun before => by rw [List.append_nil]; rfl
      | cons hlists _ ih =>
        intro before
        obtain ⟨hb, hbs⟩ := List.forall_mem_cons.mp valid
        rw [Slot.pushAll, element.reads hb hlists]
        exact (ih hbs _).trans (by rw [List.append_assoc, List.singleton_append])
    rw [foldlM_pushAll]
    exact hread valid lists []
  exists_lists := by
    intro bs valid
    have hitems : ∃ items, List.Forall₂ element.Lists bs items := by
      induction bs with
      | nil => exact ⟨[], .nil⟩
      | cons b bs ih =>
        obtain ⟨hb, hbs⟩ := List.forall_mem_cons.mp valid
        obtain ⟨item, hitem⟩ := element.exists_lists hb
        obtain ⟨items, hitems⟩ := ih hbs
        exact ⟨item :: items, .cons hitem hitems⟩
    obtain ⟨items, hitems⟩ := hitems
    exact ⟨[.list items], by simpa using hitems⟩

/-- A part that may be absent, as a message. -/
def part [Inhabited β] {table : Table β} {facets : List (Facet β)} (made : table.IsMadeOf facets)
    (get : α → Option β) (set : Option β → α → α) : Facet α where
  key := key
  Content := Option β
  get := get
  set := set
  initial := none
  read v b := v.asEntries.bind fun es => (table.readAll es (b.getD default)).map some
  IsValid part := ∀ b ∈ part, Annotation.IsValid facets b
  Lists part vs := part = none ∧ vs = [] ∨
    ∃ b es, part = some b ∧ vs = [.message es] ∧ Annotation.Lists facets b es
  writableKey := writableKey
  writable := by
    rintro part vs valid (⟨-, rfl⟩ | ⟨b, es, rfl, rfl, lists⟩)
    · simp
    · exact List.forall_mem_singleton.mpr (lists.areWritable (valid b rfl))
  reads := by
    rintro part vs valid (⟨rfl, rfl⟩ | ⟨b, es, rfl, rfl, lists⟩)
    · rfl
    · have hread := made.readAll (valid b rfl) lists
      simp only [List.foldlM_cons, Value.asEntries_message, Except.bind, Option.getD_none, hread]
      rfl
  exists_lists := by
    rintro (_ | b) valid
    · exact ⟨_, .inl ⟨rfl, rfl⟩⟩
    · obtain ⟨es, lists⟩ := Annotation.exists_lists made.nodup (valid b rfl)
      exact ⟨_, .inr ⟨b, es, rfl, rfl, lists⟩⟩

end Facet

/-! ### Slots -/

/-- Pushing on to a content within an `α`. -/
lemma IsLens.pushAll {γ : Type} {get : α → γ} {set : γ → α → α} (lens : IsLens get set)
    {push : Value → α → Except OptionFault α} {add : Value → γ → Except OptionFault γ}
    (h : ∀ v a, push v a = (add v (get a)).map (set · a)) (vs : List Value) (a : α) :
    Slot.pushAll push vs a = (Slot.pushAll add vs (get a)).map (set · a) := by
  induction vs generalizing a with
  | nil => exact congrArg Except.ok (lens.set_get a).symm
  | cons v vs ih =>
    simp only [Slot.pushAll, h]
    cases add v (get a) with
    | error fault => rfl
    | ok c => simpa [Except.map, lens.get_set, lens.set_set] using ih (set c a)

namespace Slot.Follows

variable {key : String} {number : Nat} {writableKey : isWritableKey key = true}

lemma text {get : α → String} {set : String → α → α} :
    (Slot.text key number set).Follows (Facet.text key writableKey get set) :=
  ⟨rfl, fun _ _ _ => rfl⟩

lemma flag {get : α → Bool} {set : Bool → α → α} :
    (Slot.flag key number set).Follows (Facet.flag key writableKey get set) :=
  ⟨rfl, fun _ _ _ => rfl⟩

lemma integer {get : α → Option Int} {set : Option Int → α → α} {put : Int → α → α}
    (h : ∀ n, put n = set (some n)) :
    (Slot.integer key number put).Follows (Facet.integer key writableKey get set) := by
  obtain rfl : put = fun n => set (some n) := funext h
  refine ⟨rfl, fun _ v a => ?_⟩
  change v.asInteger.map _ = (v.asInteger.map some).map _
  cases v.asInteger <;> rfl

lemma choice {choose : String → Except OptionFault Int} {names : Facet.Names choose}
    {get : α → Int} {set : Int → α → α} :
    (Slot.choice key number choose set).Follows (Facet.choice key writableKey names get set) := by
  refine ⟨rfl, fun _ v a => ?_⟩
  dsimp only [Slot.choice, Facet.choice]
  cases v.asText <;> rfl

lemma part [Inhabited β] {table : Table β} {facets : List (Facet β)}
    {made : table.IsMadeOf facets} {get : α → Option β} {set : Option β → α → α}
    {put : β → α → α} (h : ∀ b, put b = set (some b)) :
    (Slot.part key number table get put).Follows (Facet.part key writableKey made get set) := by
  obtain rfl : put = fun b => set (some b) := funext h
  refine ⟨rfl, fun _ v a => ?_⟩
  dsimp only [Slot.part, Facet.part]
  cases v.asEntries with
  | error fault => rfl
  | ok es =>
    simp only [Except.bind]
    cases table.readAll es ((get a).getD default) <;> rfl

lemma texts {get : α → List String} {set : List String → α → α} {push : String → α → α}
    (h : ∀ s a, push s a = set (get a ++ [s]) a) :
    (Slot.texts key number push).Follows (Facet.repeated key writableKey .text get set) := by
  obtain rfl : push = fun s a => set (get a ++ [s]) a := funext fun s => funext (h s)
  refine ⟨rfl, fun lens v a => lens.pushAll (fun item a => ?_) v.items a⟩
  change item.asText.map _ = (item.asText.map _).map _
  cases item.asText <;> rfl

lemma parts [Inhabited β] {table : Table β} {facets : List (Facet β)}
    {made : table.IsMadeOf facets} {get : α → List β} {set : List β → α → α} {push : β → α → α}
    (h : ∀ b a, push b a = set (get a ++ [b]) a) :
    (Slot.parts key number table push).Follows
      (Facet.repeated key writableKey (.message made) get set) := by
  obtain rfl : push = fun b a => set (get a ++ [b]) a := funext fun b => funext (h b)
  refine ⟨rfl, fun lens v a => lens.pushAll (fun item a => ?_) v.items a⟩
  dsimp only [Element.message]
  cases item.asEntries with
  | error fault => rfl
  | ok es =>
    simp only [Except.bind]
    cases table.readAll es default <;> rfl

end Slot.Follows

end Laminate.Annotation
