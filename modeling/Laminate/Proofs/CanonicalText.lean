import Laminate.Proofs.Rereading

/-! The canonical text of annotation values: a colon and a blank behind each key, a comma and a
blank between neighbours, and no escapes but those of the quote and the backslash.
Whatever text annotation values are read of, they are read again of their canonical text. -/
namespace Laminate.Annotation

open Laminate.Text

/-! ### The canonical text -/

/-- A character between double quotes. -/
def escapeMark (c : Char) : List Char := if c = '"' ∨ c = '\\' then ['\\', c] else [c]

mutual

def Value.canonical : Value → String
  | .token text => text
  | .quoted text => "\"" ++ String.ofList (text.toList.flatMap escapeMark) ++ "\""
  | .message entries => "\x7b" ++ ", ".intercalate (entryTexts entries) ++ "\x7d"
  | .list items => "[" ++ ", ".intercalate (itemTexts items) ++ "]"

def entryTexts : List (String × Value) → List String
  | [] => []
  | (key, value) :: rest => (key ++ ": " ++ value.canonical) :: entryTexts rest

def itemTexts : List Value → List String
  | [] => []
  | value :: rest => value.canonical :: itemTexts rest

end

/-- The canonical text of entries. -/
def canonicalText (es : List Entry) : String := ", ".intercalate (entryTexts es)

example : canonicalText [("k", .list [.token "t", .quoted "a\"b"]), ("m", .message [])] =
    "k: [t, \"a\\\"b\"], m: \x7b\x7d" := by decide +kernel

/-! ### The text is a layout -/

lemma charLayout_escapeMark (c : Char) : CharLayout '"' c (escapeMark c) := by
  unfold escapeMark
  split
  · next hmark =>
    refine .escaped ?_
    rcases hmark with rfl | rfl <;> decide
  · next hmark =>
    rw [not_or] at hmark
    exact .plain hmark.1 hmark.2

lemma layout_canonical_quoted (text : String) :
    Layout (.value (.quoted text)) (Value.quoted text).canonical.toList := by
  have hliteral := literalLayout_flatMap charLayout_escapeMark text.toList
  have hlayout := Layout.quoted (.single (rfl : isQuote '"' = true) hliteral)
  rw [String.ofList_toList] at hlayout
  simpa [Value.canonical] using hlayout

lemma separators_comma : Separators [',', ' '] := .cons (by decide) separators_blank

mutual

theorem layout_canonical : ∀ v : Value, Layout (.value v) v.canonical.toList
  | .token text => .token text
  | .quoted text => layout_canonical_quoted text
  | .message es => by
    have hends : ∀ c ∈ ['\x7d'].head?, isTokenChar c = false := forall_mem_head? (by decide) []
    have hinner := Layout.braced .nil (layout_entryTexts (.close '\x7d') hends es)
    simpa [Value.canonical] using hinner
  | .list vs => by
    have hinner := Layout.bracketed .nil (layout_itemTexts vs)
    simpa [Value.canonical] using hinner

/-- The text of entries goes on with any end of entries that tokens end at. -/
theorem layout_entryTexts {close : Option Char} {tail : List Char}
    (h : Layout (.entries close []) tail) (hends : ∀ c ∈ tail.head?, isTokenChar c = false) :
    ∀ es : List (String × Value),
      Layout (.entries close es) ((", ".intercalate (entryTexts es)).toList ++ tail)
  | [] => by simpa [entryTexts] using h
  | [(key, v)] => by
    have hlink : Link v ([] ++ ':' :: [' ']) :=
      .colon v allBlank_nil (List.forall_mem_singleton.mpr (by decide))
    have hentry : Layout (.entries close [(key, v)]) _ :=
      .entry hlink (layout_canonical v) .nil (fun _ => hends) h
    simpa [entryTexts] using hentry
  | (key, v) :: e :: es => by
    have hlink : Link v ([] ++ ':' :: [' ']) :=
      .colon v allBlank_nil (List.forall_mem_singleton.mpr (by decide))
    have hentry : Layout (.entries close ((key, v) :: e :: es)) _ :=
      .entry hlink (layout_canonical v) separators_comma (endsToken_mark (by decide) v _)
        (layout_entryTexts h hends (e :: es))
    simpa [entryTexts] using hentry

theorem layout_itemTexts : ∀ vs : List Value,
    Layout (.items vs) ((", ".intercalate (itemTexts vs)).toList ++ [']'])
  | [] => by simpa [itemTexts] using Layout.listClose
  | [v] => by
    have hends : EndsToken v ([] ++ [']']) := endsToken_mark (by decide) v []
    have hitem := Layout.item (layout_canonical v) .nil hends (fun _ h => absurd h (by simp))
      .listClose
    simpa [itemTexts] using hitem
  | v :: w :: vs => by
    have hitem := Layout.item (layout_canonical v) separators_comma
      (endsToken_mark (by decide) v _) (fun _ _ => ⟨',', List.mem_cons_self, by decide⟩)
      (layout_itemTexts (w :: vs))
    simpa [itemTexts] using hitem

end

lemma isLayout_canonicalText (es : List Entry) : IsLayout es (canonicalText es) := by
  have hlayout := layout_entryTexts .ended (by simp) es
  rw [List.append_nil] at hlayout
  exact ⟨[], _, rfl, .nil, hlayout⟩

/-- Entries are read of some text just where they are read of their canonical text. -/
theorem exists_readText_iff {es : List Entry} :
    (∃ text, readText text = .ok es) ↔ Value.areReadable es = true :=
  ⟨fun ⟨_, h⟩ => areReadable_of_readText h,
    fun h => ⟨_, readText_of_isLayout h (isLayout_canonicalText es)⟩⟩

/-! ### Keys and tokens at any depth -/

/-- A value is another one or stands somewhere in it. -/
inductive Value.Within (w : Value) : Value → Prop
  | self : Within w w
  | entry {e : Entry} {es : List Entry} (mem : e ∈ es) (inner : Within w e.2) :
    Within w (.message es)
  | item {v : Value} {vs : List Value} (mem : v ∈ vs) (inner : Within w v) : Within w (.list vs)

lemma Value.areReadable_iff {es : List Entry} :
    areReadable es = true ↔ ∀ e ∈ es, isWritableKey e.1 = true ∧ e.2.isReadable = true := by
  induction es with
  | nil => simp [areReadable]
  | cons e es ih => simp [areReadable, ih]

lemma Value.areReadableItems_iff {vs : List Value} :
    areReadableItems vs = true ↔ ∀ v ∈ vs, v.isReadable = true ∧ v.startsComment = false := by
  induction vs with
  | nil => simp [areReadableItems]
  | cons v vs ih => simp [areReadableItems, ih]

lemma Value.Within.isReadable {w v : Value} (h : w.Within v) (readable : v.isReadable = true) :
    w.isReadable = true := by
  induction h with
  | self => exact readable
  | entry mem _ ih => exact ih (areReadable_iff.mp readable _ mem).2
  | item mem _ ih => exact ih (areReadableItems_iff.mp readable _ mem).1

lemma token_of_isReadableToken {token : String} (h : isReadableToken token = true) :
    token ≠ "" ∧ ∀ c ∈ token.toList, isBlank c = false ∧ c ∉ [',', ';', '\x7d', ']', '>'] := by
  simp only [isReadableToken, Bool.and_eq_true, List.all_eq_true] at h
  constructor
  · rintro rfl
    cases h.2
  · intro c hc
    simpa [isTokenChar, and_assoc] using h.1 c hc

/-- What is read of a text. No key is empty, and no bare token is, at any depth; a token holds no
white space, no separator and no closing bracket. The canonical text is read as the same entries
once more. -/
theorem readText_canonicalText {text : String} {es : List Entry} (h : readText text = .ok es) :
    (∀ inner, (Value.message inner).Within (.message es) → ∀ e ∈ inner, e.1 ≠ "") ∧
    (∀ token, (Value.token token).Within (.message es) → token ≠ "" ∧
      ∀ c ∈ token.toList, isBlank c = false ∧ c ∉ [',', ';', '\x7d', ']', '>']) ∧
    readText (canonicalText es) = .ok es := by
  have hreadable : (Value.message es).isReadable = true := areReadable_of_readText h
  refine ⟨fun inner hinner e he => ?_, fun token htoken => ?_, ?_⟩
  · have hkeys := Value.areReadable_iff.mp (hinner.isReadable hreadable) e he
    rintro hempty
    rw [hempty] at hkeys
    exact absurd hkeys.1 (by decide)
  · exact token_of_isReadableToken (htoken.isReadable hreadable)
  · exact readText_of_isLayout hreadable (isLayout_canonicalText es)

/-- Tokens may start with a colon or like a comment, right behind the colons of their keys. -/
theorem odd_tokens_canonical :
    readText "a : :x;m<l:#t>" =
      .ok [("a", .token ":x"), ("m", .message [("l", .token "#t")])] ∧
    readText "a: :x, m: \x7bl: #t\x7d" =
      .ok [("a", .token ":x"), ("m", .message [("l", .token "#t")])] := by
  have hcolon : Reads (.value (.token ":x")) (":x".toList ++ ';' :: "m<l:#t>".toList) _ :=
    .token (by decide) (forall_mem_head? (by decide) _)
  have hhash : Reads (.value (.token "#t")) ("#t".toList ++ ['>']) _ :=
    .token (by decide) (forall_mem_head? (by decide) _)
  have hl : skipSeparators false "l:#t>".toList = "l".toList ++ ':' :: "#t>".toList := rfl
  have hm : skipSeparators false ";m<l:#t>".toList = "m".toList ++ '<' :: "l:#t>".toList := rfl
  have ha : skipSeparators false "a : :x;m<l:#t>".toList =
      "a".toList ++ ' ' :: ": :x;m<l:#t>".toList := rfl
  have hinner : Reads (.entries (some '>') [("l", .token "#t")]) "l:#t>".toList [] :=
    .entry (by decide) (by decide) hl (forall_mem_head? (by decide) _) hhash (.close rfl)
  have hmore : Reads (.entries none [("m", .message [("l", .token "#t")])]) ";m<l:#t>".toList [] :=
    .entry (by decide) (by decide) hm (forall_mem_head? (by decide) _) (.angled hinner) (.ended rfl)
  have hread : readText "a : :x;m<l:#t>" =
      .ok [("a", .token ":x"), ("m", .message [("l", .token "#t")])] :=
    readText_eq_ok_iff.mpr ⟨[], .entry (by decide) (by decide) ha (forall_mem_head? (by decide) _)
      hcolon hmore⟩
  obtain ⟨-, -, hcanonical⟩ := readText_canonicalText hread
  exact ⟨hread, hcanonical⟩

end Laminate.Annotation
