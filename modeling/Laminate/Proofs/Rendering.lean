import Laminate.Proofs.Layouts

/-! Annotation values written as text: a blank between key and value, commas between items. -/
namespace Laminate.Annotation

/-! ### The text of a value -/

/-- A character between double quotes. -/
def escape (c : Char) : List Char :=
  if c = '\n' then ['\\', 'n']
  else if c = '\t' then ['\\', 't']
  else if c = '\r' then ['\\', 'r']
  else if c = '"' ∨ c = '\\' then ['\\', c]
  else [c]

def quote (text : String) : String := "\"" ++ String.ofList (text.toList.flatMap escape) ++ "\""

mutual

def Value.render : Value → String
  | .token text => text
  | .quoted text => quote text
  | .message entries => "\x7b " ++ renderEntries entries ++ "\x7d"
  | .list items => "[" ++ renderItems items ++ "]"

/-- Every entry ends in a blank. -/
def renderEntries : List (String × Value) → String
  | [] => ""
  | (key, value) :: rest => key ++ ": " ++ value.render ++ " " ++ renderEntries rest

def renderItems : List Value → String
  | [] => ""
  | value :: rest =>
    value.render ++ (if rest.isEmpty then "" else ", ") ++ renderItems rest

end

example : (Value.message [("k", .list [.token "t", .quoted "a\"b"])]).render =
    "\x7b k: [t, \"a\\\"b\"] \x7d" := by decide +kernel

/-! ### The text is a layout -/

lemma charLayout_escape (c : Char) : CharLayout '"' c (escape c) := by
  by_cases hnewline : c = '\n'
  · subst hnewline
    exact .newline
  by_cases htab : c = '\t'
  · subst htab
    exact .tab
  by_cases hreturn : c = '\r'
  · subst hreturn
    exact .carriageReturn
  by_cases hmark : c = '"' ∨ c = '\\'
  · have hescape : escape c = ['\\', c] := by simp [escape, hnewline, htab, hreturn, hmark]
    rw [hescape]
    refine .escaped ?_
    rcases hmark with rfl | rfl <;> decide
  · have hescape : escape c = [c] := by simp [escape, hnewline, htab, hreturn, hmark]
    rw [hescape]
    rw [not_or] at hmark
    exact .plain hmark.1 hmark.2

/-- Text is laid out character by character. -/
lemma literalLayout_flatMap {write : Char → List Char} (h : ∀ c, CharLayout '"' c (write c))
    (contents : List Char) : LiteralLayout '"' contents (contents.flatMap write ++ ['"']) := by
  induction contents with
  | nil => exact .close
  | cons c contents ih =>
    rw [List.flatMap_cons, List.append_assoc]
    exact .cons (h c) ih

lemma layout_quote (text : String) : Layout (.value (.quoted text)) (quote text).toList := by
  have hliteral := literalLayout_flatMap charLayout_escape text.toList
  have hlayout := Layout.quoted (.single (rfl : isQuote '"' = true) hliteral)
  rw [String.ofList_toList] at hlayout
  simpa [quote] using hlayout

/-- A character that ends tokens tells every value from what follows it. -/
lemma endsToken_mark {c : Char} (h : isTokenChar c = false) (v : Value) (tail : List Char) :
    EndsToken v (c :: tail) :=
  fun _ => forall_mem_head? h tail

lemma separators_blank : Separators [' '] := .cons (by decide) .nil

mutual

theorem layout_render : ∀ v : Value, Layout (.value v) v.render.toList
  | .token text => .token text
  | .quoted text => layout_quote text
  | .message es => by
    have hinner := Layout.braced separators_blank (layout_renderEntries es (.close '\x7d'))
    simpa [Value.render] using hinner
  | .list vs => by
    have hinner := Layout.bracketed .nil (layout_renderItems vs)
    simpa [Value.render] using hinner

/-- The text of entries goes on with any end of entries. -/
theorem layout_renderEntries {close : Option Char} {tail : List Char} :
    ∀ es : List (String × Value), Layout (.entries close []) tail →
      Layout (.entries close es) ((renderEntries es).toList ++ tail)
  | [], h => by simpa [renderEntries] using h
  | (key, v) :: es, h => by
    have hlink : Link v ([] ++ ':' :: [' ']) :=
      .colon v allBlank_nil (List.forall_mem_singleton.mpr (by decide))
    have hends : EndsToken v ([' '] ++ ((renderEntries es).toList ++ tail)) :=
      endsToken_mark (by decide) v _
    have hentry : Layout (.entries close ((key, v) :: es)) _ :=
      .entry hlink (layout_render v) separators_blank hends (layout_renderEntries es h)
    simpa [renderEntries] using hentry

theorem layout_renderItems : ∀ vs : List Value,
    Layout (.items vs) ((renderItems vs).toList ++ [']'])
  | [] => .listClose
  | [v] => by
    have hends : EndsToken v ([] ++ [']']) := endsToken_mark (by decide) v []
    have hitem := Layout.item (layout_render v) .nil hends (fun _ h => absurd h (by simp))
      .listClose
    simpa [renderItems] using hitem
  | v :: w :: vs => by
    have hcomma : Separators [',', ' '] := .cons (by decide) separators_blank
    have hitem := Layout.item (layout_render v) hcomma (endsToken_mark (by decide) v _)
      (fun _ _ => ⟨',', List.mem_cons_self, by decide⟩) (layout_renderItems (w :: vs))
    rw [renderItems]
    simpa using hitem

end

/-- The text of entries lists them. -/
lemma isLayout_renderEntries (es : List Entry) : IsLayout es (renderEntries es) :=
  ⟨[], _, (List.append_nil _).symm, .nil, layout_renderEntries es .ended⟩

end Laminate.Annotation
