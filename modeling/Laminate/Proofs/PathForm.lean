import Laminate.Proofs.Aggregates
import Laminate.Proofs.Encoding
import Laminate.Proofs.Rereading
import Laminate.Proofs.WrittenOptions

/-! Options in path form.
An option whose name goes on past its extension says the same as an aggregate that nests its value
under the steps of the name. -/
namespace Laminate.Annotation

open Descriptor

/-! ### Nesting as text -/

/-- A value under a path of keys, as the text of an aggregate. -/
def pathText (value : Value) : List String → String
  | [] => value.render
  | [key] => key ++ ": " ++ value.render
  | key :: rest => key ++ " \x7b " ++ pathText value rest ++ " \x7d"

example : pathText (.token "true") ["outbound", "hide"] = "outbound \x7b hide: true \x7d" := by
  decide +kernel

/-- The text for a path goes on with any end of entries that ends tokens. -/
lemma layout_pathText (value : Value) (key : String) (path : List String) {close : Option Char}
    {run tail : List Char} (separators : Separators run) (ends : Layout (.entries close []) tail)
    (endsTokens : ∀ v, EndsToken v (run ++ tail)) :
    Layout (.entries close [(key, underPath value path)])
      ((pathText value (key :: path)).toList ++ (run ++ tail)) := by
  induction path generalizing key close run tail with
  | nil =>
    have hlink : Link value ([] ++ ':' :: [' ']) :=
      .colon value allBlank_nil (List.forall_mem_singleton.mpr (by decide))
    have hentry : Layout (.entries close [(key, value)]) _ :=
      .entry hlink (layout_render value) separators (endsTokens value) ends
    simpa [pathText, underPath] using hentry
  | cons next path ih =>
    have hinner := Layout.braced separators_blank (ih next separators_blank (.close '\x7d')
      fun v => endsToken_mark (by decide) v _)
    have hlink : Link (.message [(next, underPath value path)]) [' '] :=
      .omitted rfl (List.forall_mem_singleton.mpr (by decide))
    have hentry : Layout (.entries close [(key, .message [(next, underPath value path)])]) _ :=
      .entry hlink hinner separators (endsTokens _) ends
    simpa [pathText, underPath] using hentry

lemma isLayout_pathText (value : Value) (key : String) (path : List String) :
    IsLayout [(key, underPath value path)] (pathText value (key :: path)) := by
  have hlayout := layout_pathText value key path .nil .ended fun _ _ => nofun
  exact ⟨[], _, by simp, .nil, hlayout⟩

lemma isReadable_underPath {value : Value} (readable : value.isReadable = true)
    {path : List String} (keys : ∀ key ∈ path, isWritableKey key = true) :
    (underPath value path).isReadable = true := by
  induction path with
  | nil => exact readable
  | cons key path ih =>
    obtain ⟨hkey, hpath⟩ := List.forall_mem_cons.mp keys
    simp [underPath, Value.isReadable, Value.areReadable, hkey, ih hpath]

/-! ### What an option carries -/

/-- An option carries a single value of one kind: an aggregate that can be read, text, an identifier
that can stand as a token, or an integer. -/
inductive Carries (name : List NamePart) : WrittenOption → Value → Prop
  | aggregate {text : String} {es : List Entry} (parses : readText text = .ok es) :
    Carries name { name := name, aggregate := some text } (.message es)
  | text (contents : String) :
    Carries name { name := name, text := some (Text.encode contents) } (.quoted contents)
  | identifier {token : String} (valid : isReadableToken token = true) :
    Carries name { name := name, identifier := some token } (.token token)
  | positive (n : Nat) : Carries name { name := name, positive := some n } (.token (toString n))
  | negative (n : Int) : Carries name { name := name, negative := some n } (.token (toString n))

variable {name : List NamePart} {option : WrittenOption} {value : Value}

lemma Carries.name_eq (h : Carries name option value) : option.name = name := by
  cases h <;> rfl

lemma Carries.optionValue_eq (h : Carries name option value) : optionValue option = .ok value := by
  cases h with
  | aggregate parses =>
    simp only [optionValue, parses]
    rfl
  | text contents => simp only [optionValue, Text.decodeLossy_encode]
  | identifier valid => rfl
  | positive n => rfl
  | negative n => rfl

/-- What an option carries is readable once it is written in an aggregate. -/
lemma Carries.isReadable (h : Carries name option value) : value.isReadable = true := by
  cases h with
  | aggregate parses => exact areReadable_of_readText parses
  | text contents => rfl
  | identifier valid => exact valid
  | positive n => exact (isReadableToken_of_isWritableToken (isWritableToken_toString n)).1
  | negative n => exact (isReadableToken_of_isWritableToken (isWritableToken_toString n)).1

/-! ### Path form and aggregate form -/

lemma optionEntries_path {step : NamePart} {part : NamePart} {parts : List NamePart}
    (h : Carries (step :: part :: parts) option value) :
    optionEntries option = .ok [(part.text, underPath value (parts.map (·.text)))] := by
  rw [optionEntries, h.optionValue_eq, h.name_eq]
  rfl

/-- An option in path form is read as the aggregate that nests its value under the path. -/
theorem path_form_agrees {α : Type} [Inhabited α] (table : Table α) (extension : String)
    {step part : NamePart} {parts : List NamePart} (isExtension : step.isExtension = true)
    (keys : ∀ p ∈ part :: parts, isWritableKey p.text = true)
    (carries : Carries (step :: part :: parts) option value) (before after : List WrittenOption) :
    readWritten table extension (before ++ option :: after) =
      readWritten table extension (before ++
        aggregateOption step.text (pathText value ((part :: parts).map (·.text))) :: after) := by
  have hkeys : ∀ key ∈ parts.map (·.text), isWritableKey key = true := fun key hkey => by
    obtain ⟨p, hp, rfl⟩ := List.mem_map.mp hkey
    exact keys p (List.mem_cons_of_mem _ hp)
  have readable : Value.areReadable [(part.text, underPath value (parts.map (·.text)))] = true := by
    simp [Value.areReadable, keys part List.mem_cons_self,
      isReadable_underPath carries.isReadable hkeys]
  have hread := readText_of_isLayout readable (isLayout_pathText value part.text _)
  refine readWritten_replace ?_ ?_ before after
  · rw [isFor, isFor, carries.name_eq]
    simp [aggregateOption, isExtension]
  · rw [optionEntries_path carries, List.map_cons, optionEntries_aggregate hread]

/-- A flag under a path. -/
def hideOption : WrittenOption where
  name := [⟨fieldExtension, true⟩, ⟨"outbound", false⟩, ⟨"hide", false⟩]
  identifier := some "true"

/-- An aggregate under a path. -/
def requiredOption : WrittenOption where
  name := [⟨fieldExtension, true⟩, ⟨"validate", false⟩]
  aggregate := some "required: true "

lemma carries_hideOption : Carries [⟨fieldExtension, true⟩, ⟨"outbound", false⟩, ⟨"hide", false⟩]
    hideOption (.token "true") :=
  .identifier (by decide)

lemma carries_requiredOption : Carries [⟨fieldExtension, true⟩, ⟨"validate", false⟩]
    requiredOption (.message [("required", .token "true")]) := by
  have readable : Value.areReadable [("required", .token "true")] = true := by decide
  exact .aggregate (readText_renderEntries readable)

theorem required_path_form_agrees :
    readWritten fieldTable fieldExtension [hideOption, requiredOption] =
        readWritten fieldTable fieldExtension
          [hideOption,
            aggregateOption fieldExtension "validate: \x7b required: true \x7d"] ∧
      readWritten fieldTable fieldExtension [hideOption, requiredOption] =
        readWritten fieldTable fieldExtension
          [aggregateOption fieldExtension "outbound \x7b hide: true \x7d", requiredOption] ∧
      readWritten fieldTable fieldExtension [hideOption, requiredOption] =
        .ok (some {
          outbound := some { hide := true }
          validate := some { required := true } }) := by
  have hrequired : pathText (.message [("required", .token "true")]) ["validate"] =
      "validate: \x7b required: true \x7d" := by decide +kernel
  have hhide : pathText (.token "true") ["outbound", "hide"] = "outbound \x7b hide: true \x7d" := by
    decide +kernel
  refine ⟨?_, ?_, ?_⟩
  · rw [← hrequired]
    exact path_form_agrees fieldTable fieldExtension (by rfl) (by decide) carries_requiredOption
      [hideOption] []
  · rw [← hhide]
    exact path_form_agrees fieldTable fieldExtension (by rfl) (by decide) carries_hideOption
      [] [requiredOption]
  · have hmine : [hideOption, requiredOption].filter (isFor fieldExtension) =
        [hideOption, requiredOption] := by decide
    rw [readWritten_of_ne_nil (by simp [hmine]), hmine]
    simp only [readOptions, optionEntries_path carries_hideOption,
      optionEntries_path carries_requiredOption]
    rfl

end Laminate.Annotation
