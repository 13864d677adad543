import Laminate.Annotation.TextForm
import Laminate.Proofs.TypeText

/-! The ways to lay out annotation values as text.
A layout says where separators, comments, colons and quotes may stand, and nothing of how a reader
finds its way. -/
namespace Laminate.Annotation

open Laminate.Text

/-! ### Values that can be written -/

/-- Opens a value other than a bare token, or a comment. -/
def isOpener (c : Char) : Bool :=
  c == '\x7b' || c == '<' || c == '[' || c == '#' || isQuote c

def isWritableKey (key : String) : Bool := !key.toList.isEmpty && key.toList.all isKeyChar

lemma exists_of_isWritableKey {key : String} (h : isWritableKey key = true) :
    ∃ c chars, key.toList = c :: chars ∧ ∀ x ∈ key.toList, isKeyChar x = true := by
  simp only [isWritableKey, Bool.and_eq_true, Bool.not_eq_true', List.isEmpty_eq_false_iff,
    List.all_eq_true] at h
  obtain ⟨c, chars, hchars⟩ := List.exists_cons_of_ne_nil h.1
  exact ⟨c, chars, hchars, h.2⟩

def isWritableToken (token : String) : Bool :=
  token.toList.all isTokenChar && token.toList.head?.any (!isOpener ·)

namespace Value

def isToken : Value → Bool
  | token _ => true
  | _ => false

def isQuoted : Value → Bool
  | quoted _ => true
  | _ => false

/-- Messages and lists, which need no colon before them. -/
def isBracketed : Value → Bool
  | message _ => true
  | list _ => true
  | _ => false

mutual

/-- Tokens that do not end early, and keys that are no more than names. -/
def isWritable : Value → Bool
  | token text => isWritableToken text
  | quoted _ => true
  | message entries => areWritable entries
  | list items => areWritableItems items

def areWritable : List (String × Value) → Bool
  | [] => true
  | (key, value) :: rest => isWritableKey key && value.isWritable && areWritable rest

def areWritableItems : List Value → Bool
  | [] => true
  | value :: rest => value.isWritable && areWritableItems rest

end

end Value

/-! ### Values that are read back

A token may start like a comment where none can stand, right after a key. -/

/-- Opens a value other than a bare token. -/
def isValueOpener (c : Char) : Bool := c == '\x7b' || c == '<' || c == '[' || isQuote c

def isReadableToken (token : String) : Bool :=
  token.toList.all isTokenChar && token.toList.head?.any (!isValueOpener ·)

namespace Value

def startsComment : Value → Bool
  | token text => text.toList.head? == some '#'
  | _ => false

mutual

/-- Tokens that do not end early, or start a comment within a list, and keys that are no more than
names. -/
def isReadable : Value → Bool
  | token text => isReadableToken text
  | quoted _ => true
  | message entries => areReadable entries
  | list items => areReadableItems items

def areReadable : List (String × Value) → Bool
  | [] => true
  | (key, value) :: rest => isWritableKey key && value.isReadable && areReadable rest

def areReadableItems : List Value → Bool
  | [] => true
  | value :: rest => value.isReadable && !value.startsComment && areReadableItems rest

end

end Value

lemma isReadableToken_of_isWritableToken {token : String} (h : isWritableToken token = true) :
    isReadableToken token = true ∧ (Value.token token).startsComment = false := by
  simp only [isWritableToken, Bool.and_eq_true] at h
  obtain ⟨hall, hhead⟩ := h
  obtain ⟨c, hc, hopener⟩ := (Option.any_eq_true _ _).mp hhead
  simp only [isOpener, Bool.not_eq_true', Bool.or_eq_false_iff, beq_eq_false_iff_ne] at hopener
  obtain ⟨⟨⟨⟨hbrace, hangle⟩, hbracket⟩, hcomment⟩, hquote⟩ := hopener
  simp [isReadableToken, isValueOpener, Value.startsComment, hall, hc, hbrace, hangle, hbracket,
    hcomment, hquote]

mutual

theorem Value.isReadable_of_isWritable : ∀ v : Value, v.isWritable = true →
    v.isReadable = true ∧ v.startsComment = false
  | .token _, h => isReadableToken_of_isWritableToken h
  | .quoted _, _ => ⟨rfl, rfl⟩
  | .message es, h => ⟨areReadable_of_areWritable es h, rfl⟩
  | .list vs, h => ⟨areReadableItems_of_areWritableItems vs h, rfl⟩

theorem Value.areReadable_of_areWritable : ∀ es : List (String × Value), areWritable es = true →
    areReadable es = true
  | [], _ => rfl
  | (key, v) :: es, h => by
    simp only [areWritable, Bool.and_eq_true] at h
    obtain ⟨⟨hkey, hv⟩, hes⟩ := h
    simp [areReadable, hkey, (v.isReadable_of_isWritable hv).1, areReadable_of_areWritable es hes]

theorem Value.areReadableItems_of_areWritableItems : ∀ vs : List Value,
    areWritableItems vs = true → areReadableItems vs = true
  | [], _ => rfl
  | v :: vs, h => by
    simp only [areWritableItems, Bool.and_eq_true] at h
    obtain ⟨hv, hvs⟩ := h
    simp [areReadableItems, v.isReadable_of_isWritable hv,
      areReadableItems_of_areWritableItems vs hvs]

end

/-! ### Layouts -/

def AllBlank (text : List Char) : Prop := ∀ c ∈ text, isBlank c = true

lemma allBlank_nil : AllBlank [] := fun _ h => absurd h List.not_mem_nil

def isSeparator (c : Char) : Bool := isBlank c || c == ',' || c == ';'

/-- White space, commas, semicolons and comments, which take the rest of their line. -/
inductive Separators : List Char → Prop
  | nil : Separators []
  | cons {c : Char} {run : List Char} (mark : isSeparator c = true) (more : Separators run) :
    Separators (c :: run)
  | comment {text run : List Char} (line : '\n' ∉ text) (more : Separators run) :
    Separators ('#' :: (text ++ '\n' :: run))

/-- A character as it stands in a literal between two `quote`s. -/
inductive CharLayout (quote : Char) : Char → List Char → Prop
  | plain {c : Char} (noQuote : c ≠ quote) (noEscape : c ≠ '\\') : CharLayout quote c [c]
  | escaped {c : Char} (literal : c ≠ 'n' ∧ c ≠ 't' ∧ c ≠ 'r') : CharLayout quote c ['\\', c]
  | newline : CharLayout quote '\n' ['\\', 'n']
  | tab : CharLayout quote '\t' ['\\', 't']
  | carriageReturn : CharLayout quote '\r' ['\\', 'r']

/-- What follows the opening quote of a literal. -/
inductive LiteralLayout (quote : Char) : List Char → List Char → Prop
  | close : LiteralLayout quote [] [quote]
  | cons {c : Char} {contents written text : List Char} (first : CharLayout quote c written)
    (rest : LiteralLayout quote contents text) :
    LiteralLayout quote (c :: contents) (written ++ text)

/-- Text as adjacent literals, each in quotes of its own. -/
inductive QuotedLayout : List Char → List Char → Prop
  | single {quote : Char} {contents text : List Char} (isQuote : isQuote quote = true)
    (literal : LiteralLayout quote contents text) : QuotedLayout contents (quote :: text)
  | adjacent {quote : Char} {contents text blanks contents' text' : List Char}
    (isQuote : isQuote quote = true) (literal : LiteralLayout quote contents text)
    (allBlank : AllBlank blanks) (more : QuotedLayout contents' text') :
    QuotedLayout (contents ++ contents') (quote :: (text ++ (blanks ++ text')))

/-- What stands between a key and its value. -/
inductive Link : Value → List Char → Prop
  | colon {before after : List Char} (v : Value) (allBlank : AllBlank before)
    (allBlank' : AllBlank after) : Link v (before ++ ':' :: after)
  | omitted {v : Value} {blanks : List Char} (bracketed : v.isBracketed = true)
    (allBlank : AllBlank blanks) : Link v blanks

/-- What a text may be a layout of; entries and items take their closing bracket with them. -/
inductive Part where
  | value (v : Value)
  | entries (close : Option Char) (es : List Entry)
  | items (vs : List Value)

/-- A token is told from what follows it by a character that ends tokens. -/
def EndsToken (v : Value) (after : List Char) : Prop :=
  v.isToken = true → ∀ c ∈ after.head?, isTokenChar c = false

inductive Layout : Part → List Char → Prop
  | token (text : String) : Layout (.value (.token text)) text.toList
  | quoted {contents text : List Char} (literals : QuotedLayout contents text) :
    Layout (.value (.quoted (String.ofList contents))) text
  | braced {es : List Entry} {run text : List Char} (separators : Separators run)
    (inner : Layout (.entries (some '\x7d') es) text) :
    Layout (.value (.message es)) ('\x7b' :: (run ++ text))
  | angled {es : List Entry} {run text : List Char} (separators : Separators run)
    (inner : Layout (.entries (some '>') es) text) :
    Layout (.value (.message es)) ('<' :: (run ++ text))
  | bracketed {vs : List Value} {run text : List Char} (separators : Separators run)
    (inner : Layout (.items vs) text) : Layout (.value (.list vs)) ('[' :: (run ++ text))
  | close (c : Char) : Layout (.entries (some c) []) [c]
  | ended : Layout (.entries none []) []
  | endedInComment {text : List Char} (line : '\n' ∉ text) :
    Layout (.entries none []) ('#' :: text)
  | entry {close : Option Char} {key : String} {v : Value} {es : List Entry}
    {link text run tail : List Char} (isLink : Link v link) (value : Layout (.value v) text)
    (separators : Separators run) (endsToken : EndsToken v (run ++ tail))
    (more : Layout (.entries close es) tail) :
    Layout (.entries close ((key, v) :: es)) (key.toList ++ (link ++ (text ++ (run ++ tail))))
  | listClose : Layout (.items []) [']']
  | item {v : Value} {vs : List Value} {text run tail : List Char}
    (value : Layout (.value v) text) (separators : Separators run)
    (endsToken : EndsToken v (run ++ tail))
    (endsQuoted : v.isQuoted = true → vs.head?.any Value.isQuoted = true →
      ∃ c ∈ run, isBlank c = false)
    (more : Layout (.items vs) tail) : Layout (.items (v :: vs)) (text ++ (run ++ tail))

/-- A whole text that lists some entries. -/
def IsLayout (es : List Entry) (text : String) : Prop :=
  ∃ run rest, text.toList = run ++ rest ∧ Separators run ∧ Layout (.entries none es) rest

/-! ### First characters -/

lemma forall_mem_head? {p : Char → Prop} {c : Char} (h : p c) (rest : List Char) :
    ∀ x ∈ (c :: rest).head?, p x := by
  rintro _ ⟨⟩
  exact h

lemma isBlank_of_isKeyChar {c : Char} (h : isKeyChar c = true) : isBlank c = false := by
  simp only [isKeyChar, Bool.or_eq_true, beq_iff_eq] at h
  rcases h with h | rfl
  · exact Code.isBlank_of_isIdentChar (by simpa [Code.isIdentChar] using h)
  · decide

lemma QuotedLayout.head {contents text : List Char} (h : QuotedLayout contents text) :
    ∃ quote rest, text = quote :: rest ∧ isQuote quote = true := by
  cases h with
  | single isQuote _ => exact ⟨_, _, rfl, isQuote⟩
  | adjacent isQuote _ _ _ => exact ⟨_, _, rfl, isQuote⟩

/-- Ends the entries of a message. -/
def isCloser (c : Char) : Bool := c == '\x7d' || c == '>'

def Part.isReadable : Part → Bool
  | value v => v.isReadable
  | entries close es => close.all isCloser && Value.areReadable es
  | items vs => Value.areReadableItems vs

lemma not_isSeparator_of_isTokenChar {c : Char} (h : isTokenChar c = true) :
    isSeparator c = false ∧ c ≠ ']' := by
  simp only [isTokenChar, Bool.and_eq_true, Bool.not_eq_true', bne_iff_ne] at h
  obtain ⟨⟨⟨⟨⟨hblank, hcomma⟩, hsemicolon⟩, -⟩, hbracket⟩, -⟩ := h
  simp [isSeparator, hblank, hcomma, hsemicolon, hbracket]

lemma not_isSeparator_of_isQuote {c : Char} (h : isQuote c = true) :
    isSeparator c = false ∧ c ≠ '#' ∧ c ≠ ']' := by
  simp only [isQuote, Bool.or_eq_true, beq_iff_eq] at h
  rcases h with rfl | rfl <;> decide

/-- How the layout of a value starts: where separators end, and as only such a value does. -/
structure StartsValue (v : Value) (c : Char) : Prop where
  noSeparator : isSeparator c = false
  noComment : v.startsComment = false → c ≠ '#'
  noClose : c ≠ ']'
  quoted : isQuote c = true → v.isQuoted = true
  bracketed : v.isBracketed = true → isKeyChar c = false ∧ c ≠ ':'

lemma Layout.startsValue {v : Value} {text : List Char} (h : Layout (.value v) text)
    (readable : v.isReadable = true) : ∃ c rest, text = c :: rest ∧ StartsValue v c := by
  cases h with
  | token token =>
    simp only [Value.isReadable, isReadableToken, Bool.and_eq_true, List.all_eq_true] at readable
    obtain ⟨hall, hhead⟩ := readable
    cases hchars : token.toList with
    | nil => simp [hchars] at hhead
    | cons c rest =>
      have hopener : isValueOpener c = false := by simpa [hchars] using hhead
      simp only [isValueOpener, Bool.or_eq_false_iff] at hopener
      obtain ⟨hseparator, hclose⟩ := not_isSeparator_of_isTokenChar (hall c (by simp [hchars]))
      refine ⟨c, rest, rfl, hseparator, ?_, hclose, by simp [hopener.2], nofun⟩
      simp [Value.startsComment, hchars]
  | quoted literals =>
    obtain ⟨quote, rest, rfl, hquote⟩ := literals.head
    obtain ⟨hseparator, hcomment, hclose⟩ := not_isSeparator_of_isQuote hquote
    exact ⟨quote, rest, rfl, hseparator, fun _ => hcomment, hclose, fun _ => rfl, nofun⟩
  | braced _ _ =>
    exact ⟨_, _, rfl, by decide, fun _ => by decide, by decide, fun h => absurd h (by decide),
      fun _ => by decide⟩
  | angled _ _ =>
    exact ⟨_, _, rfl, by decide, fun _ => by decide, by decide, fun h => absurd h (by decide),
      fun _ => by decide⟩
  | bracketed _ _ =>
    exact ⟨_, _, rfl, by decide, fun _ => by decide, by decide, fun h => absurd h (by decide),
      fun _ => by decide⟩

lemma isSeparator_of_isCloser {c : Char} (h : isCloser c = true) :
    isSeparator c = false ∧ c ≠ '#' ∧ isQuote c = false ∧ isKeyChar c = false := by
  simp only [isCloser, Bool.or_eq_true, beq_iff_eq] at h
  rcases h with rfl | rfl <;> decide

lemma isSeparator_of_isKeyChar {c : Char} (h : isKeyChar c = true) :
    isSeparator c = false ∧ c ≠ '#' ∧ isQuote c = false := by
  have hne : c ≠ ',' ∧ c ≠ ';' ∧ c ≠ '#' ∧ c ≠ '"' ∧ c ≠ '\'' := by
    refine ⟨?_, ?_, ?_, ?_, ?_⟩ <;> rintro rfl <;> revert h <;> decide
  obtain ⟨hcomma, hsemicolon, hcomment, hdouble, hsingle⟩ := hne
  simp [isSeparator, isBlank_of_isKeyChar h, isQuote, hcomma, hsemicolon, hcomment, hdouble,
    hsingle]

lemma isBlank_of_not_isSeparator {c : Char} (h : isSeparator c = false) : isBlank c = false := by
  simp only [isSeparator, Bool.or_eq_false_iff] at h
  exact h.1.1

/-- What comes after the separators that follow a value in a message. -/
lemma Layout.startsEntries {close : Option Char} {es : List Entry} {text : List Char}
    (h : Layout (.entries close es) text) (readable : (Part.entries close es).isReadable = true) :
    (∀ c ∈ text.head?, isBlank c = false ∧ isQuote c = false) ∧ (text = [] → close = none) := by
  simp only [Part.isReadable, Bool.and_eq_true] at readable
  obtain ⟨hclose, hes⟩ := readable
  cases h with
  | close c =>
    obtain ⟨hseparator, -, hquote, -⟩ := isSeparator_of_isCloser (c := c) hclose
    simp [isBlank_of_not_isSeparator hseparator, hquote]
  | ended => simp
  | endedInComment _ =>
    exact ⟨forall_mem_head? (by decide) _, nofun⟩
  | @entry _ key =>
    simp only [Value.areReadable, Bool.and_eq_true] at hes
    obtain ⟨c, chars, hchars, hall⟩ := exists_of_isWritableKey hes.1.1
    have hc := hall c (by simp [hchars])
    simp [hchars, isBlank_of_isKeyChar hc, (isSeparator_of_isKeyChar hc).2.2]

/-- What comes after the separators that follow an item of a list. -/
lemma Layout.startsItems {vs : List Value} {text : List Char} (h : Layout (.items vs) text)
    (readable : Value.areReadableItems vs = true) :
    ∃ c rest, text = c :: rest ∧ isBlank c = false ∧
      (isQuote c = true → vs.head?.any Value.isQuoted = true) := by
  cases h with
  | listClose => exact ⟨_, _, rfl, by decide, by decide⟩
  | item value _ _ _ _ =>
    simp only [Value.areReadableItems, Bool.and_eq_true] at readable
    obtain ⟨c, rest, rfl, hstart⟩ := value.startsValue readable.1.1
    exact ⟨c, _, rfl, isBlank_of_not_isSeparator hstart.noSeparator, hstart.quoted⟩

end Laminate.Annotation
