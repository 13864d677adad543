import Laminate.Proofs.ReadingSteps
import Laminate.Proofs.Remainders

/-! Reading annotation values makes progress.
The readers of values, entries and items call each other. A cursor does the same without calls: it
keeps the levels of nesting that are not closed yet, and each of its steps is one round of one loop
of the readers. It comes to the same result, every step moves it on in the text, and it counts the
calls that the readers make. -/
namespace Laminate.Annotation

open Laminate.Text

/-! ### The cursor -/

/-- A level of nesting whose end is not reached, with what was read of it. -/
inductive Level where
  /-- Entries up to `close`, or to the end of the text where there is none. `key` is that of the
  value which is being read. -/
  | entries (close : Option Char) (read : List Entry) (key : String)
  | items (read : List Value)

/-- A level with one more value. -/
def Level.put (v : Value) : Level → Level
  | entries close es key => entries close (es ++ [(key, v)]) key
  | items vs => items (vs ++ [v])

/-- A place in a text, with what was read before it. -/
structure Cursor where
  /-- The text from here on. -/
  rest : List Char
  /-- The innermost level. -/
  level : Level
  /-- The levels around it, from the inside. -/
  outer : List Level
  /-- The quote of the literal around this place, and what the value holds so far. -/
  literal : Option (Char × List Char) := none
  /-- Calls of the readers of values, entries and items. -/
  calls : ℕ

namespace Cursor

variable (cursor : Cursor)

/-- The levels that are not closed. -/
def depth : ℕ := cursor.outer.length + 1

/-- The characters in front of the cursor, of `total` ones. -/
def position (total : ℕ) : ℕ := total - cursor.rest.length

/-- The front of a text; the reader of its entries is called. -/
def start (text : List Char) : Cursor := ⟨text, .entries none [] "", [], none, 1⟩

end Cursor

/-- What comes of a step. -/
inductive Move where
  | goes (cursor : Cursor)
  | ends (result : Except OptionFault Value) (calls : ℕ)

namespace Move

variable (level : Level) (outer : List Level) (calls : ℕ)

/-- The value of the innermost level is one of the level around it. -/
def leave (v : Value) (rest : List Char) : List Level → Move
  | [] => ends (.ok v) calls
  | level :: outer => goes ⟨rest, level.put v, outer, none, calls⟩

/-- Behind a literal and white space, another literal may go on with the value. -/
def behindLiteral (contents : List Char) : List Char → Move
  | [] => goes ⟨[], level.put (.quoted (String.ofList contents)), outer, none, calls⟩
  | c :: rest =>
    if isQuote c then goes ⟨rest, level, outer, some (c, contents), calls⟩
    else goes ⟨c :: rest, level.put (.quoted (String.ofList contents)), outer, none, calls⟩

/-- What a backslash in a literal stands before. -/
def inEscape (quote : Char) (contents : List Char) : List Char → Move
  | [] => ends (.error .unclosedEscape) calls
  | c :: rest => goes ⟨rest, level, outer, some (quote, contents ++ [unescape c]), calls⟩

/-- One character or escape of a literal. -/
def inLiteral (quote : Char) (contents : List Char) : List Char → Move
  | [] => ends (.error .unclosedText) calls
  | c :: rest =>
    if c = quote then behindLiteral level outer calls contents (skipBlanks rest)
    else if c = '\\' then inEscape level outer calls quote contents rest
    else goes ⟨rest, level, outer, some (quote, contents ++ [c]), calls⟩

/-- A call of the reader of values. Where a level opens, it calls the reader of that level. -/
def value (total : ℕ) : List Char → Move
  | [] => ends (.error .wantedValue) (calls + 1)
  | c :: rest =>
    if c = '\x7b' then goes ⟨rest, .entries (some '\x7d') [] "", level :: outer, none, calls + 2⟩
    else if c = '<' then goes ⟨rest, .entries (some '>') [] "", level :: outer, none, calls + 2⟩
    else if c = '[' then goes ⟨rest, .items [], level :: outer, none, calls + 2⟩
    else if isQuote c then goes ⟨rest, level, outer, some (c, []), calls + 1⟩
    else if (c :: rest).takeWhile isTokenChar = [] then
      ends (.error (.wantedValueAt (total - (c :: rest).length))) (calls + 1)
    else
      goes ⟨(c :: rest).dropWhile isTokenChar,
        level.put (.token (String.ofList ((c :: rest).takeWhile isTokenChar))), outer, none,
        calls + 1⟩

/-- One round of the loop over entries. -/
def entry (total : ℕ) (close : Option Char) (es : List Entry) (text : List Char) : Move :=
  match skipSeparators false text with
  | [] => ends (if close.isSome then .error .unclosedMessage else .ok (.message es)) calls
  | c :: rest =>
    if some c = close then leave calls (.message es) rest outer
    else if (c :: rest).takeWhile isKeyChar = [] then
      ends (.error (.wantedKey (total - (c :: rest).length) c)) calls
    else
      value (.entries close es (String.ofList ((c :: rest).takeWhile isKeyChar))) outer calls total
        (skipColon ((c :: rest).dropWhile isKeyChar))

/-- One round of the loop over items. -/
def item (total : ℕ) (vs : List Value) (text : List Char) : Move :=
  match skipSeparators false text with
  | [] => ends (.error .unclosedList) calls
  | c :: rest =>
    if c = ']' then leave calls (.list vs) rest outer
    else value (.items vs) outer calls total (c :: rest)

end Move

/-- One round of the innermost loop. -/
def Cursor.step (total : ℕ) (cursor : Cursor) : Move :=
  match cursor.literal, cursor.level with
  | some (quote, contents), level =>
    .inLiteral level cursor.outer cursor.calls quote contents cursor.rest
  | none, .entries close es _ => .entry cursor.outer cursor.calls total close es cursor.rest
  | none, .items vs => .item cursor.outer cursor.calls total vs cursor.rest

/-- The result and the number of calls, unless there are more than `fuel` steps. -/
def Move.run (total : ℕ) : ℕ → Move → Option (Except OptionFault Value × ℕ)
  | _, ends result calls => some (result, calls)
  | 0, goes _ => none
  | fuel + 1, goes cursor => run total fuel (cursor.step total)

/-- Steps lead from one move to another. -/
inductive Leads (total : ℕ) : Move → Move → Prop
  | refl (move : Move) : Leads total move move
  | step {cursor : Cursor} {move : Move} (next : Leads total (cursor.step total) move) :
    Leads total (.goes cursor) move

variable {total : ℕ}

lemma Leads.trans {a b c : Move} (h : Leads total a b) (h' : Leads total b c) :
    Leads total a c := by
  induction h with
  | refl => exact h'
  | step _ ih => exact .step (ih h')

/-! ### The readers lead the cursor -/

/-- The cursor comes to the fault that a reader returns, or goes on with the result. -/
inductive Follows {β : Type} (total : ℕ) (move : Move) (onward : β → ℕ → Move) :
    Except OptionFault β → Prop
  | fault {fault : OptionFault} {calls : ℕ}
    (leads : Leads total move (.ends (.error fault) calls)) :
    Follows total move onward (.error fault)
  | ok {b : β} {calls : ℕ} (leads : Leads total move (onward b calls)) :
    Follows total move onward (.ok b)

section

variable {β : Type} {onward : β → ℕ → Move} {result : Except OptionFault β}

lemma Follows.after {a b : Move} (h : Leads total a b) (h' : Follows total b onward result) :
    Follows total a onward result := by
  cases h' with
  | fault leads => exact .fault (h.trans leads)
  | ok leads => exact .ok (h.trans leads)

lemma Follows.step {cursor : Cursor} (h : Follows total (cursor.step total) onward result) :
    Follows total (.goes cursor) onward result :=
  h.after (.step (.refl _))

/-- A fault ends the reading, whatever was to come. -/
lemma Follows.of_error {γ : Type} {onward' : γ → ℕ → Move} {move : Move} {fault : OptionFault}
    (h : Follows total move onward (.error fault)) : Follows total move onward' (.error fault) := by
  cases h with
  | fault leads => exact .fault leads

/-- What is read is read on from. -/
lemma Follows.andThen {γ : Type} {onward' : γ → ℕ → Move} {move : Move} {b : β}
    {result : Except OptionFault γ} (h : Follows total move onward (.ok b))
    (more : ∀ calls, Follows total (onward b calls) onward' result) :
    Follows total move onward' result := by
  cases h with
  | ok leads => exact (more _).after leads

end

section

variable (level : Level) (outer : List Level) (calls : ℕ)

section

variable (total)

/-- A literal is read to its end. -/
lemma follows_literal (quote : Char) (contents text : List Char) :
    Follows total (.goes ⟨text, level, outer, some (quote, contents), calls⟩)
      (fun read calls =>
        .behindLiteral level outer calls (contents ++ read.1) (skipBlanks read.2))
      (readLiteral quote text) := by
  refine .step ?_
  change Follows total (Move.inLiteral level outer calls quote contents text) _ _
  fun_induction readLiteral quote text generalizing contents with
  | case1 => exact .fault (.refl _)
  | case2 rest =>
    rw [Move.inLiteral, if_pos rfl]
    exact .ok (by simpa using .refl _)
  | case3 hquote =>
    rw [Move.inLiteral, if_neg hquote, if_pos rfl]
    exact .fault (.refl _)
  | case4 c rest fault heq hquote ih =>
    rw [Move.inLiteral, if_neg hquote, if_pos rfl]
    exact .step (heq ▸ ih (contents ++ [unescape c])).of_error
  | case5 c rest more after heq hquote ih =>
    rw [Move.inLiteral, if_neg hquote, if_pos rfl]
    exact .step ((heq ▸ ih (contents ++ [unescape c])).andThen fun _ =>
      .ok (by simpa using .refl _))
  | case6 c rest hquote hescape fault heq ih =>
    rw [Move.inLiteral, if_neg hquote, if_neg hescape]
    exact .step (heq ▸ ih (contents ++ [c])).of_error
  | case7 c rest hquote hescape more after heq ih =>
    rw [Move.inLiteral, if_neg hquote, if_neg hescape]
    exact .step ((heq ▸ ih (contents ++ [c])).andThen fun _ => .ok (by simpa using .refl _))

/-- Adjacent literals are read as one value. -/
lemma follows_quoted (contents text : List Char) :
    Follows total (.behindLiteral level outer calls contents text)
      (fun read calls =>
        .goes
          ⟨read.2, level.put (.quoted (String.ofList (contents ++ read.1))), outer, none, calls⟩)
      (readQuoted text) := by
  fun_induction readQuoted text generalizing contents calls with
  | case1 => exact .ok (by simpa using .refl _)
  | case2 quote rest hquote fault heq =>
    rw [Move.behindLiteral, if_pos hquote]
    exact (heq ▸ follows_literal total level outer calls quote contents rest).of_error
  | case3 quote rest hquote more after heq fault heq' ih =>
    rw [Move.behindLiteral, if_pos hquote]
    exact (heq ▸ follows_literal total level outer calls quote contents rest).andThen fun calls =>
      (heq' ▸ ih calls (contents ++ more)).of_error
  | case4 quote rest hquote more after heq more' last heq' ih =>
    rw [Move.behindLiteral, if_pos hquote]
    exact (heq ▸ follows_literal total level outer calls quote contents rest).andThen fun calls =>
      (heq' ▸ ih calls (contents ++ more)).andThen fun _ => .ok (by simpa using .refl _)
  | case5 quote rest hquote =>
    rw [Move.behindLiteral, if_neg hquote]
    exact .ok (by simpa using .refl _)

end

/-- What becomes of the readers of entries and of items on texts shorter than some length. -/
structure FollowsBelow (total length : ℕ) : Prop where
  entries : ∀ {text : List Char} (close : Option Char) (es : List Entry) (key : String)
    (outer : List Level) (calls : ℕ), (close = none → outer = []) → text.length < length →
    Follows total (.goes ⟨text, .entries close es key, outer, none, calls⟩)
      (fun read calls => .leave calls (.message (es ++ read.1)) read.2.1 outer)
      (readEntries total close text)
  items : ∀ {text : List Char} (vs : List Value) (outer : List Level) (calls : ℕ),
    text.length < length →
    Follows total (.goes ⟨text, .items vs, outer, none, calls⟩)
      (fun read calls => .leave calls (.list (vs ++ read.1)) read.2.1 outer)
      (readItems total text)

/-- How a level goes on with a value. -/
def withValue (level : Level) (outer : List Level) {P : List Char → Prop}
    (read : Value × { rest : List Char // P rest }) (calls : ℕ) : Move :=
  .goes ⟨read.2.1, level.put read.1, outer, none, calls⟩

/-- A value is read, and its level goes on with it. -/
lemma follows_value {text : List Char} (shorter : FollowsBelow total text.length) :
    Follows total (.value level outer calls total text) (withValue level outer)
      (readValue total text) := by
  cases text with
  | nil =>
    rw [readValue]
    exact .fault (.refl _)
  | cons c rest =>
    have hlt : rest.length < (c :: rest).length := Nat.lt_succ_self _
    have hentries := fun close =>
      shorter.entries (some close) [] "" (level :: outer) (calls + 2)
        (absurd · (Option.some_ne_none close)) hlt
    have hitems := shorter.items [] (level :: outer) (calls + 2) hlt
    rw [readValue, Move.value]
    split
    · split
      · next heq => exact (heq ▸ hentries '\x7d').of_error
      · next heq => exact (heq ▸ hentries '\x7d').andThen fun _ => .ok (.refl _)
    split
    · split
      · next heq => exact (heq ▸ hentries '>').of_error
      · next heq => exact (heq ▸ hentries '>').andThen fun _ => .ok (.refl _)
    split
    · split
      · next heq => exact (heq ▸ hitems).of_error
      · next heq => exact (heq ▸ hitems).andThen fun _ => .ok (.refl _)
    split
    · next hquote =>
      have hquoted := follows_quoted total level outer (calls + 1) [] (c :: rest)
      rw [Move.behindLiteral, if_pos hquote] at hquoted
      split
      · next heq => exact (heq ▸ hquoted).of_error
      · next heq => exact (heq ▸ hquoted).andThen fun _ => .ok (.refl _)
    split
    · exact .fault (.refl _)
    · exact .ok (.refl _)

end

lemma FollowsBelow.mono {length length' : ℕ} (h : FollowsBelow total length)
    (hle : length' ≤ length) : FollowsBelow total length' where
  entries close es key outer calls houter hlt :=
    h.entries close es key outer calls houter (Nat.lt_of_lt_of_le hlt hle)
  items vs outer calls hlt := h.items vs outer calls (Nat.lt_of_lt_of_le hlt hle)

lemma follows_entries {text : List Char} (shorter : FollowsBelow total text.length)
    (close : Option Char) (es : List Entry) (key : String) (outer : List Level) (calls : ℕ)
    (houter : close = none → outer = []) :
    Follows total (.goes ⟨text, .entries close es key, outer, none, calls⟩)
      (fun read calls => .leave calls (.message (es ++ read.1)) read.2.1 outer)
      (readEntries total close text) := by
  refine .step ?_
  change Follows total (Move.entry outer calls total close es text) _ _
  rw [readEntries]
  split
  · next hnil =>
    simp only [Move.entry, hnil]
    cases close with
    | some c => exact .fault (.refl _)
    | none =>
      rw [houter rfl]
      exact .ok (by simpa using .refl _)
  · next c rest hcons =>
    simp only [Move.entry, hcons]
    split
    · exact .ok (by simpa using .refl _)
    split
    · exact .fault (.refl _)
    · next hkey =>
      have hlt := skipColon_shorter hcons hkey
      obtain ⟨key, hkey⟩ : ∃ key, String.ofList ((c :: rest).takeWhile isKeyChar) = key := ⟨_, rfl⟩
      rw [hkey]
      have hvalue := follows_value (.entries close es key) outer calls
        (shorter.mono (Nat.le_of_lt hlt))
      split
      · next heq => exact (heq ▸ hvalue).of_error
      · next v after heq =>
        refine (heq ▸ hvalue).andThen fun calls => ?_
        have hmore := shorter.entries close (es ++ [(key, v)]) key outer calls houter
          (Nat.lt_trans after.2 hlt)
        split
        · next heq' => exact (heq' ▸ hmore).of_error
        · next heq' => exact (heq' ▸ hmore).andThen fun _ => .ok (by simpa using .refl _)

lemma follows_items {text : List Char} (shorter : FollowsBelow total text.length)
    (vs : List Value) (outer : List Level) (calls : ℕ) :
    Follows total (.goes ⟨text, .items vs, outer, none, calls⟩)
      (fun read calls => .leave calls (.list (vs ++ read.1)) read.2.1 outer)
      (readItems total text) := by
  refine .step ?_
  change Follows total (Move.item outer calls total vs text) _ _
  rw [readItems]
  split
  · next hnil =>
    simp only [Move.item, hnil]
    exact .fault (.refl _)
  · next c rest hcons =>
    have hle : (c :: rest).length ≤ text.length := hcons ▸ skipSeparators_length false text
    simp only [Move.item, hcons]
    split
    · exact .ok (by simpa using .refl _)
    · have hvalue := follows_value (.items vs) outer calls (shorter.mono hle)
      split
      · next heq => exact (heq ▸ hvalue).of_error
      · next v after heq =>
        refine (heq ▸ hvalue).andThen fun calls => ?_
        have hmore := shorter.items (vs ++ [v]) outer calls (Nat.lt_of_lt_of_le after.2 hle)
        split
        · next heq' => exact (heq' ▸ hmore).of_error
        · next heq' => exact (heq' ▸ hmore).andThen fun _ => .ok (by simpa using .refl _)

lemma followsBelow (total length : ℕ) : FollowsBelow total length := by
  induction length with
  | zero =>
    exact ⟨fun _ _ _ _ _ _ hlt => absurd hlt (Nat.not_lt_zero _),
      fun _ _ _ hlt => absurd hlt (Nat.not_lt_zero _)⟩
  | succ length ih =>
    exact ⟨fun close es key outer calls houter hlt =>
        follows_entries (ih.mono (Nat.le_of_lt_succ hlt)) close es key outer calls houter,
      fun vs outer calls hlt => follows_items (ih.mono (Nat.le_of_lt_succ hlt)) vs outer calls⟩

/-! ### Every step moves on -/

variable {level : Level} {outer : List Level} {calls : ℕ}

lemma isEndOf_skipSeparators (inComment : Bool) (text : List Char) :
    IsEndOf text (skipSeparators inComment text) := by
  induction text generalizing inComment with
  | nil => exact .refl _
  | cons c rest ih =>
    unfold skipSeparators
    split_ifs
    · exact isEndOf_cons.mpr (.inr (ih _))
    · exact isEndOf_cons.mpr (.inr (ih _))
    · exact isEndOf_cons.mpr (.inr (ih _))
    · exact .refl _

lemma isEndOf_skipColon (text : List Char) : IsEndOf text (skipColon text) := by
  have hblanks : ∀ text, IsEndOf text (skipBlanks text) := isEndOf_dropWhile isBlank
  have hfirst := hblanks text
  unfold skipColon
  split
  · next rest heq =>
    rw [heq] at hfirst
    exact hfirst.of_cons.trans (hblanks rest)
  · exact hfirst

lemma IsEndOf.length_le {whole rest : List Char} (h : IsEndOf whole rest) :
    rest.length ≤ whole.length :=
  List.IsSuffix.length_le h

/-- A cursor further on in a text. No more levels are opened on the way than characters are passed,
and no more calls are made than characters are passed and levels opened. -/
structure Cursor.IsBehind (cursor : Cursor) (text : List Char) (depth calls : ℕ) : Prop where
  isEnd : IsEndOf text cursor.rest
  depth_le : cursor.depth + cursor.rest.length ≤ depth + text.length
  calls_le : cursor.calls + cursor.rest.length + depth ≤ calls + text.length + cursor.depth

/-- A move away from a text goes on in it, or it ends there. -/
def Move.MovesOn (text : List Char) (depth calls : ℕ) : Move → Prop
  | goes next => next.rest.length < text.length ∧ next.IsBehind text depth calls
  | ends _ calls' => calls' ≤ calls + text.length

lemma Move.MovesOn.mono {text rest : List Char} {depth calls : ℕ} {move : Move}
    (h : move.MovesOn rest depth calls) (hend : IsEndOf text rest) :
    move.MovesOn text depth calls := by
  have hle := hend.length_le
  cases move with
  | goes next =>
    obtain ⟨hlt, hnext, hdepth, hcalls⟩ := h
    exact ⟨by omega, hend.trans hnext, by omega, by omega⟩
  | ends result calls' =>
    have hcalls : calls' ≤ calls + rest.length := h
    exact Nat.le_trans hcalls (by omega)

section

variable {c : Char} {rest : List Char}

/-- A character is passed, and it makes up for one call. Another one goes with a level. -/
lemma movesOn_goes {next : Cursor} (hend : IsEndOf rest next.rest)
    (hdepth : next.outer.length ≤ outer.length + 1)
    (hcalls : next.calls + outer.length ≤ calls + next.outer.length + 1) :
    (Move.goes next).MovesOn (c :: rest) (outer.length + 1) calls := by
  have hle := hend.length_le
  refine ⟨Nat.lt_succ_of_le hle, isEndOf_cons.mpr (.inr hend), ?_, ?_⟩
  · simp only [Cursor.depth, List.length_cons]
    omega
  · simp only [Cursor.depth, List.length_cons]
    omega

/-- The same at one level. -/
lemma movesOn_on {level : Level} {literal : Option (Char × List Char)} {text : List Char}
    {calls' : ℕ} (hend : IsEndOf rest text) (hcalls : calls' ≤ calls + 1) :
    (Move.goes ⟨text, level, outer, literal, calls'⟩).MovesOn (c :: rest) (outer.length + 1)
      calls :=
  movesOn_goes hend (Nat.le_succ _) (by simp only; omega)

lemma movesOn_leave (v : Value) :
    (Move.leave calls v rest outer).MovesOn (c :: rest) (outer.length + 1) calls := by
  cases outer with
  | nil => exact Nat.le_add_right _ _
  | cons level outer => exact movesOn_goes (.refl _) (Nat.le_add_right _ 2) (Nat.le_refl _)

lemma movesOn_value :
    (Move.value level outer calls total (c :: rest)).MovesOn (c :: rest) (outer.length + 1)
      calls := by
  have hopen : ∀ inner, (Move.goes ⟨rest, inner, level :: outer, none, calls + 2⟩).MovesOn
      (c :: rest) (outer.length + 1) calls :=
    fun inner => movesOn_goes (.refl _) (Nat.le_refl _) (by simp only [List.length_cons]; omega)
  have hfault : calls + 1 ≤ calls + (c :: rest).length := by simp
  rw [Move.value]
  split_ifs with _ _ _ _ htoken
  · exact hopen _
  · exact hopen _
  · exact hopen _
  · exact movesOn_on (.refl _) (Nat.le_refl _)
  · exact hfault
  · rw [List.dropWhile_cons_of_pos (head_of_takeWhile_ne_nil htoken)]
    exact movesOn_on (isEndOf_dropWhile _ _) (Nat.le_refl _)

lemma movesOn_behindLiteral {contents text : List Char} (hend : IsEndOf rest text) :
    (Move.behindLiteral level outer calls contents text).MovesOn (c :: rest) (outer.length + 1)
      calls := by
  cases text with
  | nil => exact movesOn_on hend (Nat.le_succ _)
  | cons d text =>
    rw [Move.behindLiteral]
    split
    · exact movesOn_on hend.of_cons (Nat.le_succ _)
    · exact movesOn_on hend (Nat.le_succ _)

end

lemma movesOn_inLiteral {quote : Char} {contents text : List Char} :
    (Move.inLiteral level outer calls quote contents text).MovesOn text (outer.length + 1)
      calls := by
  cases text with
  | nil => exact Nat.le_add_right _ _
  | cons c rest =>
    rw [Move.inLiteral]
    split
    · exact movesOn_behindLiteral (isEndOf_dropWhile isBlank rest)
    split
    · cases rest with
      | nil => exact Nat.le_add_right _ _
      | cons e rest => exact movesOn_on (isEndOf_cons.mpr (.inr (.refl _))) (Nat.le_succ _)
    · exact movesOn_on (.refl _) (Nat.le_succ _)

/-- The key of an entry makes up for the call of a value that is missing. -/
lemma movesOn_entry {close : Option Char} {es : List Entry} {text : List Char} :
    (Move.entry outer calls total close es text).MovesOn text (outer.length + 1) calls := by
  have hskip := isEndOf_skipSeparators false text
  unfold Move.entry
  split
  · exact Nat.le_add_right _ _
  · next c rest hcons =>
    rw [hcons] at hskip
    split
    · exact (movesOn_leave _).mono hskip
    split
    · exact Nat.le_add_right _ _
    · next hkey =>
      have hvalue := (isEndOf_dropWhile isKeyChar (c :: rest)).trans (isEndOf_skipColon _)
      generalize skipColon ((c :: rest).dropWhile isKeyChar) = text' at hvalue
      cases text' with
      | nil =>
        have hlength := hskip.length_le
        rw [List.length_cons] at hlength
        exact Nat.add_le_add_left (by omega) calls
      | cons d rest' => exact movesOn_value.mono (hskip.trans hvalue)

lemma movesOn_item {vs : List Value} {text : List Char} :
    (Move.item outer calls total vs text).MovesOn text (outer.length + 1) calls := by
  have hskip := isEndOf_skipSeparators false text
  unfold Move.item
  split
  · exact Nat.le_add_right _ _
  · next c rest hcons =>
    rw [hcons] at hskip
    split
    · exact (movesOn_leave _).mono hskip
    · exact movesOn_value.mono hskip

/-- What one step keeps to. -/
lemma movesOn_step (total : ℕ) (cursor : Cursor) :
    (cursor.step total).MovesOn cursor.rest cursor.depth cursor.calls := by
  obtain ⟨rest, level, outer, literal, calls⟩ := cursor
  cases literal with
  | some literal => exact movesOn_inLiteral
  | none =>
    cases level with
    | entries close es key => exact movesOn_entry
    | items vs => exact movesOn_item

/-- What all steps together keep to. -/
lemma Leads.isBehind {move : Move} {next : Cursor} (h : Leads total move (.goes next))
    {text : List Char} {depth calls : ℕ} (hmove : move.MovesOn text depth calls) :
    next.IsBehind text depth calls := by
  generalize hgoes : Move.goes next = last at h
  induction h generalizing text depth calls with
  | refl move =>
    subst hgoes
    exact hmove.2
  | @step cursor move _ ih =>
    obtain ⟨-, hend, hdepth, hcalls⟩ := hmove
    obtain ⟨hend', hdepth', hcalls'⟩ := ih (movesOn_step total cursor) hgoes
    exact ⟨hend.trans hend', by omega, by omega⟩

lemma run_of_leads {move : Move} {result : Except OptionFault Value} {calls : ℕ}
    (h : Leads total move (.ends result calls)) {fuel : ℕ}
    (hfuel : ∀ cursor, move = .goes cursor → cursor.rest.length < fuel) :
    move.run total fuel = some (result, calls) := by
  generalize hends : Move.ends result calls = last at h
  induction h generalizing fuel with
  | refl move =>
    subst hends
    cases fuel <;> rfl
  | @step cursor move _ ih =>
    cases fuel with
    | zero => exact absurd (hfuel cursor rfl) (Nat.not_lt_zero _)
    | succ fuel =>
      refine ih (fun next hnext => ?_) hends
      have hmove := movesOn_step total cursor
      rw [hnext] at hmove
      exact Nat.lt_of_lt_of_le hmove.1 (Nat.le_of_lt_succ (hfuel cursor rfl))

/-- There is a last step. -/
lemma Leads.exists_last {cursor : Cursor} {result : Except OptionFault Value} {calls : ℕ}
    (h : Leads total (.goes cursor) (.ends result calls)) :
    ∃ last, Leads total (.goes cursor) (.goes last) ∧ last.step total = .ends result calls := by
  generalize hgoes : Move.goes cursor = move at h
  generalize hends : Move.ends result calls = final at h
  induction h generalizing cursor with
  | refl move =>
    rw [← hgoes] at hends
    cases hends
  | @step first move next ih =>
    cases hgoes
    cases hstep : first.step total with
    | goes second =>
      obtain ⟨last, hlast, heq⟩ := ih hstep.symm hends
      exact ⟨last, .step (hstep ▸ hlast), heq⟩
    | ends result' calls' =>
      rw [hstep] at next
      cases next
      cases hends
      exact ⟨first, .refl _, hstep⟩

/-! ### Reading ends -/

/-- A value that is read is an end short of the text. -/
lemma isEndOf_readValue {text : List Char} {v : Value}
    {after : { rest // rest.length < text.length }} (h : readValue total text = .ok (v, after)) :
    IsEndOf text after.1 := by
  have hvalue := follows_value (.items []) [] 0 (followsBelow total text.length)
  rw [h] at hvalue
  cases hvalue with
  | ok leads =>
    cases text with
    | nil => exact absurd after.2 (Nat.not_lt_zero _)
    | cons c rest => exact (leads.isBehind movesOn_value).isEnd

/-- The cursor comes to the result of reading a text. -/
lemma leads_readText (text : String) :
    ∃ calls, Leads text.toList.length (.goes (.start text.toList))
      (.ends ((readText text).map .message) calls) := by
  have hread := (followsBelow text.toList.length _).entries none [] "" [] 1 (fun _ => rfl)
    (Nat.lt_succ_self text.toList.length)
  unfold readText
  generalize readEntries text.toList.length none text.toList = result at hread ⊢
  cases hread with
  | fault leads => exact ⟨_, leads⟩
  | ok leads => exact ⟨_, leads⟩

/-- What holds of a cursor on its way through a text. -/
structure Cursor.Progresses (text : List Char) (cursor : Cursor) : Prop where
  /-- It stands within the text. -/
  within : cursor.position text.length ≤ text.length ∧
    cursor.rest = text.drop (cursor.position text.length)
  /-- There are not more calls than characters before it and levels around it. -/
  calls_le : cursor.calls ≤ cursor.position text.length + cursor.depth
  /-- It is moved on unless the reading ends. -/
  advances : ∀ next, cursor.step text.length = .goes next →
    cursor.position text.length < next.position text.length
  /-- The calls of the last step are within the same bound. -/
  lastCalls_le : ∀ result calls, cursor.step text.length = .ends result calls →
    calls ≤ text.length + cursor.depth

lemma isBehind_start {text : List Char} {cursor : Cursor}
    (h : Leads text.length (.goes (.start text)) (.goes cursor)) : cursor.IsBehind text 1 1 := by
  cases h with
  | refl => exact ⟨.refl _, Nat.le_refl _, Nat.le_refl _⟩
  | step next => exact next.isBehind (movesOn_step _ (.start text))

lemma progresses_of_leads {text : List Char} {cursor : Cursor}
    (h : Leads text.length (.goes (.start text)) (.goes cursor)) : cursor.Progresses text := by
  obtain ⟨hend, hdepth, hcalls⟩ := isBehind_start h
  have hle := hend.length_le
  have hstep := movesOn_step text.length cursor
  refine ⟨⟨Nat.sub_le _ _, List.suffix_iff_eq_drop.mp hend⟩, ?_, ?_, ?_⟩
  · unfold Cursor.position
    omega
  · intro next hnext
    rw [hnext] at hstep
    have hlt := hstep.1
    unfold Cursor.position
    omega
  · intro result calls hends
    rw [hends] at hstep
    have hlast : calls ≤ cursor.calls + cursor.rest.length := hstep
    omega

/-- Reading annotation values comes to its end by at most one step more than there are characters,
in which every round of a loop counts, and by a number of calls in proportion to them. Wherever it
stands on the way, it stands within the text, the next step takes it on, and it has not made more
calls than there are characters before it and levels around it. No value is read of no text. -/
theorem readText_progress (text : String) :
    (∃ calls ≤ 2 * text.toList.length + 1,
      (Move.goes (.start text.toList)).run text.toList.length (text.toList.length + 1) =
        some ((readText text).map .message, calls)) ∧
    (∀ cursor, Leads text.toList.length (.goes (.start text.toList)) (.goes cursor) →
      cursor.Progresses text.toList) ∧
    ∀ total rest v after, readValue total rest = .ok (v, after) →
      IsEndOf rest after.1 ∧ after.1.length < rest.length := by
  refine ⟨?_, fun cursor h => progresses_of_leads h,
    fun total rest v after h => ⟨isEndOf_readValue h, after.2⟩⟩
  obtain ⟨calls, hleads⟩ := leads_readText text
  obtain ⟨last, hlast, hends⟩ := hleads.exists_last
  have hdepth := (isBehind_start hlast).depth_le
  have hcalls := (progresses_of_leads hlast).lastCalls_le _ _ hends
  refine ⟨calls, by omega, run_of_leads hleads fun cursor hcursor => ?_⟩
  cases hcursor
  exact Nat.lt_succ_self _

end Laminate.Annotation
