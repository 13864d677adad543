import Laminate.Proofs.ExprTokens

/-! What expressions say: their text is read by the precedence of its operators.
A reader keeps what it has still to finish, innermost first. A text that is read alike wherever it
stands is read by its parts, so there is one lemma for each form of expression. -/
namespace Laminate.Code

open Laminate.Text

/-- What a text is read as. Parentheses have done their work. -/
inductive Tree where
  | name (text : String)
  | select (base : Tree) (name : String)
  | call (callee arg : Tree)
  | number (value : ℚ)
  | text (octets : List UInt8)
  | unary (op : UnaryOp) (operand : Tree)
  | binary (op : BinaryOp) (left right : Tree)
  deriving DecidableEq

/-- How tight a binary operator binds. -/
def BinaryOp.level : BinaryOp → Nat
  | or => 1
  | and => 2
  | eq | ne => 3

/-- Unary operators bind tighter than binary ones. -/
def unaryLevel : Nat := 6

/-- Names, selectors and calls bind tightest, and so does all that is in parentheses. -/
def primaryLevel : Nat := 7

lemma BinaryOp.level_lt (op : BinaryOp) : op.level < unaryLevel := by
  cases op <;> decide

/-! ### The reader -/

/-- What waits for an operand to end. -/
inductive Frame where
  | unary (op : UnaryOp)
  | left (op : BinaryOp) (left : Tree)
  | group
  | call (callee : Tree)

inductive Reading where
  | wantsOperand (frames : List Frame)
  | wantsName (base : Tree) (frames : List Frame)
  | hasOperand (operand : Tree) (frames : List Frame)

/-- Finishes the operators around an operand that bind at least as tight as some level. -/
def finish (level : Nat) : Tree → List Frame → Tree × List Frame
  | operand, .unary op :: frames =>
    if level ≤ unaryLevel then finish level (.unary op operand) frames
    else (operand, .unary op :: frames)
  | operand, .left op left :: frames =>
    if level ≤ op.level then finish level (.binary op left operand) frames
    else (operand, .left op left :: frames)
  | operand, frames => (operand, frames)

namespace Reading

def step : Reading → Token → Option Reading
  | wantsOperand frames, .name text => some (hasOperand (.name text) frames)
  | wantsOperand frames, .number value => some (hasOperand (.number value) frames)
  | wantsOperand frames, .text octets => some (hasOperand (.text octets) frames)
  | wantsOperand frames, .mark (.unary op) => some (wantsOperand (.unary op :: frames))
  | wantsOperand frames, .mark .opening => some (wantsOperand (.group :: frames))
  | wantsName base frames, .name text => some (hasOperand (.select base text) frames)
  | hasOperand operand frames, .mark .dot => some (wantsName operand frames)
  | hasOperand operand frames, .mark .opening => some (wantsOperand (.call operand :: frames))
  | hasOperand operand frames, .mark (.binary op) =>
    let (left, frames) := finish op.level operand frames
    some (wantsOperand (.left op left :: frames))
  | hasOperand operand frames, .mark .closing =>
    match finish 0 operand frames with
    | (inner, .group :: frames) => some (hasOperand inner frames)
    | (arg, .call callee :: frames) => some (hasOperand (.call callee arg) frames)
    | _ => none
  | _, _ => none

def run : Reading → List Token → Option Reading
  | reading, [] => some reading
  | reading, token :: tokens => (reading.step token).bind fun next => run next tokens

def result? : Reading → Option Tree
  | hasOperand operand frames =>
    match finish 0 operand frames with
    | (tree, []) => some tree
    | _ => none
  | _ => none

lemma run_append (reading : Reading) (tokens more : List Token) :
    reading.run (tokens ++ more) = (reading.run tokens).bind fun next => next.run more := by
  induction tokens generalizing reading with
  | nil => rfl
  | cons token tokens ih =>
    simp only [List.cons_append, run]
    cases reading.step token with
    | none => rfl
    | some next => exact ih next

end Reading

/-- The expression that a text is. -/
def readExpr? (letters : Letters) (text : List Char) : Option Tree :=
  ((tokens? letters text).bind fun tokens => (Reading.wantsOperand []).run tokens).bind
    Reading.result?

example : readExpr? .seven "a || b != *c.d && !e(-.5)".toList =
    some (.binary .or (.name "a") (.binary .and
      (.binary .ne (.name "b") (.unary .deref (.select (.name "c") "d")))
      (.unary .not (.call (.name "e") (.unary .minus (.number (1 / 2))))))) := by decide +kernel

/-! ### Tokens read in their place -/

/-- What waits for an operand of some level takes no part of it. -/
def Waits (level : Nat) : List Frame → Prop
  | .unary _ :: _ => unaryLevel ≤ level
  | .left op _ :: _ => op.level < level
  | _ => True

/-- Tokens that are read as an operand of some level, whatever waits for it. Operators in it may be
left to finish; what is tightest is finished. -/
def Yields (level : Nat) (tokens : List Token) (tree : Tree) : Prop :=
  ∀ frames, Waits level frames → ∃ operand pending,
    (Reading.wantsOperand frames).run tokens = some (.hasOperand operand pending) ∧
      (∀ low ≤ level, finish low operand pending = finish low tree frames) ∧
      (primaryLevel ≤ level → operand = tree ∧ pending = frames)

lemma Waits.mono {low level : Nat} {frames : List Frame} (h : Waits low frames)
    (hle : low ≤ level) : Waits level frames := by
  unfold Waits at h ⊢
  split at h
  · exact Nat.le_trans h hle
  · exact Nat.lt_of_lt_of_le h hle
  · trivial

/-- Where nothing that waits binds as tight, nothing is finished. -/
lemma finish_of_waits {op : BinaryOp} {frames : List Frame} (h : Waits op.level frames)
    (tree : Tree) : finish op.level tree frames = (tree, frames) := by
  have hlow := op.level_lt
  cases frames with
  | nil => rfl
  | cons frame frames =>
    cases frame with
    | unary => exact absurd h (Nat.not_le.mpr hlow)
    | left op' left => rw [finish, if_neg (Nat.not_le.mpr h)]
    | group => rfl
    | call => rfl

namespace Yields

variable {level low : Nat} {tokens more : List Token} {tree other : Tree}

lemma mono (h : Yields level tokens tree) (hle : low ≤ level) : Yields low tokens tree := by
  intro frames hwaits
  obtain ⟨operand, pending, hrun, hfinish, hprimary⟩ := h frames (hwaits.mono hle)
  exact ⟨operand, pending, hrun, fun l hl => hfinish l (Nat.le_trans hl hle),
    fun hl => hprimary (Nat.le_trans hl hle)⟩

/-- Tokens after which the operand is there. -/
lemma of_run (h : ∀ frames, (Reading.wantsOperand frames).run tokens =
    some (.hasOperand tree frames)) : Yields level tokens tree :=
  fun frames _ => ⟨tree, frames, h frames, fun _ _ => rfl, fun _ => ⟨rfl, rfl⟩⟩

lemma run_primary (h : Yields primaryLevel tokens tree) (frames : List Frame) :
    (Reading.wantsOperand frames).run tokens = some (.hasOperand tree frames) := by
  have hwaits : Waits primaryLevel frames := by
    unfold Waits
    split
    · decide
    · next op _ _ => exact Nat.lt_trans op.level_lt (by decide)
    · trivial
  obtain ⟨operand, pending, hrun, -, hprimary⟩ := h frames hwaits
  obtain ⟨rfl, rfl⟩ := hprimary (Nat.le_refl _)
  exact hrun

lemma select (h : Yields primaryLevel tokens tree) (name : String) :
    Yields primaryLevel (tokens ++ [.mark .dot, .name name]) (.select tree name) := by
  refine of_run fun frames => ?_
  rw [Reading.run_append, h.run_primary]
  rfl

/-- Within brackets an operand is read to its end. -/
lemma run_closing (h : Yields level tokens tree) {frame : Frame}
    (hframe : frame = .group ∨ ∃ callee, frame = .call callee) (frames : List Frame) :
    (Reading.wantsOperand (frame :: frames)).run (tokens ++ [.mark .closing]) =
      (Reading.hasOperand tree (frame :: frames)).step (.mark .closing) := by
  have hwaits : Waits level (frame :: frames) := by
    rcases hframe with rfl | ⟨callee, rfl⟩ <;> trivial
  obtain ⟨operand, pending, hrun, hfinish, -⟩ := h (frame :: frames) hwaits
  have hstep : (Reading.hasOperand operand pending).step (.mark .closing) =
      (Reading.hasOperand tree (frame :: frames)).step (.mark .closing) := by
    simp only [Reading.step, hfinish 0 (Nat.zero_le _)]
  rw [Reading.run_append, hrun, Option.bind_some, Reading.run, hstep]
  cases (Reading.hasOperand tree (frame :: frames)).step (.mark .closing) <;> rfl

lemma paren (h : Yields level tokens tree) :
    Yields primaryLevel (.mark .opening :: (tokens ++ [.mark .closing])) tree := by
  refine of_run fun frames => ?_
  exact h.run_closing (.inl rfl) frames

lemma call (h : Yields primaryLevel tokens tree) (h' : Yields level more other) :
    Yields primaryLevel (tokens ++ .mark .opening :: (more ++ [.mark .closing]))
      (.call tree other) := by
  refine of_run fun frames => ?_
  rw [Reading.run_append, h.run_primary]
  exact h'.run_closing (.inr ⟨tree, rfl⟩) frames

lemma unary (op : UnaryOp) (h : Yields unaryLevel tokens tree) :
    Yields unaryLevel (.mark (.unary op) :: tokens) (.unary op tree) := by
  intro frames _
  obtain ⟨operand, pending, hrun, hfinish, -⟩ := h (.unary op :: frames) (Nat.le_refl _)
  refine ⟨operand, pending, hrun, fun low hlow => ?_, fun hle => absurd hle (by decide)⟩
  rw [hfinish low hlow, finish, if_pos hlow]

/-- Operators of one level go from left to right. -/
lemma binary (op : BinaryOp) (h : Yields op.level tokens tree)
    (h' : Yields (op.level + 1) more other) :
    Yields op.level (tokens ++ .mark (.binary op) :: more) (.binary op tree other) := by
  intro frames hwaits
  obtain ⟨left, pending, hrun, hfinish, -⟩ := h frames hwaits
  obtain ⟨right, pending', hrun', hfinish', -⟩ :=
    h' (.left op tree :: frames) (Nat.lt_succ_self _)
  have hstep : (Reading.hasOperand left pending).step (.mark (.binary op)) =
      some (.wantsOperand (.left op tree :: frames)) := by
    simp only [Reading.step, hfinish _ (Nat.le_refl _), finish_of_waits hwaits]
  refine ⟨right, pending', ?_, fun low hlow => ?_, fun hle => ?_⟩
  · rw [Reading.run_append, hrun, Option.bind_some, Reading.run, hstep, Option.bind_some, hrun']
  · rw [hfinish' low (Nat.le_succ_of_le hlow), finish, if_pos hlow]
  · exact absurd (Nat.lt_of_le_of_lt hle op.level_lt) (by decide)

end Yields

/-! ### Texts read in their place -/

variable {letters : Letters}

/-- A text that is tokens of its own before any other text that a condition allows. -/
def Tokenizes (letters : Letters) (allowed : List Char → Prop) (text : String)
    (tokens : List Token) : Prop :=
  ∀ after, allowed after →
    tokens? letters (text.toList ++ after) = (tokens? letters after).map (tokens ++ ·)

/-- Any text may follow. -/
def Anything : List Char → Prop := fun _ => True

/-- What may follow a text of some level and leave it as it is. -/
def Follows (level : Nat) (after : List Char) : Prop :=
  ∀ c ∈ after.head?, c = ' ' ∨ c = ')' ∨ (primaryLevel ≤ level ∧ (c = '.' ∨ c = '('))

lemma Follows.mono {low level : Nat} {after : List Char} (h : Follows low after)
    (hle : low ≤ level) : Follows level after :=
  fun c hc => (h c hc).imp_right (Or.imp_right fun h => ⟨Nat.le_trans h.1 hle, h.2⟩)

lemma follows_of_head {level : Nat} {c : Char} {after : List Char} (hc : c = ' ' ∨ c = ')')
    (h : after.head? = some c) : Follows level after := by
  intro d hd
  obtain rfl : c = d := Option.some.inj (h.symm.trans hd)
  exact hc.imp_right .inl

namespace Tokenizes

variable {allowed allowed' : List Char → Prop} {text text' : String} {tokens tokens' : List Token}

lemma append (h : Tokenizes letters allowed text tokens)
    (h' : Tokenizes letters allowed' text' tokens')
    (hallowed : ∀ after, allowed' after → allowed (text'.toList ++ after)) :
    Tokenizes letters allowed' (text ++ text') (tokens ++ tokens') := by
  intro after hafter
  rw [String.toList_append, List.append_assoc, h _ (hallowed after hafter), h' after hafter,
    Option.map_map]
  congr 1
  funext more
  exact (List.append_assoc tokens tokens' more).symm

/-- A text before which anything else is told apart. -/
lemma appendAny (h : Tokenizes letters Anything text tokens)
    (h' : Tokenizes letters allowed text' tokens') :
    Tokenizes letters allowed (text ++ text') (tokens ++ tokens') :=
  h.append h' fun _ _ => trivial

lemma imp (h : Tokenizes letters allowed text tokens)
    (himp : ∀ after, allowed' after → allowed after) : Tokenizes letters allowed' text tokens :=
  fun after hafter => h after (himp after hafter)

lemma single {token : Token}
    (h : ∀ after, allowed after → token? letters (text.toList ++ after) = some (token, after)) :
    Tokenizes letters allowed text [token] :=
  fun after hafter => tokens?_token (h after hafter)

lemma space : Tokenizes letters Anything " " [] := by
  intro after _
  have htext : " ".toList = [' '] := by decide
  rw [htext, List.singleton_append, tokens?_space]
  simp

lemma mark (c : Char) (rest : List Char) {mark : Mark} (htext : text.toList = c :: rest)
    (hc : c ∈ markChars)
    (hpoint : ∀ after, allowed after → c = '.' → (rest ++ after).head?.any Char.isDigit = false)
    (h : ∀ after, allowed after → mark? (c :: (rest ++ after)) = some (mark, after)) :
    Tokenizes letters allowed text [.mark mark] := by
  refine .single fun after hafter => ?_
  rw [htext]
  exact token?_mark hc (hpoint after hafter) (h after hafter)

lemma dot : Tokenizes letters (fun after => after.head?.any Char.isDigit = false) "."
    [.mark .dot] :=
  .mark '.' [] (by decide) (by decide) (fun _ h _ => h) fun _ _ => rfl

lemma opening : Tokenizes letters Anything "(" [.mark .opening] :=
  .mark '(' [] (by decide) (by decide) (by simp) fun _ _ => rfl

lemma closing : Tokenizes letters Anything ")" [.mark .closing] :=
  .mark ')' [] (by decide) (by decide) (by simp) fun _ _ => rfl

lemma operator (op : BinaryOp) :
    Tokenizes letters Anything (" " ++ op.symbol ++ " ") [.mark (.binary op)] := by
  have hsymbol : Tokenizes letters Anything op.symbol [.mark (.binary op)] := by
    cases op with
    | eq => exact .mark '=' ['='] (by decide) (by decide) (by simp) fun _ _ => rfl
    | ne => exact .mark '!' ['='] (by decide) (by decide) (by simp) fun _ _ => rfl
    | and => exact .mark '&' ['&'] (by decide) (by decide) (by simp) fun _ _ => rfl
    | or => exact .mark '|' ['|'] (by decide) (by decide) (by simp) fun _ _ => rfl
  exact (space.appendAny hsymbol).appendAny space

lemma name {name : String} (h : letters.isIdentifier name = true) :
    Tokenizes letters (Follows primaryLevel) name [.name name] := by
  refine .single fun after hafter => token?_name h fun c hc => ?_
  rcases hafter c hc with rfl | rfl | ⟨-, rfl | rfl⟩ <;> decide

/-- Before a closing bracket every text ends. -/
lemma bracketed {level : Nat} (h : Tokenizes letters (Follows level) text tokens) :
    Tokenizes letters allowed (text ++ ")") (tokens ++ [.mark .closing]) :=
  h.append (closing.imp fun _ _ => trivial) fun _ _ => follows_of_head (.inr rfl) (by simp)

end Tokenizes

/-- A text that is read as an expression of some level wherever one may stand. -/
structure Reads (letters : Letters) (level : Nat) (text : String) (tree : Tree) : Prop where
  /-- Not what makes another mark of the operator before it. -/
  head : ∃ c rest, text.toList = c :: rest ∧ c ≠ '='
  reads : ∃ tokens, Tokenizes letters (Follows level) text tokens ∧ Yields level tokens tree

/-- A constant as it is read. -/
def constantTree (text : List Char) (value : ℚ) : Tree :=
  match text with
  | '+' :: _ => .unary .plus (.number value)
  | '-' :: _ => .unary .minus (.number value)
  | _ => .number value

namespace Reads

variable {level low : Nat} {text text' : String} {tree tree' : Tree}

lemma mono (h : Reads letters level text tree) (hle : low ≤ level) :
    Reads letters low text tree where
  head := h.head
  reads := by
    obtain ⟨tokens, htokens, hyields⟩ := h.reads
    exact ⟨tokens, htokens.imp fun _ hafter => hafter.mono hle, hyields.mono hle⟩

/-- The whole of a text is read as what its parts say. -/
theorem readExpr?_eq (h : Reads letters level text tree) :
    readExpr? letters text.toList = some tree := by
  obtain ⟨tokens, htokens, hyields⟩ := h.reads
  obtain ⟨operand, pending, hrun, hfinish, -⟩ := hyields [] trivial
  have hall : tokens? letters text.toList = some tokens := by
    have := htokens [] (by simp [Follows])
    simpa [tokens?] using this
  rw [readExpr?, hall, Option.bind_some, hrun, Option.bind_some, Reading.result?,
    hfinish 0 (Nat.zero_le _)]
  rfl

lemma head_append (h : Reads letters level text tree) (more : String) :
    ∃ c rest, (text ++ more).toList = c :: rest ∧ c ≠ '=' := by
  obtain ⟨c, rest, htext, hc⟩ := h.head
  exact ⟨c, rest ++ more.toList, by simp [htext], hc⟩

/-! #### Each form of expression -/

lemma name {name : String} (h : letters.isIdentifier name = true) :
    Reads letters primaryLevel name (.name name) where
  head := by
    obtain ⟨c, rest, htext, hletter, -, -⟩ := letters.isIdentifier_cons h
    refine ⟨c, rest, htext, ?_⟩
    rintro rfl
    rw [Letters.not_letter (by decide) (by decide) (by decide)] at hletter
    cases hletter
  reads := ⟨_, .name h, .of_run fun _ => rfl⟩

lemma select (h : Reads letters primaryLevel text tree) {name : String}
    (hname : letters.isIdentifier name = true) :
    Reads letters primaryLevel (text ++ "." ++ name) (.select tree name) where
  head := by
    rw [String.append_assoc]
    exact h.head_append _
  reads := by
    obtain ⟨tokens, htokens, hyields⟩ := h.reads
    have hdot : ∀ after, Follows primaryLevel after →
        (name.toList ++ after).head?.any Char.isDigit = false := by
      intro after _
      obtain ⟨c, rest, htext, hletter, -, -⟩ := letters.isIdentifier_cons hname
      rw [htext, List.cons_append, List.head?_cons, Option.any_some, Bool.eq_false_iff]
      intro hdigit
      rw [letters.not_letter_of_isDigit hdigit] at hletter
      cases hletter
    refine ⟨_, ?_, hyields.select name⟩
    rw [String.append_assoc]
    refine htokens.append (Tokenizes.dot.append (.name hname) hdot) fun after _ c hc => ?_
    rw [String.toList_append, List.append_assoc] at hc
    obtain rfl : '.' = c := by simpa using hc
    exact .inr (.inr ⟨Nat.le_refl _, .inl rfl⟩)

lemma paren (h : Reads letters level text tree) :
    Reads letters primaryLevel ("(" ++ text ++ ")") tree where
  head := ⟨'(', text.toList ++ [')'], by simp, by decide⟩
  reads := by
    obtain ⟨tokens, htokens, hyields⟩ := h.reads
    refine ⟨_, ?_, hyields.paren⟩
    rw [String.append_assoc]
    exact Tokenizes.opening.appendAny (htokens.bracketed)

lemma call (h : Reads letters primaryLevel text tree) (h' : Reads letters level text' tree') :
    Reads letters primaryLevel (text ++ "(" ++ text' ++ ")") (.call tree tree') where
  head := by
    simp only [String.append_assoc]
    exact h.head_append _
  reads := by
    obtain ⟨tokens, htokens, hyields⟩ := h.reads
    obtain ⟨tokens', htokens', hyields'⟩ := h'.reads
    refine ⟨_, ?_, hyields.call hyields'⟩
    simp only [String.append_assoc]
    refine htokens.append (Tokenizes.opening.appendAny htokens'.bracketed) fun after _ c hc => ?_
    rw [String.toList_append, List.append_assoc] at hc
    obtain rfl : '(' = c := by simpa using hc
    exact .inr (.inr ⟨Nat.le_refl _, .inr rfl⟩)

lemma unary (op : UnaryOp) (h : Reads letters unaryLevel text tree)
    (hapart : op = .minus ∨ op = .plus → text.toList.head? ≠ op.symbol.toList.head?) :
    Reads letters unaryLevel (op.symbol ++ text) (.unary op tree) where
  head := by
    obtain ⟨mark, ⟨-, -, hne⟩, hsymbol, -⟩ := mark?_unary op
    exact ⟨mark, text.toList, by rw [String.toList_append, hsymbol]; rfl, hne⟩
  reads := by
    obtain ⟨tokens, htokens, hyields⟩ := h.reads
    obtain ⟨c, rest, htext, hc⟩ := h.head
    obtain ⟨mark, ⟨hmark, hpoint, -⟩, hsymbol, hread⟩ := mark?_unary op
    have hsame : op = .minus ∨ op = .plus → c ≠ mark := by
      rintro hop rfl
      exact hapart hop (by rw [htext, hsymbol]; rfl)
    have hfirst : Tokenizes letters (fun after => ∃ more, after = c :: more) op.symbol
        [.mark (.unary op)] := by
      refine .mark mark [] hsymbol hmark (fun _ _ h => absurd h hpoint) ?_
      rintro _ ⟨more, rfl⟩
      exact hread c more hc hsame
    exact ⟨_, hfirst.append htokens fun after _ => ⟨rest ++ after, by rw [htext]; rfl⟩,
      hyields.unary op⟩

lemma binary {op : BinaryOp} (h : Reads letters op.level text tree)
    (h' : Reads letters (op.level + 1) text' tree') :
    Reads letters op.level (text ++ " " ++ op.symbol ++ " " ++ text') (.binary op tree tree') where
  head := by
    simp only [String.append_assoc]
    exact h.head_append _
  reads := by
    obtain ⟨tokens, htokens, hyields⟩ := h.reads
    obtain ⟨tokens', htokens', hyields'⟩ := h'.reads
    have happly := (Tokenizes.operator op).appendAny
      (htokens'.imp fun _ (hafter : Follows op.level _) => hafter.mono (Nat.le_succ _))
    simp only [String.append_assoc] at happly ⊢
    exact ⟨_, htokens.append happly fun after _ => follows_of_head (.inl rfl) (by simp),
      hyields.binary op hyields'⟩

lemma ofLiteral (s : String) : Reads letters primaryLevel (literal s) (.text (encode s)) where
  head := ⟨'"', _, by rw [literal, String.toList_ofList]; rfl, by decide⟩
  reads := ⟨_, .single fun after _ => token?_text s after, .of_run fun _ => rfl⟩

lemma number {value : ℚ} (h : numberValue? text.toList = some value) :
    Reads letters unaryLevel text (.number value) where
  head := by
    obtain ⟨c, rest, htext, hhead⟩ := head_of_isPointNumber (isPointNumber_of_numberValue? h)
    refine ⟨c, rest, htext, ?_⟩
    rintro rfl
    cases hhead
  reads := by
    refine ⟨_, .single fun after hafter => token?_number h fun c hc => ?_,
      (Yields.of_run fun _ => rfl).mono (Nat.le_succ unaryLevel)⟩
    exact (hafter c hc).imp_right fun hc => hc.resolve_right fun h => absurd h.1 (by decide)

/-- A number with a sign before it. -/
lemma signed {op : UnaryOp} {sign : Char} {rest : List Char} {value : ℚ}
    (hop : op.symbol.toList = [sign]) (hsign : sign = '+' ∨ sign = '-')
    (htext : text.toList = sign :: rest) (h : numberValue? rest = some value) :
    Reads letters unaryLevel text (.unary op (.number value)) := by
  have hsplit : text = op.symbol ++ String.ofList rest := by
    rw [← String.toList_inj, htext, String.toList_append, hop, String.toList_ofList]
    rfl
  rw [hsplit]
  refine unary op (number (by rwa [String.toList_ofList])) ?_
  obtain ⟨c, rest', rfl, hhead⟩ := head_of_isPointNumber (isPointNumber_of_numberValue? h)
  rw [String.toList_ofList, hop]
  rintro - heq
  obtain rfl : c = sign := Option.some.inj heq
  rcases hsign with rfl | rfl <;> cases hhead

/-- A number with an optional sign. -/
lemma constant {value : ℚ} (h : numberValue? (unsigned text.toList) = some value) :
    Reads letters unaryLevel text (constantTree text.toList value) := by
  unfold unsigned at h
  split at h
  · next rest htext =>
    rw [htext]
    exact signed (show UnaryOp.plus.symbol.toList = _ by decide) (.inl rfl) htext h
  · next rest htext =>
    rw [htext]
    exact signed (show UnaryOp.minus.symbol.toList = _ by decide) (.inr rfl) htext h
  · next hplus hminus =>
    have htree : constantTree text.toList value = .number value := by
      unfold constantTree
      split
      · next rest htext => exact absurd htext (hplus rest)
      · next rest htext => exact absurd htext (hminus rest)
      · rfl
    rw [htree]
    exact number h

end Reads

end Laminate.Code
