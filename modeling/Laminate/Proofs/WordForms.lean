import Laminate.Text.Words
import Mathlib.Tactic.Lemma

/-! The characters of names in the usual case styles.
Words are letters and digits, and so are their cased forms; only separators come between them. -/
namespace Laminate.Text

/-- A letter or a digit below 128, or anything above. -/
def isWordChar (c : Char) : Bool := c.isAlphanum || 128 ≤ c.toNat

/-! ### Case forms -/

/-- A code point that is one of a character of a word. -/
def isWordCode (n : Nat) : Bool := n.isValidChar && isWordChar (Char.ofNat n)

/-- Whether the forms of a run are forms of words, which its first and its last one say. -/
def isWordRun : Nat × Nat × Nat × Nat → Bool
  | (first, last, _, form) =>
    let final := form + (last - first)
    (65 ≤ form && final ≤ 90) || (97 ≤ form && final ≤ 122) ||
      (128 ≤ form && final < 0xd800) || (0xe000 ≤ form && final < 0x110000)

lemma isWordRun_runs :
    ∀ run ∈ Table.toUpperRuns ++ Table.toLowerRuns, isWordRun run = true := by decide +kernel

lemma isWordCode_several :
    ∀ entry ∈ Table.toUpperSeveral ++ Table.toLowerSeveral, ∀ n ∈ entry.2,
      isWordCode n = true := by decide +kernel

lemma isWordChar_ascii : ∀ c : Char, c.toNat < 128 →
    (isAlphanumeric c = true → isWordChar c = true) ∧
    (isWordChar c = true → isWordChar c.toUpper = true ∧ isWordChar c.toLower = true) :=
  forall_ascii (by decide +kernel)

lemma isWordChar_ofNat {n : Nat} (h : isWordCode n = true) : isWordChar (Char.ofNat n) = true :=
  (Bool.and_eq_true _ _ ▸ h).2

lemma toNat_ofNat {n : Nat} (h : n.isValidChar) : (Char.ofNat n).toNat = n := by
  rw [Char.ofNat, dif_pos h]
  rfl

lemma isWordCode_of_isWordRun {first last step form n : Nat}
    (hrun : isWordRun (first, last, step, form) = true) (h : first ≤ n ∧ n ≤ last) :
    isWordCode (form + (n - first)) = true := by
  simp only [isWordRun, Bool.or_eq_true, Bool.and_eq_true, decide_eq_true_eq] at hrun
  obtain ⟨k, hk⟩ : ∃ k, form + (n - first) = k := ⟨_, rfl⟩
  have hvalid : k.isValidChar := by
    simp only [Nat.isValidChar]
    omega
  have hletter : (65 ≤ k ∧ k ≤ 90) ∨ (97 ≤ k ∧ k ≤ 122) ∨ 128 ≤ k := by omega
  rw [hk]
  simp only [isWordCode, hvalid, decide_true, Bool.true_and, isWordChar, Bool.or_eq_true,
    decide_eq_true_eq, toNat_ofNat hvalid]
  rcases hletter with h | h | h
  · refine .inl ?_
    have : ∀ m, m ≤ 90 → 65 ≤ m → (Char.ofNat m).isAlphanum = true := by decide
    exact this k h.2 h.1
  · refine .inl ?_
    have : ∀ m, m ≤ 122 → 97 ≤ m → (Char.ofNat m).isAlphanum = true := by decide
    exact this k h.2 h.1
  · exact .inr h

/-- A form in runs is that of a character of a word where the character itself is one. -/
lemma isWordCode_runForm {runs : List (Nat × Nat × Nat × Nat)} {n : Nat}
    (hruns : ∀ run ∈ runs, isWordRun run = true) (hn : isWordCode n = true) :
    isWordCode (runForm runs n) = true := by
  induction runs with
  | nil => exact hn
  | cons run runs ih =>
    obtain ⟨first, last, step, form⟩ := run
    simp only [runForm]
    split
    · next hfirst =>
      split
      · next hlast =>
        split
        · exact isWordCode_of_isWordRun (hruns _ List.mem_cons_self) ⟨hfirst, hlast⟩
        · exact hn
      · exact ih fun run h => hruns run (List.mem_cons_of_mem _ h)
    · exact hn

lemma isWordChar_of_isAlphanumeric {c : Char} (h : isAlphanumeric c = true) :
    isWordChar c = true := by
  by_cases hlow : c.toNat < 128
  · exact (isWordChar_ascii c hlow).1 h
  · simp only [isWordChar, Bool.or_eq_true, decide_eq_true_eq]
    exact .inr (by omega)

lemma isWordCode_toNat {c : Char} (h : isWordChar c = true) : isWordCode c.toNat = true := by
  have hvalid : c.toNat.isValidChar := c.valid
  simp [isWordCode, hvalid, Char.ofNat_toNat, h]

/-- The forms of a character of a word are made of such characters, whatever tables they are
read from. -/
lemma isWordChar_of_mem_form {ascii : Char → Char} {several : List (Nat × List Nat)}
    {runs : List (Nat × Nat × Nat × Nat)}
    (hascii : ∀ c, c.toNat < 128 → isWordChar c = true → isWordChar (ascii c) = true)
    (hseveral : ∀ entry ∈ several, ∀ n ∈ entry.2, isWordCode n = true)
    (hruns : ∀ run ∈ runs, isWordRun run = true) {c d : Char} (hc : isWordChar c = true)
    (h : d ∈ if c.toNat < 128 then [ascii c]
      else match several.lookup c.toNat with
        | some form => form.map Char.ofNat
        | none => [Char.ofNat (runForm runs c.toNat)]) : isWordChar d = true := by
  split at h
  · next hlow =>
    rw [List.mem_singleton] at h
    rw [h]
    exact hascii c hlow hc
  · split at h
    · next form hform =>
      obtain ⟨before, after, heq, -⟩ := List.lookup_eq_some_iff.mp hform
      obtain ⟨n, hn, rfl⟩ := List.mem_map.mp h
      exact isWordChar_ofNat (hseveral (c.toNat, form) (by simp [heq]) n hn)
    · rw [List.mem_singleton] at h
      rw [h]
      exact isWordChar_ofNat (isWordCode_runForm hruns (isWordCode_toNat hc))

lemma isWordChar_of_mem_upperForm {c d : Char} (hc : isWordChar c = true) (h : d ∈ upperForm c) :
    isWordChar d = true :=
  isWordChar_of_mem_form (fun c hlow h => ((isWordChar_ascii c hlow).2 h).1)
    (fun entry he => isWordCode_several entry (List.mem_append_left _ he))
    (fun run hr => isWordRun_runs run (List.mem_append_left _ hr)) hc h

lemma isWordChar_of_mem_lowerForm {c d : Char} (hc : isWordChar c = true) (h : d ∈ lowerForm c) :
    isWordChar d = true :=
  isWordChar_of_mem_form (fun c hlow h => ((isWordChar_ascii c hlow).2 h).2)
    (fun entry he => isWordCode_several entry (List.mem_append_right _ he))
    (fun run hr => isWordRun_runs run (List.mem_append_right _ hr)) hc h

/-! ### Words -/

lemma not_of_mem_splitAt {cut : Char → Bool} {text piece : List Char}
    (h : piece ∈ splitAt cut text) : ∀ c ∈ piece, cut c = false := by
  induction text generalizing piece with
  | nil => simp_all [splitAt]
  | cons c rest ih =>
    simp only [splitAt] at h
    split at h
    · simp_all
    · next first pieces hrest =>
      rw [hrest] at ih
      split at h
      · rcases List.mem_cons.mp h with rfl | h
        · simp
        · exact ih h
      · next hc =>
        rcases List.mem_cons.mp h with rfl | h
        · intro d hd
          rcases List.mem_cons.mp hd with rfl | hd
          · simpa using hc
          · exact ih List.mem_cons_self d hd
        · exact ih (List.mem_cons_of_mem _ h)

lemma mem_of_mem_humps {run word : List Char} (h : word ∈ humps .fresh [] run) {c : Char}
    (hc : c ∈ word) : c ∈ run := by
  by_cases hempty : run = []
  · rw [hempty] at h
    simp [humps] at h
  · have hflatten := humps_flatten .fresh [] run hempty
    rw [List.nil_append] at hflatten
    rw [← hflatten]
    exact List.mem_flatten.mpr ⟨word, h, hc⟩

/-- Words are made of letters and digits. -/
lemma isWordChar_of_mem_words {name word : List Char} (h : word ∈ words name) :
    ∀ c ∈ word, isWordChar c = true := by
  obtain ⟨run, hrun, hword⟩ := List.mem_flatMap.mp h
  intro c hc
  have := not_of_mem_splitAt hrun c (mem_of_mem_humps hword hc)
  exact isWordChar_of_isAlphanumeric (by simpa using this)

lemma isWordChar_of_mem_lowerWord {word : List Char} (h : ∀ c ∈ word, isWordChar c = true) :
    ∀ d ∈ lowerWord word, isWordChar d = true := by
  fun_induction lowerWord word with
  | case1 => simp
  | case2 => exact List.all_eq_true.mp (by decide)
  | case3 c rest _ ih =>
    intro d hd
    rcases List.mem_append.mp hd with hd | hd
    · exact isWordChar_of_mem_lowerForm (h c List.mem_cons_self) hd
    · exact ih (fun c hc => h c (List.mem_cons_of_mem _ hc)) d hd

lemma isWordChar_of_mem_capitalized {word : List Char} (h : ∀ c ∈ word, isWordChar c = true) :
    ∀ d ∈ capitalized word, isWordChar d = true := by
  cases word with
  | nil => simp [capitalized]
  | cons c rest =>
    intro d hd
    rcases List.mem_append.mp hd with hd | hd
    · exact isWordChar_of_mem_upperForm (h c List.mem_cons_self) hd
    · exact isWordChar_of_mem_lowerWord (fun c hc => h c (List.mem_cons_of_mem _ hc)) d hd

/-! ### Joined words -/

lemma mem_intercalate {separator : List Char} {parts : List (List Char)} {c : Char}
    (h : c ∈ separator.intercalate parts) : c ∈ separator ∨ ∃ part ∈ parts, c ∈ part := by
  obtain ⟨piece, hpiece, hc⟩ := List.mem_flatten.mp h
  induction parts with
  | nil => simp at hpiece
  | cons part parts ih =>
    cases parts with
    | nil =>
      rw [List.intersperse_singleton, List.mem_singleton] at hpiece
      exact .inr ⟨part, List.mem_cons_self, hpiece ▸ hc⟩
    | cons part' parts =>
      rw [List.intersperse_cons_cons, List.mem_cons, List.mem_cons] at hpiece
      rcases hpiece with rfl | rfl | hpiece
      · exact .inr ⟨piece, List.mem_cons_self, hc⟩
      · exact .inl hc
      · rcases ih (List.mem_flatten.mpr ⟨piece, hpiece, hc⟩) hpiece with hsep | ⟨p, hp, hcp⟩
        · exact .inl hsep
        · exact .inr ⟨p, List.mem_cons_of_mem _ hp, hcp⟩

/-- What holds of the separator and of the characters of words holds of words joined. -/
lemma of_mem_joined {P : Char → Prop} {separator : List Char} {parts : List (List Char)}
    (hseparator : ∀ c ∈ separator, P c) (hparts : ∀ part ∈ parts, ∀ c ∈ part, P c) :
    ∀ c ∈ (joined separator parts).toList, P c := by
  intro c hc
  rw [joined, String.toList_ofList] at hc
  rcases mem_intercalate hc with hc | ⟨part, hpart, hc⟩
  · exact hseparator c hc
  · exact hparts part hpart c hc

lemma of_mem_snakeCase {name : String} : ∀ c ∈ (snakeCase name).toList,
    c = '_' ∨ isWordChar c = true := by
  refine of_mem_joined (fun c hc => .inl (List.mem_singleton.mp hc)) fun part hpart c hc => ?_
  obtain ⟨word, hword, rfl⟩ := List.mem_map.mp hpart
  exact .inr (isWordChar_of_mem_lowerWord (isWordChar_of_mem_words hword) c hc)

lemma of_mem_lowerCamelCase {name : String} : ∀ c ∈ (lowerCamelCase name).toList,
    isWordChar c = true := by
  unfold lowerCamelCase
  have hwords := fun word => @isWordChar_of_mem_words name.toList word
  split
  · simp
  · next first rest heq =>
    rw [heq] at hwords
    refine of_mem_joined (by simp) fun part hpart c hc => ?_
    rcases List.mem_cons.mp hpart with rfl | hpart
    · exact isWordChar_of_mem_lowerWord (hwords _ List.mem_cons_self) c hc
    · obtain ⟨word, hword, rfl⟩ := List.mem_map.mp hpart
      exact isWordChar_of_mem_capitalized (hwords _ (List.mem_cons_of_mem _ hword)) c hc

end Laminate.Text
