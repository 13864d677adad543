import Laminate.Text.Octets
import Mathlib.Tactic.Lemma

/-! Text is read back from its eight-bit encoding form, also by the reader that puts up with broken
sequences. -/
namespace Laminate.Text

/-! ### The octets of a text -/

lemma toList_loop (bytes : ByteArray) (i : Nat) (taken : List UInt8) :
    ByteArray.toList.loop bytes i taken = taken.reverse ++ bytes.data.toList.drop i := by
  fun_induction ByteArray.toList.loop bytes i taken with
  | case1 i taken h ih =>
    have hi : i < bytes.data.toList.length := by simpa using h
    have hget : bytes.get! i = bytes.data.toList[i] := by
      simp [ByteArray.get!, h]
    rw [ih, List.drop_eq_getElem_cons hi, hget]
    simp
  | case2 i taken h =>
    rw [List.drop_eq_nil_of_le (by simpa using Nat.le_of_not_lt h), List.append_nil]

/-- The octets of a text are those of its characters. -/
lemma encode_eq (s : String) : encode s = s.toList.flatMap String.utf8EncodeChar := by
  have hbytes : s.toUTF8 = (s.toList.flatMap String.utf8EncodeChar).toByteArray := by
    rw [String.toUTF8_eq_toByteArray, ← String.ofList_toList (s := s), String.toByteArray_ofList]
    simp [List.utf8Encode]
  rw [encode, hbytes, ByteArray.toList, toList_loop, List.toList_data_toByteArray]
  simp

/-! ### Characters of one to four octets -/

lemma nextChar_one {b : UInt8} (h : b.toNat < 128) (rest : List UInt8) :
    nextChar b rest = (some (Char.ofNat b.toNat), rest) := by
  have hlt : b < 0x80 := UInt8.lt_iff_toNat_lt.mpr h
  rw [nextChar, if_pos hlt]

/-- Octets that a lead octet wants, one after the other. -/
lemma nextChar_of_leadShape {b b₁ low high : UInt8} {tails : Nat} (hb : 128 ≤ b.toNat)
    (hshape : leadShape b = some (tails, low, high))
    (h₁ : low.toNat ≤ b₁.toNat ∧ b₁.toNat ≤ high.toNat) (rest : List UInt8) :
    nextChar b (b₁ :: rest) =
      ((takeTails (tails - 1) (leadBits tails b * 64 + b₁.toNat % 64) rest).1.map Char.ofNat,
        (takeTails (tails - 1) (leadBits tails b * 64 + b₁.toNat % 64) rest).2) := by
  have hge : ¬ b < 0x80 := by
    rw [UInt8.lt_iff_toNat_lt]
    exact Nat.not_lt.mpr hb
  have hbounds : (low ≤ b₁ && b₁ ≤ high) = true := by
    simpa [UInt8.le_iff_toNat_le] using h₁
  rw [nextChar, if_neg hge, hshape]
  simp only [hbounds, if_true]

lemma isTail_iff {b : UInt8} : isTail b = true ↔ 128 ≤ b.toNat ∧ b.toNat ≤ 191 := by
  simp [isTail, UInt8.le_iff_toNat_le]

lemma takeTails_cons {b : UInt8} (h : 128 ≤ b.toNat ∧ b.toNat ≤ 191) (tails code : Nat)
    (rest : List UInt8) :
    takeTails (tails + 1) code (b :: rest) = takeTails tails (code * 64 + b.toNat % 64) rest := by
  rw [takeTails, if_pos (isTail_iff.mpr h)]

lemma leadShape_two {b : UInt8} (h : 194 ≤ b.toNat ∧ b.toNat ≤ 223) :
    leadShape b = some (1, 0x80, 0xbf) := by
  simp [leadShape, UInt8.le_iff_toNat_le, h]

/-- The first continuation octet is further off at both ends of the lead octets: before come shorter
forms, and after it what stands for no character. -/
lemma leadShape_three {b b₁ : UInt8} (h : 224 ≤ b.toNat ∧ b.toNat ≤ 239)
    (h₁ : 128 ≤ b₁.toNat ∧ b₁.toNat ≤ 191) (first : b.toNat = 224 → 160 ≤ b₁.toNat)
    (surrogate : b.toNat = 237 → b₁.toNat ≤ 159) :
    ∃ low high, leadShape b = some (2, low, high) ∧ low.toNat ≤ b₁.toNat ∧
      b₁.toNat ≤ high.toNat := by
  have htwo : ¬ b.toNat ≤ 223 := by omega
  by_cases hfirst : b.toNat = 224
  · refine ⟨0xa0, 0xbf, ?_, first hfirst, h₁.2⟩
    simp [leadShape, UInt8.le_iff_toNat_le, ← UInt8.toNat_inj, hfirst]
  by_cases hsurrogate : b.toNat = 237
  · refine ⟨0x80, 0x9f, ?_, h₁.1, surrogate hsurrogate⟩
    simp [leadShape, UInt8.le_iff_toNat_le, ← UInt8.toNat_inj, hsurrogate]
  · have hmiddle : 225 ≤ b.toNat := by omega
    refine ⟨0x80, 0xbf, ?_, h₁.1, h₁.2⟩
    simp [leadShape, UInt8.le_iff_toNat_le, ← UInt8.toNat_inj, hfirst, hsurrogate, htwo, hmiddle,
      h.2]

lemma leadShape_four {b b₁ : UInt8} (h : 240 ≤ b.toNat ∧ b.toNat ≤ 244)
    (h₁ : 128 ≤ b₁.toNat ∧ b₁.toNat ≤ 191) (first : b.toNat = 240 → 144 ≤ b₁.toNat)
    (last : b.toNat = 244 → b₁.toNat ≤ 143) :
    ∃ low high, leadShape b = some (3, low, high) ∧ low.toNat ≤ b₁.toNat ∧
      b₁.toNat ≤ high.toNat := by
  have hthree : ¬ b.toNat ≤ 239 := by omega
  have htwo : ¬ b.toNat ≤ 223 := by omega
  by_cases hfirst : b.toNat = 240
  · refine ⟨0x90, 0xbf, ?_, first hfirst, h₁.2⟩
    simp [leadShape, UInt8.le_iff_toNat_le, ← UInt8.toNat_inj, hfirst]
  by_cases hlast : b.toNat = 244
  · refine ⟨0x80, 0x8f, ?_, h₁.1, last hlast⟩
    simp [leadShape, UInt8.le_iff_toNat_le, ← UInt8.toNat_inj, hlast]
  · have hmiddle : 241 ≤ b.toNat ∧ b.toNat ≤ 243 := by omega
    have hne : b.toNat ≠ 224 ∧ b.toNat ≠ 237 := by omega
    refine ⟨0x80, 0xbf, ?_, h₁.1, h₁.2⟩
    simp [leadShape, UInt8.le_iff_toNat_le, ← UInt8.toNat_inj, hfirst, htwo, hthree, hmiddle, hne]

lemma nextChar_two {b b₁ : UInt8} (h : 194 ≤ b.toNat ∧ b.toNat ≤ 223)
    (h₁ : 128 ≤ b₁.toNat ∧ b₁.toNat ≤ 191) (rest : List UInt8) :
    nextChar b (b₁ :: rest) =
      (some (Char.ofNat (b.toNat % 32 * 64 + b₁.toNat % 64)), rest) := by
  rw [nextChar_of_leadShape (by omega) (leadShape_two h) h₁]
  rfl

lemma nextChar_three {b b₁ b₂ : UInt8} (h : 224 ≤ b.toNat ∧ b.toNat ≤ 239)
    (h₁ : 128 ≤ b₁.toNat ∧ b₁.toNat ≤ 191) (first : b.toNat = 224 → 160 ≤ b₁.toNat)
    (surrogate : b.toNat = 237 → b₁.toNat ≤ 159) (h₂ : 128 ≤ b₂.toNat ∧ b₂.toNat ≤ 191)
    (rest : List UInt8) : nextChar b (b₁ :: b₂ :: rest) =
      (some (Char.ofNat ((b.toNat % 16 * 64 + b₁.toNat % 64) * 64 + b₂.toNat % 64)), rest) := by
  obtain ⟨low, high, hshape, hbounds⟩ := leadShape_three h h₁ first surrogate
  rw [nextChar_of_leadShape (by omega) hshape hbounds, takeTails_cons h₂]
  rfl

lemma nextChar_four {b b₁ b₂ b₃ : UInt8} (h : 240 ≤ b.toNat ∧ b.toNat ≤ 244)
    (h₁ : 128 ≤ b₁.toNat ∧ b₁.toNat ≤ 191) (first : b.toNat = 240 → 144 ≤ b₁.toNat)
    (last : b.toNat = 244 → b₁.toNat ≤ 143) (h₂ : 128 ≤ b₂.toNat ∧ b₂.toNat ≤ 191)
    (h₃ : 128 ≤ b₃.toNat ∧ b₃.toNat ≤ 191) (rest : List UInt8) :
    nextChar b (b₁ :: b₂ :: b₃ :: rest) =
      (some (Char.ofNat (((b.toNat % 8 * 64 + b₁.toNat % 64) * 64 + b₂.toNat % 64) * 64 +
        b₃.toNat % 64)), rest) := by
  obtain ⟨low, high, hshape, hbounds⟩ := leadShape_four h h₁ first last
  rw [nextChar_of_leadShape (by omega) hshape hbounds, takeTails_cons h₂, takeTails_cons h₃]
  rfl

/-- A character is read back from its octets, whatever follows them. -/
lemma nextChar_encodeChar (c : Char) : ∃ b tail, String.utf8EncodeChar c = b :: tail ∧
    ∀ rest, nextChar b (tail ++ rest) = (some c, rest) := by
  obtain ⟨n, hn⟩ : ∃ n, c.toNat = n := ⟨_, rfl⟩
  have hval : c.val.toNat = n := hn
  have hvalid : n < 0xd800 ∨ 0xdfff < n ∧ n < 0x110000 := hn ▸ c.valid
  have hchar : ∀ {m}, m = n → Char.ofNat m = c := by
    rintro m rfl
    exact hn ▸ Char.ofNat_toNat c
  have hnat : ∀ {m}, m < 256 → (UInt8.ofNat m).toNat = m := fun h => UInt8.toNat_ofNat_of_lt' h
  simp only [String.utf8EncodeChar, hval]
  by_cases hone : n ≤ 127
  · have hb := hnat (m := n) (by omega)
    rw [if_pos hone]
    refine ⟨_, _, rfl, fun rest => ?_⟩
    rw [List.nil_append, nextChar_one (by omega), hchar hb]
  rw [if_neg hone]
  by_cases htwo : n ≤ 2047
  · have hb := hnat (m := n / 64 % 32 + 192) (by omega)
    have hb₁ := hnat (m := n % 64 + 128) (by omega)
    rw [if_pos htwo]
    refine ⟨_, _, rfl, fun rest => ?_⟩
    rw [List.singleton_append, nextChar_two (by omega) (by omega), hchar (by omega)]
  rw [if_neg htwo]
  by_cases hthree : n ≤ 65535
  · have hb := hnat (m := n / 4096 % 16 + 224) (by omega)
    have hb₁ := hnat (m := n / 64 % 64 + 128) (by omega)
    have hb₂ := hnat (m := n % 64 + 128) (by omega)
    rw [if_pos hthree]
    refine ⟨_, _, rfl, fun rest => ?_⟩
    rw [List.cons_append, List.singleton_append,
      nextChar_three (by omega) (by omega) (by omega) (by omega) (by omega), hchar (by omega)]
  · have hb := hnat (m := n / 262144 % 8 + 240) (by omega)
    have hb₁ := hnat (m := n / 4096 % 64 + 128) (by omega)
    have hb₂ := hnat (m := n / 64 % 64 + 128) (by omega)
    have hb₃ := hnat (m := n % 64 + 128) (by omega)
    rw [if_neg hthree]
    refine ⟨_, _, rfl, fun rest => ?_⟩
    rw [List.cons_append, List.cons_append, List.singleton_append,
      nextChar_four (by omega) (by omega) (by omega) (by omega) (by omega) (by omega),
      hchar (by omega)]

/-! ### Whole texts -/

lemma readOctets_encodeChars (chars : List Char) :
    readOctets (chars.flatMap String.utf8EncodeChar) = chars.map some := by
  induction chars with
  | nil => rw [List.flatMap_nil, readOctets, List.map_nil]
  | cons c chars ih =>
    obtain ⟨b, tail, hoctets, hread⟩ := nextChar_encodeChar c
    rw [List.flatMap_cons, hoctets, List.cons_append, readOctets, hread, ih, List.map_cons]

/-- Text is read back from its octets. -/
theorem decodeLossy_encode (s : String) : decodeLossy (encode s) = s := by
  rw [decodeLossy, encode_eq, readOctets_encodeChars, List.map_map]
  simp [Function.comp_def]

/-- No octet sequence of a text is broken. -/
theorem decode?_encode (s : String) : decode? (encode s) = some s := by
  have hall : s.toList.mapM some = some s.toList := by
    simpa using List.mapM_pure (m := Option) (f := id) (l := s.toList)
  rw [decode?, encode_eq, readOctets_encodeChars, List.mapM_map]
  simp [hall]

end Laminate.Text
