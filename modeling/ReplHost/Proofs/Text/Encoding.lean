import ReplHost.Proofs.Text.Lossy

/-! # Reading back what was written

  `Utf8.encode` writes each character as one to four bytes, and the lossy
  reading takes every such sequence back to its character, so reading
  undoes writing (`decodeLossyString_encode`). The bytes of one character
  leave nothing pending (`lossyRun_encodeChar`): the lead byte announces
  the width, the byte after it lies in the range the lead allows, and the
  payload bits give back the code point. The allowed ranges are exactly
  what rules out surrogates, overlong forms and code points past U+10FFFF,
  and a character is none of these.
-/

namespace ReplHost.Utf8

/-- How wide a character its lead byte announces, by the byte's value. -/
theorem leadWidth_eq {a : UInt8} :
    leadWidth a = if a.toNat < 0x80 then 1 else if 0xC2 ≤ a.toNat ∧ a.toNat ≤ 0xDF then 2
      else if 0xE0 ≤ a.toNat ∧ a.toNat ≤ 0xEF then 3
      else if 0xF0 ≤ a.toNat ∧ a.toNat ≤ 0xF4 then 4 else 0 := by
  simp [leadWidth, UInt8.lt_iff_toNat_lt, UInt8.le_iff_toNat_le]

/-- The byte after a lead byte lies in `80..BF`, narrowed after `E0` (no
    overlong form), `ED` (no surrogate), `F0` (no overlong form) and `F4`
    (nothing past U+10FFFF). -/
theorem inSecondRange_iff {a b : UInt8} :
    ((secondRange a).1.toNat ≤ b.toNat ∧ b.toNat ≤ (secondRange a).2.toNat) ↔
      (if a.toNat = 0xE0 then 0xA0 ≤ b.toNat else if a.toNat = 0xF0 then 0x90 ≤ b.toNat else 0x80 ≤ b.toNat) ∧
      (if a.toNat = 0xED then b.toNat ≤ 0x9F else if a.toNat = 0xF4 then b.toNat ≤ 0x8F else b.toNat ≤ 0xBF) := by
  unfold secondRange
  split_ifs <;> simp_all [← UInt8.toNat_inj]

/-- A code point lies below the surrogates, or above them up to U+10FFFF. -/
theorem toNat_valid (c : Char) : c.toNat < 0xD800 ∨ (0xDFFF < c.toNat ∧ c.toNat < 0x110000) := by
  have := c.valid
  simpa [UInt32.isValidChar, Nat.isValidChar] using this

theorem toNat_toUInt8 {k : Nat} (h : k < 256) : k.toUInt8.toNat = k := by
  simp [Nat.toUInt8, Nat.mod_eq_of_lt h]

/-- The byte after a lead byte may follow it when it lies in the range the
    lead allows. -/
theorem mayFollow_second {a b : UInt8}
    (hb : (secondRange a).1.toNat ≤ b.toNat ∧ b.toNat ≤ (secondRange a).2.toNat) :
    mayFollow a [] b = true := by
  simpa [mayFollow, UInt8.le_iff_toNat_le] using hb

theorem mayFollow_cont {a b x : UInt8} {more : List UInt8} (hb : 0x80 ≤ b.toNat ∧ b.toNat ≤ 0xBF) :
    mayFollow a (x :: more) b = true := by
  simpa [mayFollow, isCont_iff] using hb

/-- A lead byte of width two and a byte in its range make one character. -/
theorem lossyRun_two {a b : UInt8} (ha : leadWidth a = 2)
    (hb : (secondRange a).1.toNat ≤ b.toNat ∧ b.toNat ≤ (secondRange a).2.toNat) :
    lossyRun [] [a, b] = ([], [charOf [a, b]]) := by
  simp [lossyRun, lossyStep, advance, mayFollow_second hb, ha]

/-- A lead byte of width three, a byte in its range and a continuation byte
    make one character. -/
theorem lossyRun_three {a b d : UInt8} (ha : leadWidth a = 3)
    (hb : (secondRange a).1.toNat ≤ b.toNat ∧ b.toNat ≤ (secondRange a).2.toNat)
    (hd : 0x80 ≤ d.toNat ∧ d.toNat ≤ 0xBF) :
    lossyRun [] [a, b, d] = ([], [charOf [a, b, d]]) := by
  simp [lossyRun, lossyStep, advance, mayFollow_second hb,
    mayFollow_cont hd, ha]

/-- A lead byte of width four, a byte in its range and two continuation
    bytes make one character. -/
theorem lossyRun_four {a b d e : UInt8} (ha : leadWidth a = 4)
    (hb : (secondRange a).1.toNat ≤ b.toNat ∧ b.toNat ≤ (secondRange a).2.toNat)
    (hd : 0x80 ≤ d.toNat ∧ d.toNat ≤ 0xBF) (he : 0x80 ≤ e.toNat ∧ e.toNat ≤ 0xBF) :
    lossyRun [] [a, b, d, e] = ([], [charOf [a, b, d, e]]) := by
  simp [lossyRun, lossyStep, advance, mayFollow_second hb,
    mayFollow_cont hd, mayFollow_cont he, ha]

/-- The bytes the writer gives a character: one ASCII byte, or a lead byte
    announcing two, three or four bytes, a second byte in the range the lead
    allows and continuation bytes, whose payload bits make the code point. -/
theorem encodeChar_shape (c : Char) :
    (∃ a, encodeChar c = [a] ∧ leadWidth a = 1 ∧ Char.ofNat a.toNat = c) ∨
    (∃ a b, encodeChar c = [a, b] ∧ leadWidth a = 2 ∧
      ((secondRange a).1.toNat ≤ b.toNat ∧ b.toNat ≤ (secondRange a).2.toNat) ∧ charOf [a, b] = c) ∨
    (∃ a b d, encodeChar c = [a, b, d] ∧ leadWidth a = 3 ∧
      ((secondRange a).1.toNat ≤ b.toNat ∧ b.toNat ≤ (secondRange a).2.toNat) ∧
      (0x80 ≤ d.toNat ∧ d.toNat ≤ 0xBF) ∧ charOf [a, b, d] = c) ∨
    (∃ a b d e, encodeChar c = [a, b, d, e] ∧ leadWidth a = 4 ∧
      ((secondRange a).1.toNat ≤ b.toNat ∧ b.toNat ≤ (secondRange a).2.toNat) ∧
      (0x80 ≤ d.toNat ∧ d.toNat ≤ 0xBF) ∧ (0x80 ≤ e.toNat ∧ e.toNat ≤ 0xBF) ∧ charOf [a, b, d, e] = c) := by
  have hv := toNat_valid c
  have hc : Char.ofNat c.toNat = c := Char.ofNat_toNat c
  simp only [encodeChar]
  split_ifs with h1 h2 h3
  · have ha : (c.toNat.toUInt8).toNat = c.toNat := toNat_toUInt8 (by omega)
    refine .inl ⟨_, rfl, by rw [leadWidth_eq, ha]; simp [h1], by rw [ha, hc]⟩
  · -- two bytes: a lead in C2..DF carries the top five bits
    have ha : (0xC0 + c.toNat / 64).toUInt8.toNat = 0xC0 + c.toNat / 64 := toNat_toUInt8 (by omega)
    have hb : (0x80 + c.toNat % 64).toUInt8.toNat = 0x80 + c.toNat % 64 := toNat_toUInt8 (by omega)
    refine .inr (.inl ⟨_, _, rfl, by rw [leadWidth_eq, ha]; split_ifs <;> omega,
      inSecondRange_iff.mpr (by rw [ha, hb]; split_ifs <;> omega), ?_⟩)
    have hcode : codePoint [(0xC0 + c.toNat / 64).toUInt8, (0x80 + c.toNat % 64).toUInt8] = c.toNat := by
      simp only [codePoint, payload, ha, hb]
      omega
    rw [charOf, hcode, hc]
  · -- three bytes: a lead in E0..EF carries the top four bits
    have ha : (0xE0 + c.toNat / 4096).toUInt8.toNat = 0xE0 + c.toNat / 4096 := toNat_toUInt8 (by omega)
    have hb : (0x80 + c.toNat / 64 % 64).toUInt8.toNat = 0x80 + c.toNat / 64 % 64 := toNat_toUInt8 (by omega)
    have hd : (0x80 + c.toNat % 64).toUInt8.toNat = 0x80 + c.toNat % 64 := toNat_toUInt8 (by omega)
    refine .inr (.inr (.inl ⟨_, _, _, rfl, by rw [leadWidth_eq, ha]; split_ifs <;> omega,
      inSecondRange_iff.mpr (by rw [ha, hb]; split_ifs <;> omega), by rw [hd]; omega, ?_⟩))
    have hcode : codePoint [(0xE0 + c.toNat / 4096).toUInt8, (0x80 + c.toNat / 64 % 64).toUInt8,
        (0x80 + c.toNat % 64).toUInt8] = c.toNat := by
      simp only [codePoint, payload, ha, hb, hd]
      omega
    rw [charOf, hcode, hc]
  · -- four bytes: a lead in F0..F4 carries the top three bits
    have ha : (0xF0 + c.toNat / 262144).toUInt8.toNat = 0xF0 + c.toNat / 262144 := toNat_toUInt8 (by omega)
    have hb : (0x80 + c.toNat / 4096 % 64).toUInt8.toNat = 0x80 + c.toNat / 4096 % 64 := toNat_toUInt8 (by omega)
    have hd : (0x80 + c.toNat / 64 % 64).toUInt8.toNat = 0x80 + c.toNat / 64 % 64 := toNat_toUInt8 (by omega)
    have he : (0x80 + c.toNat % 64).toUInt8.toNat = 0x80 + c.toNat % 64 := toNat_toUInt8 (by omega)
    refine .inr (.inr (.inr ⟨_, _, _, _, rfl, by rw [leadWidth_eq, ha]; split_ifs <;> omega,
      inSecondRange_iff.mpr (by rw [ha, hb]; split_ifs <;> omega), by rw [hd]; omega, by rw [he]; omega, ?_⟩))
    have hcode : codePoint [(0xF0 + c.toNat / 262144).toUInt8, (0x80 + c.toNat / 4096 % 64).toUInt8,
        (0x80 + c.toNat / 64 % 64).toUInt8, (0x80 + c.toNat % 64).toUInt8] = c.toNat := by
      simp only [codePoint, payload, ha, hb, hd, he]
      omega
    rw [charOf, hcode, hc]

/-- The bytes of a character are read back as that character, leaving
    nothing pending. -/
theorem lossyRun_encodeChar (c : Char) : lossyRun [] (encodeChar c) = ([], [c]) := by
  rcases encodeChar_shape c with ⟨a, h, ha, hc⟩ | ⟨a, b, h, ha, hb, hc⟩ | ⟨a, b, d, h, ha, hb, hd, hc⟩ |
      ⟨a, b, d, e, h, ha, hb, hd, he, hc⟩
  · simp [h, lossyRun, lossyStep, advance, ha, hc]
  · rw [h, lossyRun_two ha hb, hc]
  · rw [h, lossyRun_three ha hb hd, hc]
  · rw [h, lossyRun_four ha hb hd he, hc]

/-- The bytes of a character pass the strict reading as one character. -/
theorem problemFrom_encodeChar (c : Char) (n : Nat) (rest : List UInt8) :
    problemFrom [] n (encodeChar c ++ rest) = problemFrom [] (n + charWidth c) rest := by
  rcases encodeChar_shape c with ⟨a, h, ha, -⟩ | ⟨a, b, h, ha, hb, -⟩ | ⟨a, b, d, h, ha, hb, hd, -⟩ |
      ⟨a, b, d, e, h, ha, hb, hd, he, -⟩
  · simp [charWidth, h, problemFrom, advance, ha]
  · simp [charWidth, h, problemFrom, advance, ha, mayFollow_second hb]
  · simp [charWidth, h, problemFrom, advance, ha, mayFollow_second hb, mayFollow_cont hd]
  · simp [charWidth, h, problemFrom, advance, ha, mayFollow_second hb, mayFollow_cont hd, mayFollow_cont he]

/-- Reading undoes writing, character by character. -/
theorem decodeLossy_encodeChars (cs : List Char) : decodeLossy (encodeChars cs) = cs := by
  induction cs with
  | nil => rfl
  | cons c cs ih =>
    rw [encodeChars, List.flatMap_cons, decodeLossy, lossyFrom_append, lossyRun_encodeChar]
    exact congrArg (c :: ·) ih

/-- Reading the UTF-8 bytes of a string gives the string back. -/
theorem decodeLossyString_encode (s : String) : decodeLossyString (encode s) = s := by
  simp [decodeLossyString, encode, decodeLossy_encodeChars]

/-! ### The bytes of one character -/

/-- An ASCII character is its own byte. -/
theorem encodeChar_ascii {c : Char} (h : c.toNat < 0x80) : encodeChar c = [c.toNat.toUInt8] := by
  simp [encodeChar, h]

/-- Every byte of a character past ASCII has its high bit set, so none is
    a quote, a backslash or a control character. -/
theorem encodeChar_high {c : Char} (h : 0x80 ≤ c.toNat) : ∀ b ∈ encodeChar c, 0x80 ≤ b.toNat := by
  have hv := toNat_valid c
  simp only [encodeChar]
  split_ifs <;> simp [*] <;> omega

/-- Every character takes at least one byte. -/
theorem charWidth_pos (c : Char) : 0 < charWidth c := by
  simp only [charWidth, encodeChar]
  split_ifs <;> simp

theorem encodeChars_cons (c : Char) (cs : List Char) :
    encodeChars (c :: cs) = encodeChar c ++ encodeChars cs :=
  List.flatMap_cons

theorem encodeChars_append (xs ys : List Char) :
    encodeChars (xs ++ ys) = encodeChars xs ++ encodeChars ys :=
  List.flatMap_append

/-- The bytes the writer gives any characters are valid UTF-8. -/
theorem problemFrom_encodeChars (cs : List Char) (n : Nat) : problemFrom [] n (encodeChars cs) = none := by
  induction cs generalizing n with
  | nil => rfl
  | cons c cs ih => rw [encodeChars_cons, problemFrom_encodeChar, ih]

/-- The bytes of the first characters of a text come first in its bytes. -/
theorem encodeChars_take_length_le (cs : List Char) {k j : Nat} (h : k ≤ j) :
    (encodeChars (cs.take k)).length ≤ (encodeChars (cs.take j)).length := by
  have hsplit : cs.take j = cs.take k ++ (cs.take j).drop k := by
    have := (List.take_append_drop k (cs.take j)).symm
    rwa [List.take_take, Nat.min_eq_left h] at this
  rw [hsplit, encodeChars_append, List.length_append]
  omega

end ReplHost.Utf8
