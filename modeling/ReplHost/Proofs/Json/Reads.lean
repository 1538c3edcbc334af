import ReplHost.Json.Record
import ReplHost.Json.Writer
import ReplHost.Proofs.Text.Encoding
import ReplHost.Proofs.Session.Naming

/-! # Reading back written values

  Each reader of a typed value, run on the compact form the writer gives
  that value, returns the value and stops right after its text. The
  statements are equations of runs: the reader, run at a cursor whose rest is
  the written bytes followed by anything `t`, gives the value and the cursor
  at `t`, its index moved by the number of bytes written.

  - Strings (`run_readString`): every character comes back, the escaped
    ones through the escape reader, the others through the lossy UTF-8
    reading of their bytes. The string reader runs on fuel, one round per
    escape or byte (`charRounds`), and the rest of the input always gives
    enough.
  - Numbers (`run_readUnsigned`): the digits of a bounded number read
    without overflow, when a comma or a closing brace follows
    (`EndsMember`); only zero starts with the digit zero.
  - Booleans, `null` or a string, arrays of strings, and maps of strings with
    keys that are not repeated (`run_readStringMap`): a map reads back in
    the order written.
-/

namespace ReplHost.Json

variable {β : Type} {src t : List UInt8} {i : Nat}

/-! ### Moving the cursor -/

theorem run_skipBlanks_cons {b : UInt8} (hb : isBlank b = false) :
    skipBlanks.run ⟨src, b :: t, i⟩ = pure (some b, ⟨src, b :: t, i⟩) := by
  simp [skipBlanks, dropBlanks, hb]

theorem run_bump (b : UInt8) : bump.run ⟨src, b :: t, i⟩ = pure ((), ⟨src, t, i + 1⟩) := rfl

theorem run_peek : peek?.run ⟨src, t, i⟩ = pure (t.head?, ⟨src, t, i⟩) := rfl

theorem run_next (b : UInt8) : next?.run ⟨src, b :: t, i⟩ = pure (some b, ⟨src, t, i + 1⟩) := rfl

theorem run_expectWord_nil : (expectWord []).run ⟨src, t, i⟩ = pure ((), ⟨src, t, i⟩) := rfl

theorem run_expectWord_cons (b : UInt8) (w : List UInt8) :
    (expectWord (b :: w)).run ⟨src, b :: t, i⟩ = (expectWord w).run ⟨src, t, i + 1⟩ := by
  simp [expectWord, run_next]

/-! ### Booleans -/

theorem run_readBool (b : Bool) :
    readBool.run ⟨src, writeBool b ++ t, i⟩ = pure (b, ⟨src, t, i + (writeBool b).length⟩) := by
  cases b <;> simp [readBool, writeBool, run_skipBlanks_cons, isBlank, run_bump, restOfFalse, restOfTrue,
    run_expectWord_cons, run_expectWord_nil]

/-! ### Strings -/

/-- Bytes that are neither a control character, a quote nor a backslash are
    taken as they are, one round each. -/
theorem run_stringBody_plain {bs : List UInt8} (hbs : ∀ b ∈ bs, 0x20 ≤ b.toNat ∧ b ≠ 0x22 ∧ b ≠ 0x5C)
    (acc : List UInt8) (fuel : Nat) :
    (stringBody acc (bs.length + fuel)).run ⟨src, bs ++ t, i⟩ =
      (stringBody (bs.reverse ++ acc) fuel).run ⟨src, t, i + bs.length⟩ := by
  induction bs generalizing acc i with
  | nil => simp
  | cons b bs ih =>
    obtain ⟨hlow, hquote, hslash⟩ := hbs b List.mem_cons_self
    have hrest := ih (fun b hb => hbs b (List.mem_cons_of_mem _ hb)) (b :: acc) (i := i + 1)
    rw [show (b :: bs).length + fuel = (bs.length + fuel) + 1 by simp only [List.length_cons]; omega]
    have hlt : ¬b < 0x20 := by simp [UInt8.lt_iff_toNat_lt]; omega
    simp only [stringBody, List.cons_append, StateT.run_bind, run_peek, List.head?_cons, pure_bind, if_neg hlt,
      run_bump]
    rw [hrest]
    simp [Nat.add_assoc, Nat.add_comm 1]

theorem hexValue?_hexDigit {d : Nat} (hd : d < 16) : hexValue? (hexDigit d) = some d := by
  have hall : ∀ d < 16, hexValue? (hexDigit d) = some d := by decide
  exact hall d hd

theorem run_hexQuad {a b d e : UInt8} {w x y z : Nat} (ha : hexValue? a = some w) (hb : hexValue? b = some x)
    (hd : hexValue? d = some y) (he : hexValue? e = some z) :
    hexQuad.run ⟨src, a :: b :: d :: e :: t, i⟩ = pure (((w * 16 + x) * 16 + y) * 16 + z, ⟨src, t, i + 4⟩) := by
  simp [hexQuad, ha, hb, hd, he]

/-- A `\u` escape below the surrogates stands for its code point. -/
theorem run_unicodeEscape_below {c c' : Cursor} {n : Nat} (hn : n < 0xD800) (h : hexQuad.run c = pure (n, c')) :
    unicodeEscape.run c = pure (Char.ofNat n, c') := by
  have hlow : ¬ 0xDC00 ≤ n := by omega
  simp [unicodeEscape, h, hlow, hn]

/-- A character that needs no escape is written as its UTF-8 bytes. -/
theorem escapeChar_of_plain {c : Char} (h : 0x20 ≤ c.toNat) (hq : c ≠ '"') (hs : c ≠ '\\') :
    escapeChar c = Utf8.encodeChar c := by
  have hctl : ∀ d : Char, d.toNat < 0x20 → c ≠ d := by
    rintro d hd rfl
    omega
  rw [escapeChar, if_neg hq, if_neg hs, if_neg (hctl _ (by decide)), if_neg (hctl _ (by decide)),
    if_neg (hctl _ (by decide)), if_neg (hctl _ (by decide)), if_neg (hctl _ (by decide)), if_neg (by omega)]

/-- None of the bytes of such a character stops the string reader. -/
theorem encodeChar_plain {c : Char} (h : 0x20 ≤ c.toNat) (hq : c ≠ '"') (hs : c ≠ '\\') :
    ∀ b ∈ Utf8.encodeChar c, 0x20 ≤ b.toNat ∧ b ≠ 0x22 ∧ b ≠ 0x5C := by
  by_cases hascii : c.toNat < 0x80
  · rw [Utf8.encodeChar_ascii hascii]
    have hbyte : c.toNat.toUInt8.toNat = c.toNat := Utf8.toNat_toUInt8 (by omega)
    intro b hb
    rw [List.mem_singleton] at hb
    subst hb
    refine ⟨by omega, fun hb => hq (Char.toNat_inj.mp ?_), fun hb => hs (Char.toNat_inj.mp ?_)⟩
    · rw [← hbyte, hb]
      rfl
    · rw [← hbyte, hb]
      rfl
  · intro b hb
    have hhigh := Utf8.encodeChar_high (by omega) b hb
    refine ⟨by omega, ?_, ?_⟩ <;> rintro rfl <;> simp at hhigh

/-- How many rounds of the string reader a written character takes: one
    for an escape, one per byte otherwise. -/
def charRounds (c : Char) : Nat :=
  if c.toNat < 0x20 ∨ c = '"' ∨ c = '\\' then 1 else (Utf8.encodeChar c).length

/-- A backslash hands what follows to the escape reader, and the character
    it reads is kept as its UTF-8 bytes. -/
theorem run_stringBody_escape (bs : List UInt8) (c : Char) {acc : List UInt8} {fuel : Nat}
    (hesc : escape.run ⟨src, bs ++ t, i + 1⟩ = pure (c, ⟨src, t, i + 1 + bs.length⟩)) :
    (stringBody acc (fuel + 1)).run ⟨src, 0x5C :: (bs ++ t), i⟩ =
      (stringBody ((Utf8.encodeChar c).reverse ++ acc) fuel).run ⟨src, t, i + 1 + bs.length⟩ := by
  rw [stringBody]
  simp [run_peek, run_bump, hesc]

/-- One written character is read back as its UTF-8 bytes. -/
theorem run_stringBody_char (c : Char) (acc : List UInt8) (fuel : Nat) :
    (stringBody acc (charRounds c + fuel)).run ⟨src, escapeChar c ++ t, i⟩ =
      (stringBody ((Utf8.encodeChar c).reverse ++ acc) fuel).run ⟨src, t, i + (escapeChar c).length⟩ := by
  by_cases hplain : c.toNat < 0x20 ∨ c = '"' ∨ c = '\\'
  · -- an escape: a backslash and what the escape reader reads back
    rw [charRounds, if_pos hplain, Nat.add_comm]
    simp only [escapeChar]
    split_ifs with h₁ h₂ h₃ h₄ h₅ h₆ h₇ h₈
    · subst h₁
      exact run_stringBody_escape [0x22] _ rfl
    · subst h₂
      exact run_stringBody_escape [0x5C] _ rfl
    · subst h₃
      exact run_stringBody_escape [0x62] _ rfl
    · subst h₄
      exact run_stringBody_escape [0x74] _ rfl
    · subst h₅
      exact run_stringBody_escape [0x6E] _ rfl
    · subst h₆
      exact run_stringBody_escape [0x66] _ rfl
    · subst h₇
      exact run_stringBody_escape [0x72] _ rfl
    · -- another control character, written with four hex digits
      have hhex : hexQuad.run ⟨src, 0x30 :: 0x30 :: hexDigit (c.toNat / 16) :: hexDigit (c.toNat % 16) :: t,
          i + 1 + 1⟩ = pure (c.toNat, ⟨src, t, i + 1 + 1 + 4⟩) := by
        have hzero : hexValue? 0x30 = some 0 := rfl
        rw [run_hexQuad hzero hzero (hexValue?_hexDigit (by omega)) (hexValue?_hexDigit (by omega))]
        congr 3
        omega
      refine run_stringBody_escape [0x75, 0x30, 0x30, hexDigit (c.toNat / 16), hexDigit (c.toNat % 16)] c ?_
      simp [escape, run_next, run_unicodeEscape_below (by omega) hhex]
    · exfalso
      rcases hplain with h | h | h
      · exact h₈ h
      · exact h₁ h
      · exact h₂ h
  · have hlow : 0x20 ≤ c.toNat := by omega
    have hq : c ≠ '"' := fun h => hplain (Or.inr (Or.inl h))
    have hs : c ≠ '\\' := fun h => hplain (Or.inr (Or.inr h))
    rw [charRounds, if_neg hplain, escapeChar_of_plain hlow hq hs]
    exact run_stringBody_plain (encodeChar_plain hlow hq hs) acc fuel

theorem charRounds_le (c : Char) : charRounds c ≤ (escapeChar c).length := by
  by_cases hplain : c.toNat < 0x20 ∨ c = '"' ∨ c = '\\'
  · rw [charRounds, if_pos hplain]
    simp only [escapeChar]
    split_ifs <;> simp_all
  · have hq : c ≠ '"' := fun h => hplain (Or.inr (Or.inl h))
    have hs : c ≠ '\\' := fun h => hplain (Or.inr (Or.inr h))
    rw [charRounds, if_neg hplain, escapeChar_of_plain (by omega) hq hs]

theorem run_stringBody_close (acc : List UInt8) (fuel : Nat) :
    (stringBody acc (fuel + 1)).run ⟨src, 0x22 :: t, i⟩ =
      pure (Utf8.decodeLossyString acc.reverse, ⟨src, t, i + 1⟩) := by
  simp [stringBody, run_peek, run_bump]

/-- The written characters and the closing quote are read back, given more
    rounds than written bytes. -/
theorem run_stringBody_chars (cs : List Char) (acc : List UInt8) (fuel : Nat)
    (hfuel : (cs.flatMap escapeChar).length < fuel) :
    (stringBody acc fuel).run ⟨src, cs.flatMap escapeChar ++ 0x22 :: t, i⟩ =
      pure (Utf8.decodeLossyString (acc.reverse ++ Utf8.encodeChars cs),
        ⟨src, t, i + (cs.flatMap escapeChar).length + 1⟩) := by
  induction cs generalizing acc fuel i with
  | nil =>
    simp only [List.flatMap_nil, List.length_nil] at hfuel
    obtain ⟨f, rfl⟩ : ∃ f, fuel = f + 1 := ⟨fuel - 1, by omega⟩
    simpa [Utf8.encodeChars] using run_stringBody_close acc f
  | cons c cs ih =>
    -- the character takes `charRounds c` rounds, no more than its bytes
    have hround := charRounds_le c
    simp only [List.flatMap_cons, List.length_append] at hfuel ⊢
    obtain ⟨f, rfl⟩ : ∃ f, fuel = charRounds c + f := ⟨fuel - charRounds c, by omega⟩
    rw [List.append_assoc, run_stringBody_char, ih _ _ (by omega)]
    simp [Utf8.encodeChars, Nat.add_assoc]

theorem run_string (s : String) :
    string.run ⟨src, s.toList.flatMap escapeChar ++ 0x22 :: t, i⟩ =
      pure (s, ⟨src, t, i + (s.toList.flatMap escapeChar).length + 1⟩) := by
  have hbody := @run_stringBody_chars src t i s.toList [] ((s.toList.flatMap escapeChar ++ 0x22 :: t).length + 1)
    (by simp only [List.length_append, List.length_cons]; omega)
  have hdecode : Utf8.decodeLossyString (Utf8.encodeChars s.toList) = s := Utf8.decodeLossyString_encode s
  rw [List.reverse_nil, List.nil_append, hdecode] at hbody
  simp only [string, StateT.run_bind, StateT.run_get, pure_bind]
  exact hbody

/-- A written string reads back. -/
theorem run_readString (expected : String) (s : String) :
    (readString expected).run ⟨src, writeString s ++ t, i⟩ =
      pure (s, ⟨src, t, i + (writeString s).length⟩) := by
  simp [readString, writeString, run_skipBlanks_cons, isBlank, run_bump, run_string, Nat.add_assoc, Nat.add_comm 1]

/-- A string or `null` reads back. -/
theorem run_readOptional_string (expected : String) (o : Option String) :
    (readOptional (readString expected)).run ⟨src, writeOptional writeString o ++ t, i⟩ =
      pure (o, ⟨src, t, i + (writeOptional writeString o).length⟩) := by
  cases o with
  | none =>
    simp [readOptional, writeOptional, writeNull, run_skipBlanks_cons, isBlank, run_bump, restOfNull,
      run_expectWord_cons, run_expectWord_nil, Nat.add_assoc]
  | some s =>
    have hread := @run_readString src t i expected s
    simp only [writeOptional, writeString, List.cons_append] at hread ⊢
    simp only [List.append_assoc, List.singleton_append] at hread ⊢
    simp [readOptional, run_skipBlanks_cons, isBlank, hread]

/-! ### Numbers -/

/-- What follows a member's value in a compact object: a comma or the
    closing brace. -/
def EndsMember (t : List UInt8) : Prop := ∃ r, t = 0x2C :: r ∨ t = 0x7D :: r

theorem EndsMember.not_digit (ht : EndsMember t) : ∀ b ∈ t.head?, isDigit b = false := by
  obtain ⟨r, rfl | rfl⟩ := ht <;> simp [isDigit]

theorem run_numberTail (v : Nat) (ht : EndsMember t) :
    (numberTail true v).run ⟨src, t, i⟩ = pure (.unsigned v, ⟨src, t, i⟩) := by
  obtain ⟨r, rfl | rfl⟩ := ht <;> simp [numberTail, run_peek]

theorem toNat_of_isDigit {c : Char} (h : c.isDigit = true) : 0x30 ≤ c.toNat ∧ c.toNat ≤ 0x39 := by
  simp only [Char.isDigit, ge_iff_le, Bool.and_eq_true, decide_eq_true_eq, UInt32.le_iff_toNat_le] at h
  exact h

/-- A digit is written as one byte, which the reader takes for the same digit. -/
theorem digit_byte {c : Char} (h : c.isDigit = true) :
    Utf8.encodeChar c = [c.toNat.toUInt8] ∧ isDigit c.toNat.toUInt8 = true ∧
      digitOf c.toNat.toUInt8 = Decimal.digitValue c := by
  obtain ⟨hlow, hhigh⟩ := toNat_of_isDigit h
  have hbyte : c.toNat.toUInt8.toNat = c.toNat := Utf8.toNat_toUInt8 (by omega)
  refine ⟨Utf8.encodeChar_ascii (by omega), ?_, ?_⟩
  · simp only [isDigit, UInt8.le_iff_toNat_le, hbyte, Bool.and_eq_true, decide_eq_true_eq]
    exact ⟨hlow, hhigh⟩
  · simp [digitOf, Decimal.digitValue, hbyte]

theorem isDigit_of_mem_toDigits {n : Nat} {c : Char} (h : c ∈ Nat.toDigits 10 n) : c.isDigit = true :=
  Nat.isDigit_of_mem_toDigits (by decide) (by decide) h

/-- A number is written as the bytes of its decimal digits. -/
theorem writeNat_digits (n : Nat) : writeNat n = (Nat.toDigits 10 n).map (·.toNat.toUInt8) := by
  have hdigits : ∀ ds : List Char, (∀ c ∈ ds, c.isDigit = true) →
      Utf8.encodeChars ds = ds.map (·.toNat.toUInt8) := by
    intro ds hds
    induction ds with
    | nil => rfl
    | cons c ds ih =>
      have hrest := ih (fun c hc => hds c (List.mem_cons_of_mem _ hc))
      simp only [Utf8.encodeChars, List.flatMap_cons] at hrest ⊢
      rw [(digit_byte (hds c List.mem_cons_self)).1, hrest]
      rfl
  rw [writeNat, Utf8.encode, Decimal.render, String.toList_ofList,
    hdigits _ (fun _ hd => isDigit_of_mem_toDigits hd)]

/-- Only zero is written with a leading zero. -/
theorem toDigits_head (n : Nat) : ∃ c ds, Nat.toDigits 10 n = c :: ds ∧ (c = '0' → n = 0) := by
  induction n using Nat.strong_induction_on with
  | _ n ih =>
    by_cases hn : n < 10
    · have hzero : ∀ n < 10, Nat.digitChar n = '0' → n = 0 := by decide
      exact ⟨_, [], Nat.toDigits_of_lt_base hn, hzero n hn⟩
    · -- the leading digit is that of `n / 10`, which is not zero
      have hsplit := Nat.toDigits_append_toDigits (b := 10) (n := n / 10) (d := n % 10)
        (by decide) (Nat.div_pos (by omega) (by decide)) (Nat.mod_lt n (by decide))
      rw [Nat.div_add_mod] at hsplit
      obtain ⟨c, ds, hds, hc⟩ := ih (n / 10) (Nat.div_lt_self (by omega) (by decide))
      refine ⟨c, ds ++ Nat.toDigits 10 (n % 10), ?_, fun h => absurd (hc h) (by omega)⟩
      rw [← hsplit, hds, List.cons_append]

theorem le_foldl_digits (ds : List Char) (acc : Nat) :
    acc ≤ ds.foldl (fun a c => 10 * a + Decimal.digitValue c) acc := by
  induction ds generalizing acc with
  | nil => exact Nat.le_refl acc
  | cons c ds ih =>
    calc acc ≤ 10 * acc + Decimal.digitValue c := by omega
      _ ≤ _ := ih _

theorem run_integerDigits_digit {b : UInt8} (hb : isDigit b = true) (acc fuel : Nat)
    (hno : overflows acc (digitOf b) = false) :
    (integerDigits true acc (fuel + 1)).run ⟨src, b :: t, i⟩ =
      (integerDigits true (acc * 10 + digitOf b) fuel).run ⟨src, t, i + 1⟩ := by
  rw [integerDigits]
  simp [run_peek, hb, hno, run_bump]

/-- Digits whose value fits in a word are read without overflow. -/
theorem run_integerDigits {ds : List Char} (hds : ∀ c ∈ ds, c.isDigit = true) (acc fuel : Nat)
    (hmax : ds.foldl (fun a c => 10 * a + Decimal.digitValue c) acc ≤ Decimal.wordMax)
    (ht : ∀ b ∈ t.head?, isDigit b = false) :
    (integerDigits true acc (ds.length + fuel + 1)).run ⟨src, ds.map (·.toNat.toUInt8) ++ t, i⟩ =
      (numberTail true (ds.foldl (fun a c => 10 * a + Decimal.digitValue c) acc)).run
        ⟨src, t, i + ds.length⟩ := by
  induction ds generalizing acc i with
  | nil =>
    cases t with
    | nil => simp [integerDigits, run_peek]
    | cons b r => simp [integerDigits, run_peek, ht b rfl]
  | cons c ds ih =>
    obtain ⟨-, hdigit, hvalue⟩ := digit_byte (hds c List.mem_cons_self)
    -- the value read so far never passes the value of all the digits
    have hnext : acc * 10 + Decimal.digitValue c ≤ Decimal.wordMax := by
      have := le_foldl_digits ds (10 * acc + Decimal.digitValue c)
      simp only [List.foldl_cons] at hmax
      omega
    have hno : overflows acc (digitOf c.toNat.toUInt8) = false := by
      simp [overflows, hvalue, hnext]
    have hrest := ih (fun c hc => hds c (List.mem_cons_of_mem _ hc)) (acc * 10 + digitOf c.toNat.toUInt8)
      (i := i + 1) (by rw [hvalue, Nat.mul_comm]; simpa using hmax)
    have hlen : (c :: ds).length + fuel + 1 = (ds.length + fuel + 1) + 1 := by
      simp only [List.length_cons]
      omega
    rw [hlen, List.map_cons, List.cons_append, run_integerDigits_digit hdigit acc _ hno, hrest, hvalue,
      Nat.mul_comm]
    simp [Nat.add_assoc, Nat.add_comm 1]

theorem run_number {n : Nat} (hn : n ≤ Decimal.wordMax) (ht : EndsMember t) :
    (number true).run ⟨src, writeNat n ++ t, i⟩ = pure (.unsigned n, ⟨src, t, i + (writeNat n).length⟩) := by
  obtain ⟨c, ds, hdigits, hc⟩ := toDigits_head n
  have hall : ∀ d ∈ c :: ds, d.isDigit = true := by
    rw [← hdigits]
    exact fun _ hd => isDigit_of_mem_toDigits hd
  obtain ⟨-, hdigit, hvalue⟩ := digit_byte (hall c List.mem_cons_self)
  have hval : ds.foldl (fun a c => 10 * a + Decimal.digitValue c) (Decimal.digitValue c) = n := by
    have := Decimal.valueOf_toDigits n
    rw [hdigits] at this
    simpa [Decimal.valueOf] using this
  rw [writeNat_digits, hdigits, List.map_cons]
  by_cases hzero : c = '0'
  · -- zero is the one numeral that starts with the digit zero
    obtain rfl := hc hzero
    have hds : ds = [] := by
      have h0 : Nat.toDigits 10 0 = ['0'] := by decide
      rw [h0] at hdigits
      cases hdigits
      rfl
    subst hzero hds
    obtain ⟨r, rfl | rfl⟩ := ht <;> simp [number, run_next, run_peek, numberTail, isDigit]
  · have hne : c.toNat.toUInt8 ≠ 0x30 := by
      intro h
      obtain ⟨hlow, hhigh⟩ := toNat_of_isDigit (hall c List.mem_cons_self)
      have hbyte : c.toNat.toUInt8.toNat = c.toNat := Utf8.toNat_toUInt8 (by omega)
      exact hzero (Char.toNat_inj.mp (by rw [← hbyte, h]; rfl))
    have hrest := @run_integerDigits src t (i + 1) ds (fun d hd => hall d (List.mem_cons_of_mem _ hd))
      (digitOf c.toNat.toUInt8) t.length (by rw [hvalue, hval]; exact hn) ht.not_digit
    rw [hvalue, hval, run_numberTail n ht] at hrest
    simp only [number, List.cons_append, StateT.run_bind, run_next, pure_bind, hne, if_false, hdigit,
      if_true, StateT.run_get, List.length_append, List.length_map, hvalue, hrest]
    simp [Nat.add_assoc, Nat.add_comm 1]

theorem isBlank_of_isDigit {b : UInt8} (h : isDigit b = true) : isBlank b = false := by
  simp only [isDigit, Bool.and_eq_true, decide_eq_true_eq, UInt8.le_iff_toNat_le] at h
  simp only [isBlank, Bool.or_eq_false_iff, beq_eq_false_iff_ne, ne_eq, ← UInt8.toNat_inj]
  simp at h ⊢
  omega

/-- A written number within the bound reads back when a comma or a closing
    brace follows. -/
theorem run_readUnsigned {n bound : Nat} (hn : n ≤ bound) (hbound : bound ≤ Decimal.wordMax) (ht : EndsMember t)
    (expected : String) :
    (readUnsigned bound expected).run ⟨src, writeNat n ++ t, i⟩ =
      pure (n, ⟨src, t, i + (writeNat n).length⟩) := by
  obtain ⟨c, ds, hdigits, -⟩ := toDigits_head n
  have hdigit : isDigit c.toNat.toUInt8 = true :=
    (digit_byte (isDigit_of_mem_toDigits (by rw [hdigits]; exact List.mem_cons_self))).2.1
  have hnum := @run_number src t i n (Nat.le_trans hn hbound) ht
  rw [writeNat_digits, hdigits, List.map_cons, List.cons_append] at hnum ⊢
  generalize c.toNat.toUInt8 = b at hdigit hnum ⊢
  -- a digit is not the minus sign
  have hsign : b ≠ 0x2D := by
    rintro rfl
    simp [isDigit] at hdigit
  simp only [readUnsigned, StateT.run_bind, run_skipBlanks_cons (isBlank_of_isDigit hdigit), pure_bind]
  split
  · simp [hnum, hn]
  · contradiction

/-! ### Arrays of strings -/

theorem commaSeparated_cons (x : List UInt8) (xs : List (List UInt8)) :
    commaSeparated (x :: xs) = x ++ xs.flatMap (0x2C :: ·) := by
  induction xs generalizing x with
  | nil => simp [commaSeparated]
  | cons y ys ih => simp [commaSeparated, ih]

theorem length_le_flatMap_cons (b : UInt8) (f : β → List UInt8) (xs : List β) :
    xs.length ≤ (xs.flatMap (b :: f ·)).length := by
  induction xs with
  | nil => simp
  | cons x xs ih =>
    simp only [List.flatMap_cons, List.length_append, List.length_cons]
    omega

theorem run_moreElements_close (first : Bool) :
    (moreElements first).run ⟨src, 0x5D :: t, i⟩ = pure (false, ⟨src, 0x5D :: t, i⟩) := by
  simp [moreElements, run_skipBlanks_cons, isBlank]

theorem run_moreElements_first (s : String) :
    (moreElements true).run ⟨src, writeString s ++ t, i⟩ = pure (true, ⟨src, writeString s ++ t, i⟩) := by
  simp [moreElements, writeString, run_skipBlanks_cons, isBlank]

theorem run_moreElements_comma (s : String) :
    (moreElements false).run ⟨src, 0x2C :: (writeString s ++ t), i⟩ =
      pure (true, ⟨src, writeString s ++ t, i + 1⟩) := by
  simp [moreElements, writeString, run_skipBlanks_cons, isBlank, run_bump]

theorem run_elements_first (expected s : String) (fuel : Nat) :
    (elements (readString expected) true [] (fuel + 1)).run ⟨src, writeString s ++ t, i⟩ =
      (elements (readString expected) false [s] fuel).run ⟨src, t, i + (writeString s).length⟩ := by
  rw [elements]
  simp [run_moreElements_first, run_readString]

/-- The strings after the first, each after a comma, read back up to the
    closing bracket. -/
theorem run_elements_strings (expected : String) (ss acc : List String) (fuel : Nat) (hfuel : ss.length < fuel) :
    (elements (readString expected) false acc fuel).run
        ⟨src, ss.flatMap (0x2C :: writeString ·) ++ 0x5D :: t, i⟩ =
      pure (acc.reverse ++ ss, ⟨src, 0x5D :: t, i + (ss.flatMap (0x2C :: writeString ·)).length⟩) := by
  obtain ⟨f, rfl⟩ : ∃ f, fuel = f + 1 := ⟨fuel - 1, by omega⟩
  induction ss generalizing acc f i with
  | nil => simp [elements, run_moreElements_close]
  | cons s ss ih =>
    obtain ⟨g, rfl⟩ : ∃ g, f = g + 1 := ⟨f - 1, by simp only [List.length_cons] at hfuel; omega⟩
    rw [elements]
    simp only [List.flatMap_cons, List.cons_append, List.append_assoc, StateT.run_bind, run_moreElements_comma,
      pure_bind, if_true, run_readString, ih (s :: acc) g (by simp only [List.length_cons] at hfuel; omega)]
    simp only [List.reverse_cons, List.append_assoc, List.singleton_append, List.length_cons,
      List.length_append]
    congr 3
    omega

theorem run_closeArray : closeArray.run ⟨src, 0x5D :: t, i⟩ = pure ((), ⟨src, t, i + 1⟩) := by
  simp [closeArray, run_skipBlanks_cons, isBlank, run_bump]

theorem run_readStrings_open (r : List UInt8) :
    readStrings.run ⟨src, 0x5B :: r, i⟩ =
      (do let xs ← elements (readString "a string") true [] (r.length + 1); closeArray; pure xs).run
        ⟨src, r, i + 1⟩ := by
  simp [readStrings, run_skipBlanks_cons, isBlank, run_bump]

/-- A written array of strings reads back. -/
theorem run_readStrings (ss : List String) :
    readStrings.run ⟨src, writeArray (ss.map writeString) ++ t, i⟩ =
      pure (ss, ⟨src, t, i + (writeArray (ss.map writeString)).length⟩) := by
  cases ss with
  | nil =>
    simp [writeArray, commaSeparated, run_readStrings_open, elements, run_moreElements_close, run_closeArray]
  | cons s ss =>
    have hfuel := length_le_flatMap_cons 0x2C writeString ss
    simp only [writeArray, List.map_cons, commaSeparated_cons, List.flatMap_map, List.cons_append, List.nil_append,
      List.append_assoc, run_readStrings_open, StateT.run_bind, run_elements_first]
    rw [run_elements_strings "a string" ss [s] _ (by simp only [List.length_append, List.length_cons]; omega)]
    simp only [pure_bind, run_closeArray, List.reverse_singleton, List.singleton_append, StateT.run_pure]
    congr 3
    simp only [List.length_cons, List.length_append, List.length_nil]
    omega

/-! ### Objects -/

theorem run_nextKey_close (first : Bool) :
    (nextKey first).run ⟨src, 0x7D :: t, i⟩ = pure (none, ⟨src, 0x7D :: t, i⟩) := by
  cases first <;> simp [nextKey, run_skipBlanks_cons, isBlank]

theorem run_nextKey_first (k : String) :
    (nextKey true).run ⟨src, writeString k ++ t, i⟩ = pure (some k, ⟨src, t, i + (writeString k).length⟩) := by
  have hkey := @run_string src t (i + 1) k
  simp only [writeString, List.cons_append, List.append_assoc] at hkey ⊢
  simp [nextKey, run_skipBlanks_cons, isBlank, run_bump, hkey]
  congr 3
  omega

theorem run_nextKey_comma (k : String) :
    (nextKey false).run ⟨src, 0x2C :: (writeString k ++ t), i⟩ =
      pure (some k, ⟨src, t, i + 1 + (writeString k).length⟩) := by
  have hkey := @run_string src t (i + 1 + 1) k
  simp only [writeString, List.cons_append, List.append_assoc] at hkey ⊢
  simp [nextKey, run_skipBlanks_cons, isBlank, run_bump, hkey]
  congr 3
  omega

theorem run_memberColon : memberColon.run ⟨src, 0x3A :: t, i⟩ = pure ((), ⟨src, t, i + 1⟩) := by
  simp [memberColon, run_skipBlanks_cons, isBlank, run_bump]

theorem run_closeObject : closeObject.run ⟨src, 0x7D :: t, i⟩ = pure ((), ⟨src, t, i + 1⟩) := by
  simp [closeObject, run_skipBlanks_cons, isBlank, run_bump]

/-- Setting a key that is absent adds it last. -/
theorem assocSet_of_not_mem {k : String} {acc : List (String × String)} (hk : k ∉ acc.map (·.1)) (v : String) :
    assocSet k v acc = acc ++ [(k, v)] := by
  induction acc with
  | nil => rfl
  | cons kv acc ih =>
    simp only [List.map_cons, List.mem_cons, not_or] at hk
    simp [assocSet, Ne.symm hk.1, ih hk.2]

/-- The bytes of a member of a string map. -/
def stringMember (kv : String × String) : List UInt8 := writeMember (kv.1, writeString kv.2)

theorem writeObject_strings (kvs : List (String × String)) :
    writeObject (kvs.map fun kv => (kv.1, writeString kv.2)) =
      0x7B :: commaSeparated (kvs.map stringMember) ++ [0x7D] := by
  simp only [writeObject, List.map_map]
  rfl

theorem run_members_first (kv : String × String) (fuel : Nat) :
    (members true [] (fuel + 1)).run ⟨src, stringMember kv ++ t, i⟩ =
      (members false [kv] fuel).run ⟨src, t, i + (stringMember kv).length⟩ := by
  rw [members]
  simp only [stringMember, writeMember, List.append_assoc, List.cons_append, StateT.run_bind, run_nextKey_first,
    pure_bind, run_memberColon, run_readString, assocSet, Prod.mk.eta]
  simp only [List.length_append, List.length_cons, Nat.add_assoc, Nat.add_comm 1]

/-- Members after the first, with keys new to those read, are added in the
    order written. -/
theorem run_members (kvs acc : List (String × String)) (fuel : Nat) (hfuel : kvs.length < fuel)
    (hkeys : (acc.map (·.1) ++ kvs.map (·.1)).Nodup) :
    (members false acc fuel).run ⟨src, kvs.flatMap (0x2C :: stringMember ·) ++ 0x7D :: t, i⟩ =
      pure (acc ++ kvs, ⟨src, 0x7D :: t, i + (kvs.flatMap (0x2C :: stringMember ·)).length⟩) := by
  obtain ⟨f, rfl⟩ : ∃ f, fuel = f + 1 := ⟨fuel - 1, by omega⟩
  induction kvs generalizing acc f i with
  | nil => simp [members, run_nextKey_close]
  | cons kv kvs ih =>
    obtain ⟨g, rfl⟩ : ∃ g, f = g + 1 := ⟨f - 1, by simp only [List.length_cons] at hfuel; omega⟩
    have hnew : kv.1 ∉ acc.map (·.1) := by
      intro hk
      simp only [List.map_cons] at hkeys
      exact (List.nodup_append.1 hkeys).2.2 _ hk _ List.mem_cons_self rfl
    have hnext := ih (i := i + 1 + (writeString kv.1).length + 1 + (writeString kv.2).length) (acc ++ [kv])
      (by simpa using hkeys) g (by simp only [List.length_cons] at hfuel; omega)
    simp only [stringMember, writeMember, List.append_assoc, List.cons_append] at hnext
    rw [members]
    simp only [List.flatMap_cons, stringMember, writeMember, List.cons_append, List.append_assoc,
      StateT.run_bind, run_nextKey_comma, pure_bind, run_memberColon, run_readString,
      assocSet_of_not_mem hnew]
    rw [hnext]
    simp only [List.length_cons, List.length_append]
    congr 3
    omega

theorem run_readStringMap_open (r : List UInt8) :
    readStringMap.run ⟨src, 0x7B :: r, i⟩ =
      (do let m ← members true [] (r.length + 1); closeObject; pure m).run ⟨src, r, i + 1⟩ := by
  simp [readStringMap, run_skipBlanks_cons, isBlank, run_bump]

/-- A written map of strings whose keys are not repeated reads back, in
    the order written. -/
theorem run_readStringMap (kvs : List (String × String)) (hkeys : (kvs.map (·.1)).Nodup) :
    readStringMap.run ⟨src, writeObject (kvs.map fun kv => (kv.1, writeString kv.2)) ++ t, i⟩ =
      pure (kvs, ⟨src, t, i + (writeObject (kvs.map fun kv => (kv.1, writeString kv.2))).length⟩) := by
  rw [writeObject_strings]
  cases kvs with
  | nil =>
    simp [commaSeparated, run_readStringMap_open, members, run_nextKey_close, run_closeObject]
  | cons kv kvs =>
    have hfuel := length_le_flatMap_cons 0x2C stringMember kvs
    simp only [List.map_cons, commaSeparated_cons, List.flatMap_map, List.cons_append, List.nil_append,
      List.append_assoc, run_readStringMap_open, StateT.run_bind, run_members_first]
    rw [run_members kvs [kv] _ (by simp only [List.length_append, List.length_cons]; omega) (by simpa using hkeys)]
    simp only [pure_bind, run_closeObject, List.singleton_append, StateT.run_pure]
    congr 3
    simp only [List.length_cons, List.length_append, List.length_nil]
    omega

end ReplHost.Json
