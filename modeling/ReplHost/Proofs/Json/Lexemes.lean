import ReplHost.Proofs.Json.Texts
import ReplHost.Proofs.Json.Reads

/-! # Reading every spelling of a token

  The readers of blanks, string literals, numbers and skipped values, run on
  any text the grammar of `Json.Texts` allows. As in `Json.Reads`, each
  statement is an equation of runs: the reader, run at a cursor whose rest
  is the token followed by some `t`, gives its result and the cursor at `t`.

  - Blanks (`run_skipBlanks_to`): all of them, up to the next token.
  - String literals (`run_string_text`): each character as `CharText`
    spells it is read as its UTF-8 bytes (`run_stringBody_charText`), in at
    most one round per byte, and the bytes of the characters read back as
    the string.
  - Skipped strings (`run_skipStringBody_raw`): a well-formed literal, any
    `\u` escape allowed, is passed over up to its closing quote.
  - Numbers (`run_skipNumber`): a sign, integer part, fraction and
    exponent are passed over whole when a delimiter follows.
-/

namespace ReplHost.Json

variable {src t : List UInt8} {i : Nat}

/-- A run that ends at one place, its index counted two ways. -/
theorem pure_index_congr {α : Type} {a : α} {j k : Nat} (h : j = k) :
    (pure (a, ⟨src, t, j⟩) : Except Error (α × Cursor)) = pure (a, ⟨src, t, k⟩) := by
  rw [h]

/-- A reader run from one place, its index counted two ways. -/
theorem run_index_congr {α : Type} (r : Reader α) {j k : Nat} (h : j = k) :
    r.run ⟨src, t, j⟩ = r.run ⟨src, t, k⟩ := by
  rw [h]

/-! ### Blanks -/

theorem dropBlanks_append {ws : List UInt8} (hws : Blanks ws) (r : List UInt8) (n : Nat) :
    dropBlanks (ws ++ r) n = dropBlanks r (n + ws.length) := by
  induction ws generalizing n with
  | nil => rfl
  | cons w ws ih =>
    have hw : isBlank w = true := hws w List.mem_cons_self
    rw [List.cons_append, dropBlanks, if_pos hw, ih (fun b hb => hws b (List.mem_cons_of_mem _ hb))]
    simp only [List.length_cons]
    congr 1
    omega

/-- Skipping blanks stops at the next byte that is not one. -/
theorem run_skipBlanks_to {ws : List UInt8} (hws : Blanks ws) {b : UInt8} (hb : isBlank b = false) :
    skipBlanks.run ⟨src, ws ++ b :: t, i⟩ = pure (some b, ⟨src, b :: t, i + ws.length⟩) := by
  simp [skipBlanks, dropBlanks_append hws, dropBlanks, hb, Nat.add_comm]

/-- Skipping blanks at the end of the text finds nothing. -/
theorem run_skipBlanks_end {ws : List UInt8} (hws : Blanks ws) :
    skipBlanks.run ⟨src, ws, i⟩ = pure (none, ⟨src, [], i + ws.length⟩) := by
  have h := dropBlanks_append hws [] 0
  rw [List.append_nil] at h
  simp [skipBlanks, h, dropBlanks]

theorem blanks_nil : Blanks [] := fun _ h => absurd h List.not_mem_nil

/-- A token's first byte is no blank. -/
theorem isBlank_eq_false {b : UInt8}
    (h : b = 0x22 ∨ b = 0x2C ∨ b = 0x3A ∨ b = 0x5B ∨ b = 0x5D ∨ b = 0x7B ∨ b = 0x7D ∨ b = 0x6E ∨
      b = 0x74 ∨ b = 0x66 ∨ b = 0x2D) :
    isBlank b = false := by
  rcases h with rfl | rfl | rfl | rfl | rfl | rfl | rfl | rfl | rfl | rfl | rfl <;> rfl

/-! ### Delimiters -/

/-- After blanks, what may follow a value may follow it. -/
theorem Delimited.blanks_append {ws : List UInt8} (hws : Blanks ws) (ht : Delimited t) : Delimited (ws ++ t) := by
  cases ws with
  | nil => exact ht
  | cons w ws => exact .inr ⟨w, ws ++ t, rfl, .inl (hws w List.mem_cons_self)⟩

theorem delimited_cons {b : UInt8} (hb : b = 0x2C ∨ b = 0x5D ∨ b = 0x7D) (r : List UInt8) : Delimited (b :: r) :=
  .inr ⟨b, r, rfl, .inr hb⟩

/-- What may follow a value does not go on with a number. -/
theorem Delimited.head (ht : Delimited t) :
    ∀ b ∈ t.head?, isDigit b = false ∧ b ≠ 0x2E ∧ b ≠ 0x65 ∧ b ≠ 0x45 := by
  rcases ht with rfl | ⟨b, r, rfl, hb⟩
  · simp
  · intro x hx
    simp only [List.head?_cons, Option.mem_def, Option.some.injEq] at hx
    subst hx
    rcases hb with hb | rfl | rfl | rfl
    · simp only [isBlank, Bool.or_eq_true, beq_iff_eq] at hb
      rcases hb with ((rfl | rfl) | rfl) | rfl <;> decide
    all_goals decide

/-! ### Hexadecimal digits and escapes -/

theorem hexValue?_of_hexDigit {b : UInt8} {d : Nat} (h : HexDigit b d) : hexValue? b = some d := by
  unfold hexValue? isDigit digitOf
  simp only [UInt8.le_iff_toNat_le, Bool.and_eq_true, decide_eq_true_eq, UInt8.toNat_ofNat]
  rcases h with ⟨hl, hh, rfl⟩ | ⟨hl, hh, rfl⟩ | ⟨hl, hh, rfl⟩
  · rw [if_pos ⟨by simpa using hl, by simpa using hh⟩]
  · rw [if_neg (by simp; omega), if_pos ⟨by simpa using hl, by simpa using hh⟩]
    congr 1
    omega
  · rw [if_neg (by simp; omega), if_neg (by simp; omega), if_pos ⟨by simpa using hl, by simpa using hh⟩]
    congr 1
    omega

theorem run_hexQuad_text {n : Nat} {ds : List UInt8} (h : HexQuad n ds) :
    hexQuad.run ⟨src, ds ++ t, i⟩ = pure (n, ⟨src, t, i + 4⟩) := by
  obtain ⟨a, b, c, d, w, x, y, z, rfl, ha, hb, hc, hd, rfl⟩ := h
  exact run_hexQuad (hexValue?_of_hexDigit ha) (hexValue?_of_hexDigit hb) (hexValue?_of_hexDigit hc)
    (hexValue?_of_hexDigit hd)

theorem hexQuad_length {n : Nat} {ds : List UInt8} (h : HexQuad n ds) : ds.length = 4 := by
  obtain ⟨a, b, c, d, w, x, y, z, rfl, -⟩ := h
  rfl

/-- Each two-character escape stands for its character. -/
theorem run_escape_short {c : Char} {b : UInt8} (h : (c, b) ∈ shortEscapes) :
    escape.run ⟨src, b :: t, i⟩ = pure (c, ⟨src, t, i + 1⟩) := by
  simp only [shortEscapes, List.mem_cons, Prod.mk.injEq, List.not_mem_nil, or_false] at h
  rcases h with ⟨rfl, rfl⟩ | ⟨rfl, rfl⟩ | ⟨rfl, rfl⟩ | ⟨rfl, rfl⟩ | ⟨rfl, rfl⟩ | ⟨rfl, rfl⟩ |
    ⟨rfl, rfl⟩ | ⟨rfl, rfl⟩ <;> rfl

/-- A `\u` escape of a character of the basic plane stands for it. -/
theorem run_escape_unit {c : Char} {ds : List UInt8} (hc : c.toNat < 0x10000) (h : HexQuad c.toNat ds) :
    escape.run ⟨src, 0x75 :: (ds ++ t), i⟩ = pure (c, ⟨src, t, i + 1 + 4⟩) := by
  have hv := Utf8.toNat_valid c
  have hlow : ¬(0xDC00 ≤ c.toNat ∧ c.toNat ≤ 0xDFFF) := by omega
  have hsingle : c.toNat < 0xD800 ∨ 0xDBFF < c.toNat := by omega
  simp [escape, run_next, unicodeEscape, run_hexQuad_text h, hlow, hsingle, Char.ofNat_toNat]

/-- The `\u` escapes of a surrogate pair stand for the character beyond the
    basic plane. -/
theorem run_escape_pair {c : Char} {hi lo : List UInt8} (hc : 0x10000 ≤ c.toNat)
    (hh : HexQuad (0xD800 + (c.toNat - 0x10000) / 0x400) hi)
    (hl : HexQuad (0xDC00 + (c.toNat - 0x10000) % 0x400) lo) :
    escape.run ⟨src, 0x75 :: (hi ++ 0x5C :: 0x75 :: (lo ++ t)), i⟩ =
      pure (c, ⟨src, t, i + 1 + 4 + 1 + 1 + 4⟩) := by
  have hv := Utf8.toNat_valid c
  -- the halves: ten high bits after a leading surrogate, ten low bits after a trailing one
  have hcode : 0x10000 + (c.toNat - 0x10000) / 0x400 * 0x400 + (c.toNat - 0x10000) % 0x400 = c.toNat := by omega
  have hq : (c.toNat - 0x10000) / 0x400 < 0x400 := by omega
  have hr : (c.toNat - 0x10000) % 0x400 < 0x400 := Nat.mod_lt _ (by decide)
  generalize (c.toNat - 0x10000) / 0x400 = q at hh hcode hq
  generalize (c.toNat - 0x10000) % 0x400 = r at hl hcode hr
  have h₁ : ¬0xDC00 ≤ 0xD800 + q := by omega
  have h₂ : ¬0xD800 + q < 0xD800 := by omega
  have h₃ : ¬0xDBFF < 0xD800 + q := by omega
  have h₄ : ¬0xDC00 + r < 0xDC00 := by omega
  have h₅ : ¬0xDFFF < 0xDC00 + r := by omega
  simp [escape, run_next, unicodeEscape, run_hexQuad_text hh, run_hexQuad_text hl, run_peek, run_bump, h₁, h₂, h₃,
    h₄, h₅, hcode, Char.ofNat_toNat]

/-! ### String literals -/

/-- One character, however a literal spells it, is read as its UTF-8
    bytes, in at least one round and at most one round per byte. -/
theorem run_stringBody_charText {c : Char} {x : List UInt8} (h : CharText c x) :
    ∃ k, 0 < k ∧ k ≤ x.length ∧ ∀ (acc : List UInt8) (fuel : Nat),
      (stringBody acc (k + fuel)).run ⟨src, x ++ t, i⟩ =
        (stringBody ((Utf8.encodeChar c).reverse ++ acc) fuel).run ⟨src, t, i + x.length⟩ := by
  cases h with
  | plain hlow hq hs =>
    refine ⟨(Utf8.encodeChar c).length, Utf8.charWidth_pos c, Nat.le_refl _, fun acc fuel => ?_⟩
    exact run_stringBody_plain (encodeChar_plain hlow hq hs) acc fuel
  | short hc =>
    refine ⟨1, Nat.one_pos, by simp, fun acc fuel => ?_⟩
    rw [Nat.add_comm]
    exact run_stringBody_escape [_] c (run_escape_short hc)
  | @unit ds hc hq =>
    refine ⟨1, Nat.one_pos, by simp, fun acc fuel => ?_⟩
    rw [Nat.add_comm]
    have h := @run_stringBody_escape src t i (0x75 :: ds) c acc fuel
      (by simpa [hexQuad_length hq] using @run_escape_unit src t (i + 1) c ds hc hq)
    simpa [hexQuad_length hq, Nat.add_assoc] using h
  | @pair hi lo hc hh hl =>
    refine ⟨1, Nat.one_pos, by simp, fun acc fuel => ?_⟩
    rw [Nat.add_comm]
    have h := @run_stringBody_escape src t i (0x75 :: hi ++ 0x5C :: 0x75 :: lo) c acc fuel
      (by simpa [hexQuad_length hh, hexQuad_length hl, Nat.add_assoc] using
        @run_escape_pair src t (i + 1) c hi lo hc hh hl)
    simpa [hexQuad_length hh, hexQuad_length hl, Nat.add_assoc] using h

/-- The characters of a literal and its closing quote are read back, given
    more rounds than bytes. -/
theorem run_stringBody_charsText {cs : List Char} {body : List UInt8} (h : CharsText cs body)
    (acc : List UInt8) (fuel : Nat) (hfuel : body.length < fuel) :
    (stringBody acc fuel).run ⟨src, body ++ 0x22 :: t, i⟩ =
      pure (Utf8.decodeLossyString (acc.reverse ++ Utf8.encodeChars cs), ⟨src, t, i + body.length + 1⟩) := by
  induction h generalizing acc fuel i with
  | nil =>
    obtain ⟨f, rfl⟩ : ∃ f, fuel = f + 1 := ⟨fuel - 1, by simp at hfuel; omega⟩
    simpa [Utf8.encodeChars] using run_stringBody_close acc f
  | @cons c cs x body hc _ ih =>
    obtain ⟨k, -, hk, hrun⟩ := @run_stringBody_charText src (body ++ 0x22 :: t) i c x hc
    simp only [List.length_append] at hfuel
    obtain ⟨f, rfl⟩ : ∃ f, fuel = k + f := ⟨fuel - k, by omega⟩
    rw [List.append_assoc, hrun, ih _ _ (by omega)]
    simp [Utf8.encodeChars, Nat.add_assoc]

/-- A literal is read, after its opening quote, as the string it spells. -/
theorem run_string_text {s : String} {body : List UInt8} (h : CharsText s.toList body) :
    string.run ⟨src, body ++ 0x22 :: t, i⟩ = pure (s, ⟨src, t, i + body.length + 1⟩) := by
  have hbody := @run_stringBody_charsText src t i _ _ h [] ((body ++ 0x22 :: t).length + 1)
    (by simp only [List.length_append, List.length_cons]; omega)
  rw [List.reverse_nil, List.nil_append] at hbody
  have hdecode : Utf8.decodeLossyString (Utf8.encodeChars s.toList) = s := Utf8.decodeLossyString_encode s
  rw [hdecode] at hbody
  simp only [string, StateT.run_bind, StateT.run_get, pure_bind]
  exact hbody

/-! ### Skipped string literals -/

theorem run_skipEscape_short {c : Char} {b : UInt8} (h : (c, b) ∈ shortEscapes) :
    skipEscape.run ⟨src, b :: t, i⟩ = pure ((), ⟨src, t, i + 1⟩) := by
  simp only [shortEscapes, List.mem_cons, Prod.mk.injEq, List.not_mem_nil, or_false] at h
  rcases h with ⟨rfl, rfl⟩ | ⟨rfl, rfl⟩ | ⟨rfl, rfl⟩ | ⟨rfl, rfl⟩ | ⟨rfl, rfl⟩ | ⟨rfl, rfl⟩ |
    ⟨rfl, rfl⟩ | ⟨rfl, rfl⟩ <;> rfl

theorem run_skipEscape_unit {n : Nat} {ds : List UInt8} (h : HexQuad n ds) :
    skipEscape.run ⟨src, 0x75 :: (ds ++ t), i⟩ = pure ((), ⟨src, t, i + 1 + 4⟩) := by
  simp [skipEscape, run_next, run_hexQuad_text h]

/-- Bytes that are neither a control character, a quote nor a backslash are
    passed over one round each. -/
theorem run_skipStringBody_plain {bs : List UInt8} (hbs : ∀ b ∈ bs, 0x20 ≤ b.toNat ∧ b ≠ 0x22 ∧ b ≠ 0x5C)
    (fuel : Nat) :
    (skipStringBody (bs.length + fuel)).run ⟨src, bs ++ t, i⟩ =
      (skipStringBody fuel).run ⟨src, t, i + bs.length⟩ := by
  induction bs generalizing i with
  | nil => simp
  | cons b bs ih =>
    obtain ⟨hlow, hquote, hslash⟩ := hbs b List.mem_cons_self
    have hrest := @ih (i + 1) (fun b hb => hbs b (List.mem_cons_of_mem _ hb))
    rw [show (b :: bs).length + fuel = (bs.length + fuel) + 1 by simp only [List.length_cons]; omega]
    have hlt : ¬b < 0x20 := by simp [UInt8.lt_iff_toNat_lt]; omega
    simp only [skipStringBody, List.cons_append, StateT.run_bind, run_peek, List.head?_cons, pure_bind,
      if_neg hlt, run_bump]
    rw [hrest]
    simp [Nat.add_assoc, Nat.add_comm 1]

/-- Each piece of a well-formed literal is passed over in at least one
    round and at most one round per byte. -/
theorem run_skipStringBody_piece {p : List UInt8} (h : RawPiece p) :
    ∃ k, 0 < k ∧ k ≤ p.length ∧ ∀ fuel,
      (skipStringBody (k + fuel)).run ⟨src, p ++ t, i⟩ = (skipStringBody fuel).run ⟨src, t, i + p.length⟩ := by
  cases h with
  | plain hlow hq hs =>
    exact ⟨_, Utf8.charWidth_pos _, Nat.le_refl _, run_skipStringBody_plain (encodeChar_plain hlow hq hs)⟩
  | short hc =>
    refine ⟨1, Nat.one_pos, by simp, fun fuel => ?_⟩
    rw [Nat.add_comm]
    simp [skipStringBody, run_peek, run_bump, run_skipEscape_short hc, Nat.add_assoc]
  | @unit n ds hq =>
    refine ⟨1, Nat.one_pos, by simp, fun fuel => ?_⟩
    rw [Nat.add_comm]
    simp [skipStringBody, run_peek, run_bump, run_skipEscape_unit hq, hexQuad_length hq, Nat.add_assoc]

/-- The body of a well-formed literal and its closing quote are passed
    over, given more rounds than bytes. -/
theorem run_skipStringBody_raw {body : List UInt8} (h : RawString body) (fuel : Nat) (hfuel : body.length < fuel) :
    (skipStringBody fuel).run ⟨src, body ++ 0x22 :: t, i⟩ = pure ((), ⟨src, t, i + body.length + 1⟩) := by
  obtain ⟨pieces, hpieces, rfl⟩ := h
  induction pieces generalizing fuel i with
  | nil =>
    obtain ⟨f, rfl⟩ : ∃ f, fuel = f + 1 := ⟨fuel - 1, by simp at hfuel; omega⟩
    simp [skipStringBody, run_peek, run_bump]
  | cons p ps ih =>
    obtain ⟨k, -, hk, hrun⟩ := @run_skipStringBody_piece src (ps.flatten ++ 0x22 :: t) i p
      (hpieces p List.mem_cons_self)
    simp only [List.flatten_cons, List.length_append] at hfuel ⊢
    obtain ⟨f, rfl⟩ : ∃ f, fuel = k + f := ⟨fuel - k, by omega⟩
    rw [List.append_assoc, hrun, ih _ (fun q hq => hpieces q (List.mem_cons_of_mem _ hq)) (by omega)]
    exact pure_index_congr (by omega)

/-! ### Numbers -/

/-- The leading digit of an integer part other than `0`: a digit, and not
    the zero a number of its own starts with. -/
theorem isDigit_of_leading {d : UInt8} (hlo : 0x31 ≤ d.toNat) (hhi : d.toNat ≤ 0x39) :
    isDigit d = true ∧ d ≠ 0x30 := by
  refine ⟨?_, by rintro rfl; simp at hlo⟩
  simp only [isDigit, Bool.and_eq_true, decide_eq_true_eq, UInt8.le_iff_toNat_le]
  constructor <;> simp <;> omega

/-- The integer part of a number starts with a digit. -/
theorem IntPart.head_digit {int : List UInt8} (h : IntPart int) : ∃ d r, int = d :: r ∧ isDigit d = true := by
  rcases h with rfl | ⟨d, r, rfl, hlo, hhi, -⟩
  · exact ⟨_, _, rfl, rfl⟩
  · exact ⟨d, r, rfl, (isDigit_of_leading hlo hhi).1⟩

theorem run_skipDigits {ds : List UInt8} (hds : ∀ d ∈ ds, isDigit d = true)
    (ht : ∀ b ∈ t.head?, isDigit b = false) (fuel : Nat) (hfuel : ds.length < fuel) :
    (skipDigits fuel).run ⟨src, ds ++ t, i⟩ = pure ((), ⟨src, t, i + ds.length⟩) := by
  induction ds generalizing fuel i with
  | nil =>
    obtain ⟨f, rfl⟩ : ∃ f, fuel = f + 1 := ⟨fuel - 1, by simp at hfuel; omega⟩
    cases t with
    | nil => simp [skipDigits, run_peek]
    | cons b r => simp [skipDigits, run_peek, ht b rfl]
  | cons d ds ih =>
    obtain ⟨f, rfl⟩ : ∃ f, fuel = f + 1 := ⟨fuel - 1, by simp at hfuel; omega⟩
    have hd := hds d List.mem_cons_self
    have hrest := @ih (i + 1) (fun d hd => hds d (List.mem_cons_of_mem _ hd)) f (by simp at hfuel; omega)
    simp [skipDigits, run_peek, hd, run_bump, hrest, Nat.add_assoc, Nat.add_comm 1]

theorem run_skipExponent {e : List UInt8} (he : ExpPart e) (hne : e ≠ [])
    (ht : ∀ b ∈ t.head?, isDigit b = false) :
    skipExponent.run ⟨src, e ++ t, i⟩ = pure ((), ⟨src, t, i + e.length⟩) := by
  rcases he with rfl | ⟨m, s, ds, rfl, -, hs, hds⟩
  · exact absurd rfl hne
  obtain ⟨d, ds, rfl⟩ : ∃ d ds', ds = d :: ds' := List.exists_cons_of_ne_nil hds.1
  have hd : isDigit d = true := hds.2 d List.mem_cons_self
  have hskip (j : Nat) : (skipDigits (ds.length + t.length + 1)).run ⟨src, ds ++ t, j⟩ =
      pure ((), ⟨src, t, j + ds.length⟩) :=
    run_skipDigits (fun x hx => hds.2 x (List.mem_cons_of_mem _ hx)) ht _ (by omega)
  -- the first digit is no sign
  have hplus : d ≠ 0x2B := by rintro rfl; simp [isDigit] at hd
  have hminus : d ≠ 0x2D := by rintro rfl; simp [isDigit] at hd
  rcases hs with rfl | rfl | rfl <;> simp [skipExponent, run_bump, run_peek, hd, hplus, hminus, hskip] <;>
    congr 3 <;> omega

/-- No digit follows the digits of a fraction. -/
theorem ExpPart.not_digit {exp : List UInt8} (hexp : ExpPart exp) (ht : Delimited t) :
    ∀ b ∈ (exp ++ t).head?, isDigit b = false := by
  rcases hexp with rfl | ⟨m, s, eds, rfl, hm, -, -⟩
  · exact fun b hb => (ht.head b hb).1
  · rcases hm with rfl | rfl <;> simp [isDigit]

/-- A number ends with its exponent, or else at the delimiter. -/
theorem ExpPart.ends {exp : List UInt8} (hexp : ExpPart exp) (ht : Delimited t) :
    exp = [] ∧ t = [] ∨
    (∃ b r, exp = [] ∧ t = b :: r ∧ isDigit b = false ∧ b ≠ 0x2E ∧ b ≠ 0x65 ∧ b ≠ 0x45) ∨
    ∃ m rest, exp = m :: rest ∧ (m = 0x65 ∨ m = 0x45) ∧ ∀ src j,
      skipExponent.run ⟨src, m :: (rest ++ t), j⟩ = pure ((), ⟨src, t, j + rest.length + 1⟩) := by
  have hhead := ht.head
  rcases hexp with rfl | ⟨m, s, eds, rfl, hm, hs, heds⟩
  · rcases t with _ | ⟨b, r⟩
    · exact .inl ⟨rfl, rfl⟩
    · exact .inr (.inl ⟨b, r, rfl, rfl, hhead b rfl⟩)
  · refine .inr (.inr ⟨m, s ++ eds, rfl, hm, fun src j => ?_⟩)
    have hrun := @run_skipExponent src t j _ (Or.inr ⟨m, s, eds, rfl, hm, hs, heds⟩) (by simp)
      (fun b hb => (hhead b hb).1)
    simpa [Nat.add_assoc] using hrun

/-- Leading digits after the first act as the digit `0` does: the number
    goes on after them as it would after `0`. -/
theorem run_skipNumber_digits {d : UInt8} {ds r : List UInt8} (hd : isDigit d = true) (hd0 : d ≠ 0x30)
    (hds : ∀ x ∈ ds, isDigit x = true) (hr : ∀ b ∈ r.head?, isDigit b = false) :
    skipNumber.run ⟨src, d :: (ds ++ r), i⟩ = skipNumber.run ⟨src, 0x30 :: r, i + ds.length⟩ := by
  rcases r with _ | ⟨b, r⟩
  · have hskip := @run_skipDigits src [] (i + 1) ds hds hr (ds.length + 1) (by omega)
    rw [List.append_nil] at hskip
    simp [skipNumber, run_peek, run_bump, hd, hskip]
    rw [Nat.add_right_comm]
  · have hb : isDigit b = false := hr b rfl
    have hskip := @run_skipDigits src (b :: r) (i + 1) ds hds hr (ds.length + (r.length + 1) + 1) (by omega)
    simp [skipNumber, run_peek, run_bump, hd, hskip, hb]
    rw [Nat.add_right_comm]

/-- After the integer part `0`, a fraction and an exponent are passed over
    up to a delimiter. -/
theorem run_skipNumber_zero {frac exp : List UInt8} (hfrac : FracPart frac) (hexp : ExpPart exp)
    (ht : Delimited t) :
    skipNumber.run ⟨src, 0x30 :: (frac ++ exp ++ t), i⟩ =
      pure ((), ⟨src, t, i + 1 + (frac ++ exp).length⟩) := by
  rcases hfrac with rfl | ⟨fds, rfl, hfds⟩
  · rcases hexp.ends ht with ⟨rfl, rfl⟩ | ⟨b, r, rfl, rfl, hb, hp, he, hE⟩ | ⟨m, rest, rfl, hm, hrun⟩
    · rfl
    · simp [skipNumber, run_bump, run_peek, hb, hp, he, hE]
    · rcases hm with rfl | rfl <;> simp +decide [skipNumber, run_bump, run_peek, hrun, Nat.add_assoc]
  · obtain ⟨fd, fds, rfl⟩ : ∃ d ds', fds = d :: ds' := List.exists_cons_of_ne_nil hfds.1
    have hfd := hfds.2 fd List.mem_cons_self
    have hskip := @run_skipDigits src (exp ++ t) (i + 1 + 1) (fd :: fds) hfds.2 (hexp.not_digit ht)
      ((fd :: (fds ++ (exp ++ t))).length + 1)
      (by simp only [List.length_append, List.length_cons]; omega)
    rcases hexp.ends ht with ⟨rfl, rfl⟩ | ⟨b, r, rfl, rfl, -, -, he, hE⟩ | ⟨m, rest, rfl, hm, hrun⟩
    · simp at hskip
      simp +decide [skipNumber, run_bump, run_peek, hfd, hskip]
      exact pure_index_congr (by omega)
    · simp at hskip
      simp +decide [skipNumber, run_bump, run_peek, hfd, hskip, he, hE]
      exact pure_index_congr (by omega)
    · simp at hskip
      rcases hm with rfl | rfl <;> simp +decide [skipNumber, run_bump, run_peek, hfd, hskip, hrun] <;>
        exact pure_index_congr (by omega)

/-- No digit follows the digits of the integer part. -/
theorem FracPart.not_digit {frac exp : List UInt8} (hfrac : FracPart frac) (hexp : ExpPart exp)
    (ht : Delimited t) : ∀ b ∈ (frac ++ exp ++ t).head?, isDigit b = false := by
  rcases hfrac with rfl | ⟨fds, rfl, -⟩
  · exact hexp.not_digit ht
  · simp [isDigit]

/-- A number without its sign is passed over up to a delimiter. -/
theorem run_skipNumber {int frac exp : List UInt8} (hint : IntPart int) (hfrac : FracPart frac)
    (hexp : ExpPart exp) (ht : Delimited t) :
    skipNumber.run ⟨src, int ++ frac ++ exp ++ t, i⟩ =
      pure ((), ⟨src, t, i + (int ++ frac ++ exp).length⟩) := by
  rcases hint with rfl | ⟨d, ds, rfl, hlo, hhi, hds⟩
  · rw [show [0x30] ++ frac ++ exp ++ t = 0x30 :: (frac ++ exp ++ t) by simp, run_skipNumber_zero hfrac hexp ht]
    exact pure_index_congr (by simp; omega)
  · obtain ⟨hd, hd0⟩ := isDigit_of_leading hlo hhi
    rw [show d :: ds ++ frac ++ exp ++ t = d :: (ds ++ (frac ++ exp ++ t)) by simp,
      run_skipNumber_digits hd hd0 hds (hfrac.not_digit hexp ht), run_skipNumber_zero hfrac hexp ht]
    exact pure_index_congr (by simp; omega)

end ReplHost.Json
