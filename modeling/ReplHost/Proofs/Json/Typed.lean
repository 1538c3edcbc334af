import ReplHost.Proofs.Json.Lexemes

/-! # Reading typed values

  The typed readers of `Json.Record`, run on every text of their type that
  `Json.Texts` describes, after any blanks and before any delimiter:
  `ReadsText r T` says that `r` reads each text of `T` as the value it
  stands for and stops right after it.

  - `readString`: a literal in any spelling of its characters.
  - `readBool`: `true` and `false`.
  - `readUnsigned bound`: an integer in `0 .. bound`, for a bound within a
    machine word, read digit by digit without overflow.
  - `readOptional`: `null`, or a text of the value.
  - `readStrings` and `readStringMap`: arrays and objects of strings, with
    any blanks between their tokens; in a map a later member replaces an
    earlier one of the same name.
-/

namespace ReplHost.Json

variable {β : Type} {src t : List UInt8} {i : Nat}

/-- `r` reads every text of `T`, after any blanks and before any delimiter,
    as the value it stands for. -/
def ReadsText (r : Reader β) (T : List UInt8 → β → Prop) : Prop :=
  ∀ (src ws bytes t : List UInt8) (i : Nat) (v : β), Blanks ws → T bytes v → Delimited t →
    r.run ⟨src, ws ++ bytes ++ t, i⟩ = pure (v, ⟨src, t, i + ws.length + bytes.length⟩)

/-! ### Strings and booleans -/

theorem StringText.head {bytes : List UInt8} {s : String} (h : StringText bytes s) :
    ∃ r, bytes = 0x22 :: r := by
  obtain ⟨body, -, rfl⟩ := h
  exact ⟨_, rfl⟩

/-- A string literal starts with its quote: neither a blank nor the `n` of
    `null`, so a string or `null` is told apart by its first byte. -/
theorem StringText.starts {bytes : List UInt8} {s : String} (h : StringText bytes s) :
    ∃ b rest, bytes = b :: rest ∧ isBlank b = false ∧ b ≠ 0x6E := by
  obtain ⟨rest, rfl⟩ := h.head
  exact ⟨0x22, rest, rfl, by decide, by decide⟩

/-- The writer's hexadecimal digits are digits of the grammar. -/
theorem hexDigit_text {n : Nat} (hn : n < 16) : HexDigit (hexDigit n) n := by
  unfold hexDigit HexDigit
  by_cases h : n < 10
  · have hbyte : (0x30 + n).toUInt8.toNat = 0x30 + n := Utf8.toNat_toUInt8 (by omega)
    rw [if_pos h, hbyte]
    omega
  · have hbyte : (0x57 + n).toUInt8.toNat = 0x57 + n := Utf8.toNat_toUInt8 (by omega)
    rw [if_neg h, hbyte]
    omega

/-- The writer spells each character as the grammar allows: a two-character
    escape where there is one, `\u00` and two digits for the other control
    characters, and any other character as itself. -/
theorem escapeChar_text (c : Char) : CharText c (escapeChar c) := by
  unfold escapeChar
  split_ifs with hq hs hb ht hn hf hr hctl
  · exact hq ▸ .short (by decide)
  · exact hs ▸ .short (by decide)
  · exact hb ▸ .short (by decide)
  · exact ht ▸ .short (by decide)
  · exact hn ▸ .short (by decide)
  · exact hf ▸ .short (by decide)
  · exact hr ▸ .short (by decide)
  · -- the code point is below 0x20: two zero digits, then its two digits
    refine .unit (by omega) ⟨_, _, _, _, 0, 0, _, _, rfl, .inl ⟨by decide, by decide, rfl⟩,
      .inl ⟨by decide, by decide, rfl⟩, hexDigit_text (by omega), hexDigit_text (by omega), ?_⟩
    omega
  · exact .plain (by omega) hq hs

/-- A written string is a literal of itself. -/
theorem writeString_text (s : String) : StringText (writeString s) s := by
  have hchars : ∀ cs : List Char, CharsText cs (cs.flatMap escapeChar) := by
    intro cs
    induction cs with
    | nil => exact .nil
    | cons c cs ih => exact List.flatMap_cons ▸ .cons (escapeChar_text c) ih
  exact ⟨_, hchars s.toList, rfl⟩

theorem readString_reads (expected : String) : ReadsText (readString expected) StringText := by
  intro src ws bytes t i s hws h _
  obtain ⟨body, hbody, rfl⟩ := h
  have hstr := @run_string_text src t (i + ws.length + 1) s body hbody
  rw [show ws ++ (0x22 :: body ++ [0x22]) ++ t = ws ++ 0x22 :: (body ++ 0x22 :: t) by simp]
  simp +decide only [readString, StateT.run_bind, run_skipBlanks_to hws (b := 0x22) (by decide), pure_bind,
    run_bump, hstr]
  exact pure_index_congr (by simp; omega)

theorem readBool_reads : ReadsText readBool BoolText := by
  intro src ws bytes t i b hws h _
  subst h
  cases b
  · rw [show ws ++ boolWord false ++ t = ws ++ 0x66 :: ([0x61, 0x6C, 0x73, 0x65] ++ t) by simp [boolWord]]
    simp +decide [readBool, run_skipBlanks_to hws, run_bump, restOfFalse, run_expectWord_cons, run_expectWord_nil]
    exact pure_index_congr (by simp [boolWord])
  · rw [show ws ++ boolWord true ++ t = ws ++ 0x74 :: ([0x72, 0x75, 0x65] ++ t) by simp [boolWord]]
    simp +decide [readBool, run_skipBlanks_to hws, run_bump, restOfTrue, run_expectWord_cons, run_expectWord_nil]
    exact pure_index_congr (by simp [boolWord])

/-! ### Integers -/

theorem le_foldl_byteDigits (ds : List UInt8) (acc : Nat) :
    acc ≤ ds.foldl (fun n d => 10 * n + (d.toNat - 0x30)) acc := by
  induction ds generalizing acc with
  | nil => exact Nat.le_refl acc
  | cons d ds ih =>
    calc acc ≤ 10 * acc + (d.toNat - 0x30) := by omega
      _ ≤ _ := ih _

/-- Digits whose value fits in a word are read without overflow, up to the
    first byte that is no digit. -/
theorem run_integerDigits_bytes {ds : List UInt8} (hds : ∀ d ∈ ds, isDigit d = true) (acc fuel : Nat)
    (hmax : ds.foldl (fun n d => 10 * n + (d.toNat - 0x30)) acc ≤ Decimal.wordMax)
    (ht : ∀ b ∈ t.head?, isDigit b = false) :
    (integerDigits true acc (ds.length + fuel + 1)).run ⟨src, ds ++ t, i⟩ =
      (numberTail true (ds.foldl (fun n d => 10 * n + (d.toNat - 0x30)) acc)).run ⟨src, t, i + ds.length⟩ := by
  induction ds generalizing acc i with
  | nil =>
    cases t with
    | nil => simp [integerDigits, run_peek]
    | cons b r => simp [integerDigits, run_peek, ht b rfl]
  | cons d ds ih =>
    have hd := hds d List.mem_cons_self
    have hstep : acc * 10 + digitOf d = 10 * acc + (d.toNat - 0x30) := by
      simp only [digitOf]
      omega
    -- the value read so far never passes the value of all the digits
    have hnext : acc * 10 + digitOf d ≤ Decimal.wordMax := by
      have := le_foldl_byteDigits ds (10 * acc + (d.toNat - 0x30))
      simp only [List.foldl_cons] at hmax
      omega
    have hno : overflows acc (digitOf d) = false := by simp [overflows, hnext]
    have hrest := @ih (i + 1) (fun x hx => hds x (List.mem_cons_of_mem _ hx)) (acc * 10 + digitOf d)
      (by rw [hstep]; simpa using hmax)
    rw [show (d :: ds).length + fuel + 1 = (ds.length + fuel + 1) + 1 by simp only [List.length_cons]; omega,
      List.cons_append, run_integerDigits_digit hd acc _ hno, hrest, hstep]
    simp [Nat.add_assoc, Nat.add_comm 1]

/-- After the digits, at a delimiter, the number is the integer read. -/
theorem run_numberTail_delimited (v : Nat) (ht : Delimited t) :
    (numberTail true v).run ⟨src, t, i⟩ = pure (.unsigned v, ⟨src, t, i⟩) := by
  rcases t with _ | ⟨b, r⟩
  · rfl
  · obtain ⟨-, hp, he, hE⟩ := ht.head b rfl
    simp [numberTail, run_peek, hp, he, hE]

/-- An integer with neither sign, fraction nor exponent is read as its value,
    when that fits in a word. -/
theorem run_number_text {bytes : List UInt8} {n : Nat} (h : IntegerText bytes n) (hn : n ≤ Decimal.wordMax)
    (ht : Delimited t) :
    (number true).run ⟨src, bytes ++ t, i⟩ = pure (.unsigned n, ⟨src, t, i + bytes.length⟩) := by
  obtain ⟨hint, rfl⟩ := h
  rcases hint with rfl | ⟨d, ds, rfl, hlo, hhi, hds⟩
  · rcases t with _ | ⟨b, r⟩
    · rfl
    · obtain ⟨hb, -⟩ := ht.head b rfl
      simp [number, run_next, run_peek, hb, run_numberTail_delimited _ ht, digitsValue]
  · obtain ⟨hd, hd0⟩ := isDigit_of_leading hlo hhi
    have hvalue : digitsValue (d :: ds) = ds.foldl (fun n d => 10 * n + (d.toNat - 0x30)) (digitOf d) := by
      simp [digitsValue, digitOf]
    have hrest := @run_integerDigits_bytes src t (i + 1) ds hds (digitOf d) t.length (by rw [← hvalue]; exact hn)
      (fun b hb => (ht.head b hb).1)
    simp [number, run_next, hd0, hd, hrest, run_numberTail_delimited _ ht, hvalue]
    exact pure_index_congr (by omega)

theorem readUnsigned_reads (bound : Nat) (expected : String) (hbound : bound ≤ Decimal.wordMax) :
    ReadsText (readUnsigned bound expected) (WordText bound) := by
  intro src ws bytes t i n hws h ht
  obtain ⟨hint, hn⟩ := h
  obtain ⟨d, r, hdr, hd⟩ := hint.1.head_digit
  have hnum := @run_number_text src t (i + ws.length) bytes n hint (Nat.le_trans hn hbound) ht
  -- a digit is not the minus sign
  have hsign : d ≠ 0x2D := by
    rintro rfl
    simp [isDigit] at hd
  subst hdr
  rw [List.append_assoc, List.cons_append]
  rw [List.cons_append] at hnum
  simp only [readUnsigned, StateT.run_bind, run_skipBlanks_to hws (isBlank_of_isDigit hd), pure_bind, if_pos hd,
    hnum, if_pos hn]
  rfl

/-! ### Optional values -/

theorem readOptional_reads {r : Reader β} {T : List UInt8 → β → Prop} (hr : ReadsText r T)
    (hT : ∀ bytes v, T bytes v → ∃ b rest, bytes = b :: rest ∧ isBlank b = false ∧ b ≠ 0x6E) :
    ReadsText (readOptional r) (OptionText T) := by
  intro src ws bytes t i v hws h ht
  cases v with
  | none =>
    change bytes = nullWord at h
    subst h
    rw [show ws ++ nullWord ++ t = ws ++ 0x6E :: ([0x75, 0x6C, 0x6C] ++ t) by simp [nullWord]]
    simp +decide [readOptional, run_skipBlanks_to hws, run_bump, restOfNull, run_expectWord_cons,
      run_expectWord_nil]
    exact pure_index_congr (by simp [nullWord])
  | some v =>
    -- not `null`: the value's own reader takes it from its first byte
    obtain ⟨b, rest, rfl, hb, hn⟩ := hT bytes v h
    have hread := hr src [] (b :: rest) t (i + ws.length) v blanks_nil h ht
    rw [List.nil_append] at hread
    rw [List.append_assoc, List.cons_append]
    simp only [readOptional, StateT.run_bind, run_skipBlanks_to hws hb, pure_bind]
    split
    next heq => exact absurd (Option.some.inj heq) hn
    next =>
      rw [List.cons_append] at hread
      simp [hread]

/-! ### Arrays of strings -/

theorem Padded.length_bytes (p : Padded) : p.bytes.length = p.before.length + p.body.length + p.after.length := by
  simp only [Padded.bytes, List.length_append]

theorem MemberBytes.length_bytes (m : MemberBytes) :
    m.bytes.length = m.name.before.length + m.name.body.length + m.name.after.length + 1 + m.value.before.length +
      m.value.body.length + m.value.after.length := by
  simp only [MemberBytes.bytes, Padded.bytes, List.length_append, List.length_cons]
  omega

/-- What follows an item of an array or an object, after its blanks: a
    comma and the next item, or the closing bracket or brace. -/
theorem delimited_items {γ : Type} (f : γ → List UInt8) (xs : List γ) {c : UInt8} (hc : c = 0x5D ∨ c = 0x7D) :
    Delimited (xs.flatMap (0x2C :: f ·) ++ c :: t) := by
  cases xs
  · exact delimited_cons (.inr hc) _
  · exact delimited_cons (.inl rfl) _

/-- At the closing bracket there are no more elements. -/
theorem run_elements_close (r : Reader β) (first : Bool) {pre : List UInt8} (hpre : Blanks pre) (acc : List β)
    (fuel : Nat) :
    (elements r first acc (fuel + 1)).run ⟨src, pre ++ 0x5D :: t, i⟩ =
      pure (acc.reverse, ⟨src, 0x5D :: t, i + pre.length⟩) := by
  rw [elements]
  cases first <;> simp +decide [moreElements, run_skipBlanks_to hpre]

/-- The elements after the first, each after a comma, are read in order
    up to the closing bracket. -/
theorem run_elements {r : Reader β} {T : List UInt8 → β → Prop} (hr : ReadsText r T)
    (hT : ∀ bytes v, T bytes v → ∃ b rest, bytes = b :: rest ∧ isBlank b = false ∧ b ≠ 0x5D)
    {items : List (Padded × β)} (hitems : ∀ x ∈ items, x.1.Blank ∧ T x.1.body x.2)
    {pre : List UInt8} (hpre : Blanks pre) (acc : List β) (fuel : Nat) (hfuel : items.length < fuel) :
    (elements r false acc fuel).run ⟨src, pre ++ items.flatMap (0x2C :: ·.1.bytes) ++ 0x5D :: t, i⟩ =
      pure (acc.reverse ++ items.map Prod.snd,
        ⟨src, 0x5D :: t, i + (pre ++ items.flatMap (0x2C :: ·.1.bytes)).length⟩) := by
  induction items generalizing pre acc fuel i with
  | nil =>
    obtain ⟨f, rfl⟩ : ∃ f, fuel = f + 1 := ⟨fuel - 1, by simp at hfuel; omega⟩
    simpa using run_elements_close r false hpre acc f
  | cons x xs ih =>
    obtain ⟨⟨hbefore, hafter⟩, hx⟩ := hitems x List.mem_cons_self
    obtain ⟨b, rest, hbody, hb, hb5D⟩ := hT _ _ hx
    obtain ⟨f, rfl⟩ : ∃ f, fuel = f + 1 := ⟨fuel - 1, by simp at hfuel; omega⟩
    have hread := hr src [] x.1.body (x.1.after ++ xs.flatMap (0x2C :: ·.1.bytes) ++ 0x5D :: t)
      (i + pre.length + 1 + x.1.before.length) x.2 blanks_nil hx
      (by rw [List.append_assoc]; exact Delimited.blanks_append hafter (delimited_items _ xs (.inl rfl)))
    have hnext := @ih (i + pre.length + 1 + x.1.before.length + x.1.body.length)
      (fun y hy => hitems y (List.mem_cons_of_mem _ hy)) x.1.after hafter (x.2 :: acc) f (by simp at hfuel; omega)
    rw [List.nil_append, hbody, List.cons_append] at hread
    rw [show pre ++ (x :: xs).flatMap (0x2C :: ·.1.bytes) ++ 0x5D :: t =
        pre ++ 0x2C :: (x.1.before ++ b :: (rest ++ (x.1.after ++ xs.flatMap (0x2C :: ·.1.bytes) ++ 0x5D :: t))) by
      simp [Padded.bytes, hbody], elements]
    simp +decide only [moreElements, StateT.run_bind, run_skipBlanks_to hpre (b := 0x2C) (by decide), pure_bind,
      run_bump, run_skipBlanks_to hbefore hb, ↓reduceIte, StateT.run_pure, hread]
    rw [run_index_congr _ (k := i + pre.length + 1 + x.1.before.length + x.1.body.length) (by simp [hbody]), hnext]
    simp only [List.reverse_cons, List.append_assoc, List.map_cons, List.singleton_append]
    exact pure_index_congr (by
      simp only [List.flatMap_cons, List.length_append, List.length_cons, Padded.bytes]
      omega)

theorem readStrings_reads : ReadsText readStrings (ArrayText StringText) := by
  intro src ws bytes t i ss hws h ht
  obtain ⟨ws', items, hws', hitems, rfl, rfl⟩ := h
  cases items with
  | nil =>
    rw [show ws ++ enclosed 0x5B 0x5D ws' (([] : List (Padded × String)).map (·.1.bytes)) ++ t =
      ws ++ 0x5B :: (ws' ++ 0x5D :: t) by simp [enclosed]]
    simp +decide only [readStrings, StateT.run_bind, run_skipBlanks_to hws (b := 0x5B) (by decide), pure_bind,
      run_bump, StateT.run_get, run_elements_close _ true hws', run_closeArray, StateT.run_pure]
    exact pure_index_congr (by simp [enclosed]; omega)
  | cons x xs =>
    -- the first element, then the others each after a comma
    obtain ⟨⟨hbefore, hafter⟩, hx⟩ := hitems x List.mem_cons_self
    obtain ⟨rest, hbody⟩ := hx.head
    have hread := readString_reads "a string" src [] x.1.body
      (x.1.after ++ xs.flatMap (0x2C :: ·.1.bytes) ++ 0x5D :: t) (i + ws.length + 1 + x.1.before.length) x.2
      blanks_nil hx (by rw [List.append_assoc]; exact Delimited.blanks_append hafter (delimited_items _ xs (.inl rfl)))
    have hstarts (bytes : List UInt8) (s : String) (h : StringText bytes s) :
        ∃ b rest, bytes = b :: rest ∧ isBlank b = false ∧ b ≠ 0x5D := by
      obtain ⟨rest, rfl⟩ := h.head
      exact ⟨_, rest, rfl, rfl, by decide⟩
    have hloop := @run_elements _ src t (i + ws.length + 1 + x.1.before.length + x.1.body.length) _ _
      (readString_reads "a string") hstarts xs (fun y hy => hitems y (List.mem_cons_of_mem _ hy)) x.1.after
      hafter [x.2]
    rw [List.nil_append, hbody, List.cons_append] at hread
    have htext : ws ++ enclosed 0x5B 0x5D ws' ((x :: xs).map (·.1.bytes)) ++ t = ws ++ 0x5B ::
        (x.1.before ++ 0x22 :: (rest ++ (x.1.after ++ xs.flatMap (0x2C :: ·.1.bytes) ++ 0x5D :: t))) := by
      simp [enclosed, commaSeparated_cons, List.flatMap_map, Padded.bytes, hbody]
    rw [htext]
    simp +decide only [readStrings, StateT.run_bind, run_skipBlanks_to hws (b := 0x5B) (by decide), pure_bind,
      run_bump, StateT.run_get]
    rw [elements]
    simp +decide only [moreElements, StateT.run_bind, run_skipBlanks_to hbefore (b := 0x22) (by decide), pure_bind,
      ↓reduceIte, StateT.run_pure, hread]
    have hlen : xs.length ≤ (xs.flatMap (0x2C :: ·.1.bytes)).length := length_le_flatMap_cons 0x2C (·.1.bytes) xs
    rw [run_index_congr _ (k := i + ws.length + 1 + x.1.before.length + x.1.body.length) (by simp [hbody]),
      hloop _ (by simp only [List.length_append, List.length_cons]; omega)]
    simp only [pure_bind, run_closeArray, List.reverse_singleton, List.singleton_append, List.map_cons]
    have hbytes := x.1.length_bytes
    exact pure_index_congr (by
      simp only [enclosed, if_neg (List.cons_ne_nil _ _), commaSeparated_cons, List.flatMap_map,
        List.length_cons, List.length_append, List.length_nil]
      omega)

/-! ### Objects of strings -/

/-- The name of the first member, after its blanks, is read as the string
    it spells. -/
theorem run_nextKey_text_first {ws bytes : List UInt8} {k : String} (hws : Blanks ws) (hk : StringText bytes k)
    (rest : List UInt8) :
    (nextKey true).run ⟨src, ws ++ bytes ++ rest, i⟩ =
      pure (some k, ⟨src, rest, i + ws.length + bytes.length⟩) := by
  obtain ⟨body, hbody, rfl⟩ := hk
  have hstr := @run_string_text src rest (i + ws.length + 1) k body hbody
  rw [show ws ++ (0x22 :: body ++ [0x22]) ++ rest = ws ++ 0x22 :: (body ++ 0x22 :: rest) by simp]
  simp +decide only [nextKey, StateT.run_bind, run_skipBlanks_to hws (b := 0x22) (by decide), pure_bind, run_bump,
    ↓reduceIte, StateT.run_pure, StateT.run_map, hstr, map_pure]
  exact pure_index_congr (by simp; omega)

/-- The name of a later member, after the blanks and the comma before it
    and its own blanks, is read as the string it spells. -/
theorem run_nextKey_text_comma {pre ws bytes : List UInt8} {k : String} (hpre : Blanks pre) (hws : Blanks ws)
    (hk : StringText bytes k) (rest : List UInt8) :
    (nextKey false).run ⟨src, pre ++ 0x2C :: (ws ++ bytes ++ rest), i⟩ =
      pure (some k, ⟨src, rest, i + pre.length + 1 + ws.length + bytes.length⟩) := by
  obtain ⟨body, hbody, rfl⟩ := hk
  have hstr := @run_string_text src rest (i + pre.length + 1 + ws.length + 1) k body hbody
  rw [show ws ++ (0x22 :: body ++ [0x22]) ++ rest = ws ++ 0x22 :: (body ++ 0x22 :: rest) by simp]
  simp +decide only [nextKey, StateT.run_bind, run_skipBlanks_to hpre (b := 0x2C) (by decide), pure_bind,
    run_bump, run_skipBlanks_to hws (b := 0x22) (by decide), ↓reduceIte, StateT.run_map, hstr, map_pure]
  exact pure_index_congr (by simp; omega)

/-- At the closing brace there is no next member. -/
theorem run_nextKey_close_blanks (first : Bool) {pre : List UInt8} (hpre : Blanks pre) :
    (nextKey first).run ⟨src, pre ++ 0x7D :: t, i⟩ = pure (none, ⟨src, 0x7D :: t, i + pre.length⟩) := by
  cases first <;> simp +decide [nextKey, run_skipBlanks_to hpre]

/-- The colon after a name, and the blanks before it. -/
theorem run_memberColon_blanks {ws : List UInt8} (hws : Blanks ws) :
    memberColon.run ⟨src, ws ++ 0x3A :: t, i⟩ = pure ((), ⟨src, t, i + ws.length + 1⟩) := by
  simp +decide [memberColon, run_skipBlanks_to hws, run_bump]

/-- A member of a map as written, with the name and the string it gives. -/
def StringMember (x : MemberBytes × String × String) : Prop :=
  x.1.Blank ∧ StringText x.1.name.body x.2.1 ∧ StringText x.1.value.body x.2.2

/-- One round of the map's loop, once the member's name is read: the colon
    and the string, which sets the name in the map. -/
theorem run_members_round {first : Bool} {text : List UInt8} {x : MemberBytes × String × String}
    (hx : StringMember x) {rest : List UInt8} (hrest : Delimited rest) (acc : List (String × String)) (g : Nat)
    {j : Nat} (hkey : (nextKey first).run ⟨src, text, i⟩ =
      pure (some x.2.1, ⟨src, x.1.name.after ++ 0x3A :: (x.1.value.bytes ++ rest), j⟩)) :
    (members first acc (g + 1)).run ⟨src, text, i⟩ =
      (members false (setMember acc x.2) g).run
        ⟨src, x.1.value.after ++ rest, j + x.1.name.after.length + 1 + x.1.value.before.length +
          x.1.value.body.length⟩ := by
  obtain ⟨⟨⟨-, hna⟩, hvb, hva⟩, -, hv⟩ := hx
  have hread := readString_reads "a string" src x.1.value.before x.1.value.body (x.1.value.after ++ rest)
    (j + x.1.name.after.length + 1) x.2.2 hvb hv (Delimited.blanks_append hva hrest)
  rw [members]
  simp only [StateT.run_bind, hkey, pure_bind, Padded.bytes, List.append_assoc, run_memberColon_blanks hna]
  rw [← List.append_assoc, hread]
  rfl

/-- The members after the first, each after a comma, set their names in
    order up to the closing brace. -/
theorem run_members_text {ms : List (MemberBytes × String × String)} (hms : ∀ x ∈ ms, StringMember x)
    {pre : List UInt8} (hpre : Blanks pre) (acc : List (String × String)) (fuel : Nat) (hfuel : ms.length < fuel) :
    (members false acc fuel).run ⟨src, pre ++ ms.flatMap (0x2C :: ·.1.bytes) ++ 0x7D :: t, i⟩ =
      pure ((ms.map Prod.snd).foldl setMember acc,
        ⟨src, 0x7D :: t, i + (pre ++ ms.flatMap (0x2C :: ·.1.bytes)).length⟩) := by
  induction ms generalizing pre acc fuel i with
  | nil =>
    obtain ⟨f, rfl⟩ : ∃ f, fuel = f + 1 := ⟨fuel - 1, by simp at hfuel; omega⟩
    rw [members]
    simp [run_nextKey_close_blanks false hpre]
  | cons x xs ih =>
    have hx := hms x List.mem_cons_self
    obtain ⟨f, rfl⟩ : ∃ f, fuel = f + 1 := ⟨fuel - 1, by simp at hfuel; omega⟩
    have hnext := @ih (i + pre.length + 1 + x.1.name.before.length + x.1.name.body.length + x.1.name.after.length + 1 +
      x.1.value.before.length + x.1.value.body.length) (fun y hy => hms y (List.mem_cons_of_mem _ hy)) x.1.value.after
      hx.1.2.2 (setMember acc x.2) f (by simp at hfuel; omega)
    rw [List.append_assoc] at hnext
    rw [show pre ++ (x :: xs).flatMap (0x2C :: ·.1.bytes) ++ 0x7D :: t = pre ++ 0x2C :: (x.1.name.before ++
        x.1.name.body ++ (x.1.name.after ++ 0x3A ::
          (x.1.value.bytes ++ (xs.flatMap (0x2C :: ·.1.bytes) ++ 0x7D :: t))))
        by simp [MemberBytes.bytes, Padded.bytes],
      run_members_round hx (delimited_items _ xs (.inr rfl)) acc f (run_nextKey_text_comma hpre hx.1.1.1 hx.2.1 _),
      hnext]
    have hbytes := x.1.length_bytes
    rw [List.map_cons, List.foldl_cons]
    exact pure_index_congr (by
      simp only [List.flatMap_cons, List.length_append, List.length_cons]
      omega)

theorem readStringMap_reads : ReadsText readStringMap MapText := by
  intro src ws bytes t i m hws h _
  obtain ⟨ws', ms, hws', hms, rfl, rfl⟩ := h
  cases ms with
  | nil =>
    rw [show ws ++ enclosed 0x7B 0x7D ws' (([] : List (MemberBytes × String × String)).map (·.1.bytes)) ++ t =
      ws ++ 0x7B :: (ws' ++ 0x7D :: t) by simp [enclosed]]
    simp +decide only [readStringMap, StateT.run_bind, run_skipBlanks_to hws (b := 0x7B) (by decide), pure_bind,
      run_bump, StateT.run_get]
    rw [members]
    simp only [StateT.run_bind, run_nextKey_close_blanks true hws', pure_bind]
    exact pure_index_congr (by simp [enclosed]; omega)
  | cons x xs =>
    -- the first member, then the others each after a comma
    have hx := hms x List.mem_cons_self
    have hloop := @run_members_text src t (i + ws.length + 1 + x.1.name.before.length + x.1.name.body.length +
      x.1.name.after.length + 1 + x.1.value.before.length + x.1.value.body.length) xs
      (fun y hy => hms y (List.mem_cons_of_mem _ hy)) x.1.value.after hx.1.2.2
    rw [List.append_assoc] at hloop
    have htext : ws ++ enclosed 0x7B 0x7D ws' ((x :: xs).map (·.1.bytes)) ++ t = ws ++ 0x7B ::
        (x.1.name.before ++ x.1.name.body ++
          (x.1.name.after ++ 0x3A :: (x.1.value.bytes ++ (xs.flatMap (0x2C :: ·.1.bytes) ++ 0x7D :: t)))) := by
      simp [enclosed, commaSeparated_cons, List.flatMap_map, MemberBytes.bytes, Padded.bytes]
    rw [htext]
    simp +decide only [readStringMap, StateT.run_bind, run_skipBlanks_to hws (b := 0x7B) (by decide), pure_bind,
      run_bump, StateT.run_get]
    have hlen : xs.length ≤ (xs.flatMap (0x2C :: ·.1.bytes)).length := length_le_flatMap_cons 0x2C (·.1.bytes) xs
    have hbytes := x.1.length_bytes
    rw [run_members_round hx (delimited_items _ xs (.inr rfl)) [] _ (run_nextKey_text_first hx.1.1.1 hx.2.1 _),
      hloop _ _ (by simp only [List.length_append, List.length_cons]; omega)]
    simp only [pure_bind, run_closeObject, StateT.run_pure, List.map_cons, List.foldl_cons]
    exact pure_index_congr (by
      simp only [enclosed, if_neg (List.cons_ne_nil _ _), commaSeparated_cons, List.flatMap_map,
        List.length_cons, List.length_append, List.length_nil]
      omega)

end ReplHost.Json
