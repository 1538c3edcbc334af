import ReplHost.Proofs.Json.Lexemes

/-! # Reading whole values

  `skipValue`, which a record uses for a member it does not know, passes
  over any well-formed value the grammar of `Json.Texts` allows
  (`ValueText.skips`): by induction on `ValueText`, with one lemma per
  bracket loop (`run_skipElements`, `run_skipMembers`).

  Each statement is an equation of runs, for any blanks before the value
  and any delimiter after it.
-/

namespace ReplHost.Json

variable {src t : List UInt8} {i : Nat}

/-! ### Skipped values -/

/-- `skipValue` passes over the value `v`, and any blanks before it, when a
    delimiter follows and it has more rounds than `v` has bytes. -/
def Skips (v : List UInt8) : Prop :=
  ∀ (src ws t : List UInt8) (i fuel : Nat), Blanks ws → Delimited t → v.length < fuel →
    (skipValue fuel).run ⟨src, ws ++ v ++ t, i⟩ = pure ((), ⟨src, t, i + ws.length + v.length⟩)

/-- A value starts with a byte that is no blank and closes nothing. -/
theorem ValueText.head {v : List UInt8} (hv : ValueText v) :
    ∃ b r, v = b :: r ∧ isBlank b = false ∧ b ≠ 0x5D ∧ b ≠ 0x7D := by
  cases hv with
  | null => exact ⟨_, _, rfl, rfl, by decide, by decide⟩
  | bool b => cases b <;> exact ⟨_, _, rfl, rfl, by decide, by decide⟩
  | number h =>
    obtain ⟨sign, int, frac, exp, rfl, hsign, hint, -, -⟩ := h
    rcases hsign with rfl | rfl
    · rcases hint with rfl | ⟨d, ds, rfl, hlo, hhi, -⟩
      · exact ⟨_, _, rfl, rfl, by decide, by decide⟩
      · refine ⟨d, _, rfl, ?_, ?_, ?_⟩
        · simp only [isBlank, Bool.or_eq_false_iff, beq_eq_false_iff_ne, ne_eq, ← UInt8.toNat_inj]
          simp
          omega
        all_goals
          rintro rfl
          simp at hhi
    · exact ⟨_, _, rfl, rfl, by decide, by decide⟩
  | string h => exact ⟨_, _, rfl, rfl, by decide, by decide⟩
  | array hws hblank hitems => exact ⟨_, _, rfl, rfl, by decide, by decide⟩
  | object hws hblank hnames hvalues => exact ⟨_, _, rfl, rfl, by decide, by decide⟩

/-- Blanks before a value are skipped first. -/
theorem run_skipValue_blanks {ws r : List UInt8} (hws : Blanks ws) {b : UInt8} (hb : isBlank b = false)
    (fuel : Nat) :
    (skipValue (fuel + 1)).run ⟨src, ws ++ b :: r, i⟩ =
      (skipValue (fuel + 1)).run ⟨src, b :: r, i + ws.length⟩ := by
  rw [skipValue]
  simp only [StateT.run_bind, run_skipBlanks_to hws hb, run_skipBlanks_cons hb, pure_bind]

/-- At a digit, `skipValue` passes over a number. -/
theorem run_skipValue_digit {b : UInt8} {r : List UInt8} (hb : isDigit b = true) (fuel : Nat) :
    (skipValue (fuel + 1)).run ⟨src, b :: r, i⟩ = skipNumber.run ⟨src, b :: r, i⟩ := by
  have hne : b ≠ 0x6E ∧ b ≠ 0x74 ∧ b ≠ 0x66 ∧ b ≠ 0x2D ∧ b ≠ 0x22 ∧ b ≠ 0x5B ∧ b ≠ 0x7B := by
    simp only [isDigit, Bool.and_eq_true, decide_eq_true_eq, UInt8.le_iff_toNat_le] at hb
    simp only [ne_eq, ← UInt8.toNat_inj]
    simp at hb ⊢
    omega
  simp [skipValue, run_skipBlanks_cons (isBlank_of_isDigit hb), hne, hb]

/-- A value that `skipValue` passes over with no blanks before it is passed
    over after any blanks. -/
theorem skips_of_run {v : List UInt8} (hv : ValueText v)
    (h : ∀ src t i f, Delimited t → v.length ≤ f →
      (skipValue (f + 1)).run ⟨src, v ++ t, i⟩ = pure ((), ⟨src, t, i + v.length⟩)) : Skips v := by
  intro src ws t i fuel hws ht hfuel
  obtain ⟨b, r, rfl, hb, -, -⟩ := hv.head
  obtain ⟨f, rfl⟩ : ∃ f, fuel = f + 1 := ⟨fuel - 1, by omega⟩
  rw [List.append_assoc, List.cons_append, run_skipValue_blanks hws hb, ← List.cons_append,
    h src t _ f ht (by omega)]

theorem run_skipValue_number {bs : List UInt8} (h : NumberText bs) (ht : Delimited t) (f : Nat) :
    (skipValue (f + 1)).run ⟨src, bs ++ t, i⟩ = pure ((), ⟨src, t, i + bs.length⟩) := by
  obtain ⟨sign, int, frac, exp, rfl, hsign, hint, hfrac, hexp⟩ := h
  rcases hsign with rfl | rfl
  · obtain ⟨d, r, rfl, hd⟩ := hint.head_digit
    rw [show [] ++ d :: r ++ frac ++ exp ++ t = d :: r ++ frac ++ exp ++ t by simp, List.cons_append,
      List.cons_append, List.cons_append, run_skipValue_digit hd, ← List.cons_append, ← List.cons_append,
      ← List.cons_append, run_skipNumber hint hfrac hexp ht]
    simp
  · have hnum := @run_skipNumber src t (i + 1) int frac exp hint hfrac hexp ht
    simp only [List.append_assoc] at hnum
    simp [skipValue, run_skipBlanks_cons, isBlank, run_bump, hnum]
    exact pure_index_congr (by omega)

theorem run_skipValue_string {body : List UInt8} (h : RawString body) (f : Nat) :
    (skipValue (f + 1)).run ⟨src, 0x22 :: body ++ [0x22] ++ t, i⟩ =
      pure ((), ⟨src, t, i + (0x22 :: body ++ [0x22]).length⟩) := by
  simp only [List.cons_append, List.append_assoc]
  simp only [skipValue, StateT.run_bind, run_skipBlanks_cons (isBlank_eq_false (.inl rfl)), pure_bind,
    run_bump, StateT.run_get, List.nil_append]
  rw [run_skipStringBody_raw h _ (by simp only [List.length_append, List.length_cons]; omega)]
  exact pure_index_congr (by simp; omega)

/-- The elements of an array, from the first one's value, and the closing
    bracket are passed over, given more rounds than bytes. -/
theorem run_skipElements {items : List Padded} (hne : items ≠ [])
    (hitems : ∀ p ∈ items, p.Blank ∧ Skips p.body) (fuel : Nat)
    (hfuel : (commaSeparated (items.map Padded.bytes)).length + 1 < fuel) :
    (skipElements fuel).run ⟨src, commaSeparated (items.map Padded.bytes) ++ 0x5D :: t, i⟩ =
      pure ((), ⟨src, t, i + (commaSeparated (items.map Padded.bytes)).length + 1⟩) := by
  induction items generalizing fuel i with
  | nil => exact absurd rfl hne
  | cons p ps ih =>
    obtain ⟨⟨hbefore, hafter⟩, hskip⟩ := hitems p List.mem_cons_self
    obtain ⟨g, rfl⟩ : ∃ g, fuel = g + 1 := ⟨fuel - 1, by omega⟩
    cases ps with
    | nil =>
      -- the last element, then the closing bracket
      have hrun := hskip src p.before (p.after ++ 0x5D :: t) i g hbefore
        (Delimited.blanks_append hafter (delimited_cons (by simp) t))
        (by simp [commaSeparated, Padded.bytes] at hfuel; omega)
      simp only [List.append_assoc] at hrun
      rw [skipElements]
      simp only [List.map_cons, List.map_nil, commaSeparated, Padded.bytes, List.append_assoc, StateT.run_bind,
        hrun, pure_bind, run_skipBlanks_to hafter (b := 0x5D) (by decide), run_bump]
      exact pure_index_congr (by simp; omega)
    | cons q qs =>
      -- an element, its comma, and the elements after it
      have hlen : (commaSeparated ((p :: q :: qs).map Padded.bytes)).length =
          p.bytes.length + 1 + (commaSeparated ((q :: qs).map Padded.bytes)).length := by
        simp [commaSeparated]
        omega
      have hrun := hskip src p.before (p.after ++ 0x2C :: (commaSeparated ((q :: qs).map Padded.bytes) ++ 0x5D :: t))
        i g hbefore (Delimited.blanks_append hafter (delimited_cons (by simp) _))
        (by simp only [Padded.bytes, List.length_append] at hlen; omega)
      have hnext := @ih (i + p.bytes.length + 1) (List.cons_ne_nil q qs)
        (fun x hx => hitems x (List.mem_cons_of_mem _ hx)) g (by omega)
      have hcs : commaSeparated ((p :: q :: qs).map Padded.bytes) ++ 0x5D :: t =
          p.before ++ p.body ++ (p.after ++ 0x2C :: (commaSeparated ((q :: qs).map Padded.bytes) ++ 0x5D :: t)) := by
        simp [commaSeparated, Padded.bytes]
      rw [skipElements, hcs]
      simp only [StateT.run_bind, hrun, pure_bind, run_skipBlanks_to hafter (b := 0x2C) (by decide), run_bump]
      rw [show i + p.before.length + p.body.length + p.after.length + 1 = i + p.bytes.length + 1 by
        simp [Padded.bytes]; omega, hnext]
      exact pure_index_congr (by omega)

/-- A member whose name is a well-formed literal and whose value is passed
    over. -/
def SkipsMember (m : MemberBytes) : Prop :=
  m.Blank ∧ (∃ body, RawString body ∧ m.name.body = 0x22 :: body ++ [0x22]) ∧ Skips m.value.body

/-- One round of `skipMembers`: a member and the comma or brace after it. -/
theorem run_skipMembers_member {m : MemberBytes} (hm : SkipsMember m) {b : UInt8} (hb : b = 0x2C ∨ b = 0x7D)
    (r : List UInt8) (g : Nat) (hfuel : m.value.body.length < g) :
    (skipMembers (g + 1)).run ⟨src, m.bytes ++ b :: r, i⟩ =
      if b = 0x2C then (skipMembers g).run ⟨src, r, i + m.bytes.length + 1⟩
      else pure ((), ⟨src, r, i + m.bytes.length + 1⟩) := by
  obtain ⟨⟨⟨hnb, hna⟩, hvb, hva⟩, ⟨body, hraw, hname⟩, hskip⟩ := hm
  have hrun (j : Nat) := hskip src m.value.before (m.value.after ++ b :: r) j g hvb
    (Delimited.blanks_append hva (delimited_cons (by rcases hb with rfl | rfl <;> simp) r)) hfuel
  simp only [List.append_assoc] at hrun
  have hbytes : m.bytes ++ b :: r = m.name.before ++ 0x22 :: (body ++ 0x22 :: (m.name.after ++ 0x3A ::
      (m.value.before ++ (m.value.body ++ (m.value.after ++ b :: r))))) := by
    simp [MemberBytes.bytes, Padded.bytes, hname]
  have hlen : m.bytes.length = m.name.before.length + (body.length + 2) + m.name.after.length + 1 +
      m.value.before.length + m.value.body.length + m.value.after.length := by
    simp [MemberBytes.bytes, Padded.bytes, hname]
    omega
  rw [hbytes, skipMembers]
  simp only [StateT.run_bind, run_skipBlanks_to hnb (b := 0x22) (by decide), pure_bind, run_bump,
    StateT.run_get]
  rw [run_skipStringBody_raw hraw _ (by simp only [List.length_append, List.length_cons]; omega)]
  simp only [pure_bind, run_skipBlanks_to hna (b := 0x3A) (by decide), run_bump, StateT.run_bind, hrun]
  rcases hb with rfl | rfl
  · simp only [run_skipBlanks_to hva (b := 0x2C) (by decide), pure_bind]
    exact run_index_congr _ (by omega)
  · simp only [run_skipBlanks_to hva (b := 0x7D) (by decide), pure_bind, run_bump,
      if_neg (show (0x7D : UInt8) ≠ 0x2C by decide)]
    exact pure_index_congr (by omega)

/-- The members of an object, from the first one's name, and the closing
    brace are passed over, given more rounds than bytes. -/
theorem run_skipMembers {members : List MemberBytes} (hne : members ≠ [])
    (hmembers : ∀ m ∈ members, SkipsMember m) (fuel : Nat)
    (hfuel : (commaSeparated (members.map MemberBytes.bytes)).length + 1 < fuel) :
    (skipMembers fuel).run ⟨src, commaSeparated (members.map MemberBytes.bytes) ++ 0x7D :: t, i⟩ =
      pure ((), ⟨src, t, i + (commaSeparated (members.map MemberBytes.bytes)).length + 1⟩) := by
  induction members generalizing fuel i with
  | nil => exact absurd rfl hne
  | cons m ms ih =>
    have hm := hmembers m List.mem_cons_self
    obtain ⟨g, rfl⟩ : ∃ g, fuel = g + 1 := ⟨fuel - 1, by omega⟩
    have hvalue : m.value.body.length ≤ m.bytes.length := by
      simp [MemberBytes.bytes, Padded.bytes]
      omega
    cases ms with
    | nil =>
      -- the last member, then the closing brace
      simp only [List.map_cons, List.map_nil, commaSeparated] at hfuel ⊢
      rw [run_skipMembers_member hm (.inr rfl) t g (by omega), if_neg (by decide)]
    | cons m' ms =>
      -- a member, its comma, and the members after it
      have hlen : (commaSeparated ((m :: m' :: ms).map MemberBytes.bytes)).length =
          m.bytes.length + 1 + (commaSeparated ((m' :: ms).map MemberBytes.bytes)).length := by
        simp [commaSeparated]
        omega
      rw [show commaSeparated ((m :: m' :: ms).map MemberBytes.bytes) ++ 0x7D :: t =
          m.bytes ++ 0x2C :: (commaSeparated ((m' :: ms).map MemberBytes.bytes) ++ 0x7D :: t) by
          simp [commaSeparated],
        run_skipMembers_member hm (.inl rfl) _ g (by omega), if_pos rfl,
        ih (List.cons_ne_nil _ _) (fun x hx => hmembers x (List.mem_cons_of_mem _ hx)) g (by omega)]
      exact pure_index_congr (by omega)

/-- An array or object with items, from its opening bracket: the items
    separated by commas, then the closing bracket. -/
theorem enclosed_append_of_ne_nil (o c : UInt8) (ws : List UInt8) {items : List (List UInt8)} (h : items ≠ [])
    (t : List UInt8) : enclosed o c ws items ++ t = o :: (commaSeparated items ++ c :: t) := by
  simp [enclosed, if_neg h]

theorem length_enclosed_of_ne_nil (o c : UInt8) (ws : List UInt8) {items : List (List UInt8)}
    (h : items ≠ []) : (enclosed o c ws items).length = (commaSeparated items).length + 2 := by
  simp [enclosed, if_neg h]

theorem run_skipValue_array {ws : List UInt8} {items : List Padded} (hws : Blanks ws)
    (hitems : ∀ p ∈ items, p.Blank ∧ Skips p.body ∧ ValueText p.body) (f : Nat)
    (hf : (enclosed 0x5B 0x5D ws (items.map Padded.bytes)).length ≤ f) :
    (skipValue (f + 1)).run ⟨src, enclosed 0x5B 0x5D ws (items.map Padded.bytes) ++ t, i⟩ =
      pure ((), ⟨src, t, i + (enclosed 0x5B 0x5D ws (items.map Padded.bytes)).length⟩) := by
  cases items with
  | nil =>
    -- blanks alone between the brackets
    simp only [enclosed, List.map_nil, ↓reduceIte, List.cons_append, List.append_assoc, List.nil_append]
    rw [skipValue]
    simp only [StateT.run_bind, run_skipBlanks_cons (b := 0x5B) (by decide), pure_bind, run_bump,
      run_skipBlanks_to hws (b := 0x5D) (by decide)]
    exact pure_index_congr (by simp; omega)
  | cons p ps =>
    -- the outer blanks skip the first element's leading blanks; the loop starts at its value
    obtain ⟨⟨hbefore, hafter⟩, -, hvp⟩ := hitems p List.mem_cons_self
    obtain ⟨b, r, hbody, hb, hb5D, -⟩ := hvp.head
    have hcs : commaSeparated ((p :: ps).map Padded.bytes) =
        p.before ++ commaSeparated ((⟨[], p.body, p.after⟩ :: ps).map Padded.bytes) := by
      cases ps <;> simp [commaSeparated, Padded.bytes]
    obtain ⟨R, hR⟩ :
        ∃ R, commaSeparated ((⟨[], p.body, p.after⟩ :: ps).map Padded.bytes) ++ 0x5D :: t = b :: R := by
      cases ps <;> simp [commaSeparated, Padded.bytes, hbody]
    have hne : (p :: ps).map Padded.bytes ≠ [] := by simp
    have hlen := congrArg List.length hcs
    simp only [List.length_append] at hlen
    have hlen' := length_enclosed_of_ne_nil 0x5B 0x5D ws hne
    have htrim : ∀ x ∈ (⟨[], p.body, p.after⟩ :: ps : List Padded), x.Blank ∧ Skips x.body := by
      intro x hx
      rcases List.mem_cons.mp hx with rfl | hx
      · exact ⟨⟨blanks_nil, hafter⟩, (hitems p List.mem_cons_self).2.1⟩
      · exact ⟨(hitems x (List.mem_cons_of_mem _ hx)).1, (hitems x (List.mem_cons_of_mem _ hx)).2.1⟩
    have hloop := @run_skipElements src t (i + 1 + p.before.length) (⟨[], p.body, p.after⟩ :: ps)
      (List.cons_ne_nil _ _) htrim f (by omega)
    rw [enclosed_append_of_ne_nil _ _ _ hne, hcs, List.append_assoc, hR, skipValue]
    simp only [StateT.run_bind, run_skipBlanks_cons (b := 0x5B) (by decide), pure_bind, run_bump,
      run_skipBlanks_to hbefore hb]
    rw [← hR, hloop, hlen']
    exact pure_index_congr (by omega)

theorem run_skipValue_object {ws : List UInt8} {members : List MemberBytes} (hws : Blanks ws)
    (hmembers : ∀ m ∈ members, SkipsMember m) (f : Nat)
    (hf : (enclosed 0x7B 0x7D ws (members.map MemberBytes.bytes)).length ≤ f) :
    (skipValue (f + 1)).run ⟨src, enclosed 0x7B 0x7D ws (members.map MemberBytes.bytes) ++ t, i⟩ =
      pure ((), ⟨src, t, i + (enclosed 0x7B 0x7D ws (members.map MemberBytes.bytes)).length⟩) := by
  cases members with
  | nil =>
    -- blanks alone between the braces
    simp only [enclosed, List.map_nil, ↓reduceIte, List.cons_append, List.append_assoc, List.nil_append]
    rw [skipValue]
    simp only [StateT.run_bind, run_skipBlanks_cons (b := 0x7B) (by decide), pure_bind, run_bump,
      run_skipBlanks_to hws (b := 0x7D) (by decide)]
    exact pure_index_congr (by simp; omega)
  | cons m ms =>
    -- the outer blanks skip the first name's leading blanks; the loop starts at its quote
    obtain ⟨⟨⟨hnb, hna⟩, hvb, hva⟩, ⟨body, hraw, hname⟩, hskip⟩ := hmembers m List.mem_cons_self
    have hcs : commaSeparated ((m :: ms).map MemberBytes.bytes) = m.name.before ++
        commaSeparated ((⟨⟨[], m.name.body, m.name.after⟩, m.value⟩ :: ms).map MemberBytes.bytes) := by
      cases ms <;> simp [commaSeparated, MemberBytes.bytes, Padded.bytes]
    obtain ⟨R, hR⟩ : ∃ R, commaSeparated ((⟨⟨[], m.name.body, m.name.after⟩, m.value⟩ :: ms).map
        MemberBytes.bytes) ++ 0x7D :: t = 0x22 :: R := by
      cases ms <;> simp [commaSeparated, MemberBytes.bytes, Padded.bytes, hname]
    have hne : (m :: ms).map MemberBytes.bytes ≠ [] := by simp
    have hlen := congrArg List.length hcs
    simp only [List.length_append] at hlen
    have hlen' := length_enclosed_of_ne_nil 0x7B 0x7D ws hne
    have htrim :
        ∀ x ∈ (⟨⟨[], m.name.body, m.name.after⟩, m.value⟩ :: ms : List MemberBytes), SkipsMember x := by
      intro x hx
      rcases List.mem_cons.mp hx with rfl | hx
      · exact ⟨⟨⟨blanks_nil, hna⟩, hvb, hva⟩, ⟨body, hraw, hname⟩, hskip⟩
      · exact hmembers x (List.mem_cons_of_mem _ hx)
    have hloop := @run_skipMembers src t (i + 1 + m.name.before.length) _ (List.cons_ne_nil _ _) htrim f
      (by omega)
    rw [enclosed_append_of_ne_nil _ _ _ hne, hcs, List.append_assoc, hR, skipValue]
    simp +decide only [StateT.run_bind, run_skipBlanks_cons (b := 0x7B) (by decide), pure_bind, run_bump,
      run_skipBlanks_to hnb (b := 0x22) (by decide)]
    rw [← hR, hloop, hlen']
    exact pure_index_congr (by omega)

/-- Every well-formed value is passed over whole. -/
theorem ValueText.skips {v : List UInt8} (hv : ValueText v) : Skips v := by
  induction hv with
  | null =>
    refine skips_of_run .null fun src t i f _ _ => ?_
    simp [skipValue, nullWord, run_skipBlanks_cons, isBlank, run_bump, run_expectWord_cons, run_expectWord_nil]
  | bool b =>
    refine skips_of_run (.bool b) fun src t i f _ _ => ?_
    cases b <;> simp [skipValue, boolWord, run_skipBlanks_cons, isBlank, run_bump, run_expectWord_cons,
      run_expectWord_nil]
  | number h => exact skips_of_run (.number h) fun _ _ _ f ht _ => run_skipValue_number h ht f
  | string h => exact skips_of_run (.string h) fun _ _ _ f _ _ => run_skipValue_string h f
  | array hws hblank hitems ih =>
    exact skips_of_run (.array hws hblank hitems) fun _ _ _ f _ hf =>
      run_skipValue_array hws (fun p hp => ⟨hblank p hp, ih p hp, hitems p hp⟩) f hf
  | object hws hblank hnames hvalues ih =>
    exact skips_of_run (.object hws hblank hnames hvalues) fun _ _ _ f _ hf =>
      run_skipValue_object hws (fun m hm => ⟨hblank m hm, hnames m hm, ih m hm⟩) f hf

end ReplHost.Json
