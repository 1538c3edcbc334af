import ReplHost.Text.Utf8
import Mathlib.Tactic.SplitIfs

/-! # The lossy reading is a run, and where it may be cut

  `Utf8.lossyFrom` reads bytes one at a time through `Utf8.advance`. Written
  as a step (`Utf8.lossyStep`: the pending prefix after one byte, and the
  characters the byte settles) it is a run (`Utf8.lossyRun`), and the
  reading of `xs ++ ys` is the run over `xs` followed by the reading of `ys`
  from the prefix it leaves (`lossyFrom_append`). That prefix is always
  empty, or a valid character still unfinished (`Utf8.Unfinished`) made of
  the last bytes read (`lossyRun_pending`).

  The reading of a whole is then the reading of its parts at two kinds of
  cut (`decodeLossy_append`): after bytes that leave nothing pending, and
  before a byte that is not a continuation byte. No prefix takes such a
  byte, so an unfinished prefix before it is one maximal invalid subpart
  whether the reading ends there or goes on.
-/

namespace ReplHost.Utf8

/-! ### Byte classes -/

theorem isCont_iff (b : UInt8) : isCont b = true ↔ 0x80 ≤ b.toNat ∧ b.toNat ≤ 0xBF := by
  simp [isCont, UInt8.le_iff_toNat_le]

/-- A byte that may follow a prefix is a continuation byte: the narrower
    ranges after `E0`, `ED`, `F0` and `F4` lie inside `80..BF`. -/
theorem isCont_of_mayFollow {lead b : UInt8} {more : List UInt8} (h : mayFollow lead more b = true) :
    isCont b = true := by
  unfold mayFollow at h
  split at h
  · rw [isCont_iff]
    unfold secondRange at h
    split_ifs at h <;> simp [UInt8.le_iff_toNat_le] at h <;> omega
  · exact h

/-- The lead byte of a character of two bytes or more is no continuation byte. -/
theorem isCont_eq_false_of_leadWidth {b : UInt8} (h : 2 ≤ leadWidth b) : isCont b = false := by
  unfold leadWidth at h
  have hb : ¬(0x80 ≤ b.toNat ∧ b.toNat ≤ 0xBF) := by
    split_ifs at h <;> simp [UInt8.le_iff_toNat_le, UInt8.lt_iff_toNat_lt] at * <;> omega
  simpa [← isCont_iff] using hb

/-- No prefix takes a byte that is not a continuation byte. -/
theorem advance_of_not_cont {lead b : UInt8} {more : List UInt8} (hb : isCont b = false) :
    advance (lead :: more) b = .broken := by
  have hm : mayFollow lead more b = false := by
    cases h : mayFollow lead more b
    · rfl
    · rw [isCont_of_mayFollow h] at hb
      cases hb
  simp [advance, hm]

/-! ### Pending prefixes -/

/-- A valid character not finished yet: a lead byte announcing more bytes
    than follow it, and continuation bytes after it. -/
def Unfinished : List UInt8 → Prop
  | [] => False
  | lead :: more => more.length + 1 < leadWidth lead ∧ ∀ c ∈ more, isCont c = true

theorem Unfinished.ne_nil {q : List UInt8} (hq : Unfinished q) : q ≠ [] := by
  rintro rfl
  exact hq

/-- A byte that extends the pending prefix leaves it one byte longer and
    still a valid unfinished character. -/
theorem advance_pending {p q : List UInt8} {b : UInt8} (hp : p = [] ∨ Unfinished p)
    (h : advance p b = .pending q) : q = p ++ [b] ∧ Unfinished q := by
  cases p with
  | nil =>
    simp only [advance] at h
    split at h
    · cases h
    · cases h
    · rename_i hne1 hne0
      cases h
      have h1 : leadWidth b ≠ 1 := hne1
      have h0 : leadWidth b ≠ 0 := hne0
      refine ⟨rfl, ?_, by simp⟩
      simp only [List.length_nil]
      omega
  | cons lead more =>
    obtain ⟨hlen, hcont⟩ : Unfinished (lead :: more) := hp.resolve_left (List.cons_ne_nil _ _)
    simp only [advance] at h
    split at h
    · rename_i hfollow
      split at h
      · cases h
      · rename_i hfull
        cases h
        refine ⟨rfl, ?_, ?_⟩
        · simp at hfull ⊢
          omega
        · intro c hc
          rcases List.mem_append.mp hc with hc | hc
          · exact hcont c hc
          · obtain rfl := List.mem_singleton.mp hc
            exact isCont_of_mayFollow hfollow
    · cases h

/-! ### The reading as a run -/

/-- One byte of the lossy reading after the pending prefix `p`: the prefix
    after it, and the characters it settles. -/
def lossyStep (p : List UInt8) (b : UInt8) : List UInt8 × List Char :=
  match advance p b with
  | .done c => ([], [c])
  | .pending q => (q, [])
  | .broken =>
    if p.isEmpty then ([], [replacement])
    else
      match advance [] b with
      | .done c => ([], [replacement, c])
      | .pending q => (q, [replacement])
      | .broken => ([], [replacement, replacement])

theorem lossyFrom_cons (p : List UInt8) (b : UInt8) (rest : List UInt8) :
    lossyFrom p (b :: rest) = (lossyStep p b).2 ++ lossyFrom (lossyStep p b).1 rest := by
  rcases h : advance p b with c | q | _
  · simp [lossyFrom, lossyStep, h]
  · simp [lossyFrom, lossyStep, h]
  · by_cases hp : p = []
    · subst hp
      simp [lossyFrom, lossyStep, h]
    · rcases h' : advance [] b with c | q | _ <;> simp [lossyFrom, lossyStep, h, h', hp]

/-- The lossy reading run over bytes, short of its end: the pending prefix
    left, and the characters settled. -/
def lossyRun (p : List UInt8) : List UInt8 → List UInt8 × List Char
  | [] => (p, [])
  | b :: rest =>
    let r := lossyRun (lossyStep p b).1 rest
    (r.1, (lossyStep p b).2 ++ r.2)

/-- What follows bytes is read from the prefix they leave pending. -/
theorem lossyFrom_append (p xs ys : List UInt8) :
    lossyFrom p (xs ++ ys) = (lossyRun p xs).2 ++ lossyFrom (lossyRun p xs).1 ys := by
  induction xs generalizing p with
  | nil => rfl
  | cons b xs ih => simp [lossyFrom_cons, ih, lossyRun]

/-- One byte leaves the pending prefix empty, or a valid unfinished
    character made of the last bytes read. -/
theorem lossyStep_pending {p : List UInt8} (b : UInt8) (hp : p = [] ∨ Unfinished p) :
    (lossyStep p b).1 = [] ∨ (Unfinished (lossyStep p b).1 ∧ (lossyStep p b).1 <:+ p ++ [b]) := by
  rcases h : advance p b with c | q | _
  · simp [lossyStep, h]
  · obtain ⟨rfl, hq⟩ := advance_pending hp h
    simpa [lossyStep, h] using hq
  · by_cases hpe : p = []
    · subst hpe
      simp [lossyStep, h]
    · rcases h' : advance [] b with c | q | _
      · simp [lossyStep, h, h', hpe]
      · -- the byte starts a new character after the broken prefix
        obtain ⟨rfl, hq⟩ := advance_pending (.inl rfl) h'
        have hstep : lossyStep p b = ([] ++ [b], [replacement]) := by simp [lossyStep, h, h', hpe]
        rw [hstep]
        exact .inr ⟨hq, List.suffix_append p [b]⟩
      · simp [lossyStep, h, h', hpe]

/-- A run leaves the pending prefix empty, or a valid unfinished character
    made of the last bytes read. -/
theorem lossyRun_pending {p : List UInt8} (xs : List UInt8) (hp : p = [] ∨ Unfinished p) :
    (lossyRun p xs).1 = [] ∨ (Unfinished (lossyRun p xs).1 ∧ (lossyRun p xs).1 <:+ p ++ xs) := by
  induction xs generalizing p with
  | nil => exact hp.imp_right fun hu => ⟨hu, by simp [lossyRun]⟩
  | cons b xs ih =>
    have hstep := lossyStep_pending b hp
    rcases ih (hstep.imp_right (·.1)) with hnil | ⟨hu, hs⟩
    · exact .inl hnil
    · refine .inr ⟨hu, hs.trans ?_⟩
      rcases hstep with hq | ⟨-, ⟨t, ht⟩⟩
      · rw [hq]
        exact List.suffix_append (p ++ [b]) xs |>.trans (by simp)
      · exact ⟨t, by rw [← List.append_assoc, ht]; simp⟩

/-- Bytes that leave nothing pending are read as the characters they settle. -/
theorem decodeLossy_of_settled {xs : List UInt8} (h : (lossyRun [] xs).1 = []) :
    decodeLossy xs = (lossyRun [] xs).2 := by
  simpa [decodeLossy, h, lossyFrom] using lossyFrom_append [] xs []

/-! ### Cuts -/

/-- One byte that is not a continuation byte, after a pending prefix: the
    prefix is settled as one U+FFFD and the byte is read from scratch. -/
theorem lossyStep_of_not_cont {lead b : UInt8} {more : List UInt8} (hb : isCont b = false) :
    lossyStep (lead :: more) b = ((lossyStep [] b).1, replacement :: (lossyStep [] b).2) := by
  rcases h : advance [] b with c | q | _ <;> simp [lossyStep, advance_of_not_cont hb, h]

/-- Before a byte that is not a continuation byte the reading may be cut:
    an unfinished prefix there is one invalid subpart either way. -/
theorem lossyFrom_cut_lead (p : List UInt8) {b : UInt8} (hb : isCont b = false) (rest : List UInt8) :
    lossyFrom p (b :: rest) = lossyFrom p [] ++ lossyFrom [] (b :: rest) := by
  cases p with
  | nil => simp [lossyFrom]
  | cons lead more =>
    rw [lossyFrom_cons, lossyFrom_cons [] b, lossyStep_of_not_cont hb]
    simp [lossyFrom]

/-- The reading of a whole is the reading of its parts, when the first part
    leaves nothing pending or the second starts with a byte that is not a
    continuation byte. -/
theorem decodeLossy_append (pre post : List UInt8)
    (hcut : (lossyRun [] pre).1 = [] ∨ ∃ b r, post = b :: r ∧ isCont b = false) :
    decodeLossy (pre ++ post) = decodeLossy pre ++ decodeLossy post := by
  have hpre : decodeLossy pre = (lossyRun [] pre).2 ++ lossyFrom (lossyRun [] pre).1 [] := by
    simpa [decodeLossy] using lossyFrom_append [] pre []
  rw [hpre, decodeLossy, lossyFrom_append]
  rcases hcut with hnil | ⟨b, r, rfl, hb⟩
  · simp [hnil, lossyFrom, decodeLossy]
  · rw [lossyFrom_cut_lead _ hb]
    simp [decodeLossy]

end ReplHost.Utf8
