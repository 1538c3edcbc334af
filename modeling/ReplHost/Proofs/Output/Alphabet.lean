import ReplHost.Proofs.Output.Stripping
import ReplHost.Proofs.Output.Reads
import ReplHost.Proofs.Text.Decoded

/-! # What the sanitizer can hand on

  Byte by byte, the parser keeps only what `keeps` allows: the characters
  it dispatches in the ground state (`dispatch_eq_keeps`), U+FFFD for an
  invalid subpart, and tab, line feed and carriage return when it executes
  a control (`step_keeps`, `run_keeps`).

  A read that begins while the parser holds part of a character split by
  the previous read finishes that character first and prints it as it is
  (`VtState.resume`), without the dispatch the ground state applies. The
  parser only ever holds a character begun by a lead byte of two bytes or
  more (`LeadOk`, kept by every step and every read), so what `resume`
  prints is U+FFFD or past ASCII, and an 8-bit control only when the lead
  is `C2` (`Utf8.decodeLossy_head`).

  Main statement (`sanitized_text_has_no_controls`): whatever the reads, no
  control below 0x20 other than tab, line feed and carriage return is ever
  handed on, ESC included; and when no read begins with a `C2` held,
  nothing that `keeps` refuses is, 8-bit controls included. A `C2` held
  and a read that starts with `85` hand on U+0085
  (`split_c1_control_kept`).
-/

namespace ReplHost

open Utf8

theorem keeps_replacement : keeps replacement = true := by decide

/-- A kept character is no control below 0x20 but tab, line feed and
    carriage return. -/
theorem keeps_no_c0 {c : Char} (h : keeps c = true) : 0x20 ≤ c.toNat ∨ c = '\t' ∨ c = '\n' ∨ c = '\r' := by
  unfold keeps at h
  split at h
  · simp only [Bool.or_eq_true, decide_eq_true_eq] at h
    right
    rcases h with (h | h) | h
    · exact .inl h
    · exact .inr (.inl h)
    · exact .inr (.inr h)
  · left
    omega

/-- What the reading gives for a character begun by a lead byte is no
    control below 0x20. -/
theorem FromLead.no_c0 {lead : UInt8} {c : Char} (h : FromLead lead c) : 0x20 ≤ c.toNat := by
  rcases h with rfl | ⟨h80, -⟩
  · decide
  · omega

/-- ... and is kept unless the lead is `C2`. -/
theorem FromLead.kept {lead : UInt8} {c : Char} (h : FromLead lead c) (hne : lead ≠ 0xC2) : keeps c = true := by
  rcases h with rfl | ⟨-, hc0⟩
  · exact keeps_replacement
  · have := hc0 hne
    unfold keeps
    rw [if_neg (by omega)]
    simp only [Bool.not_eq_eq_eq_not, Bool.not_true, Bool.and_eq_false_iff, decide_eq_false_iff_not]
    omega

namespace VtState

/-! ### One byte -/

/-- Executing a control keeps tab, line feed and carriage return only. -/
theorem executed_keeps (b : UInt8) : ∀ c ∈ executed b, keeps c = true := by
  intro c hc
  unfold executed at hc
  split at hc
  · next h =>
    obtain rfl := List.mem_singleton.mp hc
    simp only [Bool.or_eq_true, decide_eq_true_eq] at h
    rcases h with (rfl | rfl) | rfl <;> decide
  · simp at hc

theorem groundFresh_keeps (b : UInt8) : ∀ c ∈ (groundFresh b).2, keeps c = true := by
  unfold groundFresh
  split
  · simp
  · split
    · next c _ =>
      rw [dispatch_eq_keeps]
      split <;> simp_all
    · simp
    · split <;> simp [keeps_replacement]

theorem groundStep_keeps (p : List UInt8) (b : UInt8) : ∀ c ∈ (groundStep p b).2, keeps c = true := by
  unfold groundStep
  split
  · exact groundFresh_keeps b
  · split
    · next c _ =>
      rw [dispatch_eq_keeps]
      split <;> simp_all
    · simp
    · intro c hc
      rcases List.mem_cons.mp hc with rfl | hc
      · exact keeps_replacement
      · exact groundFresh_keeps b c hc

/-- Outside the ground state a byte keeps what executing it keeps, or
    nothing. -/
theorem step_sub_executed {s : VtState} (hs : ∀ p, s ≠ ground p) (b : UInt8) :
    ∀ c ∈ (s.step b).2, c ∈ executed b := by
  intro c
  cases s
  case ground p => exact absurd rfl (hs p)
  -- each branch keeps `executed b` or nothing: read the tests as a disjunction of branches
  all_goals
    simp only [step, anywhere, apply_ite Prod.snd, apply_ite (fun l : List Char => c ∈ l), List.not_mem_nil,
      ite_prop_iff_or, or_imp, and_imp, imp_self, implies_true, and_self, false_implies]

/-- One byte keeps only what `keeps` allows. -/
theorem step_keeps (s : VtState) (b : UInt8) : ∀ c ∈ (s.step b).2, keeps c = true := by
  cases s
  case ground p => exact groundStep_keeps p b
  all_goals exact fun c hc => executed_keeps b c (step_sub_executed (by simp) b c hc)

/-- A run keeps only what `keeps` allows. -/
theorem run_keeps (s : VtState) (bytes : List UInt8) : ∀ c ∈ (s.run bytes).2, keeps c = true := by
  induction bytes generalizing s with
  | nil => simp [run]
  | cons b rest ih =>
    intro c hc
    simp only [run, List.mem_append] at hc
    rcases hc with hc | hc
    · exact step_keeps s b c hc
    · exact ih _ c hc

/-! ### Held characters -/

/-- The lead byte of the character the parser holds, if it holds one. -/
def heldLead : VtState → Option UInt8
  | ground (b :: _) => some b
  | _ => none

/-- The parser holds only characters begun by a lead byte of two bytes or
    more. -/
def LeadOk (s : VtState) : Prop := ∀ lead ∈ s.heldLead, 2 ≤ leadWidth lead

theorem leadOk_initial : LeadOk initial := by simp [LeadOk, initial, heldLead]

theorem LeadOk.groundFresh (b : UInt8) : LeadOk (groundFresh b).1 := by
  unfold VtState.groundFresh
  split
  · simp [LeadOk, heldLead]
  · split
    · exact leadOk_initial
    · next q h =>
      -- a byte starts a character only when it announces two bytes or more
      obtain ⟨rfl, hq⟩ := advance_pending (.inl rfl) h
      have hw := hq.1
      simp only [List.length_nil] at hw
      intro lead hl
      simp only [List.nil_append, heldLead, Option.mem_def, Option.some.injEq] at hl
      subst hl
      omega
    · exact leadOk_initial

theorem LeadOk.groundStep {lead : UInt8} {more : List UInt8} (hs : LeadOk (ground (lead :: more))) (b : UInt8) :
    LeadOk (VtState.groundStep (lead :: more) b).1 := by
  simp only [VtState.groundStep]
  split
  · exact leadOk_initial
  · next q h =>
    -- extending a held character keeps its lead
    obtain ⟨-, -, rfl⟩ := advance_cons_eq_pending h
    simpa [LeadOk, heldLead] using hs
  · exact LeadOk.groundFresh b

/-- Outside the ground state a byte leaves the parser holding nothing. -/
theorem step_heldLead {s : VtState} (hs : ∀ p, s ≠ ground p) (b : UInt8) : (s.step b).1.heldLead = none := by
  cases s
  case ground p => exact absurd rfl (hs p)
  all_goals
    simp only [step, anywhere, apply_ite Prod.fst, apply_ite heldLead]
    simp only [heldLead, initial, ite_self]

/-- Every step keeps the parser holding only characters begun by a lead of
    two bytes or more. -/
theorem LeadOk.step {s : VtState} (hs : LeadOk s) (b : UInt8) : LeadOk (s.step b).1 := by
  cases s
  case ground p =>
    cases p with
    | nil => exact LeadOk.groundFresh b
    | cons lead more => exact hs.groundStep b
  all_goals
    intro lead hl
    rw [step_heldLead (by simp)] at hl
    cases hl

theorem LeadOk.run {s : VtState} (hs : LeadOk s) (bytes : List UInt8) : LeadOk (s.run bytes).1 := by
  induction bytes generalizing s with
  | nil => exact hs
  | cons b rest ih => exact ih (hs.step b)

/-- Finishing a held character leaves the parser in its ground state or
    holding the held bytes with more after them, and prints the first
    character of their reading or U+FFFD. -/
theorem resume_cases (p bytes : List UInt8) :
    ((resume p bytes).1 = initial ∨ (resume p bytes).1 = ground (p ++ bytes.take (4 - p.length))) ∧
      ∀ c ∈ (resume p bytes).2.1,
        c = (decodeLossy (p ++ bytes.take (4 - p.length))).headD replacement ∨ c = replacement := by
  dsimp only [resume]
  split
  · simp
  · split_ifs
    · simp
    · split <;> simp

/-- A read keeps the parser holding only characters begun by a lead of two
    bytes or more, and hands on what `keeps` allows, or the character
    finished from a held one, which `FromLead` allows for its lead. -/
theorem LeadOk.feed {s : VtState} (hs : LeadOk s) (bytes : List UInt8) :
    LeadOk (s.feed bytes).1 ∧
      ∀ c ∈ (s.feed bytes).2, keeps c = true ∨ ∃ lead ∈ s.heldLead, FromLead lead c := by
  cases hp : s.holdsPartial
  · rw [feed_of_not_holdsPartial hp]
    exact ⟨hs.run bytes, fun c hc => .inl (run_keeps s bytes c hc)⟩
  · -- a held character `lead :: more` is finished by `resume`
    obtain ⟨lead, more, rfl⟩ : ∃ lead more, s = ground (lead :: more) := by
      cases s with
      | ground p =>
        cases p with
        | nil => simp [holdsPartial] at hp
        | cons lead more => exact ⟨lead, more, rfl⟩
      | _ => simp [holdsPartial] at hp
    have hw : 2 ≤ leadWidth lead := hs lead rfl
    obtain ⟨hstate, hout⟩ := resume_cases (lead :: more) bytes
    have hs₁ : LeadOk (resume (lead :: more) bytes).1 := by
      rcases hstate with h | h
      · rw [h]
        exact leadOk_initial
      · rw [h]
        simpa [LeadOk, heldLead] using hw
    refine ⟨hs₁.run _, fun c hc => ?_⟩
    simp only [VtState.feed, List.mem_append] at hc
    rcases hc with hc | hc
    · right
      refine ⟨lead, rfl, ?_⟩
      rcases hout c hc with rfl | rfl
      · exact decodeLossy_head hw _
      · exact .inl rfl
    · exact .inl (run_keeps _ _ c hc)

end VtState

/-! ### Reads -/

namespace Sanitizer

theorem feedAll_cons_fst (z : Sanitizer) (c : List UInt8) (cs : List (List UInt8)) :
    (z.feedAll (c :: cs)).1 = ((z.feed c).1.feedAll cs).1 := rfl

/-- Over any reads, every character handed on is kept, or was finished
    from a character held before some read, and `FromLead` allows it for
    that character's lead. -/
theorem feedAll_chars (z : Sanitizer) (hz : z.state.LeadOk) (chunks : List (List UInt8)) :
    ∀ t ∈ (z.feedAll chunks).2, ∀ c ∈ t.toList, keeps c = true ∨
      ∃ i < chunks.length, ∃ lead ∈ (z.feedAll (chunks.take i)).1.state.heldLead, FromLead lead c := by
  induction chunks generalizing z with
  | nil => simp [feedAll]
  | cons ch cs ih =>
    obtain ⟨hz₁, hout⟩ := hz.feed ch
    intro t ht c hc
    simp only [feedAll, List.mem_cons] at ht
    rcases ht with rfl | ht
    · -- the first read starts from `z`
      rcases hout c (by simpa [feed] using hc) with h | ⟨lead, hl, h⟩
      · exact .inl h
      · exact .inr ⟨0, by simp, lead, by simpa [feedAll] using hl, h⟩
    · -- a later read is read `i` of the rest
      rcases ih (z.feed ch).1 hz₁ t ht c hc with h | ⟨i, hi, lead, hl, h⟩
      · exact .inl h
      · exact .inr ⟨i + 1, by simp; omega, lead, by simpa [feedAll_cons_fst] using hl, h⟩

end Sanitizer

/-- However output is split into reads, the sanitizer never hands on a
    control below 0x20 other than tab, line feed and carriage return, ESC
    included; and as long as no read begins while the parser holds a
    character begun by `C2`, it hands on nothing that `keeps` refuses, so
    no 8-bit control either. -/
theorem sanitized_text_has_no_controls (chunks : List (List UInt8)) :
    (∀ t ∈ (({} : Sanitizer).feedAll chunks).2, ∀ c ∈ t.toList,
      0x20 ≤ c.toNat ∨ c = '\t' ∨ c = '\n' ∨ c = '\r') ∧
    ((∀ i < chunks.length, (({} : Sanitizer).feedAll (chunks.take i)).1.state.heldLead ≠ some 0xC2) →
      ∀ t ∈ (({} : Sanitizer).feedAll chunks).2, ∀ c ∈ t.toList, keeps c = true) := by
  have hchars := Sanitizer.feedAll_chars {} VtState.leadOk_initial chunks
  refine ⟨fun t ht c hc => ?_, fun hno t ht c hc => ?_⟩
  · rcases hchars t ht c hc with h | ⟨_, _, _, _, h⟩
    · exact keeps_no_c0 h
    · exact .inl (FromLead.no_c0 h)
  · rcases hchars t ht c hc with h | ⟨i, hi, lead, hl, h⟩
    · exact h
    · exact FromLead.kept h fun h₂ => hno i hi (h₂ ▸ hl)

/-- Reads of a coloured line whose `é` is split between them, the second
    read beginning with `C3` held. -/
theorem coloured_split_line_keeps_text :
    (∀ i < 3, (({} : Sanitizer).feedAll
        ([[0x1B, 0x5B, 0x33, 0x31, 0x6D, 0x68, 0x69], [0xC3], [0xA9, 0x0D, 0x0A]].take i)).1.state.heldLead ≠
      some 0xC2) ∧
    ∀ t ∈ (({} : Sanitizer).feedAll [[0x1B, 0x5B, 0x33, 0x31, 0x6D, 0x68, 0x69], [0xC3], [0xA9, 0x0D, 0x0A]]).2,
      ∀ c ∈ t.toList, keeps c = true := by
  have h : ∀ i < 3, (({} : Sanitizer).feedAll
      ([[0x1B, 0x5B, 0x33, 0x31, 0x6D, 0x68, 0x69], [0xC3], [0xA9, 0x0D, 0x0A]].take i)).1.state.heldLead ≠
      some 0xC2 := by decide
  exact ⟨h, (sanitized_text_has_no_controls _).2 h⟩

/-- `C2 85` is the 8-bit control NEL: stripped whole when it comes in one
    read, but handed on when the read before ends with `C2`. -/
theorem split_c1_control_kept :
    Sanitizer.strip [0xC2, 0x85] = "" ∧ (({} : Sanitizer).feedAll [[0xC2], [0x85]]).2 = ["", "\u0085"] := by
  decide

end ReplHost
