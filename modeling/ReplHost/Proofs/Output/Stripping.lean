import ReplHost.Proofs.Text.Lossy
import ReplHost.Output.Sanitizer

/-! # What stripping keeps of well-formed output

  Well-formed console output is text and complete control sequences,
  `x₀ e₁ x₁ … eₙ xₙ`, each `xᵢ` valid UTF-8 holding no ESC (`Marked`). A
  control sequence is one of the forms of `ControlSequence`: CSI; OSC ended
  by BEL or ST; DCS, SOS, PM and APC strings ended by ST; and plain escape
  sequences.

  The parser reads such output and is back in its ground state after each
  part:
  - valid text runs through the UTF-8 states only, settling each character
    as the lossy reading does, and dispatches it (`run_valid`);
  - a control sequence goes from ground through the sequence states and
    back, keeping nothing (`run_controlSequence`). The CSI states keep among
    themselves over the bytes `20..3F` (`InCsi`), and the string states over
    the bytes `20..7E` (`InString`), until a final byte or ESC `\` ends
    them.

  Main statement (`strip_marked`): stripping well-formed output keeps the
  characters of its text that `keeps` allows, which is every character but
  the controls below 0x20 other than tab, line feed and carriage return, and
  the 8-bit controls 0x80 to 0x9F.
-/

namespace ReplHost

open Utf8

/-! ### Well-formed output -/

/-- The complete control sequences: CSI (ESC `[`, parameter bytes `30..3F`,
    intermediate bytes `20..2F`, a final byte `40..7E`); OSC (ESC `]`, bytes
    `20..7E`, then BEL or ESC `\`); DCS, SOS, PM and APC (ESC and `P`, `X`,
    `^` or `_`, bytes `20..7E`, then ESC `\`); and plain escape sequences
    (ESC, intermediate bytes `20..2F`, a final byte `30..7E` that opens none
    of the others when no intermediate byte precedes it). -/
inductive ControlSequence : List UInt8 → Prop
  | csi {params inters : List UInt8} {final : UInt8} :
      (∀ b ∈ params, 0x30 ≤ b ∧ b ≤ 0x3F) → (∀ b ∈ inters, 0x20 ≤ b ∧ b ≤ 0x2F) →
      0x40 ≤ final → final ≤ 0x7E → ControlSequence (0x1B :: 0x5B :: (params ++ inters ++ [final]))
  | oscBell {body : List UInt8} :
      (∀ b ∈ body, 0x20 ≤ b ∧ b ≤ 0x7E) → ControlSequence (0x1B :: 0x5D :: (body ++ [0x07]))
  | oscSt {body : List UInt8} :
      (∀ b ∈ body, 0x20 ≤ b ∧ b ≤ 0x7E) → ControlSequence (0x1B :: 0x5D :: (body ++ [0x1B, 0x5C]))
  | string {opener : UInt8} {body : List UInt8} : opener ∈ [0x50, 0x58, 0x5E, 0x5F] →
      (∀ b ∈ body, 0x20 ≤ b ∧ b ≤ 0x7E) → ControlSequence (0x1B :: opener :: (body ++ [0x1B, 0x5C]))
  | escape {inters : List UInt8} {final : UInt8} :
      (∀ b ∈ inters, 0x20 ≤ b ∧ b ≤ 0x2F) → 0x30 ≤ final → final ≤ 0x7E →
      (inters = [] → final ∉ [0x50, 0x58, 0x5B, 0x5D, 0x5E, 0x5F]) →
      ControlSequence (0x1B :: (inters ++ [final]))

/-- Output of text and complete control sequences, `x₀ e₁ x₁ … eₙ xₙ` with
    each `xᵢ` valid UTF-8 holding no ESC, beside its text `x₀ x₁ … xₙ`. -/
inductive Marked : List UInt8 → List UInt8 → Prop
  | text {x : List UInt8} : firstProblem? x = none → 0x1B ∉ x → Marked x x
  | seq {x e rest text : List UInt8} : firstProblem? x = none → 0x1B ∉ x → ControlSequence e →
      Marked rest text → Marked (x ++ e ++ rest) (x ++ text)

/-- Whether stripped text keeps a character: all but the controls below 0x20
    other than tab, line feed and carriage return, and the 8-bit controls. -/
def keeps (c : Char) : Bool :=
  if c.toNat < 0x20 then c = '\t' || c = '\n' || c = '\r'
  else !(0x80 ≤ c.toNat && c.toNat ≤ 0x9F)

namespace VtState

/-- A character dispatched in the ground state is kept as `keeps` says. -/
theorem dispatch_eq_keeps (c : Char) : dispatch c = if keeps c then [c] else [] := by
  unfold dispatch keeps
  by_cases h : c.toNat < 0x20
  · -- a control below 0x20 is executed, and executing keeps tab, line feed and carriage return
    have hb : c.toNat.toUInt8.toNat = c.toNat := by simp; omega
    have hc : Char.ofNat c.toNat.toUInt8.toNat = c := by rw [hb, Char.ofNat_toNat]
    have hu : ∀ k : UInt8, c.toNat.toUInt8 = k ↔ c.toNat = k.toNat := by
      intro k
      rw [← UInt8.toNat_inj, hb]
    have hch : ∀ d : Char, c = d ↔ c.toNat = d.toNat := fun d => Char.toNat_inj.symm
    simp only [h, if_true, executed, hc]
    simp [hu, hch]
  · by_cases hc1 : 0x80 ≤ c.toNat ∧ c.toNat ≤ 0x9F <;> simp [h, hc1]

theorem flatMap_dispatch (cs : List Char) : cs.flatMap dispatch = cs.filter keeps := by
  induction cs with
  | nil => rfl
  | cons c cs ih =>
    rw [List.flatMap_cons, ih, dispatch_eq_keeps, List.filter_cons]
    split <;> simp

/-! ### Valid text -/

/-- A byte that finishes a character in the ground state dispatches it. -/
theorem groundStep_done {p : List UInt8} {b : UInt8} {c : Char} (hb : b ≠ 0x1B)
    (h : advance p b = .done c) : groundStep p b = (initial, dispatch c) := by
  cases p <;> simp [groundStep, groundFresh, hb, h]

/-- A byte that extends a character in the ground state keeps it pending. -/
theorem groundStep_pending {p q : List UInt8} {b : UInt8} (hb : b ≠ 0x1B)
    (h : advance p b = .pending q) : groundStep p b = (ground q, []) := by
  cases p <;> simp [groundStep, groundFresh, hb, h]

/-- Valid text without ESC runs through the UTF-8 states only: it settles
    the characters the lossy reading settles, leaves nothing pending, and
    dispatches each character. -/
theorem run_valid (x : List UInt8) {p : List UInt8} {n : Nat} (hx : problemFrom p n x = none)
    (hesc : (0x1B : UInt8) ∉ x) :
    (lossyRun p x).1 = [] ∧ (ground p).run x = (ground [], (lossyRun p x).2.flatMap dispatch) := by
  induction x generalizing p n with
  | nil =>
    have hp : p = [] := by simpa [problemFrom] using hx
    subst hp
    exact ⟨rfl, rfl⟩
  | cons b rest ih =>
    have hb : b ≠ 0x1B := fun h => hesc (h ▸ List.mem_cons_self)
    have hrest : (0x1B : UInt8) ∉ rest := fun h => hesc (List.mem_cons_of_mem b h)
    rcases h : advance p b with c | q | _
    · have hx' : problemFrom [] (n + p.length + 1) rest = none := by simpa [problemFrom, h] using hx
      obtain ⟨hnil, hrun⟩ := ih hx' hrest
      refine ⟨by simpa [lossyRun, lossyStep, h] using hnil, ?_⟩
      simp [run, step, groundStep_done hb h, hrun, lossyRun, lossyStep, h, initial]
    · have hx' : problemFrom q n rest = none := by simpa [problemFrom, h] using hx
      obtain ⟨hnil, hrun⟩ := ih hx' hrest
      refine ⟨by simpa [lossyRun, lossyStep, h] using hnil, ?_⟩
      simp [run, step, groundStep_pending hb h, hrun, lossyRun, lossyStep, h]
    · simp [problemFrom, h] at hx

/-! ### Control sequences -/

/-- The states inside a CSI sequence. -/
def InCsi (s : VtState) : Prop :=
  s = csiEntry ∨ s = csiParam ∨ s = csiIntermediate ∨ s = csiIgnore

/-- The states inside a string: OSC, DCS, SOS, PM or APC. -/
def InString (s : VtState) : Prop :=
  s = oscString ∨ s = sosPmApcString ∨ s = dcsEntry ∨ s = dcsParam ∨ s = dcsIntermediate ∨
    s = dcsPassthrough ∨ s = dcsIgnore

/-- Parameter and intermediate bytes keep a CSI sequence going, keeping
    nothing. -/
theorem step_inCsi {s : VtState} {b : UInt8} (hs : InCsi s) (hb : 0x20 ≤ b ∧ b ≤ 0x3F) :
    ∃ s', InCsi s' ∧ s.step b = (s', []) := by
  simp only [UInt8.le_iff_toNat_le, UInt8.toNat_ofNat] at hb
  -- each CSI state, with its byte tests read on the byte's value
  rcases hs with rfl | rfl | rfl | rfl <;>
    simp only [step, isPlainC0, anywhere, UInt8.le_iff_toNat_le, Bool.and_eq_true, Bool.or_eq_true,
      decide_eq_true_eq, ← UInt8.toNat_inj, UInt8.toNat_ofNat] <;>
    split_ifs <;> simp [InCsi] <;> omega

/-- A final byte ends a CSI sequence, keeping nothing. -/
theorem step_csi_final {s : VtState} {b : UInt8} (hs : InCsi s) (hb : 0x40 ≤ b ∧ b ≤ 0x7E) :
    s.step b = (initial, []) := by
  simp only [UInt8.le_iff_toNat_le, UInt8.toNat_ofNat] at hb
  rcases hs with rfl | rfl | rfl | rfl <;>
    simp only [step, isPlainC0, anywhere, UInt8.le_iff_toNat_le, Bool.and_eq_true, Bool.or_eq_true,
      decide_eq_true_eq, ← UInt8.toNat_inj, UInt8.toNat_ofNat] <;>
    split_ifs <;> simp <;> omega

/-- Bytes `20..7E` keep a string going, keeping nothing. -/
theorem step_inString {s : VtState} {b : UInt8} (hs : InString s) (hb : 0x20 ≤ b ∧ b ≤ 0x7E) :
    ∃ s', InString s' ∧ s.step b = (s', []) := by
  simp only [UInt8.le_iff_toNat_le, UInt8.toNat_ofNat] at hb
  rcases hs with rfl | rfl | rfl | rfl | rfl | rfl | rfl <;>
    simp only [step, anywhere, UInt8.le_iff_toNat_le, Bool.and_eq_true, Bool.or_eq_true,
      decide_eq_true_eq, ← UInt8.toNat_inj, UInt8.toNat_ofNat] <;>
    split_ifs <;> simp [InString] <;> omega

/-- ESC inside a string starts the escape that ends it. -/
theorem step_inString_esc {s : VtState} (hs : InString s) : s.step 0x1B = (escape, []) := by
  rcases hs with rfl | rfl | rfl | rfl | rfl | rfl | rfl <;> simp [step, anywhere]

theorem run_inCsi {s : VtState} (bs : List UInt8) (hs : InCsi s) (hb : ∀ b ∈ bs, 0x20 ≤ b ∧ b ≤ 0x3F) :
    ∃ s', InCsi s' ∧ s.run bs = (s', []) := by
  induction bs generalizing s with
  | nil => exact ⟨s, hs, rfl⟩
  | cons b bs ih =>
    obtain ⟨s₁, hs₁, hstep⟩ := step_inCsi hs (hb b List.mem_cons_self)
    obtain ⟨s₂, hs₂, hrun⟩ := ih hs₁ fun b' hb' => hb b' (List.mem_cons_of_mem b hb')
    exact ⟨s₂, hs₂, by simp [run, hstep, hrun]⟩

theorem run_inString {s : VtState} (bs : List UInt8) (hs : InString s) (hb : ∀ b ∈ bs, 0x20 ≤ b ∧ b ≤ 0x7E) :
    ∃ s', InString s' ∧ s.run bs = (s', []) := by
  induction bs generalizing s with
  | nil => exact ⟨s, hs, rfl⟩
  | cons b bs ih =>
    obtain ⟨s₁, hs₁, hstep⟩ := step_inString hs (hb b List.mem_cons_self)
    obtain ⟨s₂, hs₂, hrun⟩ := ih hs₁ fun b' hb' => hb b' (List.mem_cons_of_mem b hb')
    exact ⟨s₂, hs₂, by simp [run, hstep, hrun]⟩

/-- A state that each of the bytes leaves as it is, keeping nothing, stays
    over all of them. -/
theorem run_stay {s : VtState} (bs : List UInt8) (h : ∀ b ∈ bs, s.step b = (s, [])) :
    s.run bs = (s, []) := by
  induction bs with
  | nil => rfl
  | cons b bs ih => simp [run, h b List.mem_cons_self, ih fun b' hb' => h b' (List.mem_cons_of_mem b hb')]

/-- Bytes that keep nothing may be passed over. -/
theorem run_append_of_silent {s s₁ : VtState} {a : List UInt8} (b : List UInt8) (h : s.run a = (s₁, [])) :
    s.run (a ++ b) = s₁.run b := by
  simp [run_append, h]

theorem run_cons_of_silent {s s₁ : VtState} {b : UInt8} (rest : List UInt8) (h : s.step b = (s₁, [])) :
    s.run (b :: rest) = s₁.run rest := by
  simp [run, h]

/-- An intermediate byte after ESC starts a plain escape sequence. -/
theorem step_escape_inter {b : UInt8} (hb : 0x20 ≤ b ∧ b ≤ 0x2F) : escape.step b = (escapeIntermediate, []) := by
  simp only [UInt8.le_iff_toNat_le, UInt8.toNat_ofNat] at hb
  simp only [step, isPlainC0, UInt8.le_iff_toNat_le, Bool.and_eq_true, Bool.or_eq_true,
    decide_eq_true_eq, ← UInt8.toNat_inj, UInt8.toNat_ofNat]
  split_ifs <;> simp <;> omega

/-- A final byte right after ESC that opens no other sequence ends a plain
    escape sequence. -/
theorem step_escape_final {b : UInt8} (hb : 0x30 ≤ b ∧ b ≤ 0x7E) (hno : b ∉ [0x50, 0x58, 0x5B, 0x5D, 0x5E, 0x5F]) :
    escape.step b = (initial, []) := by
  simp only [UInt8.le_iff_toNat_le, UInt8.toNat_ofNat] at hb
  simp only [List.mem_cons, List.not_mem_nil, or_false, not_or, ← UInt8.toNat_inj, UInt8.toNat_ofNat] at hno
  simp only [step, isPlainC0, UInt8.le_iff_toNat_le, Bool.and_eq_true, Bool.or_eq_true,
    decide_eq_true_eq, ← UInt8.toNat_inj, UInt8.toNat_ofNat]
  split_ifs <;> simp <;> omega

/-- Intermediate bytes keep a plain escape sequence going. -/
theorem step_escapeIntermediate_inter {b : UInt8} (hb : 0x20 ≤ b ∧ b ≤ 0x2F) :
    escapeIntermediate.step b = (escapeIntermediate, []) := by
  simp only [UInt8.le_iff_toNat_le, UInt8.toNat_ofNat] at hb
  simp only [step, isPlainC0, UInt8.le_iff_toNat_le, Bool.and_eq_true, Bool.or_eq_true,
    decide_eq_true_eq, ← UInt8.toNat_inj, UInt8.toNat_ofNat]
  split_ifs <;> simp <;> omega

/-- A final byte ends a plain escape sequence. -/
theorem step_escapeIntermediate_final {b : UInt8} (hb : 0x30 ≤ b ∧ b ≤ 0x7E) :
    escapeIntermediate.step b = (initial, []) := by
  simp only [UInt8.le_iff_toNat_le, UInt8.toNat_ofNat] at hb
  simp only [step, isPlainC0, UInt8.le_iff_toNat_le, Bool.and_eq_true, Bool.or_eq_true,
    decide_eq_true_eq, ← UInt8.toNat_inj, UInt8.toNat_ofNat]
  split_ifs <;> simp <;> omega

/-- An OSC string takes the bytes `20..7E` as its text. -/
theorem step_oscString_body {b : UInt8} (hb : 0x20 ≤ b ∧ b ≤ 0x7E) : oscString.step b = (oscString, []) := by
  simp only [UInt8.le_iff_toNat_le, UInt8.toNat_ofNat] at hb
  simp only [step, anywhere, Bool.or_eq_true, decide_eq_true_eq, ← UInt8.toNat_inj, UInt8.toNat_ofNat]
  split_ifs <;> simp <;> omega

/-- ESC `P`, `X`, `^` or `_` opens a string. -/
theorem step_escape_opener {b : UInt8} (hb : b ∈ [0x50, 0x58, 0x5E, 0x5F]) :
    ∃ s, InString s ∧ escape.step b = (s, []) := by
  simp only [List.mem_cons, List.not_mem_nil, or_false] at hb
  rcases hb with rfl | rfl | rfl | rfl
  · exact ⟨dcsEntry, by simp [InString], by decide⟩
  · exact ⟨sosPmApcString, by simp [InString], by decide⟩
  · exact ⟨sosPmApcString, by simp [InString], by decide⟩
  · exact ⟨sosPmApcString, by simp [InString], by decide⟩

/-- ESC `\` after a string ends it. -/
theorem run_inString_st {s : VtState} (hs : InString s) : s.run [0x1B, 0x5C] = (initial, []) := by
  rw [run_cons_of_silent _ (step_inString_esc hs)]
  decide

/-- Each complete control sequence takes the parser from its ground state
    back to it, keeping nothing. -/
theorem run_controlSequence {e : List UInt8} (he : ControlSequence e) : (ground []).run e = (ground [], []) := by
  have hesc : (ground []).step 0x1B = (escape, []) := by decide
  cases he with
  | @csi params inters final hp hi hf₁ hf₂ =>
    -- ESC `[`, then every parameter and intermediate byte in the CSI states
    obtain ⟨s, hs, hrun⟩ := run_inCsi (s := csiEntry) (params ++ inters) (.inl rfl) (by
      intro b hb
      rcases List.mem_append.mp hb with hb | hb
      · exact ⟨UInt8.le_trans (by decide) (hp b hb).1, (hp b hb).2⟩
      · exact ⟨(hi b hb).1, UInt8.le_trans (hi b hb).2 (by decide)⟩)
    rw [run_cons_of_silent _ hesc, run_cons_of_silent _ (by decide : escape.step 0x5B = (csiEntry, [])),
      run_append_of_silent _ hrun]
    simp [run, step_csi_final hs ⟨hf₁, hf₂⟩, initial]
  | @oscBell body hb =>
    rw [run_cons_of_silent _ hesc, run_cons_of_silent _ (by decide : escape.step 0x5D = (oscString, [])),
      run_append_of_silent _ (run_stay body fun b h => step_oscString_body (hb b h))]
    decide
  | @oscSt body hb =>
    obtain ⟨s, hs, hrun⟩ := run_inString (s := oscString) body (.inl rfl) hb
    rw [run_cons_of_silent _ hesc, run_cons_of_silent _ (by decide : escape.step 0x5D = (oscString, [])),
      run_append_of_silent _ hrun, run_inString_st hs]
    rfl
  | @string opener body ho hb =>
    obtain ⟨s₀, hs₀, hopen⟩ := step_escape_opener ho
    obtain ⟨s, hs, hrun⟩ := run_inString body hs₀ hb
    rw [run_cons_of_silent _ hesc, run_cons_of_silent _ hopen, run_append_of_silent _ hrun, run_inString_st hs]
    rfl
  | @escape inters final hi hf₁ hf₂ hno =>
    rw [run_cons_of_silent _ hesc]
    cases inters with
    | nil => simp [run, step_escape_final ⟨hf₁, hf₂⟩ (hno rfl), initial]
    | cons i is =>
      have hi' : ∀ b ∈ is, escapeIntermediate.step b = (escapeIntermediate, []) :=
        fun b h => step_escapeIntermediate_inter (hi b (List.mem_cons_of_mem i h))
      rw [List.cons_append, run_cons_of_silent _ (step_escape_inter (hi i List.mem_cons_self)),
        run_append_of_silent _ (run_stay is hi')]
      simp [run, step_escapeIntermediate_final ⟨hf₁, hf₂⟩, initial]

/-- Well-formed output runs from the ground state back to it, keeping the
    dispatched characters of its text. -/
theorem run_marked {input text : List UInt8} (h : Marked input text) :
    (ground []).run input = (ground [], (decodeLossy text).flatMap dispatch) := by
  induction h with
  | @text x hx hesc =>
    obtain ⟨hnil, hrun⟩ := run_valid x (p := []) (n := 0) hx hesc
    rw [hrun, decodeLossy_of_settled hnil]
  | @seq x e rest text hx hesc he _ ih =>
    obtain ⟨hnil, hrun⟩ := run_valid x (p := []) (n := 0) hx hesc
    rw [List.append_assoc, run_append, hrun]
    simp only [run_append_of_silent _ (run_controlSequence he), ih,
      decodeLossy_append x text (.inl hnil), decodeLossy_of_settled hnil, List.flatMap_append]

end VtState

/-- Stripping well-formed output, text and complete control sequences,
    keeps exactly the characters of its text that `keeps` allows. -/
theorem strip_marked {input text : List UInt8} (h : Marked input text) :
    Sanitizer.strip input = String.ofList ((decodeLossy text).filter keeps) := by
  have hrun := VtState.run_marked h
  simp [Sanitizer.strip, Sanitizer.feed, VtState.feed, VtState.initial, hrun,
    VtState.flatMap_dispatch]

/-- Coloured text: `ESC [31m red ESC [0m` is well-formed, with the text `red`. -/
theorem strip_keeps_coloured_text :
    Marked [0x1B, 0x5B, 0x33, 0x31, 0x6D, 0x72, 0x65, 0x64, 0x1B, 0x5B, 0x30, 0x6D] [0x72, 0x65, 0x64] ∧
      Sanitizer.strip [0x1B, 0x5B, 0x33, 0x31, 0x6D, 0x72, 0x65, 0x64, 0x1B, 0x5B, 0x30, 0x6D] =
        String.ofList ((decodeLossy [0x72, 0x65, 0x64]).filter keeps) := by
  have hm : Marked [0x1B, 0x5B, 0x33, 0x31, 0x6D, 0x72, 0x65, 0x64, 0x1B, 0x5B, 0x30, 0x6D] [0x72, 0x65, 0x64] :=
    @Marked.seq [] [0x1B, 0x5B, 0x33, 0x31, 0x6D] [0x72, 0x65, 0x64, 0x1B, 0x5B, 0x30, 0x6D] [0x72, 0x65, 0x64]
      (by decide) (by decide)
      (@ControlSequence.csi [0x33, 0x31] [] 0x6D (by simp) (by simp) (by decide) (by decide))
      (@Marked.seq [0x72, 0x65, 0x64] [0x1B, 0x5B, 0x30, 0x6D] [] []
        (by decide) (by decide)
        (@ControlSequence.csi [0x30] [] 0x6D (by simp) (by simp) (by decide) (by decide))
        (.text (by decide) (by decide)))
  exact ⟨hm, strip_marked hm⟩

end ReplHost
