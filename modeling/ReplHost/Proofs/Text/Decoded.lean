import ReplHost.Proofs.Text.Encoding
import Mathlib

/-! # What the reading decodes from several bytes

  The reading finishes a character of two to four bytes only when its lead
  byte announced that width, the byte after the lead lay in the range the
  lead allows, and the later bytes were continuation bytes (`Utf8.Begun`
  is such a character so far). Those ranges rule out overlong forms,
  surrogates and code points past U+10FFFF, so the character is a valid
  code point from U+0080 on, never a control below 0x20; and it is one of
  the 8-bit controls U+0080..U+009F only when its lead byte is `C2`
  (`codePoint_bounds`).

  So the first character the reading gives after such a lead byte is
  U+FFFD or a character of that kind (`decodeLossy_head`).
-/

namespace ReplHost.Utf8

/-- A character begun by `lead` and continued by `more`, as the reading
    takes it: the lead announces more bytes than have come, the byte after
    it lies in the range the lead allows, and the later bytes are
    continuation bytes. -/
def Begun (lead : UInt8) (more : List UInt8) : Prop :=
  2 ≤ leadWidth lead ∧ more.length + 1 < leadWidth lead ∧
    (∀ b ∈ more.head?, (secondRange lead).1.toNat ≤ b.toNat ∧ b.toNat ≤ (secondRange lead).2.toNat) ∧
    ∀ b ∈ more.tail, isCont b = true

/-- What the reading can give for a character begun by `lead`: U+FFFD, or
    a code point from U+0080 on that is an 8-bit control only when the lead
    is `C2`. -/
def FromLead (lead : UInt8) (c : Char) : Prop :=
  c = replacement ∨ (0x80 ≤ c.toNat ∧ (lead ≠ 0xC2 → 0xC0 ≤ c.toNat))

theorem begun_lead {lead : UInt8} (h : 2 ≤ leadWidth lead) : Begun lead [] :=
  ⟨h, by simp; omega, by simp, by simp⟩

/-- A byte extends a begun character only when it may follow it and does
    not complete it. -/
theorem advance_cons_eq_pending {lead b : UInt8} {more q : List UInt8}
    (h : advance (lead :: more) b = .pending q) :
    mayFollow lead more b = true ∧ (lead :: more ++ [b]).length ≠ leadWidth lead ∧ q = lead :: (more ++ [b]) := by
  simp only [advance] at h
  split at h
  · next hf =>
    split at h
    · cases h
    · next hl =>
      cases h
      exact ⟨hf, hl, rfl⟩
  · cases h

/-- A byte that extends a begun character keeps it begun. -/
theorem Begun.advance_pending {lead b : UInt8} {more q : List UInt8} (hm : Begun lead more)
    (h : advance (lead :: more) b = .pending q) : q = lead :: (more ++ [b]) ∧ Begun lead (more ++ [b]) := by
  obtain ⟨hw, hlt, hhead, htail⟩ := hm
  obtain ⟨hf, hfull, rfl⟩ := advance_cons_eq_pending h
  refine ⟨rfl, hw, by simp at hfull ⊢; omega, ?_, ?_⟩
  · -- the byte after the lead was checked against the lead's range
    cases more with
    | nil => simpa [mayFollow, UInt8.le_iff_toNat_le] using hf
    | cons x xs => simpa using hhead
  · cases more with
    | nil => simp
    | cons x xs =>
      intro c hc
      rcases List.mem_append.mp hc with hc | hc
      · exact htail c hc
      · obtain rfl := List.mem_singleton.mp hc
        simpa [mayFollow] using hf

/-- A byte finishes a begun character only when it may follow it and
    completes the width the lead announced. -/
theorem advance_cons_eq_done {lead b : UInt8} {more : List UInt8} {c : Char}
    (h : advance (lead :: more) b = .done c) :
    mayFollow lead more b = true ∧ (lead :: more ++ [b]).length = leadWidth lead ∧
      c = charOf (lead :: more ++ [b]) := by
  simp only [advance] at h
  split at h
  · next hf =>
    split at h
    · next hl =>
      cases h
      exact ⟨hf, hl, rfl⟩
    · cases h
  · cases h

/-- A lead byte of two bytes or more lies in the range of its width. -/
theorem leadWidth_range {a : UInt8} {w : Nat} (h : leadWidth a = w) (hw : 2 ≤ w) :
    (w = 2 ∧ 0xC2 ≤ a.toNat ∧ a.toNat ≤ 0xDF) ∨ (w = 3 ∧ 0xE0 ≤ a.toNat ∧ a.toNat ≤ 0xEF) ∨
      (w = 4 ∧ 0xF0 ≤ a.toNat ∧ a.toNat ≤ 0xF4) := by
  rw [leadWidth_eq] at h
  split_ifs at h <;> omega

/-- The code point of a finished character of two to four bytes is valid
    and from U+0080 on; below U+00C0 only when the lead byte is `C2`. -/
theorem codePoint_bounds {lead b : UInt8} {more : List UInt8} (hm : Begun lead more)
    (hf : mayFollow lead more b = true) (hlen : (lead :: more ++ [b]).length = leadWidth lead) :
    (codePoint (lead :: more ++ [b])).isValidChar ∧ 0x80 ≤ codePoint (lead :: more ++ [b]) ∧
      (lead.toNat ≠ 0xC2 → 0xC0 ≤ codePoint (lead :: more ++ [b])) := by
  obtain ⟨-, hlt, hhead, htail⟩ := hm
  -- the number of bytes fixes the lead's range, so each case below sees one range only
  have hrange := leadWidth_range hlen.symm (by simp)
  have hb : 0x80 ≤ b.toNat ∧ b.toNat ≤ 0xBF := (isCont_iff b).mp (isCont_of_mayFollow hf)
  rcases more with _ | ⟨x, _ | ⟨y, _ | ⟨z, rest⟩⟩⟩
  · -- two bytes: a lead in C2..DF, the second byte a continuation byte
    simp only [List.nil_append, List.cons_append, List.length_cons, List.length_nil] at hrange
    have hlead : 0xC2 ≤ lead.toNat ∧ lead.toNat ≤ 0xDF := by omega
    simp only [List.nil_append, List.cons_append, codePoint, payload, Nat.isValidChar]
    omega
  · -- three bytes: a lead in E0..EF; `E0` needs a second byte from A0 on and `ED` one up to 9F
    simp only [List.nil_append, List.cons_append, List.length_cons, List.length_nil] at hrange
    have hlead : 0xE0 ≤ lead.toNat ∧ lead.toNat ≤ 0xEF := by omega
    have hx := hhead x rfl
    rw [inSecondRange_iff] at hx
    simp only [List.cons_append, List.nil_append, codePoint, payload, Nat.isValidChar]
    split_ifs at hx <;> omega
  · -- four bytes: a lead in F0..F4; `F0` needs a second byte from 90 on and `F4` one up to 8F
    simp only [List.nil_append, List.cons_append, List.length_cons, List.length_nil] at hrange
    have hlead : 0xF0 ≤ lead.toNat ∧ lead.toNat ≤ 0xF4 := by omega
    have hx := hhead x rfl
    rw [inSecondRange_iff] at hx
    have hy : 0x80 ≤ y.toNat ∧ y.toNat ≤ 0xBF := (isCont_iff y).mp (htail y (by simp))
    simp only [List.cons_append, List.nil_append, codePoint, payload, Nat.isValidChar]
    split_ifs at hx <;> omega
  · -- no lead announces more than four bytes
    simp only [List.length_cons, List.cons_append, List.length_append] at hlt hrange
    omega

/-- A character a byte finishes after a begun one is what `FromLead` allows. -/
theorem Begun.advance_done {lead b : UInt8} {more : List UInt8} {c : Char} (hm : Begun lead more)
    (h : advance (lead :: more) b = .done c) : FromLead lead c := by
  obtain ⟨hf, hlen, rfl⟩ := advance_cons_eq_done h
  obtain ⟨hvalid, hlow, hc2⟩ := codePoint_bounds hm hf hlen
  have hcp : (charOf (lead :: more ++ [b])).toNat = codePoint (lead :: more ++ [b]) := by
    rw [charOf, Char.toNat_ofNat, if_pos hvalid]
  refine .inr ⟨hcp ▸ hlow, fun hne => hcp ▸ hc2 fun h => hne ?_⟩
  exact UInt8.toNat_inj.mp (by simpa using h)

/-- The reading after a begun character starts with a character that
    `FromLead` allows. -/
theorem lossyFrom_head {lead : UInt8} {more : List UInt8} (hm : Begun lead more) (bs : List UInt8) :
    ∃ c rest, lossyFrom (lead :: more) bs = c :: rest ∧ FromLead lead c := by
  induction bs generalizing more with
  | nil => exact ⟨replacement, [], by simp [lossyFrom], .inl rfl⟩
  | cons b bs ih =>
    rcases h : advance (lead :: more) b with c | q | _
    · exact ⟨c, lossyFrom [] bs, by simp [lossyFrom, h], hm.advance_done h⟩
    · obtain ⟨rfl, hq⟩ := hm.advance_pending h
      obtain ⟨c, rest, he, hc⟩ := ih hq
      exact ⟨c, rest, by simp [lossyFrom, h, he], hc⟩
    · -- an unfinished character is one U+FFFD
      exact ⟨replacement, _, by rw [lossyFrom, h]; rfl, .inl rfl⟩

/-- The first character the reading gives after a lead byte of a longer
    character is U+FFFD, or past ASCII and an 8-bit control only after `C2`. -/
theorem decodeLossy_head {lead : UInt8} (hw : 2 ≤ leadWidth lead) (rest : List UInt8) :
    FromLead lead ((decodeLossy (lead :: rest)).headD replacement) := by
  have hadv : advance [] lead = .pending [lead] := by
    simp only [advance]
    split
    · next h => omega
    · next h => omega
    · rfl
  obtain ⟨c, cs, he, hc⟩ := lossyFrom_head (begun_lead hw) rest
  rw [decodeLossy, lossyFrom, hadv]
  simpa [he] using hc

end ReplHost.Utf8
