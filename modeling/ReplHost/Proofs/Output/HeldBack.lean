import ReplHost.Proofs.Output.Decoding
import ReplHost.Proofs.Text.Encoding

/-! # What the decoder holds back

  `incompleteTail` walks back from the end over at most three bytes. It finds
  a positive length exactly when the bytes end with a lead byte of `C0..F7`
  followed by fewer continuation bytes than the lead announces, and the
  length is then that of the lead and its continuation bytes
  (`incompleteTail_pos_iff`).

  The walk reads no byte before the first one that stops it
  (`tailFrom_append_congr`), so a decoder that held back the unfinished tail
  of what it had received holds back, after one more read, the unfinished
  tail of what it has received now (`heldBack_append`). After any reads a
  fresh decoder holds back exactly the unfinished tail of the stream
  (`decodeAll_pending`).

  Valid UTF-8 never ends in such a tail (`incompleteTail_of_valid`): the lead
  of an unfinished tail starts a character, which the end of the bytes cuts
  short. Nor do bytes that end with a whole character
  (`incompleteTail_append_encodeChar`), whatever comes before it.

  Main statement: `incompleteTail_spec`.
-/

namespace ReplHost

open Utf8

/-! ### Announced widths -/

theorem announcedWidth_le (b : UInt8) : announcedWidth b ≤ 4 := by
  unfold announcedWidth
  split_ifs <;> omega

/-- A byte that announces a sequence lies in `C0..F7`. -/
theorem announcedWidth_range {b : UInt8} (h : 2 ≤ announcedWidth b) : 0xC0 ≤ b ∧ b ≤ 0xF7 := by
  unfold announcedWidth at h
  simp only [UInt8.le_iff_toNat_le]
  split_ifs at h <;> simp [UInt8.le_iff_toNat_le] at * <;> omega

/-- A byte that announces a sequence is no continuation byte. -/
theorem isCont_eq_false_of_announcedWidth {b : UInt8} (h : 2 ≤ announcedWidth b) : isCont b = false := by
  have hb := announcedWidth_range h
  simp only [UInt8.le_iff_toNat_le] at hb
  cases hc : isCont b
  · rfl
  · have := (isCont_iff b).mp hc
    simp at hb
    omega

/-- A byte that starts a character is no continuation byte. -/
theorem isCont_eq_false_of_leadWidth_pos {b : UInt8} (h : 0 < leadWidth b) : isCont b = false := by
  rw [leadWidth_eq] at h
  cases hc : isCont b
  · rfl
  · have := (isCont_iff b).mp hc
    split_ifs at h <;> omega

/-! ### The walk back -/

/-- A walk that finds a length stopped at a byte announcing more bytes than
    it walked over, all of them continuation bytes. -/
theorem tailFrom_pos {rev : List UInt8} {back : Nat} (h : 0 < tailFrom rev back) :
    ∃ cs b rest, rev = cs ++ b :: rest ∧ (∀ c ∈ cs, isCont c = true) ∧
      back + cs.length < announcedWidth b ∧ tailFrom rev back = back + cs.length := by
  induction rev generalizing back with
  | nil => simp [tailFrom] at h
  | cons b rest ih =>
    unfold tailFrom at h ⊢
    split
    · rename_i hback
      simp [hback] at h
    · rename_i hback
      simp only [hback, if_false] at h
      split
      · rename_i hb
        simp only [hb, if_true] at h
        obtain ⟨cs, b', rest', rfl, hcs, hw, heq⟩ := ih h
        refine ⟨b :: cs, b', rest', rfl, ?_, by simp only [List.length_cons]; omega, ?_⟩
        · intro c hc
          rcases List.mem_cons.mp hc with rfl | hc
          · exact hb
          · exact hcs c hc
        · rw [heq]
          simp only [List.length_cons]
          omega
      · rename_i hb
        simp only [hb, Bool.false_eq_true, if_false] at h
        split
        · rename_i hw
          exact ⟨[], b, rest, rfl, by simp, by simpa using hw, by simp⟩
        · rename_i hw
          simp [hw] at h

/-- A walk that gave up gives up as well from further back. -/
theorem tailFrom_eq_zero_of_le {rev : List UInt8} {back : Nat} (hback : 0 < back) (h : tailFrom rev back = 0)
    (j : Nat) : tailFrom rev (back + j) = 0 := by
  induction rev generalizing back with
  | nil => rfl
  | cons b rest ih =>
    unfold tailFrom at h ⊢
    by_cases hfar : back + j > 3
    · simp [hfar]
    · have hnear : ¬back > 3 := by omega
      simp only [hfar, hnear, if_false] at h ⊢
      cases hb : isCont b
      · -- the walk stopped at `b`, which announces no more than `back` bytes
        simp only [hb, Bool.false_eq_true, if_false] at h ⊢
        have hw : ¬announcedWidth b > back := by
          intro hw
          simp only [hw, if_true] at h
          omega
        simp only [show ¬announcedWidth b > back + j by omega, if_false]
      · simp only [hb, if_true] at h ⊢
        rw [Nat.add_right_comm]
        exact ih (by omega) h

/-- The walk over `xs` and then `ys` reads `ys` only from the point it gets
    there, so two tails that the walk cannot tell apart from any such point
    give the same length. -/
theorem tailFrom_append_congr (xs : List UInt8) {ys zs : List UInt8} {back : Nat}
    (h : ∀ j, tailFrom ys (back + j) = tailFrom zs (back + j)) :
    tailFrom (xs ++ ys) back = tailFrom (xs ++ zs) back := by
  induction xs generalizing back with
  | nil => exact h 0
  | cons x xs ih =>
    have hrest : tailFrom (xs ++ ys) (back + 1) = tailFrom (xs ++ zs) (back + 1) :=
      ih fun j => by rw [Nat.add_assoc, Nat.add_comm 1 j, ← Nat.add_assoc]; exact h (j + 1)
    simp only [List.cons_append, tailFrom, hrest]

/-- The walk stops at a byte that is no continuation byte, whatever lies
    before it. -/
theorem tailFrom_cons_of_not_cont {b : UInt8} (hb : isCont b = false) (rest : List UInt8) (back : Nat) :
    tailFrom (b :: rest) back = tailFrom [b] back := by
  simp [tailFrom, hb]

/-! ### The length of the tail -/

theorem incompleteTail_le_length (bytes : List UInt8) : incompleteTail bytes ≤ bytes.length := by
  rcases incompleteTail_cases bytes with h | ⟨pre, b, more, rfl, -, h⟩
  · omega
  · rw [h]
    simp

/-- An unfinished tail, a lead byte and fewer continuation bytes after it
    than it announces, is found whole. -/
theorem incompleteTail_of_tail (pre : List UInt8) {lead : UInt8} {conts : List UInt8}
    (hconts : ∀ c ∈ conts, isCont c = true) (hw : conts.length + 1 < announcedWidth lead) :
    incompleteTail (pre ++ lead :: conts) = conts.length + 1 := by
  have hlead := isCont_eq_false_of_announcedWidth (b := lead) (by omega)
  have hfour := announcedWidth_le lead
  have hrev : (pre ++ lead :: conts).reverse = conts.reverse ++ lead :: pre.reverse := by simp
  unfold incompleteTail
  rw [hrev, tailFrom_conts _ _ _ (by simpa using hconts) (by simp; omega), tailFrom,
    if_neg (by simp; omega), if_neg (by simp [hlead]), if_pos (by simp; omega)]
  simp only [List.length_reverse]
  omega

/-- Three bytes of a four-byte character are held back; all four are not. -/
example : incompleteTail [0x61, 0xF0, 0x9F, 0x98] = 3 ∧ incompleteTail [0xF0, 0x9F, 0x98, 0x80] = 0 := by
  decide

/-- The bytes end with an unfinished tail exactly when they end with a lead
    byte of `C0..F7` and fewer continuation bytes after it than it
    announces. -/
theorem incompleteTail_pos_iff (bytes : List UInt8) :
    0 < incompleteTail bytes ↔
      ∃ pre lead conts, bytes = pre ++ lead :: conts ∧ 0xC0 ≤ lead ∧ lead ≤ 0xF7 ∧
        (∀ c ∈ conts, isCont c = true) ∧ conts.length + 1 < announcedWidth lead := by
  constructor
  · intro h
    obtain ⟨cs, lead, rest, hrev, hcs, hw, -⟩ := tailFrom_pos h
    have hbytes : bytes = rest.reverse ++ lead :: cs.reverse := by
      rw [← List.reverse_reverse bytes, hrev]
      simp
    refine ⟨rest.reverse, lead, cs.reverse, hbytes, (announcedWidth_range (by omega)).1,
      (announcedWidth_range (by omega)).2, fun c hc => hcs c (List.mem_reverse.mp hc), ?_⟩
    rw [List.length_reverse]
    omega
  · rintro ⟨pre, lead, conts, rfl, -, -, hconts, hw⟩
    rw [incompleteTail_of_tail pre hconts hw]
    omega

/-- Bytes without an unfinished tail leave the tail of what follows them as
    it is. -/
theorem incompleteTail_append_of_zero {s : List UInt8} (hs : incompleteTail s = 0) (t : List UInt8) :
    incompleteTail (s ++ t) = incompleteTail t := by
  unfold incompleteTail at hs ⊢
  rw [List.reverse_append, ← List.append_nil t.reverse, List.append_assoc, List.nil_append]
  exact tailFrom_append_congr t.reverse fun j => tailFrom_eq_zero_of_le Nat.one_pos hs j

/-- Before a byte that is no continuation byte, nothing counts. -/
theorem incompleteTail_append_of_not_cont (pre : List UInt8) {b : UInt8} (hb : isCont b = false)
    (rest : List UInt8) : incompleteTail (pre ++ b :: rest) = incompleteTail (b :: rest) := by
  unfold incompleteTail
  have hl : (pre ++ b :: rest).reverse = rest.reverse ++ b :: pre.reverse := by simp
  have hr : (b :: rest).reverse = rest.reverse ++ b :: [] := by simp
  rw [hl, hr]
  exact tailFrom_append_congr rest.reverse fun j => by
    rw [tailFrom_cons_of_not_cont hb]

/-! ### What a decoder holds back -/

/-- The unfinished tail of a byte stream. -/
def heldBack (bytes : List UInt8) : List UInt8 := bytes.drop (bytes.length - incompleteTail bytes)

theorem length_heldBack (bytes : List UInt8) : (heldBack bytes).length = incompleteTail bytes := by
  have := incompleteTail_le_length bytes
  simp only [heldBack, List.length_drop]
  omega

/-- One read leaves the decoder holding the unfinished tail of what it held
    and the read. -/
theorem decode_pending (d : Utf8Decoder) (chunk : List UInt8) :
    (d.decode chunk).1.pending = heldBack (d.pending ++ chunk) := rfl

/-- Bytes before a part with the same unfinished tail do not change it. -/
theorem heldBack_append_of_tail (pre : List UInt8) {x : List UInt8}
    (h : incompleteTail (pre ++ x) = incompleteTail x) : heldBack (pre ++ x) = heldBack x := by
  have hx := incompleteTail_le_length x
  simp only [heldBack, h, List.length_append, List.drop_append]
  rw [List.drop_eq_nil_of_le (by omega), List.nil_append]
  congr 1
  omega

/-- The unfinished tail of a stream, followed by more bytes, has the same
    unfinished tail as the whole stream followed by them. -/
theorem heldBack_append (s t : List UInt8) : heldBack (heldBack s ++ t) = heldBack (s ++ t) := by
  rcases incompleteTail_cases s with h0 | ⟨pre, b, more, rfl, hb, hk⟩
  · -- nothing held back: the stream's own bytes do not count
    have hnil : heldBack s = [] := by simp [heldBack, h0]
    rw [hnil, List.nil_append]
    exact (heldBack_append_of_tail s (incompleteTail_append_of_zero h0 t)).symm
  · -- a tail held back starts with a byte that is no continuation byte
    have hheld : heldBack (pre ++ b :: more) = b :: more := by
      simp only [heldBack, hk, List.length_append, List.length_cons]
      rw [show pre.length + (more.length + 1) - (more.length + 1) = pre.length by omega, List.drop_left]
    rw [hheld, List.append_assoc]
    exact (heldBack_append_of_tail pre (incompleteTail_append_of_not_cont pre hb _)).symm

namespace Utf8Decoder

/-- A decoder that holds back the unfinished tail of what it received holds
    back, after any reads, the unfinished tail of all it received. -/
theorem decodeAll_pending (d : Utf8Decoder) (s : List UInt8) (h : d.pending = heldBack s)
    (chunks : List (List UInt8)) : (d.decodeAll chunks).1.pending = heldBack (s ++ chunks.flatten) := by
  induction chunks generalizing d s with
  | nil => simpa [decodeAll] using h
  | cons c cs ih =>
    have hstep : (d.decode c).1.pending = heldBack (s ++ c) := by
      rw [decode_pending, h, heldBack_append]
    simpa [decodeAll, List.append_assoc] using ih (d.decode c).1 (s ++ c) hstep

end Utf8Decoder

/-! ### Valid text leaves nothing held back -/

/-- A character begun by `lead` and cut short by the end of the bytes is a
    problem of the strict reading. -/
theorem problemFrom_cut_short {lead : UInt8} {more : List UInt8} (cs : List UInt8) (n : Nat)
    (hlen : more.length + 1 + cs.length < leadWidth lead) : problemFrom (lead :: more) n cs ≠ none := by
  induction cs generalizing more with
  | nil => simp [problemFrom]
  | cons c cs ih =>
    simp only [List.length_cons] at hlen
    rw [problemFrom]
    split
    · -- the character cannot be finished before all its bytes are there
      rename_i ch hdone
      simp only [advance] at hdone
      split at hdone
      · split at hdone
        · rename_i hfull
          simp at hfull
          omega
        · cases hdone
      · cases hdone
    · rename_i q hpend
      simp only [advance] at hpend
      split at hpend
      · split at hpend
        · cases hpend
        · cases hpend
          rw [List.cons_append]
          exact ih (by simp; omega)
      · cases hpend
    · simp

/-- Bytes that end with a lead byte and fewer bytes after it than it
    announces are not valid UTF-8, read from any pending prefix. -/
theorem problemFrom_tail_ne_none {lead : UInt8} {conts : List UInt8} (hw : conts.length + 1 < announcedWidth lead)
    (pre : List UInt8) {p : List UInt8} (hp : p = [] ∨ Unfinished p) (n : Nat) :
    problemFrom p n (pre ++ lead :: conts) ≠ none := by
  have hlead := isCont_eq_false_of_announcedWidth (b := lead) (by omega)
  induction pre generalizing p n with
  | nil =>
    cases p with
    | cons a more => simp [problemFrom, advance_of_not_cont hlead]
    | nil =>
      -- the lead starts a character: one the strict reading refuses, or one
      -- that the end of the bytes cuts short
      have hnot1 : leadWidth lead ≠ 1 := by
        have hr := announcedWidth_range (b := lead) (by omega)
        rw [leadWidth_eq]
        simp only [UInt8.le_iff_toNat_le] at hr
        simp at hr
        split_ifs <;> omega
      rcases Nat.eq_zero_or_pos (leadWidth lead) with h0 | hpos
      · simp [problemFrom, advance, h0]
      · obtain ⟨k, hk⟩ : ∃ k, leadWidth lead = k + 2 := ⟨leadWidth lead - 2, by omega⟩
        have hadv : advance [] lead = .pending [lead] := by simp [advance, hk]
        rw [announcedWidth_of_leadWidth (by omega)] at hw
        rw [List.nil_append, problemFrom, hadv]
        exact problemFrom_cut_short conts _ (by simp; omega)
  | cons b pre ih =>
    rw [List.cons_append, problemFrom]
    split
    · exact ih (.inl rfl) _
    · rename_i q hq
      exact ih (.inr (advance_pending hp hq).2) _
    · simp

/-- Valid UTF-8 has no unfinished tail. -/
theorem incompleteTail_of_valid {bytes : List UInt8} (h : firstProblem? bytes = none) :
    incompleteTail bytes = 0 := by
  rcases Nat.eq_zero_or_pos (incompleteTail bytes) with h0 | hpos
  · exact h0
  · obtain ⟨pre, lead, conts, rfl, -, -, -, hw⟩ := (incompleteTail_pos_iff bytes).mp hpos
    exact absurd h (problemFrom_tail_ne_none hw pre (.inl rfl) 0)

/-- The bytes of a character start with a byte that is no continuation
    byte. -/
theorem encodeChar_head (c : Char) : ∃ a rest, encodeChar c = a :: rest ∧ isCont a = false := by
  rcases encodeChar_shape c with ⟨a, h, ha, -⟩ | ⟨a, b, h, ha, -⟩ | ⟨a, b, d, h, ha, -⟩ |
      ⟨a, b, d, e, h, ha, -⟩ <;>
    exact ⟨a, _, h, isCont_eq_false_of_leadWidth_pos (by omega)⟩

/-- Bytes that end with a whole character have no unfinished tail, whatever
    comes before the character. -/
theorem incompleteTail_append_encodeChar (pre : List UInt8) (c : Char) :
    incompleteTail (pre ++ encodeChar c) = 0 := by
  obtain ⟨a, rest, h, ha⟩ := encodeChar_head c
  have hvalid : firstProblem? (encodeChar c) = none := by
    have h := problemFrom_encodeChar c 0 []
    rw [List.append_nil] at h
    rw [firstProblem?, h]
    rfl
  rw [h, incompleteTail_append_of_not_cont pre ha, ← h]
  exact incompleteTail_of_valid hvalid

/-! ### The whole statement -/

/-- The decoder's tail finder: it finds at most three bytes, and finds some
    exactly when the bytes end with a lead byte of `C0..F7` (announcing 2
    bytes up to `DF`, 3 up to `EF`, 4 up to `F7`) and fewer continuation
    bytes after it than it announces, the lead and those bytes being the
    length found. Valid UTF-8 has no such tail. So however a stream is split
    into reads, a fresh decoder holds back at most three bytes, exactly the
    stream's unfinished tail, and nothing once the stream is valid or ends
    with a whole character. -/
theorem incompleteTail_spec (bytes : List UInt8) :
    incompleteTail bytes ≤ 3 ∧
    (0 < incompleteTail bytes ↔
      ∃ pre lead conts, bytes = pre ++ lead :: conts ∧ 0xC0 ≤ lead ∧ lead ≤ 0xF7 ∧
        (∀ c ∈ conts, isCont c = true) ∧ conts.length + 1 < announcedWidth lead) ∧
    (∀ pre lead conts, bytes = pre ++ lead :: conts → (∀ c ∈ conts, isCont c = true) →
      conts.length + 1 < announcedWidth lead → incompleteTail bytes = conts.length + 1) ∧
    (firstProblem? bytes = none → incompleteTail bytes = 0) ∧
    ∀ chunks : List (List UInt8), chunks.flatten = bytes →
      (({} : Utf8Decoder).decodeAll chunks).1.pending.length ≤ 3 ∧
      (({} : Utf8Decoder).decodeAll chunks).1.pending = bytes.drop (bytes.length - incompleteTail bytes) ∧
      ((∃ pre c, bytes = pre ++ encodeChar c) ∨ firstProblem? bytes = none →
        (({} : Utf8Decoder).decodeAll chunks).1.pending = []) := by
  refine ⟨incompleteTail_le bytes, incompleteTail_pos_iff bytes,
    fun pre _ _ hbytes hconts hw => hbytes ▸ incompleteTail_of_tail pre hconts hw, incompleteTail_of_valid, ?_⟩
  intro chunks hflat
  have hheld : (({} : Utf8Decoder).decodeAll chunks).1.pending = heldBack bytes := by
    rw [Utf8Decoder.decodeAll_pending {} [] (by simp [heldBack, incompleteTail, tailFrom]) chunks,
      List.nil_append, hflat]
  have hnone : incompleteTail bytes = 0 → heldBack bytes = [] := fun h0 => by simp [heldBack, h0]
  refine ⟨?_, hheld, ?_⟩
  · rw [hheld, length_heldBack]
    exact incompleteTail_le bytes
  · rintro (⟨pre, c, rfl⟩ | hvalid)
    · rw [hheld]
      exact hnone (incompleteTail_append_encodeChar pre c)
    · rw [hheld]
      exact hnone (incompleteTail_of_valid hvalid)

end ReplHost
