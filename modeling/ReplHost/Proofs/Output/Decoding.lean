import ReplHost.Proofs.Text.Lossy
import ReplHost.Session.Pump

/-! # Decoding in reads is decoding the whole

  A `Utf8Decoder` holds back what `incompleteTail` finds at the end of the
  bytes it has. That is nothing, or a lead byte and the continuation bytes
  after it (`incompleteTail_cases`); and whatever valid unfinished character
  ends the bytes is held back whole (`incompleteTail_of_unfinished`). So the
  decoder cuts the stream only where the lossy reading may be cut: before a
  byte that is not a continuation byte, or after bytes that leave nothing
  pending (`decode_cut`).

  Main statement (`decodeAll_eq_decodeLossy`): however a byte stream is split
  into reads, the texts a fresh decoder returns for them, followed by what
  `finish` returns, are the lossy reading of the whole stream; and so are the
  texts the reader of a session's output hands on when it does not strip
  escape sequences.
-/

namespace ReplHost

open Utf8

/-! ### What the decoder holds back -/

/-- A lead byte of two bytes or more announces its width. -/
theorem announcedWidth_of_leadWidth {b : UInt8} (h : 2 ≤ leadWidth b) : announcedWidth b = leadWidth b := by
  unfold leadWidth at h ⊢
  unfold announcedWidth
  split_ifs at h ⊢ <;> simp [UInt8.le_iff_toNat_le, UInt8.lt_iff_toNat_lt] at * <;> omega

/-- Walking back over continuation bytes counts them. -/
theorem tailFrom_conts (cs r : List UInt8) (back : Nat) (hcs : ∀ c ∈ cs, isCont c = true)
    (hb : back + cs.length ≤ 4) : tailFrom (cs ++ r) back = tailFrom r (back + cs.length) := by
  induction cs generalizing back with
  | nil => rfl
  | cons c cs ih =>
    have hc : isCont c = true := hcs c (by simp)
    have hback : ¬back > 3 := by simp at hb; omega
    rw [List.cons_append, tailFrom, if_neg hback, if_pos hc,
      ih (back + 1) (fun c hc => hcs c (by simp [hc])) (by simp at hb; omega)]
    simp only [List.length_cons]
    congr 1
    omega

/-- A valid unfinished character that ends the bytes is held back whole. -/
theorem incompleteTail_of_unfinished {q bytes : List UInt8} (hq : Unfinished q) (hs : q <:+ bytes) :
    incompleteTail bytes = q.length := by
  obtain ⟨pre, rfl⟩ := hs
  cases q with
  | nil => exact absurd hq id
  | cons lead more =>
    obtain ⟨hlen, hcont⟩ := hq
    have hwidth : leadWidth lead ≤ 4 := by
      unfold leadWidth
      split_ifs <;> omega
    have hlead : isCont lead = false := isCont_eq_false_of_leadWidth (by omega)
    have hann := announcedWidth_of_leadWidth (b := lead) (by omega)
    -- the walk passes the continuation bytes and stops at the lead byte
    have hrev : (pre ++ lead :: more).reverse = more.reverse ++ lead :: pre.reverse := by simp
    unfold incompleteTail
    rw [hrev, tailFrom_conts _ _ _ (by simpa using hcont) (by simp; omega), tailFrom,
      if_neg (by simp; omega), if_neg (by simp [hlead]), if_pos (by simp; omega)]
    simp only [List.length_reverse, List.length_cons]
    omega

/-- The walk back stops with nothing, or at a byte that is not a
    continuation byte, having counted the continuation bytes after it. -/
theorem tailFrom_cases (rev : List UInt8) (back : Nat) :
    tailFrom rev back = 0 ∨
      ∃ cs b rest, rev = cs ++ b :: rest ∧ isCont b = false ∧ tailFrom rev back = back + cs.length := by
  induction rev generalizing back with
  | nil => exact .inl rfl
  | cons b rest ih =>
    unfold tailFrom
    split
    · exact .inl rfl
    · split
      · rename_i hb
        rcases ih (back + 1) with h | ⟨cs, b', rest', rfl, hb', h⟩
        · exact .inl h
        · refine .inr ⟨b :: cs, b', rest', rfl, hb', ?_⟩
          rw [h]
          simp only [List.length_cons]
          omega
      · split
        · rename_i hb _
          exact .inr ⟨[], b, rest, rfl, by simpa using hb, by simp⟩
        · exact .inl rfl

/-- What the decoder holds back is nothing, or a byte that is not a
    continuation byte and what follows it. -/
theorem incompleteTail_cases (bytes : List UInt8) :
    incompleteTail bytes = 0 ∨ ∃ pre b more, bytes = pre ++ b :: more ∧ isCont b = false ∧
      incompleteTail bytes = more.length + 1 := by
  rcases tailFrom_cases bytes.reverse 1 with h | ⟨cs, b, rest, hrev, hb, h⟩
  · exact .inl h
  · refine .inr ⟨rest.reverse, b, cs.reverse, ?_, hb, ?_⟩
    · rw [← List.reverse_reverse bytes, hrev]
      simp
    · unfold incompleteTail
      rw [h, List.length_reverse]
      omega

/-! ### The cut -/

/-- The decoder cuts the bytes it has where the lossy reading may be cut:
    the text of the part it reads, then the reading of the part it holds
    back with whatever follows, is the reading of all of it. -/
theorem decode_cut (all rest : List UInt8) :
    decodeLossy (all.take (all.length - incompleteTail all)) ++
        decodeLossy (all.drop (all.length - incompleteTail all) ++ rest) =
      decodeLossy (all ++ rest) := by
  rcases incompleteTail_cases all with h0 | ⟨pre, b, more, rfl, hb, hk⟩
  · -- nothing held back: the bytes leave nothing pending
    rw [h0, Nat.sub_zero, List.take_length, List.drop_length, List.nil_append]
    refine (decodeLossy_append all rest (.inl ?_)).symm
    rcases lossyRun_pending all (.inl rfl) with hnil | ⟨hu, hs⟩
    · exact hnil
    · have := incompleteTail_of_unfinished hu (by simpa using hs)
      have hpos : 0 < (lossyRun [] all).1.length := List.length_pos_iff.mpr hu.ne_nil
      omega
  · -- the lead byte of the held part starts a new subpart either way
    have hsplit : (pre ++ b :: more).length - incompleteTail (pre ++ b :: more) = pre.length := by
      rw [hk]
      simp
    rw [hsplit, List.take_left, List.drop_left, List.append_assoc, List.cons_append]
    exact (decodeLossy_append pre _ (.inr ⟨b, more ++ rest, rfl, hb⟩)).symm

namespace Utf8Decoder

/-- One read: its text, then the reading of what the decoder holds with
    whatever follows, is the reading of what it held, the read, and what
    follows. -/
theorem decode_text (d : Utf8Decoder) (chunk rest : List UInt8) :
    (d.decode chunk).2 ++ decodeLossyString ((d.decode chunk).1.pending ++ rest) =
      decodeLossyString (d.pending ++ chunk ++ rest) := by
  simp only [decode, decodeLossyString, ← String.ofList_append, decode_cut]

/-- Over any reads, the texts returned and then what `finish` returns are
    the lossy reading of what the decoder held and all the reads. -/
theorem decodeAll_text (d : Utf8Decoder) (chunks : List (List UInt8)) :
    String.join (d.decodeAll chunks).2 ++ ((d.decodeAll chunks).1.finish).2 =
      decodeLossyString (d.pending ++ chunks.flatten) := by
  induction chunks generalizing d with
  | nil => simp [decodeAll, finish]
  | cons c cs ih =>
    simp only [decodeAll, String.join_cons, String.append_assoc, ih, List.flatten_cons,
      ← List.append_assoc, decode_text]

end Utf8Decoder

/-! ### The reader of a session's output -/

namespace OutputDecoder

/-- The texts a reader hands on: one for each read, and at the end of the
    stream what is left. -/
def texts (dec : OutputDecoder) : List (List UInt8) → List String
  | [] => [dec.finish.2]
  | r :: rs => (dec.feed r).2 :: (dec.feed r).1.texts rs

/-- A reader that does not strip escape sequences hands on the texts of its
    UTF-8 decoder. -/
theorem texts_raw (d : Utf8Decoder) (reads : List (List UInt8)) :
    String.join ((OutputDecoder.raw d).texts reads) =
      String.join (d.decodeAll reads).2 ++ ((d.decodeAll reads).1.finish).2 := by
  induction reads generalizing d with
  | nil => simp [texts, finish, Utf8Decoder.decodeAll]
  | cons r rs ih => simp [texts, feed, ih, Utf8Decoder.decodeAll, String.append_assoc]

end OutputDecoder

/-- Leaving out empty texts changes no concatenation. -/
theorem join_filter_nonempty (ts : List String) : String.join (ts.filter (!·.isEmpty)) = String.join ts := by
  induction ts with
  | nil => rfl
  | cons t ts ih =>
    by_cases ht : t.isEmpty
    · simp [ih, String.isEmpty_iff.mp ht]
    · simp [ht, ih]

/-- However a byte stream is split into reads, a fresh decoder's texts for
    the reads, followed by what it returns when finished, are the lossy
    reading of the whole stream. So are the non-empty texts that the reader
    of a session's output hands on when it does not strip escape sequences. -/
theorem decodeAll_eq_decodeLossy :
    (∀ chunks : List (List UInt8),
      String.join (({} : Utf8Decoder).decodeAll chunks).2 ++
          ((({} : Utf8Decoder).decodeAll chunks).1.finish).2 =
        decodeLossyString chunks.flatten) ∧
    (∀ reads : List (List UInt8),
      String.join (((OutputDecoder.fresh false).texts reads).filter (!·.isEmpty)) =
        decodeLossyString reads.flatten) := by
  refine ⟨fun chunks => by simpa using Utf8Decoder.decodeAll_text {} chunks, fun reads => ?_⟩
  rw [join_filter_nonempty, OutputDecoder.fresh, if_neg Bool.false_ne_true, OutputDecoder.texts_raw]
  simpa using Utf8Decoder.decodeAll_text {} reads

end ReplHost
