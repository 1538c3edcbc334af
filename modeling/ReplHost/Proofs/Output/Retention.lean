import ReplHost.Proofs.Output.Buffer
import ReplHost.Proofs.Text.Encoding

/-! # What the output buffer retains over a run

  A buffer sees pushes, drains and clears (`BufferOp`). Beside it a
  `BufferLedger` records what the operations did since the last drain: the
  chunks admitted since the last drain or clear, the bytes pushed, and the
  bytes that clears discarded.

  A push admits the tail of its text from the first character boundary at
  least `size - limit` bytes in (`keepTail_least_boundary`); eviction then
  keeps the longest tail of the chunks that fits (`evict_isLongestFit`). So
  the buffer always holds the longest tail of the admitted chunks that fits
  its limit, the count of bytes it keeps beside them is their size, and
  every byte pushed since the last drain is held, was dropped, or was
  discarded by a clear (`Tracks`, carried through every operation by
  `Tracks.apply`). Eviction reads that count, so it keeps the longest
  fitting tail only because the count is exact.

  Main statements: `keeps_longest_fitting_tail`, and `held_chunks_nonempty`:
  no chunk held is empty as long as no text pushed ends with a character
  wider than the limit. A wider last character is cut off whole, and the
  buffer then holds an empty chunk (`wide_last_char_leaves_empty_chunk`).
-/

namespace ReplHost

open Utf8

/-! ### Character boundaries -/

/-- The byte offsets of a text that fall between two of its characters,
    its two ends included. -/
def IsCharBoundary (text : String) (i : Nat) : Prop :=
  ∃ k, (encodeChars (text.toList.take k)).length = i

/-- `i` is the first character boundary of `text` at or after byte `n`. -/
def IsLeastBoundaryFrom (text : String) (n i : Nat) : Prop :=
  IsCharBoundary text i ∧ n ≤ i ∧ ∀ j, IsCharBoundary text j → n ≤ j → i ≤ j

/-- `kept` is the longest tail of `history` whose chunks total at most
    `limit` bytes. -/
structure IsLongestFit (limit : Nat) (history kept : List Chunk) : Prop where
  suffix : kept <:+ history
  fits : totalBytes kept ≤ limit
  longest : ∀ s, s <:+ history → totalBytes s ≤ limit → s.length ≤ kept.length

theorem IsLongestFit.nil (limit : Nat) : IsLongestFit limit [] [] :=
  ⟨List.suffix_refl _, by simp, fun s hs _ => by simp [List.suffix_nil.mp hs]⟩

namespace OutputBuffer

/-! ### Admitting a text -/

/-- Dropping leading characters until `need` bytes are gone stops at the
    first character boundary at or after `need`, or at the end. -/
theorem dropBytes_eq (need : Nat) (cs : List Char) :
    ∃ k, dropBytes need cs = ((encodeChars (cs.take k)).length, cs.drop k) ∧
      (need ≤ (encodeChars (cs.take k)).length ∨ k = cs.length) ∧
      ∀ j < k, (encodeChars (cs.take j)).length < need := by
  induction cs generalizing need with
  | nil => exact ⟨0, by simp [dropBytes, encodeChars], .inr rfl, by simp⟩
  | cons c rest ih =>
    by_cases hn : need = 0
    · exact ⟨0, by simp [dropBytes, hn, encodeChars], .inl (by omega), by simp⟩
    · -- the first character goes, and the rest is cut `charWidth c` bytes sooner
      obtain ⟨k, hk, hcov, hleast⟩ := ih (need - charWidth c)
      have hlen : ∀ j, (encodeChars ((c :: rest).take (j + 1))).length =
          charWidth c + (encodeChars (rest.take j)).length := by
        intro j
        rw [List.take_succ_cons, encodeChars_cons, List.length_append]
        rfl
      refine ⟨k + 1, ?_, ?_, ?_⟩
      · simp only [dropBytes, hn, ↓reduceIte, hk, hlen, List.drop_succ_cons]
      · rw [hlen]
        rcases hcov with h | h
        · exact .inl (by omega)
        · exact .inr (by simp [h])
      · intro j hj
        cases j with
        | zero => simp [encodeChars]; omega
        | succ j =>
          have := hleast j (by omega)
          rw [hlen]
          omega

/-- The part of a text a buffer admits: the characters after the first
    character boundary at least `size - limit` bytes in. -/
theorem keepTail_eq (limit : Nat) (text : String) :
    ∃ k, keepTail limit text =
        ((encodeChars (text.toList.take k)).length, String.ofList (text.toList.drop k)) ∧
      byteLength text - limit ≤ (encodeChars (text.toList.take k)).length ∧
      ∀ j < k, (encodeChars (text.toList.take j)).length < byteLength text - limit := by
  dsimp only [keepTail]
  split
  · exact ⟨0, by simp [encodeChars], by omega, by simp⟩
  · obtain ⟨k, hk, hcov, hleast⟩ := dropBytes_eq (byteLength text - limit) text.toList
    refine ⟨k, by rw [hk], ?_, hleast⟩
    rcases hcov with h | rfl
    · exact h
    · simp [byteLength, encode]

/-- The bytes a push cuts off and the bytes it admits make up the text. -/
theorem keepTail_bytes (limit : Nat) (text : String) :
    (keepTail limit text).1 + byteLength (keepTail limit text).2 = byteLength text := by
  obtain ⟨k, hk, -, -⟩ := keepTail_eq limit text
  rw [hk]
  simp only [byteLength, encode, String.toList_ofList]
  rw [← List.length_append, ← encodeChars_append, List.take_append_drop]

/-- What a push admits fits the limit. -/
theorem keepTail_fits (limit : Nat) (text : String) : byteLength (keepTail limit text).2 ≤ limit := by
  obtain ⟨k, hk, hge, -⟩ := keepTail_eq limit text
  have hb := keepTail_bytes limit text
  rw [hk] at hb ⊢
  dsimp only at hb hge ⊢
  omega

/-- A push admits the text from the first character boundary at least
    `size - limit` bytes in: its bytes are the text's bytes after the cut. -/
theorem keepTail_least_boundary (limit : Nat) (text : String) :
    IsLeastBoundaryFrom text (byteLength text - limit) (keepTail limit text).1 ∧
      encode (keepTail limit text).2 = (encode text).drop (keepTail limit text).1 := by
  obtain ⟨k, hk, hge, hleast⟩ := keepTail_eq limit text
  rw [hk]
  refine ⟨⟨⟨k, rfl⟩, hge, ?_⟩, ?_⟩
  · -- a boundary before the cut lies before `size - limit`
    rintro j ⟨k', rfl⟩ hj
    by_cases hk' : k' < k
    · exact absurd (hleast k' hk') (by omega)
    · exact encodeChars_take_length_le _ (by omega)
  · have hsplit : encode text = encodeChars (text.toList.take k) ++ encodeChars (text.toList.drop k) := by
      rw [← encodeChars_append, List.take_append_drop]
      rfl
    simp only [hsplit, List.drop_left]
    simp [encode]

/-- A non-empty text whose last character fits the limit keeps at least
    that character. -/
theorem keepTail_ne_empty {limit : Nat} {text : String} (hne : text ≠ "")
    (hlast : ∀ c ∈ text.toList.getLast?, charWidth c ≤ limit) : (keepTail limit text).2 ≠ "" := by
  obtain ⟨k, hk, -, hleast⟩ := keepTail_eq limit text
  rw [hk]
  rcases List.eq_nil_or_concat text.toList with h | ⟨init, last, h⟩
  · exact absurd (String.toList_eq_nil_iff.mp h) hne
  · have hw : charWidth last ≤ limit := hlast last (by simp [h])
    -- the boundary before the last character is at least `size - limit` bytes in
    have hinit : (encodeChars (text.toList.take init.length)).length + charWidth last = byteLength text := by
      simp only [byteLength, encode, h, List.concat_eq_append, List.take_left, encodeChars_append,
        List.length_append]
      simp [encodeChars, charWidth]
    have hk : k ≤ init.length := by
      refine Nat.le_of_not_lt fun hlt => ?_
      have := hleast init.length hlt
      omega
    rw [Ne, String.ofList_eq_empty_iff, List.drop_eq_nil_iff, h]
    simp
    omega

/-! ### Eviction -/

/-- The bytes evicted and the bytes kept make up the chunks, whatever the
    count eviction reads. -/
theorem evict_total (limit len : Nat) (cs : List Chunk) :
    (evict limit len cs).1 + totalBytes (evict limit len cs).2 = totalBytes cs := by
  induction cs generalizing len with
  | nil => rfl
  | cons c cs ih =>
    have hrest := ih (len - c.bytes)
    unfold evict
    split
    · simp
    · simp only [totalBytes_cons]
      omega

/-- Eviction that reads the exact count of the bytes kept keeps the longest
    tail of the chunks that fits the limit. -/
theorem evict_isLongestFit (limit : Nat) (cs : List Chunk) :
    IsLongestFit limit cs (evict limit (totalBytes cs) cs).2 := by
  induction cs with
  | nil => exact IsLongestFit.nil limit
  | cons c cs ih =>
    unfold evict
    split
    · next hfit => exact ⟨List.suffix_refl _, hfit, fun s hs _ => hs.length_le⟩
    · next hover =>
      -- the count less the evicted chunk is the exact count of the rest
      rw [totalBytes_cons, Nat.add_sub_cancel_left]
      refine ⟨ih.suffix.trans (List.suffix_cons c cs), ih.fits, fun s hs hfit => ?_⟩
      rcases List.suffix_cons_iff.mp hs with rfl | hs
      · exact absurd hfit hover
      · exact ih.longest s hs hfit

end OutputBuffer

/-- Appending an admitted chunk that fits and evicting keeps what the
    buffer holds the longest fitting tail of its history. -/
theorem IsLongestFit.snoc {limit : Nat} {history kept : List Chunk} (h : IsLongestFit limit history kept)
    {a : Chunk} (ha : a.bytes ≤ limit) :
    IsLongestFit limit (history ++ [a]) (OutputBuffer.evict limit (totalBytes (kept ++ [a])) (kept ++ [a])).2 := by
  have he := OutputBuffer.evict_isLongestFit limit (kept ++ [a])
  refine ⟨he.suffix.trans ((List.suffix_append_inj_of_length_eq rfl).mpr ⟨h.suffix, rfl⟩), he.fits, ?_⟩
  intro s hs hfit
  rcases List.eq_nil_or_concat s with rfl | ⟨s', x, rfl⟩
  · simp
  · -- a fitting tail ending in `a` is a fitting tail of the old history, then `a`
    rw [List.concat_eq_append] at hs hfit ⊢
    have hone : [x].length = [a].length := rfl
    obtain ⟨hs', hx⟩ := (List.suffix_append_inj_of_length_eq hone).mp hs
    obtain rfl : x = a := List.singleton_inj.mp hx
    have hfit' : totalBytes s' ≤ limit := by
      simp only [totalBytes_append, totalBytes_cons, totalBytes_nil] at hfit
      omega
    have hkept : s' <:+ kept := List.suffix_of_suffix_length_le hs' h.suffix (h.longest s' hs' hfit')
    exact he.longest _ ((List.suffix_append_inj_of_length_eq rfl).mpr ⟨hkept, rfl⟩) hfit

/-! ### Runs of operations -/

/-- An operation on an output buffer. -/
inductive BufferOp where
  /-- Admit a chunk of output. -/
  | push (text : String) (kind : OutputKind)
  /-- Hand over everything held. -/
  | drain
  /-- Discard everything held. -/
  | clear
  deriving DecidableEq, Repr

namespace OutputBuffer

/-- The buffer after one operation. -/
def apply (b : OutputBuffer) : BufferOp → OutputBuffer
  | .push text kind => b.push text kind
  | .drain => b.drain.2
  | .clear => b.clear

end OutputBuffer

/-- The chunk a push admits: none for an empty text or a zero limit, and
    otherwise the tail of the text that fits. -/
def admission (limit : Nat) (text : String) (kind : OutputKind) : List Chunk :=
  if text.isEmpty || limit == 0 then [] else [⟨(OutputBuffer.keepTail limit text).2, kind⟩]

/-- What the operations on a buffer did since it was last drained. -/
structure BufferLedger where
  /-- The chunks admitted since the last drain or clear, oldest first. -/
  admitted : List Chunk := []
  /-- The bytes pushed since the last drain. -/
  pushed : Nat := 0
  /-- The bytes that clears discarded since the last drain. -/
  cleared : Nat := 0

namespace BufferLedger

/-- Records one operation on the buffer `b`. -/
def record (l : BufferLedger) (b : OutputBuffer) : BufferOp → BufferLedger
  | .push text kind =>
    { l with admitted := l.admitted ++ admission b.limit text kind, pushed := l.pushed + byteLength text }
  | .drain => {}
  | .clear => { l with admitted := [], cleared := l.cleared + b.len }

end BufferLedger

/-- Runs operations on a buffer, recording them in the ledger beside it. -/
def replay : OutputBuffer × BufferLedger → List BufferOp → OutputBuffer × BufferLedger
  | st, [] => st
  | (b, l), op :: ops => replay (b.apply op, l.record b op) ops

/-- The buffer of limit `limit` holds the longest fitting tail of the
    chunks the ledger admitted, and every byte pushed is held, dropped or
    cleared. -/
structure Tracks (limit : Nat) (b : OutputBuffer) (l : BufferLedger) : Prop where
  limit_eq : b.limit = limit
  longest : IsLongestFit limit l.admitted b.chunks
  counted : b.len = totalBytes b.chunks
  balance : b.dropped + b.len + l.cleared = l.pushed

namespace Tracks

variable {limit : Nat} {b : OutputBuffer} {l : BufferLedger}

theorem withLimit (limit : Nat) : Tracks limit (OutputBuffer.withLimit limit) {} :=
  ⟨rfl, IsLongestFit.nil limit, rfl, rfl⟩

/-- A push keeps the buffer tracking its ledger: a refused text is dropped
    whole; an admitted one is cut to its fitting tail, appended, and the
    oldest chunks are evicted. -/
theorem push (h : Tracks limit b l) (text : String) (kind : OutputKind) :
    Tracks limit (b.push text kind) (l.record b (.push text kind)) := by
  obtain ⟨hlim, hfit, hcount, hbal⟩ := h
  subst hlim
  simp only [OutputBuffer.push, BufferLedger.record, admission]
  split
  · exact ⟨rfl, by simpa using hfit, hcount, by simp at hbal ⊢; omega⟩
  · have hcut := OutputBuffer.keepTail_bytes b.limit text
    -- the count the push adds to is the exact count of the chunks it evicts from
    have hadd : b.len + byteLength (OutputBuffer.keepTail b.limit text).2 =
        totalBytes (b.chunks ++ [⟨(OutputBuffer.keepTail b.limit text).2, kind⟩]) := by
      simp [hcount, Chunk.bytes]
    rw [hadd]
    have hev := OutputBuffer.evict_total b.limit (totalBytes (b.chunks ++ [⟨(OutputBuffer.keepTail b.limit text).2, kind⟩]))
      (b.chunks ++ [⟨(OutputBuffer.keepTail b.limit text).2, kind⟩])
    simp only [totalBytes_append, totalBytes_cons, totalBytes_nil, Chunk.bytes] at hbal hev
    refine ⟨rfl, hfit.snoc (OutputBuffer.keepTail_fits b.limit text), ?counted, ?balance⟩
    case counted =>
      -- what was not evicted is what is kept
      simp only [totalBytes_append, totalBytes_cons, totalBytes_nil, Chunk.bytes]
      omega
    case balance =>
      simp only [totalBytes_append, totalBytes_cons, totalBytes_nil, Chunk.bytes]
      omega

/-- Every operation keeps the buffer tracking its ledger. -/
theorem apply (h : Tracks limit b l) (op : BufferOp) : Tracks limit (b.apply op) (l.record b op) := by
  cases op with
  | push text kind => exact h.push text kind
  | drain => exact ⟨h.limit_eq, IsLongestFit.nil limit, rfl, rfl⟩
  | clear =>
    refine ⟨h.limit_eq, IsLongestFit.nil limit, rfl, ?_⟩
    show b.dropped + 0 + (l.cleared + b.len) = l.pushed
    have := h.balance
    omega

/-- Every run keeps the buffer tracking its ledger. -/
theorem replay (h : Tracks limit b l) (ops : List BufferOp) :
    Tracks limit (ReplHost.replay (b, l) ops).1 (ReplHost.replay (b, l) ops).2 := by
  induction ops generalizing b l with
  | nil => exact h
  | cons op ops ih => exact ih (h.apply op)

end Tracks

/-- Over any run of pushes, drains and clears on a buffer of any limit: a
    push admits its text from the first character boundary at least
    `size - limit` bytes in; the buffer holds the longest tail of the
    chunks admitted since the last drain or clear that fits the limit, in
    order and with their kinds; its length is their size, at most the
    limit; and the bytes pushed since the last drain are those dropped,
    those held, and those that clears discarded. -/
theorem keeps_longest_fitting_tail (limit : Nat) (ops : List BufferOp) :
    (∀ text : String,
      IsLeastBoundaryFrom text (byteLength text - limit) (OutputBuffer.keepTail limit text).1 ∧
        encode (OutputBuffer.keepTail limit text).2 =
          (encode text).drop (OutputBuffer.keepTail limit text).1) ∧
    IsLongestFit limit (replay (.withLimit limit, {}) ops).2.admitted (replay (.withLimit limit, {}) ops).1.chunks ∧
    (replay (.withLimit limit, {}) ops).1.len = totalBytes (replay (.withLimit limit, {}) ops).1.chunks ∧
    (replay (.withLimit limit, {}) ops).1.len ≤ limit ∧
    (replay (.withLimit limit, {}) ops).1.dropped + (replay (.withLimit limit, {}) ops).1.len +
        (replay (.withLimit limit, {}) ops).2.cleared = (replay (.withLimit limit, {}) ops).2.pushed := by
  have h := (Tracks.withLimit limit).replay ops
  exact ⟨OutputBuffer.keepTail_least_boundary limit, h.longest, h.counted, h.counted ▸ h.longest.fits, h.balance⟩

/-! ### Empty chunks -/

/-- Whether a push's text ends with a character no wider than the limit,
    or is refused whole; drains and clears always qualify. -/
def BufferOp.lastCharFits (limit : Nat) : BufferOp → Bool
  | .push text _ => limit == 0 || text.toList.getLast?.all fun c => decide (charWidth c ≤ limit)
  | _ => true

/-- A non-empty text takes at least one byte. -/
theorem byteLength_pos {text : String} (h : text ≠ "") : 0 < byteLength text := by
  rcases hl : text.toList with _ | ⟨c, cs⟩
  · exact absurd (String.toList_eq_nil_iff.mp hl) h
  · have := charWidth_pos c
    simp only [byteLength, encode, hl, encodeChars_cons, List.length_append]
    exact Nat.lt_of_lt_of_le this (Nat.le_add_right _ _)

/-- Chunks of non-empty text take no bytes only when there are none. -/
theorem totalBytes_eq_zero_iff {cs : List Chunk} (h : ∀ c ∈ cs, c.text ≠ "") : totalBytes cs = 0 ↔ cs = [] := by
  cases cs with
  | nil => simp
  | cons c cs =>
    have := byteLength_pos (h c List.mem_cons_self)
    simp only [totalBytes_cons, Chunk.bytes, reduceCtorEq, iff_false]
    omega

/-- A push whose text ends with a character that fits admits no empty chunk. -/
theorem admission_ne_empty {limit : Nat} {text : String} {kind : OutputKind}
    (h : (BufferOp.push text kind).lastCharFits limit = true) : ∀ c ∈ admission limit text kind, c.text ≠ "" := by
  intro c hc
  unfold admission at hc
  split at hc
  · simp at hc
  · next hacc =>
    obtain rfl := List.mem_singleton.mp hc
    simp only [Bool.or_eq_true, not_or, String.isEmpty_iff, beq_iff_eq] at hacc
    simp only [BufferOp.lastCharFits, hacc.2, beq_iff_eq, false_or, Bool.or_eq_true, Option.all_eq_true,
      decide_eq_true_eq] at h
    exact OutputBuffer.keepTail_ne_empty hacc.1 h

/-- Over a run whose texts all end with characters that fit, no chunk
    admitted is empty. -/
theorem Tracks.replay_admitted_ne_empty {limit : Nat} {b : OutputBuffer} {l : BufferLedger}
    (h : Tracks limit b l) (hl : ∀ c ∈ l.admitted, c.text ≠ "") (ops : List BufferOp)
    (hops : ∀ op ∈ ops, op.lastCharFits limit = true) :
    ∀ c ∈ (ReplHost.replay (b, l) ops).2.admitted, c.text ≠ "" := by
  induction ops generalizing b l with
  | nil => exact hl
  | cons op ops ih =>
    refine ih (h.apply op) ?_ fun op' hop' => hops op' (List.mem_cons_of_mem op hop')
    -- one operation admits chunks only by a push
    have hop := hops op List.mem_cons_self
    cases op with
    | push text kind =>
      intro c hc
      rcases List.mem_append.mp hc with hc | hc
      · exact hl c hc
      · exact admission_ne_empty (h.limit_eq ▸ hop) c hc
    | drain => simp [BufferLedger.record]
    | clear => simp [BufferLedger.record]

/-- Over any run of a buffer in which every text pushed ends with a
    character no wider than the limit, every chunk the buffer holds, and so
    every chunk a drain hands over, is non-empty; so the buffer is empty
    exactly when it holds no bytes. -/
theorem held_chunks_nonempty (limit : Nat) (ops : List BufferOp) (h : ∀ op ∈ ops, op.lastCharFits limit = true) :
    (∀ c ∈ (replay (.withLimit limit, {}) ops).1.chunks, c.text ≠ "") ∧
      ((replay (.withLimit limit, {}) ops).1.isEmpty = true ↔ (replay (.withLimit limit, {}) ops).1.len = 0) := by
  have ht := (Tracks.withLimit limit).replay ops
  have hadm := (Tracks.withLimit limit).replay_admitted_ne_empty (by simp) ops h
  have hheld : ∀ c ∈ (replay (.withLimit limit, {}) ops).1.chunks, c.text ≠ "" :=
    fun c hc => hadm c (ht.longest.suffix.subset hc)
  refine ⟨hheld, ?_⟩
  rw [OutputBuffer.isEmpty, ht.counted, totalBytes_eq_zero_iff hheld, List.isEmpty_iff]

/-- A buffer of three bytes given texts that end with narrow characters. -/
theorem narrow_texts_leave_no_empty_chunk :
    (∀ op ∈ [BufferOp.push "aé€" .stdout, .push "b" .stderr, .drain, .push "xy" .system],
      op.lastCharFits 3 = true) ∧
    (∀ c ∈ (replay (.withLimit 3, {}) [.push "aé€" .stdout, .push "b" .stderr, .drain, .push "xy" .system]).1.chunks,
      c.text ≠ "") ∧
    ((replay (.withLimit 3, {}) [.push "aé€" .stdout, .push "b" .stderr, .drain, .push "xy" .system]).1.isEmpty = true ↔
      (replay (.withLimit 3, {}) [.push "aé€" .stdout, .push "b" .stderr, .drain, .push "xy" .system]).1.len = 0) := by
  have h : ∀ op ∈ [BufferOp.push "aé€" .stdout, .push "b" .stderr, .drain, .push "xy" .system],
      op.lastCharFits 3 = true := by decide
  exact ⟨h, held_chunks_nonempty 3 _ h⟩

/-- A character wider than the limit is cut off whole: a buffer of two
    bytes given `€` (three bytes) holds one empty chunk, so it is not empty
    though it holds no bytes. -/
theorem wide_last_char_leaves_empty_chunk :
    ((OutputBuffer.withLimit 2).push "€" .stdout).chunks = [⟨"", .stdout⟩] ∧
      ((OutputBuffer.withLimit 2).push "€" .stdout).isEmpty = false ∧
      ((OutputBuffer.withLimit 2).push "€" .stdout).len = 0 := by
  decide

end ReplHost
