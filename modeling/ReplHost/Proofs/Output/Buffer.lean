import ReplHost.Output.Buffer

/-! # What the output buffer keeps

  Admitting a chunk never changes the buffer's limit. Either the chunk is
  refused whole, or its admitted part, the tail of its text that fits the
  limit, is appended and some of the oldest chunks are evicted: what the
  buffer keeps afterwards is a tail of what it kept before followed by the
  admitted part.
-/

namespace ReplHost

namespace OutputBuffer

theorem dropBytes_suffix (need : Nat) (cs : List Char) : (dropBytes need cs).2 <:+ cs := by
  induction cs generalizing need with
  | nil => exact List.suffix_refl _
  | cons c rest ih =>
    unfold dropBytes
    split
    · exact List.suffix_refl _
    · exact (ih _).trans (List.suffix_cons c rest)

/-- The part of a text a buffer admits is a tail of the text. -/
theorem keepTail_suffix (limit : Nat) (text : String) :
    (keepTail limit text).2.toList <:+ text.toList := by
  dsimp only [keepTail]
  split
  · exact List.suffix_refl _
  · have hs := dropBytes_suffix (Utf8.byteLength text - limit) text.toList
    rcases h : dropBytes (Utf8.byteLength text - limit) text.toList with ⟨cut, rest⟩
    rw [h] at hs
    simpa using hs

/-- Eviction drops some of the oldest chunks and keeps the rest, whatever
    the count it reads. -/
theorem evict_suffix (limit len : Nat) (cs : List Chunk) : ∃ p, cs = p ++ (evict limit len cs).2 := by
  induction cs generalizing len with
  | nil => exact ⟨[], rfl⟩
  | cons c cs ih =>
    obtain ⟨p, hp⟩ := ih (len - c.bytes)
    unfold evict
    split
    · exact ⟨[], rfl⟩
    · exact ⟨c :: p, by simpa using hp⟩

@[simp] theorem push_limit (b : OutputBuffer) (text : String) (kind : OutputKind) :
    (b.push text kind).limit = b.limit := by
  unfold push
  split <;> rfl

/-- Admitting a chunk either refuses it whole, or appends its admitted tail
    and evicts some of the oldest chunks. -/
theorem push_chunks (b : OutputBuffer) (text : String) (kind : OutputKind) :
    (b.push text kind).chunks = b.chunks ∨
      ∃ p, b.chunks ++ [⟨(keepTail b.limit text).2, kind⟩] = p ++ (b.push text kind).chunks := by
  unfold push
  split
  · exact .inl rfl
  · exact .inr (evict_suffix _ _ _)

end OutputBuffer

end ReplHost
