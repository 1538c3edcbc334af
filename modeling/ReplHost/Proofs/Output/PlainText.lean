import ReplHost.Proofs.Output.Stripping
import ReplHost.Proofs.Output.Reads
import ReplHost.Proofs.Output.Decoding
import ReplHost.Proofs.Text.Encoding

/-! # Plain text through both readers

  Plain text is valid UTF-8 whose characters `keeps` all allows: no control
  below 0x20 but tab, line feed and carriage return, and no 8-bit control.
  Its bytes are what the writer gives its characters, so the strict
  reading finds no problem in them (`Utf8.problemFrom_encodeChars`), and
  they hold no ESC (`esc_not_mem_encodeChars`). Run from the ground state
  the parser therefore reads them as UTF-8 alone and dispatches every
  character, keeping it (`run_encodeChars`).

  Main statement (`plain_text_read_back`): a reader that does not strip
  escape sequences hands on plain text whole however it is split into
  reads; a reader that strips them does so when every read ends between
  two characters. A read that ends inside a character can cost a
  character: `C3 | A9 41 C3 A9` hands on `éé` for `éAé`
  (`split_character_skips_letter`).
-/

namespace ReplHost

open Utf8

/-- Plain text holds no ESC byte: a kept character is not ESC, and the
    bytes of a character past ASCII all have their high bit set. -/
theorem esc_not_mem_encodeChars {u : List Char} (hu : ∀ c ∈ u, keeps c = true) :
    (0x1B : UInt8) ∉ encodeChars u := by
  intro hmem
  obtain ⟨c, hc, hb⟩ := List.mem_flatMap.mp hmem
  have hk := hu c hc
  by_cases hlow : c.toNat < 0x80
  · rw [encodeChar_ascii hlow, List.mem_singleton] at hb
    have hesc : c.toNat = 0x1B := by
      have := congrArg UInt8.toNat hb
      rw [toNat_toUInt8 (by omega)] at this
      simpa using this.symm
    have : keeps c = false := by
      unfold keeps
      rw [if_pos (by omega)]
      simp [← Char.toNat_inj, hesc]
    simp_all
  · have := encodeChar_high (by omega) _ hb
    simp at this

/-- From the ground state, plain text is read as UTF-8 alone, every
    character kept, and leaves the parser in its ground state. -/
theorem run_encodeChars {u : List Char} (hu : ∀ c ∈ u, keeps c = true) :
    (VtState.ground []).run (encodeChars u) = (VtState.ground [], u) := by
  obtain ⟨hnil, hrun⟩ :=
    VtState.run_valid (encodeChars u) (problemFrom_encodeChars u 0) (esc_not_mem_encodeChars hu)
  have hread : (lossyRun [] (encodeChars u)).2 = u := by
    rw [← decodeLossy_of_settled hnil, decodeLossy_encodeChars]
  rw [hrun, hread, VtState.flatMap_dispatch, List.filter_eq_self.mpr hu]

namespace OutputDecoder

/-- A reader that strips escape sequences hands on the texts of its
    sanitizer, and nothing at the end of the stream. -/
theorem texts_sanitize (z : Sanitizer) (reads : List (List UInt8)) :
    String.join ((OutputDecoder.sanitize z).texts reads) = String.join (z.feedAll reads).2 := by
  induction reads generalizing z with
  | nil => simp [texts, finish, Sanitizer.feedAll]
  | cons r rs ih => simp [texts, feed, ih, Sanitizer.feedAll]

end OutputDecoder

/-- Plain text comes through a reader of a session's output as it was
    written: however it is split into reads when the reader does not strip
    escape sequences, and when every read ends between two characters when
    it does. -/
theorem plain_text_read_back (t : String) (ht : ∀ c ∈ t.toList, keeps c = true)
    (reads : List (List UInt8)) (hr : reads.flatten = encode t) :
    String.join ((OutputDecoder.fresh false).texts reads) = t ∧
    ((∀ i ≤ reads.length, ∃ k, (reads.take i).flatten = encodeChars (t.toList.take k)) →
      String.join ((OutputDecoder.fresh true).texts reads) = t) := by
  refine ⟨?_, fun hcut => ?_⟩
  · rw [OutputDecoder.fresh, if_neg Bool.false_ne_true, OutputDecoder.texts_raw,
      Utf8Decoder.decodeAll_text]
    simpa [hr] using decodeLossyString_encode t
  · -- every read starts with the parser in its ground state, holding nothing
    have hheld : ∀ i ≤ reads.length,
        (VtState.initial.run (reads.take i).flatten).1.holdsPartial = false := by
      intro i hi
      obtain ⟨k, hk⟩ := hcut i hi
      rw [hk, VtState.initial, run_encodeChars fun c hc => ht c (List.mem_of_mem_take hc)]
      rfl
    rw [OutputDecoder.fresh, if_pos rfl, OutputDecoder.texts_sanitize, Sanitizer.feedAll_text {} reads hheld]
    show String.ofList ((VtState.ground []).run reads.flatten).2 = t
    rw [hr, encode, run_encodeChars ht, String.ofList_toList]

/-- `hé\tA` split into reads at its character boundaries. -/
theorem plain_text_split_at_boundaries :
    (∀ c ∈ "hé\tA".toList, keeps c = true) ∧ [[0x68, 0xC3, 0xA9], [0x09], [0x41]].flatten = encode "hé\tA" ∧
    (∀ i ≤ 3, ∃ k, ([[0x68, 0xC3, 0xA9], [0x09], [0x41]].take i).flatten = encodeChars ("hé\tA".toList.take k)) ∧
    String.join ((OutputDecoder.fresh false).texts [[0x68, 0xC3, 0xA9], [0x09], [0x41]]) = "hé\tA" ∧
    String.join ((OutputDecoder.fresh true).texts [[0x68, 0xC3, 0xA9], [0x09], [0x41]]) = "hé\tA" := by
  have ht : ∀ c ∈ "hé\tA".toList, keeps c = true := by simp [keeps]
  have hr : [[0x68, 0xC3, 0xA9], [0x09], [0x41]].flatten = encode "hé\tA" := by decide
  have hcut : ∀ i ≤ 3, ∃ k,
      ([[0x68, 0xC3, 0xA9], [0x09], [0x41]].take i).flatten = encodeChars ("hé\tA".toList.take k) := by
    intro i hi
    rcases i with _ | _ | _ | _ | i
    · exact ⟨0, by decide⟩
    · exact ⟨2, by decide⟩
    · exact ⟨3, by decide⟩
    · exact ⟨4, by decide⟩
    · omega
  obtain ⟨hraw, hsan⟩ := plain_text_read_back "hé\tA" ht _ hr
  exact ⟨ht, hr, hcut, hraw, hsan hcut⟩

/-- A read that ends inside a character can lose the next one: `éAé`
    split as `C3 | A9 41 C3 A9` comes through the stripping reader as `éé`,
    since finishing the held `é` reads a window of four bytes that ends
    inside the second `é` and passes over the `A` in it. -/
theorem split_character_skips_letter :
    (∀ c ∈ "éAé".toList, keeps c = true) ∧ [[0xC3], [0xA9, 0x41, 0xC3, 0xA9]].flatten = encode "éAé" ∧
    String.join ((OutputDecoder.fresh true).texts [[0xC3], [0xA9, 0x41, 0xC3, 0xA9]]) = "éé" :=
  ⟨by simp [keeps], by decide, by decide⟩

end ReplHost
