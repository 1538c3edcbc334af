import ReplHost.Output.Sanitizer

/-! # Stripping in reads

  The sanitizer's state survives between reads, and a read runs the parser
  byte by byte, except when the parser holds part of a character split by
  the end of the previous read (`VtState.holdsPartial`). Then the character
  is finished through `VtState.resume`, which reads a window of the new
  bytes, prints the finished character as it is, and passes over every byte
  of the window after it when the window goes on to an invalid subpart.

  So the kept text does not depend on where the reads are split as long as
  no read ends inside such a character (`feedAll_eq_strip`), and may depend
  on it otherwise: `0xC3 | 0xA9 0x20 0x82` keeps `é` where the whole `0xC3 0xA9 0x20 0x82`
  keeps `é ` (`split_character_drops_space`).
-/

namespace ReplHost

namespace VtState

/-- Whether the parser holds part of a character split by the end of a read. -/
def holdsPartial : VtState → Bool
  | ground (_ :: _) => true
  | _ => false

/-- A read that finds no split character runs the parser byte by byte. -/
theorem feed_of_not_holdsPartial {s : VtState} (h : s.holdsPartial = false) (bytes : List UInt8) :
    s.feed bytes = s.run bytes := by
  cases s with
  | ground p =>
    cases p with
    | nil => rfl
    | cons b more => simp [holdsPartial] at h
  | _ => rfl

end VtState

namespace Sanitizer

/-- Reads that never end inside a character the parser holds keep the text
    of running the parser over all of them at once. -/
theorem feedAll_text (z : Sanitizer) (chunks : List (List UInt8))
    (h : ∀ i ≤ chunks.length, (z.state.run (chunks.take i).flatten).1.holdsPartial = false) :
    String.join (z.feedAll chunks).2 = String.ofList (z.state.run chunks.flatten).2 := by
  induction chunks generalizing z with
  | nil => rfl
  | cons c cs ih =>
    -- before the first read the parser is in `z`'s state, which holds nothing
    have h₀ : z.state.holdsPartial = false := by simpa [VtState.run] using h 0 (Nat.zero_le _)
    have hfeed : z.feed c = ({ state := (z.state.run c).1 }, String.ofList (z.state.run c).2) := by
      simp [feed, VtState.feed_of_not_holdsPartial h₀]
    -- the later reads start where running over the first one ends
    have hrest : ∀ i ≤ cs.length,
        ((z.state.run c).1.run (cs.take i).flatten).1.holdsPartial = false := by
      intro i hi
      simpa [VtState.run_append] using h (i + 1) (by simp; omega)
    simp only [feedAll, String.join_cons, hfeed]
    rw [ih { state := (z.state.run c).1 } hrest]
    simp [VtState.run_append, String.ofList_append]

end Sanitizer

/-- However output is split into reads, as long as no read ends inside a
    character the parser holds, the texts the sanitizer keeps read by read
    make up the text that stripping the whole output keeps. -/
theorem feedAll_eq_strip (chunks : List (List UInt8))
    (h : ∀ i ≤ chunks.length, (VtState.initial.run (chunks.take i).flatten).1.holdsPartial = false) :
    String.join (({} : Sanitizer).feedAll chunks).2 = Sanitizer.strip chunks.flatten := by
  rw [Sanitizer.feedAll_text {} chunks h]
  simp [Sanitizer.strip, Sanitizer.feed, VtState.feed, VtState.initial]

/-- A CSI sequence split between two reads is still removed. -/
theorem split_sequence_removed :
    (∀ i ≤ 2, (VtState.initial.run
        ([[0x6F, 0x6B, 0x1B, 0x5B, 0x33], [0x31, 0x6D, 0x72, 0x65, 0x64]].take i).flatten).1.holdsPartial =
      false) ∧
    String.join (({} : Sanitizer).feedAll [[0x6F, 0x6B, 0x1B, 0x5B, 0x33], [0x31, 0x6D, 0x72, 0x65, 0x64]]).2 =
      Sanitizer.strip [[0x6F, 0x6B, 0x1B, 0x5B, 0x33], [0x31, 0x6D, 0x72, 0x65, 0x64]].flatten := by
  have h : ∀ i ≤ 2, (VtState.initial.run
      ([[0x6F, 0x6B, 0x1B, 0x5B, 0x33], [0x31, 0x6D, 0x72, 0x65, 0x64]].take i).flatten).1.holdsPartial =
      false := by decide
  exact ⟨h, feedAll_eq_strip _ h⟩

/-- A character split between reads and followed, within four bytes, by an
    invalid byte loses what lies between: `0xC3 | 0xA9 0x20 0x82` keeps `é`, while
    the whole `0xC3 0xA9 0x20 0x82` keeps `é ` (the stray `0x82` is an 8-bit control,
    executed either way). -/
theorem split_character_drops_space :
    String.join (({} : Sanitizer).feedAll [[0xC3], [0xA9, 0x20, 0x82]]).2 ≠
      Sanitizer.strip [[0xC3], [0xA9, 0x20, 0x82]].flatten := by
  decide

end ReplHost
