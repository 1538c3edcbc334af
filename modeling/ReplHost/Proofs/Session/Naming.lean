import ReplHost.Session.Title
import Mathlib.Order.Bounds.Basic

/-! # Numbering the names of new consoles

  `Title.next base names` is the display name of a new console. Said without
  the reader it uses: a name *claims* an index under `base` when it is `base`
  itself (index 1) or `base (s)` where `s` reads as an unsigned 64-bit word,
  with an optional `+` and leading zeros (`Title.Claims`). The next name is
  `base` when no name claims an index, and otherwise `base (m + 1)` for the
  largest index `m` claimed, the increment stopping at `2^64 - 1`.

  The one way the next name can repeat a name in use is that saturation: it
  does exactly when `base (18446744073709551615)` is in use.

  Main statements:
  - `Title.indexOf?_eq_some_iff`: the reader finds exactly the claimed index;
  - `Title.maxIndex?_eq_some_iff`: the scan over the names finds the largest;
  - `Title.next_after_largest_index`: what the next name is, and when it is in use.
-/

namespace ReplHost

namespace Decimal

/-! ### Numerals read back -/

theorem valueOf_append (ds es : List Char) :
    valueOf (ds ++ es) = es.foldl (fun acc c => 10 * acc + digitValue c) (valueOf ds) := by
  simp [valueOf, List.foldl_append]

theorem digitValue_digitChar {d : Nat} (hd : d < 10) : digitValue (Nat.digitChar d) = d := by
  have hall : ∀ d < 10, digitValue (Nat.digitChar d) = d := by decide
  exact hall d hd

/-- The digits `Nat.toDigits` writes have the number as their value. -/
theorem valueOf_toDigits (n : Nat) : valueOf (Nat.toDigits 10 n) = n := by
  induction n using Nat.strong_induction_on with
  | _ n ih =>
    by_cases hn : n < 10
    · rw [Nat.toDigits_of_lt_base hn]
      simp [valueOf, digitValue_digitChar hn]
    · -- the last digit is written after the digits of `n / 10`
      have hmod : n % 10 < 10 := Nat.mod_lt n (by decide)
      have hsplit := Nat.toDigits_append_toDigits (b := 10) (n := n / 10) (d := n % 10)
        (by decide) (Nat.div_pos (by omega) (by decide)) hmod
      rw [Nat.div_add_mod] at hsplit
      rw [← hsplit, Nat.toDigits_of_lt_base hmod, valueOf_append,
        ih (n / 10) (Nat.div_lt_self (by omega) (by decide))]
      simp only [List.foldl_cons, List.foldl_nil, digitValue_digitChar hmod]
      omega

/-- A word reads back from its numeral. -/
theorem readWord?_render {n : Nat} (hn : n ≤ wordMax) : readWord? (render n) = some n := by
  have hdigits : ∀ c ∈ Nat.toDigits 10 n, c.isDigit = true :=
    fun _ hc => Nat.isDigit_of_mem_toDigits (by decide) (by decide) hc
  have hread : readDigits? (Nat.toDigits 10 n) = some n := by
    simp [readDigits?, Nat.toDigits_ne_nil, List.all_eq_true.2 hdigits, valueOf_toDigits, hn]
  unfold readWord? render
  rw [String.toList_ofList]
  split
  · -- a numeral does not start with a sign
    rename_i ds hds
    have hplus := hdigits '+' (by rw [hds]; exact List.mem_cons_self)
    simp at hplus
  · exact hread

/-- The numeral of the largest word. -/
theorem render_wordMax : render wordMax = "18446744073709551615" := by
  have hdigits : Nat.toDigits 10 wordMax = "18446744073709551615".toList := by decide
  rw [render, hdigits, String.ofList_toList]

end Decimal

namespace Text

theorem stripSuffix?_eq_some_iff {s xs r : List Char} : stripSuffix? s xs = some r ↔ xs = r ++ s := by
  unfold stripSuffix?
  constructor
  · intro h
    obtain ⟨r', hr', rfl⟩ := Option.map_eq_some_iff.mp h
    rw [← List.reverse_reverse xs, stripPrefix?_eq_some_iff.mp hr']
    simp
  · rintro rfl
    rw [List.reverse_append, stripPrefix?_append]
    simp

end Text

namespace Title

open Text

/-! ### The index a name claims -/

/-- The index a name claims under `base`: the base itself claims 1, and
    `base (s)` claims the word `s` reads as. -/
inductive Claims (base : String) : String → Nat → Prop
  | base : Claims base base 1
  | numbered {s : String} {k : Nat} : Decimal.readWord? s = some k →
      Claims base (base ++ " (" ++ s ++ ")") k

/-- The indices some name of `names` claims under `base`. -/
def claimedIndices (base : String) (names : List String) : Set Nat :=
  {k | ∃ name ∈ names, Claims base name k}

theorem toList_numbered_form (base s : String) :
    (base ++ " (" ++ s ++ ")").toList = base.toList ++ ' ' :: '(' :: (s.toList ++ [')']) := by
  simp [String.toList_append]

/-- The reader finds an index in a name exactly when the name claims it. -/
theorem indexOf?_eq_some_iff {base name : String} {k : Nat} :
    indexOf? base name = some k ↔ Claims base name k := by
  constructor
  · intro h
    cases hp : stripPrefix? base.toList name.toList with
    | none => simp [indexOf?, hp] at h
    | some rest =>
      have hname := stripPrefix?_eq_some_iff.mp hp
      by_cases hr : rest = []
      · -- nothing follows the base: the name is the base
        simp only [indexOf?, hp, hr, Option.bind_eq_bind, Option.bind_some, if_true,
          Option.some.injEq] at h
        subst h hr
        rw [List.append_nil, String.toList_inj] at hname
        rw [hname]
        exact .base
      · cases hi : stripPrefix? [' ', '('] rest with
        | none => simp [indexOf?, hp, hr, hi] at h
        | some inner =>
          cases hd : stripSuffix? [')'] inner with
          | none => simp [indexOf?, hp, hr, hi, hd] at h
          | some digits =>
            simp only [indexOf?, hp, hr, hi, hd, Option.bind_eq_bind, Option.bind_some, if_false] at h
            have hform : name = base ++ " (" ++ String.ofList digits ++ ")" := by
              rw [← String.toList_inj, toList_numbered_form, String.toList_ofList, hname,
                stripPrefix?_eq_some_iff.mp hi, stripSuffix?_eq_some_iff.mp hd]
              rfl
            rw [hform]
            exact .numbered h
  · rintro (_ | @⟨s, k, hs⟩)
    · have hself : stripPrefix? base.toList base.toList = some [] := by
        simpa using stripPrefix?_append base.toList []
      simp [indexOf?, hself]
    · have hinner : stripPrefix? [' ', '('] (' ' :: '(' :: (s.toList ++ [')'])) =
          some (s.toList ++ [')']) := stripPrefix?_append _ _
      have hdigits : stripSuffix? [')'] (s.toList ++ [')']) = some s.toList :=
        stripSuffix?_eq_some_iff.mpr rfl
      simp [indexOf?, stripPrefix?_append, hinner, hdigits, hs]

theorem mem_claimedIndices {base : String} {names : List String} {k : Nat} :
    k ∈ claimedIndices base names ↔ k ∈ names.filterMap (indexOf? base) := by
  simp [claimedIndices, List.mem_filterMap, indexOf?_eq_some_iff]

/-- Every claimed index is a word. -/
theorem claimed_le_wordMax {base : String} {names : List String} {k : Nat}
    (hk : k ∈ claimedIndices base names) : k ≤ Decimal.wordMax := by
  obtain ⟨_, -, hc⟩ := hk
  cases hc with
  | base => decide
  | numbered hs => exact Decimal.readWord?_le hs

/-! ### The largest index claimed -/

/-- The scan keeps the larger of the index a name claims and the best so
    far; from any start it ends with the largest of all. -/
theorem foldl_merge_max (base : String) (names : List String) (best : Option Nat) :
    names.foldl (fun best name => (indexOf? base name).merge max best) best =
      (best.toList ++ names.filterMap (indexOf? base)).max? := by
  induction names generalizing best with
  | nil => cases best <;> rfl
  | cons name rest ih =>
    rw [List.foldl_cons, ih, List.filterMap_cons]
    cases hi : indexOf? base name with
    | none => cases best <;> rfl
    | some k =>
      cases best with
      | none => rfl
      | some b =>
        -- both sides take the maximum of `b`, `k` and the rest
        simp only [Option.merge, Option.toList_some, List.cons_append, List.nil_append, List.max?_cons]
        cases (rest.filterMap (indexOf? base)).max? <;> simp only [Option.elim, Option.some.injEq] <;> omega

theorem maxIndex?_eq_max? (base : String) (names : List String) :
    maxIndex? base names = (names.filterMap (indexOf? base)).max? := by
  have hmerge := foldl_merge_max base names none
  rw [Option.toList_none, List.nil_append] at hmerge
  rw [← hmerge, maxIndex?]
  -- the scan's step is the merge by `max`
  congr 1
  funext best name
  cases indexOf? base name <;> cases best <;> rfl

theorem maxIndex?_eq_none_iff {base : String} {names : List String} :
    maxIndex? base names = none ↔ claimedIndices base names = ∅ := by
  rw [maxIndex?_eq_max?, List.max?_eq_none_iff, Set.eq_empty_iff_forall_notMem,
    List.eq_nil_iff_forall_not_mem]
  simp only [mem_claimedIndices]

theorem maxIndex?_eq_some_iff {base : String} {names : List String} {m : Nat} :
    maxIndex? base names = some m ↔ IsGreatest (claimedIndices base names) m := by
  rw [maxIndex?_eq_max?, List.max?_eq_some_iff]
  simp only [IsGreatest, upperBounds, Set.mem_ofPred_eq, mem_claimedIndices]

/-! ### The next name -/

theorem numbered_ne_base (base : String) (n : Nat) : numbered base n ≠ base := by
  intro h
  have hlen := congrArg (fun t : String => t.toList.length) h
  simp [numbered, String.toList_append] at hlen

/-- A numbered name claims its number, when that is a word. -/
theorem claims_numbered {base : String} {n : Nat} (hn : n ≤ Decimal.wordMax) :
    Claims base (numbered base n) n :=
  .numbered (Decimal.readWord?_render hn)

theorem numbered_wordMax (base : String) :
    numbered base Decimal.wordMax = base ++ " (18446744073709551615)" := by
  simp [numbered, Decimal.render_wordMax, String.append_assoc]

/-- The next name is the base when no name claims an index, and otherwise
    the base numbered one past the largest index claimed, the increment
    stopping at `2^64 - 1`. -/
theorem next_cases (base : String) (names : List String) :
    (claimedIndices base names = ∅ ∧ next base names = base) ∨
      ∃ m, IsGreatest (claimedIndices base names) m ∧ next base names = numbered base (Decimal.succSat m) := by
  cases hmax : maxIndex? base names with
  | none => exact .inl ⟨maxIndex?_eq_none_iff.mp hmax, by simp [next, hmax]⟩
  | some m => exact .inr ⟨m, maxIndex?_eq_some_iff.mp hmax, by simp [next, hmax]⟩

theorem next_eq_base_iff {base : String} {names : List String} :
    next base names = base ↔ claimedIndices base names = ∅ := by
  rcases next_cases base names with ⟨hnone, hnext⟩ | ⟨m, hgreat, hnext⟩
  · simp [hnext, hnone]
  · have hne : claimedIndices base names ≠ ∅ := Set.nonempty_iff_ne_empty.mp ⟨m, hgreat.1⟩
    simp [hnext, numbered_ne_base, hne]

/-- The next name is in use exactly when the base numbered with the largest
    word is: only there does the increment have nowhere to go. -/
theorem next_mem_iff {base : String} {names : List String} :
    next base names ∈ names ↔ numbered base Decimal.wordMax ∈ names := by
  rcases next_cases base names with ⟨hnone, hnext⟩ | ⟨m, hgreat, hnext⟩
  · -- the base itself would claim 1, and a numbered name its number
    rw [hnext]
    constructor
    · intro hmem
      have h1 : 1 ∈ claimedIndices base names := ⟨base, hmem, .base⟩
      simp [hnone] at h1
    · intro hmem
      have hw : Decimal.wordMax ∈ claimedIndices base names := ⟨_, hmem, claims_numbered le_rfl⟩
      simp [hnone] at hw
  · have hm := claimed_le_wordMax hgreat.1
    rw [hnext]
    constructor
    · -- a name in use claims its number, which is then at most `m`: so `m` is the largest word
      intro hmem
      have hsucc : Decimal.succSat m ≤ Decimal.wordMax := Nat.min_le_right _ _
      have hle := hgreat.2 ⟨_, hmem, claims_numbered hsucc⟩
      have heq : Decimal.succSat m = Decimal.wordMax := by
        simp only [Decimal.succSat] at hle ⊢
        omega
      rwa [heq] at hmem
    · intro hmem
      have hle := hgreat.2 ⟨_, hmem, claims_numbered le_rfl⟩
      have heq : Decimal.succSat m = Decimal.wordMax := by
        simp only [Decimal.succSat]
        omega
      rwa [heq]

/-- The next name is the base when no name claims an index, and otherwise
    the base numbered one past the largest index claimed, the increment
    stopping at `2^64 - 1`. It is `base` exactly when no name claims an
    index, and it is a name in use exactly when `base (18446744073709551615)`
    is in use. -/
theorem next_after_largest_index (base : String) (names : List String) :
    ((claimedIndices base names = ∅ ∧ next base names = base) ∨
      ∃ m, IsGreatest (claimedIndices base names) m ∧
        next base names = base ++ " (" ++ Decimal.render (min (m + 1) Decimal.wordMax) ++ ")") ∧
    (next base names = base ↔ claimedIndices base names = ∅) ∧
    (next base names ∈ names ↔ base ++ " (18446744073709551615)" ∈ names) :=
  ⟨next_cases base names, next_eq_base_iff, numbered_wordMax base ▸ next_mem_iff⟩

end Title

end ReplHost
