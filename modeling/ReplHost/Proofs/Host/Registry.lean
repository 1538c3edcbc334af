import ReplHost.Session.Registry

/-! # Looking up names in a registry

  Setting a name replaces whatever was under it and leaves every other name
  as it was; erasing a name leaves nothing under it and every other name as
  it was.
-/

namespace ReplHost

namespace Registry

variable {n m : String}

theorem lookup_filter_self (l : List (String × Nat)) (n : String) :
    (l.filter (·.1 ≠ n)).lookup n = none := by
  induction l with
  | nil => rfl
  | cons p l ih =>
    obtain ⟨a, b⟩ := p
    by_cases ha : a = n
    · rw [List.filter_cons_of_neg (by simp [ha])]
      exact ih
    · rw [List.filter_cons_of_pos (by simpa using ha)]
      have hna : (n == a) = false := beq_eq_false_iff_ne.mpr (Ne.symm ha)
      simp only [List.lookup_cons, hna]
      exact ih

theorem lookup_filter_ne (l : List (String × Nat)) (h : m ≠ n) :
    (l.filter (·.1 ≠ n)).lookup m = l.lookup m := by
  induction l with
  | nil => rfl
  | cons p l ih =>
    obtain ⟨a, b⟩ := p
    by_cases ha : a = n
    · -- the dropped pair is not under `m`
      rw [List.filter_cons_of_neg (by simp [ha])]
      have hma : (m == a) = false := beq_eq_false_iff_ne.mpr (ha ▸ h)
      simp only [List.lookup_cons, hma]
      exact ih
    · rw [List.filter_cons_of_pos (by simpa using ha)]
      simp only [List.lookup_cons]
      split
      · rfl
      · exact ih

theorem find?_set_ne (g : Registry) (r : Nat) (h : m ≠ n) : (g.set n r).find? m = g.find? m := by
  have hmn : (m == n) = false := beq_eq_false_iff_ne.mpr h
  unfold set find?
  rw [List.lookup_append, lookup_filter_ne _ h]
  simp [List.lookup_cons, hmn]

@[simp] theorem find?_erase_self (g : Registry) (n : String) : (g.erase n).find? n = none :=
  lookup_filter_self g.items n

theorem find?_erase_ne (g : Registry) (h : m ≠ n) : (g.erase n).find? m = g.find? m :=
  lookup_filter_ne g.items h

/-! ### Registries that name each session once -/

/-- In pairs with distinct names, looking a name up finds exactly the pair
    of that name. -/
theorem lookup_eq_some_iff {l : List (String × Nat)} {t : Nat} (hnd : (l.map (·.1)).Nodup) :
    l.lookup n = some t ↔ (n, t) ∈ l := by
  induction l with
  | nil => simp
  | cons p l ih =>
    obtain ⟨a, b⟩ := p
    obtain ⟨hout, hnd⟩ := List.nodup_cons.mp hnd
    by_cases ha : n = a
    · subst ha
      -- no later pair bears the name
      have hnot : (n, t) ∉ l := fun hm => hout (List.mem_map.mpr ⟨(n, t), hm, rfl⟩)
      simp [hnot, eq_comm]
    · have hna : (n == a) = false := beq_eq_false_iff_ne.mpr ha
      simp [List.lookup_cons, hna, ha, ih hnd]

theorem find?_eq_some_iff {g : Registry} {t : Nat} (hnd : (g.items.map (·.1)).Nodup) :
    g.find? n = some t ↔ (n, t) ∈ g.items :=
  lookup_eq_some_iff hnd

theorem mem_set {g : Registry} {r t : Nat} :
    (m, t) ∈ (g.set n r).items ↔ ((m, t) ∈ g.items ∧ m ≠ n) ∨ (m = n ∧ t = r) := by
  simp [set]

theorem mem_erase {g : Registry} {t : Nat} : (m, t) ∈ (g.erase n).items ↔ (m, t) ∈ g.items ∧ m ≠ n := by
  simp [erase]

theorem nodup_filter {g : Registry} (hnd : (g.items.map (·.1)).Nodup) (q : String × Nat → Bool) :
    ((g.items.filter q).map (·.1)).Nodup :=
  hnd.sublist ((List.filter_sublist).map _)

theorem nodup_set {g : Registry} (hnd : (g.items.map (·.1)).Nodup) (r : Nat) :
    ((g.set n r).items.map (·.1)).Nodup := by
  have hf := nodup_filter hnd (fun p => decide (p.1 ≠ n))
  -- the name set is not among the names kept
  have hout : n ∉ (g.items.filter fun p => decide (p.1 ≠ n)).map (·.1) := by simp
  simp only [set, List.map_append, List.map_cons, List.map_nil]
  exact List.nodup_append.mpr ⟨hf, by simp, fun a ha b hb => by
    simp only [List.mem_singleton] at hb
    subst hb
    exact fun hab => hout (hab ▸ ha)⟩

end Registry

end ReplHost
