/-! # Session registries

  A registry maps display names to sessions (by reference), at most one
  session per name. Listing is by name, in byte order.
-/

namespace ReplHost

/-- Sessions by display name. -/
structure Registry where
  /-- The names and their sessions, each name once. -/
  items : List (String × Nat) := []
  deriving DecidableEq, Repr

namespace Registry

/-- The session under a name. -/
def find? (g : Registry) (name : String) : Option Nat := g.items.lookup name

/-- Puts a session under a name, replacing what was there. -/
def set (g : Registry) (name : String) (r : Nat) : Registry :=
  { items := g.items.filter (·.1 ≠ name) ++ [(name, r)] }

/-- Removes a name. -/
def erase (g : Registry) (name : String) : Registry := { items := g.items.filter (·.1 ≠ name) }

/-- The number of sessions. -/
def count (g : Registry) : Nat := g.items.length

/-- The entries in byte order of their names. -/
def sorted (g : Registry) : List (String × Nat) :=
  g.items.mergeSort (fun a b => decide (a.1 < b.1) || (a.1 = b.1 && decide (a.2 ≤ b.2)))

@[simp] theorem find?_set (g : Registry) (name : String) (r : Nat) :
    (g.set name r).find? name = some r := by
  simp [set, find?, List.lookup_append]
  induction g.items with
  | nil => simp
  | cons x xs ih =>
    obtain ⟨k, v⟩ := x
    by_cases h : k = name
    · simp [h, ih]
    · have hk : (name == k) = false := beq_eq_false_iff_ne.mpr (Ne.symm h)
      simp [h, List.lookup_cons, hk, ih]

end Registry

end ReplHost
