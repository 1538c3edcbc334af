import ReplHost.Text.Quoted

/-! # Session identifiers

  Every session gets a fresh number from a counter that only grows, shown as
  `con-` and at least eight lowercase hexadecimal digits (zero-padded).
  `SessionId.issue` hands out the next numbers of a counter; `wellFormed`
  recognises the shown form. `Survey` checks a run of issued identifiers the
  way a caller observes them: all well formed, each one above the previous
  by exactly one, and neighbours distinct.
-/

namespace ReplHost

/-- The identifier of a console session. -/
structure SessionId where
  /-- The counter value the identifier was issued from. -/
  value : Nat
  deriving DecidableEq, Repr

namespace SessionId

/-- Left-pads `s` with zeros to at least `width` characters. -/
def padZeros (width : Nat) (s : List Char) : List Char :=
  List.replicate (width - s.length) '0' ++ s

/-- The shown form: `con-` and the value in at least eight hexadecimal digits. -/
def render (id : SessionId) : String :=
  "con-" ++ String.ofList (padZeros 8 (Text.hexLower id.value).toList)

/-- Lowercase hexadecimal digits. -/
def isHexDigit (c : Char) : Bool := c.isDigit || ('a' ≤ c && c ≤ 'f')

/-- The shown form of some identifier. -/
def wellFormed (s : String) : Bool :=
  match s.toList with
  | 'c' :: 'o' :: 'n' :: '-' :: ds => 8 ≤ ds.length && ds.all isHexDigit
  | _ => false

/-- Issues `n` identifiers from a counter starting at `next`. -/
def issue (next : Nat) : Nat → List SessionId
  | 0 => []
  | n + 1 => ⟨next⟩ :: issue (next + 1) n

/-- Each identifier is one above the previous. -/
def consecutive : List SessionId → Bool
  | a :: b :: rest => b.value == a.value + 1 && consecutive (b :: rest)
  | _ => true

/-- Neighbouring identifiers differ. -/
def neighboursDistinct : List SessionId → Bool
  | a :: b :: rest => a != b && neighboursDistinct (b :: rest)
  | _ => true

/-- What a caller observes of a run of issued identifiers. -/
structure Survey where
  /-- Every identifier shows in the well-formed way. -/
  formatOk : Bool
  /-- Each identifier is one above the previous. -/
  consecutive : Bool
  /-- Neighbouring identifiers differ. -/
  distinct : Bool
  /-- How many identifiers were issued. -/
  count : Nat

/-- Surveys `n` identifiers issued from a counter starting at `next`. -/
def survey (next n : Nat) : Survey :=
  let ids := issue next n
  { formatOk := ids.all (fun id => wellFormed id.render)
    consecutive := consecutive ids
    distinct := neighboursDistinct ids
    count := ids.length }

theorem length_issue (next n : Nat) : (issue next n).length = n := by
  induction n generalizing next with
  | zero => rfl
  | succ n ih => simp [issue, ih]

end SessionId

end ReplHost
