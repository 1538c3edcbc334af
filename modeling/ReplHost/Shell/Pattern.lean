/-! # Shell patterns

  The patterns of `case` arms and of `${name%pattern}` and its kin: `*`
  matches any run of characters, `?` any one character, `[…]` one
  character of a class (ranges `a-z`; named classes such as `[:digit:]`,
  as the C locale defines them; `!` or `^` first negates it; a `]` first is
  a member), and every other character itself. Quoted characters
  and characters after a backslash always match only themselves.
-/

namespace ReplHost.Shell

/-- One element of a pattern. -/
inductive PatternItem where
  /-- A character that matches itself. -/
  | char (c : Char)
  /-- `?`: any one character. -/
  | one
  /-- `*`: any run of characters. -/
  | many
  /-- `[…]`: one character of ranges, or not of them. -/
  | oneOf (negated : Bool) (ranges : List (Char × Char))
  deriving DecidableEq, Repr

/-- A pattern. -/
abbrev Pattern := List PatternItem

/-- The named classes of the C locale, written `[:name:]` inside a class. -/
def namedClasses : List (String × List (Char × Char)) :=
  [("alnum", [('0', '9'), ('A', 'Z'), ('a', 'z')]),
   ("cntrl", [('\x00', '\x1f'), ('\x7f', '\x7f')]),
   ("lower", [('a', 'z')]),
   ("space", [('\x09', '\x0d'), (' ', ' ')]),
   ("alpha", [('A', 'Z'), ('a', 'z')]),
   ("digit", [('0', '9')]),
   ("print", [(' ', '~')]),
   ("upper", [('A', 'Z')]),
   ("blank", [('\x09', '\x09'), (' ', ' ')]),
   ("graph", [('!', '~')]),
   ("punct", [('!', '/'), (':', '@'), ('[', '\x60'), ('\x7b', '~')]),
   ("xdigit", [('0', '9'), ('A', 'F'), ('a', 'f')])]

/-- The named class that `cs` starts with, written `:name:]` (the text after
    its `[`): its ranges and the length of that text. -/
def namedClass? (cs : List Char) : Option (List (Char × Char) × Nat) :=
  namedClasses.findSome? fun (name, ranges) =>
    let shown := ':' :: name.toList ++ [':', ']']
    if cs.take shown.length = shown then some (ranges, shown.length) else none

/-- Reads the ranges of a class up to its closing `]`; `none` when there is
    no closing bracket. A `[` that does not start a named class is a
    member. -/
def classRanges (acc : List (Char × Char)) (first : Bool) : List Char → Option (List (Char × Char) × List Char)
  | [] => none
  | ']' :: rest => if first then classRanges (acc ++ [(']', ']')]) false rest else some (acc, rest)
  | a :: rest =>
    match (if a = '[' then namedClass? rest else none) with
    | some (ranges, n) => classRanges (acc ++ ranges) false (rest.drop n)
    | none =>
      match hr : rest with
      | '-' :: b :: more =>
        have : more.length < rest.length := by simp only [hr, List.length_cons]; omega
        if b = ']' then classRanges (acc ++ [(a, a)]) false rest
        else classRanges (acc ++ [(a, b)]) false more
      | _ => classRanges (acc ++ [(a, a)]) false rest
termination_by cs => cs.length
decreasing_by all_goals simp_all <;> omega

/-- Reads pattern text in which `*`, `?`, `[` and `\` are special. -/
def Pattern.ofActive : List Char → Pattern
  | [] => []
  | '*' :: rest => .many :: Pattern.ofActive rest
  | '?' :: rest => .one :: Pattern.ofActive rest
  | '\\' :: c :: rest => .char c :: Pattern.ofActive rest
  | '[' :: rest =>
    let (negated, body) := match rest with
      | '!' :: more => (true, more)
      | '^' :: more => (true, more)
      | more => (false, more)
    match classRanges [] true body with
    | some (ranges, after) =>
      if after.length < rest.length then .oneOf negated ranges :: Pattern.ofActive after
      else .char '[' :: Pattern.ofActive rest
    | none => .char '[' :: Pattern.ofActive rest
  | c :: rest => .char c :: Pattern.ofActive rest
termination_by cs => cs.length

/-- A pattern that matches text literally. -/
def Pattern.literal (s : String) : Pattern := s.toList.map .char

/-- Whether one pattern element matches one character. -/
def PatternItem.accepts (p : PatternItem) (c : Char) : Bool :=
  match p with
  | .char d => c = d
  | .one => true
  | .many => true
  | .oneOf negated ranges => negated != ranges.any fun (a, b) => a ≤ c && c ≤ b

/-- Whether a pattern matches the whole of a text. -/
def Pattern.matches : Pattern → List Char → Bool
  | [], t => t.isEmpty
  | .many :: ps, [] => Pattern.matches ps []
  | .many :: ps, c :: t => Pattern.matches ps (c :: t) || Pattern.matches (.many :: ps) t
  | _ :: _, [] => false
  | p :: ps, c :: t => p.accepts c && Pattern.matches ps t
termination_by p t => p.length + t.length

/-- Removes the shortest or longest prefix or suffix that a pattern
    matches; the text stays when none does. -/
def Pattern.trim (p : Pattern) (suffix longest : Bool) (text : String) : String :=
  let cs := text.toList
  let cuts := List.range (cs.length + 1)
  let order := if longest then cuts.reverse else cuts
  let hit := order.find? fun n =>
    if suffix then p.matches (cs.drop (cs.length - n)) else p.matches (cs.take n)
  match hit with
  | some n => String.ofList (if suffix then cs.take (cs.length - n) else cs.drop n)
  | none => text

end ReplHost.Shell
