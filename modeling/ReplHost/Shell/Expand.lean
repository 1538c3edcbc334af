import ReplHost.Shell.Grammar
import ReplHost.Shell.Arithmetic
import ReplHost.Shell.Pattern
import ReplHost.Text.Decimal

/-! # Shell command language: expansion

  A word becomes fields in two steps. First each piece gives its text:
  parameters their value (empty when unset) as their form says, arithmetic
  its value in decimal, command substitution the command's output without
  its trailing line breaks, a leading `~` the home directory. Then the text
  that came from unquoted expansions is split at the field separators
  (space, tab and line break unless `IFS` says otherwise); quoted text and
  bare text are never split. A word that gives no text and had no quotes
  gives no field at all, and `"$@"` gives one field per positional
  parameter.

  Expansion may assign variables (`${name=word}`), may fail
  (`${name?word}`), and runs command substitutions, which may write
  errors; `Expansion` collects these effects.

  The text of an arithmetic expansion has its parameters and command
  substitutions expanded before it is evaluated.
-/

namespace ReplHost.Shell

/-- What expansion reads parameters from. -/
structure Scope where
  /-- Shell variables. -/
  vars : List (String × String)
  /-- Positional parameters `$1` …. -/
  args : List String := []
  /-- The shell's name, `$0`. -/
  arg0 : String := "sh"
  /-- The status of the last command, `$?`. -/
  status : Nat := 0
  /-- The shell's process number, `$$`. -/
  pid : Nat := 1
  /-- The letters of the options that are on, `$-`. -/
  options : String := ""
  /-- The variables that cannot be assigned. -/
  readonly : List String := []

namespace Scope

/-- What joins the positional parameters in `$*` outside fields: the first
    separator character, a space when the separators are not set, and
    nothing when they are set empty. -/
def joiner (s : Scope) : String :=
  match s.vars.lookup "IFS" with
  | some ifs => (ifs.toList.head?.map String.singleton).getD ""
  | none => " "

/-- The value of a parameter, when it is set. -/
def lookup? (s : Scope) (name : String) : Option String :=
  match name with
  | "?" => some (Decimal.render s.status)
  | "#" => some (Decimal.render s.args.length)
  | "0" => some s.arg0
  | "$" => some (Decimal.render s.pid)
  | "!" => none
  | "-" => some s.options
  | "@" | "*" => some (s.joiner.intercalate s.args)
  | _ =>
    match name.toNat? with
    | some n => if n = 0 then some s.arg0 else s.args[n - 1]?
    | none => s.vars.lookup name

/-- The value of a parameter; empty when unset. -/
def param (s : Scope) (name : String) : String := (s.lookup? name).getD ""

/-- The field separators. -/
def separators (s : Scope) : List Char := ((s.vars.lookup "IFS").getD " \t\n").toList

end Scope

/-! ### Fields -/

/-- Whether a separator character is a blank: blanks around a separator
    belong to it, and blanks at the ends of the text separate nothing. -/
def isIfsBlank (c : Char) : Bool := c = ' ' || c = '\t' || c = '\n'

/-- Fields being built: those finished, the one being built, whether it
    has begun (it has text, or quotes that keep it even when empty), and,
    right after a separator inside an expansion, whether that separator
    has had only blanks so far (`some true`) or already its one character
    that is not a blank (`some false`). -/
structure Fields where
  done : List String := []
  current : String := ""
  begun : Bool := false
  separating : Option Bool := none

namespace Fields

/-- Adds text that is not split; `forced` begins the field even when the
    text is empty, as quotes do. -/
def addText (f : Fields) (t : String) (forced : Bool) : Fields :=
  { f with current := f.current ++ t, begun := f.begun || forced || !t.isEmpty, separating := none }

/-- Ends the field being built, even an empty one, as between the
    parameters of a quoted `$@`. -/
def close (f : Fields) : Fields := { done := f.done ++ [f.current] }

/-- A separator character inside an expansion, a blank or not. It belongs
    to the separator before it when that one has had only blanks, or when
    it is a blank itself. Else it ends the field being built, unless it is
    a blank before any text of the field. -/
def separate (f : Fields) (blank : Bool) : Fields :=
  match f.separating with
  | some true => if blank then f else { f with separating := some false }
  | some false => if blank then f else startSeparator f blank
  | none => startSeparator f blank
where
  /-- A separator character that starts a separator. -/
  startSeparator (f : Fields) (blank : Bool) : Fields :=
    if blank && !f.begun then f
    else { done := f.done ++ [f.current], separating := some blank }

/-- Adds one character of an expansion that is split at the characters of
    `ifs`. -/
def addSplitChar (ifs : List Char) (f : Fields) (c : Char) : Fields :=
  if ifs.contains c then f.separate (isIfsBlank c)
  else { f with current := f.current.push c, begun := true, separating := none }

/-- Adds text of an expansion that is split at the characters of `ifs`; a
    separator does not go on past the end of the expansion, which is the
    end of this text unless `more` of the expansion follows. -/
def addSplit (f : Fields) (ifs : List Char) (t : String) (more : Bool) : Fields :=
  let f := t.toList.foldl (addSplitChar ifs) f
  if more then f else { f with separating := none }

/-- The fields, the one being built included when it has begun. -/
def finish (f : Fields) : List String := if f.begun then f.done ++ [f.current] else f.done

end Fields

/-- Where the last field of `read` ends, found while its characters are
    read: where the text would be cut if it ended here, whether the first
    separator was seen, whether the separator so far has only blanks, and
    whether the character before may also separate (escaped characters
    break the text into stretches). -/
structure LastCut where
  cut : Option Nat := none
  separated : Bool := false
  blanks : Bool := false
  inStretch : Bool := false

/-- Reads character `k` of the last field. The first separator is where
    the text is cut: after one field, its separator goes. From there on, a
    blank keeps the cut or makes one, a separator that is not a blank keeps
    it only as the one such character of a separator begun with blanks in
    the same stretch, and any other character takes the cut away. What is
    cut off is thus the blanks at the end, and the separator of the text
    when it is one field. -/
def LastCut.step (ifs : List Char) (st : LastCut) (k : Nat) (p : Char × Bool) : LastCut :=
  if !p.2 then { st with inStretch := false }
  else
    let st := { st with blanks := st.inStretch && st.blanks, inStretch := true }
    let sep := ifs.contains p.1
    let blank := sep && isIfsBlank p.1
    if !st.separated then
      if sep then { st with cut := some k, blanks := blank, separated := true } else st
    else if blank then { st with cut := st.cut.or (some k) }
    else { st with cut := if sep && st.blanks then st.cut else none, blanks := false }

/-- The text the last variable of `read` takes from the rest of the line. -/
def lastField (ifs : List Char) (items : List (Char × Bool)) : String :=
  let st := items.zipIdx.foldl (fun (st : LastCut) (p, k) => st.step ifs k p) {}
  String.ofList ((items.take (st.cut.getD items.length)).map (·.1))

/-- Reads fields from a line for `read`, into `count` variables. Each
    character comes with whether it may separate fields (one escaped by a
    backslash may not). Blanks at the start go; the fields are split as
    expansions are, and the last variable takes the rest of the line (see
    `lastField`). -/
def readFields (ifs : List Char) (count : Nat) (line : List (Char × Bool)) : List String :=
  let sep := fun (p : Char × Bool) => p.2 && ifs.contains p.1
  let blank := fun (p : Char × Bool) => sep p && isIfsBlank p.1
  let rec go (n : Nat) (rest : List (Char × Bool)) : List String :=
    match n with
    | 0 => []
    | 1 => [lastField ifs rest]
    | n + 2 =>
      if rest.isEmpty then List.replicate (n + 2) ""
      else
        let field := rest.takeWhile (!sep ·)
        let after := rest.dropWhile (!sep ·)
        let after := match after with
          | d :: more =>
            if blank d then
              let more := more.dropWhile blank
              match more with
              | e :: more' => if sep e && !blank e then more'.dropWhile blank else more
              | [] => []
            else more.dropWhile blank
          | [] => []
        String.ofList (field.map (·.1)) :: go (n + 1) after
  go count (line.dropWhile blank)

/-- Removes trailing line breaks. -/
def dropTrailingNewlines (s : String) : String :=
  String.ofList (s.toList.reverse.dropWhile (· = '\n')).reverse

/-- What running a command substitution gives: its output, what it wrote
    to standard error, and its status. -/
structure Captured where
  out : String
  err : List UInt8 := []
  status : Nat := 0

/-- The effects of expanding words: variables assigned, errors written,
    the status of the last command substitution, and a failure. -/
structure Expansion where
  assigned : List (String × String) := []
  err : List UInt8 := []
  substStatus : Option Nat := none
  failure : Option String := none

/-- A piece of expanded text: whether it may be split, and whether it keeps
    an empty field. A joint stands between two positional parameters of
    `$@` or `$*`: in plain text it is their joining text; in fields it ends
    a field, always for a quoted `"$@"` (not `split`), and as a blank
    separator would otherwise. The parameters and joints of one `$*` are
    one expansion, however many segments they take. -/
structure Segment where
  text : String
  split : Bool
  forced : Bool
  joint : Bool := false
  /-- Whether the expansion goes on in the next segment. -/
  more : Bool := false

/-- Text that is never split, kept as a field even when empty if `forced`. -/
def Segment.plain (text : String) (forced : Bool) : Segment := { text, split := false, forced }

/-- Text of an expansion, split unless quoted. -/
def Segment.expanded (text : String) (quoted : Bool) : Segment := { text, split := !quoted, forced := quoted }

/-- The message of `${name?word}` when the parameter is unset: the word, or
    a standard text when the word is empty. -/
def unsetMessage (name word : String) (colon : Bool) : String :=
  name ++ ": " ++
    (if word.isEmpty then "parameter not set" ++ (if colon then " or null" else "") else word)

/-- Expands words with a scope and a way to run command substitutions. -/
structure Expander where
  scope : Scope
  run : String → Captured
  /-- The home directory of a user, or the shell's own for the empty name;
      none leaves the `~` as it is. -/
  homeOf : String → Option String := fun _ => none
  /-- Whether an unset parameter is an error (`set -u`). -/
  nounset : Bool := false

namespace Expander

/-- The scope with the variables assigned so far. -/
def current (x : Expander) (e : Expansion) : Scope :=
  { x.scope with
    vars := e.assigned.foldl (fun vs (n, v) => vs.filter (·.1 ≠ n) ++ [(n, v)]) x.scope.vars }

mutual

/-- The segments a word gives; `outer` when it stands in double quotes as a
    whole. -/
def segments (x : Expander) (outer : Bool) (e : Expansion) : Word → (fuel : Nat) →
    List Segment × Expansion
  | _, 0 => ([], e)
  | [], _ + 1 => ([], e)
  | p :: ps, fuel + 1 =>
    let (a, e) := pieceSegments x outer e p fuel
    let (b, e) := segments x outer e ps fuel
    (a ++ b, e)

/-- The segments one piece gives. -/
def pieceSegments (x : Expander) (outer : Bool) (e : Expansion) (p : Piece) :
    (fuel : Nat) → List Segment × Expansion
  | 0 => ([], e)
  | fuel + 1 =>
    match p with
    | .bare s => ([.plain s outer], e)
    | .quoted s => ([.plain s true], e)
    | .home u =>
      match x.homeOf u with
      | some h => ([.plain h true], e)
      | none => ([.plain ("~" ++ u) outer], e)
    | .arith expr q =>
      let (text, e) := match doubleQuoted [] (expr.toList ++ ['"']) (expr.length + 2) with
        | .ok (w, _) =>
          let (segs, e) := segments x true e w fuel
          (String.join (segs.map (·.text)), e)
        | .error _ => (expr, e)
      match arith (x.current e).lookup? text with
      | .ok (v, assigned) =>
        let locked := assigned.find? fun (p : String × String) => x.scope.readonly.contains p.1
        match locked with
        | some p => ([], { e with failure := e.failure.or (some (p.1 ++ ": is read only")) })
        | none =>
          ([.expanded (Decimal.renderInt v) (q || outer)], { e with assigned := e.assigned ++ assigned })
      | .error err => ([], { e with failure := e.failure.or (some (err.message text)) })
    | .subst src q =>
      let c := x.run src
      ([.expanded (dropTrailingNewlines c.out) (q || outer)],
        { e with err := e.err ++ c.err, substStatus := some c.status })
    | .param name op q =>
      let quoted := q || outer
      let s := x.current e
      let value := s.lookup? name
      let strict := x.nounset && value.isNone && name ≠ "@" && name ≠ "*"
      match op with
      | .plain | .length =>
        if strict then ([], { e with failure := e.failure.or (some (name ++ ": parameter not set")) })
        else if op matches .length then ([.expanded (Decimal.render (value.getD "").length) quoted], e)
        else if (name = "@" && quoted) || (name = "*" && !quoted) || (name = "@" && !quoted) then
          let joint : Segment := { text := s.joiner, split := !quoted, forced := false, joint := true, more := true }
          (s.args.zipIdx.flatMap fun (a, i) =>
            (if i > 0 then [joint] else []) ++
              [{ Segment.expanded a quoted with more := i + 1 < s.args.length }], e)
        else ([.expanded (value.getD "") quoted], e)
      | .test kind colon w =>
        let unset := match value with
          | none => true
          | some v => colon && v.isEmpty
        if kind = '+' then
          if unset then ([], e) else segments x quoted e w fuel
        else if !unset then ([.expanded (value.getD "") quoted], e)
        else if kind = '-' then segments x quoted e w fuel
        else
          let (segs, e) := segments x true e w fuel
          let text := String.join (segs.map (·.text))
          if kind = '=' then
            if x.scope.readonly.contains name then
              ([], { e with failure := e.failure.or (some (name ++ ": is read only")) })
            else ([.expanded text quoted], { e with assigned := e.assigned ++ [(name, text)] })
          else
            ([], { e with failure := e.failure.or (some (unsetMessage name text colon)) })
      | .trim suffix longest w =>
        let (pat, e) := pattern x e w fuel
        ([.expanded (pat.trim suffix longest (value.getD "")) quoted], e)
      | .malformed => ([], { e with failure := e.failure.or (some "Bad substitution") })

/-- The pattern a word gives: quoted text matches only itself. -/
def pattern (x : Expander) (e : Expansion) : Word → (fuel : Nat) → Pattern × Expansion
  | _, 0 => ([], e)
  | [], _ + 1 => ([], e)
  | p :: ps, fuel + 1 =>
    let (a, e) := match p with
      | .bare s => (Pattern.ofActive s.toList, e)
      | .quoted s => (Pattern.literal s, e)
      | other =>
        let (segs, e) := pieceSegments x false e other fuel
        (Pattern.ofActive (String.join (segs.map (·.text))).toList, e)
    let (b, e) := pattern x e ps fuel
    (a ++ b, e)

end

/-- The fuel expansion of a word needs: each piece nests at most its own
    size deep. -/
def fuelFor (w : Word) : Nat := 64 * (w.length + 1) + 4096

/-- Whether a word is `"$@"` and nothing else. -/
def allArgs? (w : Word) : Bool :=
  match w.filter (fun p => match p with | .quoted "" => false | _ => true) with
  | [.param "@" .plain true] => true
  | _ => false

/-- The fields of a word. -/
def fields (x : Expander) (e : Expansion) (w : Word) : List String × Expansion :=
  if allArgs? w then ((x.current e).args, e)
  else
    let (segs, e) := segments x false e w (fuelFor w)
    let seps := (x.current e).separators
    let f := segs.foldl (fun (f : Fields) s =>
      if s.joint then (if s.split then f.separate true else f.close)
      else if s.split then f.addSplit seps s.text s.more else f.addText s.text s.forced) {}
    (f.finish, e)

/-- The fields of several words, in order. -/
def fieldsOf (x : Expander) (e : Expansion) (ws : List Word) : List String × Expansion :=
  ws.foldl (fun (acc : List String × Expansion) w =>
    let (fs, e) := x.fields acc.2 w
    (acc.1 ++ fs, e)) ([], e)

/-- The text of a word without field splitting, as an assignment, a
    redirection target or a `case` subject takes it. -/
def text (x : Expander) (e : Expansion) (w : Word) : String × Expansion :=
  let (segs, e) := segments x false e w (fuelFor w)
  (String.join (segs.map (·.text)), e)

/-- The pattern of a word, as a `case` arm uses it. -/
def patternOf (x : Expander) (e : Expansion) (w : Word) : Pattern × Expansion :=
  pattern x e w (fuelFor w)

end Expander

end ReplHost.Shell
