/-! # Shell command language: grammar

  Console programs are often started through the system shell with a
  script. This module reads the shell language such scripts use:

  - words made of bare text, single-quoted text, double-quoted text (where
    `$` expansions and the escapes `\$`, `\``, `\"`, `\\` still work),
    backslash escapes and a leading `~`;
  - parameter expansions `$name`, `${name}`, `$?`, `$#`, `$0` … `$9`, with
    the forms `${#name}`, `${name-w}`, `${name=w}`, `${name+w}`, `${name?w}`
    (each also with `:`), and `${name%p}`, `${name%%p}`, `${name#p}`,
    `${name##p}`; arithmetic `$((…))`; command substitution `$(…)` and
    `` `…` ``;
  - simple commands with leading assignments `name=value` and redirections,
    here-documents `<<word` and `<<-word` among them (a quoted delimiter
    keeps the body as it is written);
  - pipelines `a | b`, negated by `!`; lists joined by `&&` and `||`, and
    sequences separated by `;`, `&` or line breaks; `#` starts a comment;
  - the compound commands `{ …; }`, `( … )`, `if … then … elif … else … fi`,
    `while … do … done`, `until … do … done`, `for name in … do … done`,
    `case word in pattern | pattern) … ;; esac`, and function definitions
    `name() compound-command`, each with redirections after it.

  A script that cannot be read gives the shell's syntax error text and the
  line it was found on.
-/

namespace ReplHost.Shell

mutual

/-- A piece of a word. -/
inductive Piece where
  /-- Text outside quotes. -/
  | bare (s : String)
  /-- Quoted text: never split into fields. -/
  | quoted (s : String)
  /-- A parameter with what is done to its value; `inQuotes` tells whether
      it stood in double quotes. -/
  | param (name : String) (op : ParamOp) (inQuotes : Bool)
  /-- An arithmetic expansion. -/
  | arith (expr : String) (inQuotes : Bool)
  /-- A command substitution. -/
  | subst (script : String) (inQuotes : Bool)
  /-- A leading `~` and the user name after it: that user's home
      directory, or the shell's own for an empty name. -/
  | home (user : String)

/-- What a parameter expansion does with the parameter's value. -/
inductive ParamOp where
  /-- The value itself. -/
  | plain
  /-- The number of characters of the value. -/
  | length
  /-- `-` uses the word when the parameter is unset, `=` also assigns it,
      `+` uses the word when the parameter is set, `?` fails with the word
      as message when it is unset; with `colon` an empty value counts as
      unset. -/
  | test (kind : Char) (colon : Bool) (word : List Piece)
  /-- Removes the shortest (or longest) suffix (or prefix) matching a
      pattern. -/
  | trim (suffix longest : Bool) (pattern : List Piece)
  /-- A form the shell does not know, such as `${x:1:2}`: expanding it is
      an error. -/
  | malformed

end

/-- A word: pieces written next to each other. -/
abbrev Word := List Piece

/-- Where a redirection sends a stream. -/
inductive Target where
  /-- A file, by name. -/
  | file (w : Word)
  /-- Another descriptor. -/
  | fd (n : Nat)
  /-- The text of a here-document. -/
  | here (w : Word)

/-- A redirection of one descriptor. -/
structure Redirect where
  /-- The descriptor redirected. -/
  fd : Nat
  /-- The operator: `>`, `>>`, `<`, `>&`, `<&`, `<<`. -/
  op : String
  /-- Where it goes. -/
  target : Target

/-- Whether a redirection is of input. -/
def Redirect.input (r : Redirect) : Bool := r.op = "<" || r.op = "<&" || r.op = "<<"

/-- A simple command. -/
structure Command where
  /-- Assignments before the command name. -/
  assigns : List (String × Word) := []
  /-- The command name and arguments. -/
  words : List Word := []
  /-- Redirections. -/
  redirects : List Redirect := []
  /-- The script line it starts on. -/
  line : Nat := 1

/-- When the next pipeline of an `&&`/`||` list runs. -/
inductive Conn where
  /-- After success (`&&`). -/
  | ifOk
  /-- After failure (`||`). -/
  | ifFail
  deriving DecidableEq, Repr

/-- A command of the shell language. -/
inductive Cmd where
  /-- A simple command. -/
  | simple (c : Command)
  /-- A pipeline of two or more commands, or one negated by `!`. -/
  | pipe (bang : Bool) (stages : List Cmd)
  /-- A list joined by `&&` and `||`. -/
  | chain (first : Cmd) (rest : List (Conn × Cmd))
  /-- Commands run one after another. -/
  | seq (items : List Cmd)
  /-- `{ … }`: a list run in the shell itself. -/
  | group (body : Cmd)
  /-- `( … )`: a list run in a copy of the shell. -/
  | subshell (body : Cmd)
  /-- `if`: the test, the commands after `then`, and what runs otherwise. -/
  | cond (test thenPart : Cmd) (elsePart : Option Cmd)
  /-- `while` (or `until`): the test and the body. -/
  | loop (test body : Cmd) (untilLoop : Bool)
  /-- `for`: the variable, the words (the positional parameters when
      absent) and the body. -/
  | forEach (var : String) (items : Option (List Word)) (body : Cmd)
  /-- `case`: the word and the arms, each with its patterns. -/
  | choose (subject : Word) (arms : List (List Word × Cmd))
  /-- A function definition. -/
  | define (name : String) (body : Cmd)
  /-- A compound command with redirections. -/
  | redirected (body : Cmd) (rs : List Redirect)

/-! ### Words -/

/-- Characters that end a bare word. -/
def isDelimiter (c : Char) : Bool :=
  c = ' ' || c = '\t' || c = '\n' || c = ';' || c = '&' || c = '|' || c = '<' || c = '>' ||
    c = '(' || c = ')'

/-- Characters of a name. -/
def isNameChar (c : Char) : Bool := c.isAlphanum || c = '_'

/-- Characters that may start a name. -/
def isNameStart (c : Char) : Bool := c.isAlpha || c = '_'

/-- Whether a text is a name. -/
def isName (s : String) : Bool :=
  match s.toList with
  | c :: cs => isNameStart c && cs.all isNameChar
  | [] => false

/-- Adds a character to the text of the last piece when it is of the
    same kind. -/
def pushBare (w : Word) (c : Char) : Word :=
  match w.reverse with
  | .bare s :: rest => (Piece.bare (s.push c) :: rest).reverse
  | _ => w ++ [.bare (String.singleton c)]

/-- See `pushBare`. -/
def pushQuoted (w : Word) (s : String) : Word :=
  match w.reverse with
  | .quoted t :: rest => (Piece.quoted (t ++ s) :: rest).reverse
  | _ => w ++ [.quoted s]

/-- Adds text as quoted or bare text. -/
def pushText (inQuotes : Bool) (w : Word) (c : Char) : Word :=
  if inQuotes then pushQuoted w (String.singleton c) else pushBare w c

/-- Reads up to the parenthesis that closes one already open: the text
    inside and the rest after it. -/
def closeParen (depth : Nat) (acc : List Char) : List Char → Option (String × List Char)
  | [] => none
  | c :: cs =>
    if c = ')' then
      if depth = 0 then some (String.ofList acc.reverse, cs) else closeParen (depth - 1) (c :: acc) cs
    else if c = '(' then closeParen (depth + 1) (c :: acc) cs
    else closeParen depth (c :: acc) cs

/-- The syntax error of an unfinished quotation. -/
def unterminated : String := "Syntax error: Unterminated quoted string"

/-- The text of a syntax error at an unexpected token. -/
def unexpected (t : String) : String := "Syntax error: " ++ t ++ " unexpected"

/-- The text of a syntax error where a given token was expected. -/
def expecting (t k : String) : String :=
  "Syntax error: " ++ t ++ " unexpected (expecting \"" ++ k ++ "\")"

/-- The error of a `${` without its `}`. -/
def missingBrace : String := "Syntax error: Missing '\x7d'"

/-- Reads the name of a parameter inside `${…}`: a name, digits, or one
    special character. -/
def paramName (cs : List Char) : String × List Char :=
  match cs with
  | c :: rest =>
    if isNameStart c then
      let (more, after) := rest.span isNameChar
      (String.ofList (c :: more), after)
    else if c.isDigit then
      let (more, after) := rest.span Char.isDigit
      (String.ofList (c :: more), after)
    else if c = '?' || c = '#' || c = '$' || c = '!' || c = '@' || c = '*' || c = '-' then
      (String.singleton c, rest)
    else ("", cs)
  | [] => ("", [])

mutual

/-- Reads what follows a `$`: the piece and the rest. -/
def dollar (inQuotes : Bool) (cs : List Char) : (fuel : Nat) → Except String (Piece × List Char)
  | 0 => .error unterminated
  | fuel + 1 =>
    match cs with
    | '{' :: rest => braced inQuotes rest fuel
    | '(' :: '(' :: rest =>
      match closeParen 0 [] rest with
      | some (inner, ')' :: after) => .ok (.arith inner inQuotes, after)
      | _ => .error unterminated
    | '(' :: rest =>
      match closeParen 0 [] rest with
      | some (inner, after) => .ok (.subst inner inQuotes, after)
      | none => .error unterminated
    | c :: rest =>
      if isNameStart c then
        let (name, after) := rest.span isNameChar
        .ok (.param (String.ofList (c :: name)) .plain inQuotes, after)
      else if c.isDigit || c = '?' || c = '#' || c = '$' || c = '!' || c = '@' || c = '*' ||
          c = '-' then
        .ok (.param (String.singleton c) .plain inQuotes, rest)
      else .ok ((if inQuotes then .quoted "$" else .bare "$"), c :: rest)
    | [] => .ok ((if inQuotes then .quoted "$" else .bare "$"), [])

/-- Reads the inside of `${…}` after the brace. -/
def braced (inQuotes : Bool) (cs : List Char) : (fuel : Nat) → Except String (Piece × List Char)
  | 0 => .error missingBrace
  | fuel + 1 =>
    -- A malformed `${…}`: what follows is read up to the closing brace,
    -- and expanding it is an error.
    let malformed := fun (name : String) (more : List Char) =>
      match braceWord inQuotes [] more fuel with
      | .ok (_, after) => .ok (Piece.param name .malformed inQuotes, after)
      | .error e => .error e
    match cs with
    | '#' :: '}' :: after => .ok (.param "#" .plain inQuotes, after)
    | '#' :: more =>
      match paramName more with
      | ("", _) => malformed "" more
      | (name, '}' :: after) => .ok (.param name .length inQuotes, after)
      | (name, rest) => malformed name rest
    | _ =>
      match paramName cs with
      | ("", _) => malformed "" cs
      | (name, rest) =>
        let withWord := fun (op : Word → ParamOp) (more : List Char) =>
          match braceWord inQuotes [] more fuel with
          | .ok (w, after) => .ok (Piece.param name (op w) inQuotes, after)
          | .error e => .error e
        match rest with
        | '}' :: after => .ok (.param name .plain inQuotes, after)
        | ':' :: k :: more =>
          if k = '-' || k = '=' || k = '+' || k = '?' then withWord (.test k true) more
          else malformed name (k :: more)
        | '%' :: '%' :: more => withWord (.trim true true) more
        | '%' :: more => withWord (.trim true false) more
        | '#' :: '#' :: more => withWord (.trim false true) more
        | '#' :: more => withWord (.trim false false) more
        | k :: more =>
          if k = '-' || k = '=' || k = '+' || k = '?' then withWord (.test k false) more
          else malformed name (k :: more)
        | [] => .error missingBrace

/-- Reads the word inside `${name…}` up to the closing brace. -/
def braceWord (inQuotes : Bool) (w : Word) (cs : List Char) : (fuel : Nat) → Except String (Word × List Char)
  | 0 => .error missingBrace
  | fuel + 1 =>
    match cs with
    | [] => .error missingBrace
    | '}' :: rest => .ok (w, rest)
    | '\\' :: d :: rest => braceWord inQuotes (pushQuoted w (String.singleton d)) rest fuel
    | '\'' :: rest =>
      if inQuotes then braceWord inQuotes (pushQuoted w "'") rest fuel
      else
        match rest.span (· ≠ '\'') with
        | (inner, '\'' :: after) => braceWord inQuotes (w ++ [.quoted (String.ofList inner)]) after fuel
        | _ => .error unterminated
    | '"' :: rest =>
      match doubleQuoted (w ++ [.quoted ""]) rest fuel with
      | .ok (w', after) => braceWord inQuotes w' after fuel
      | .error e => .error e
    | '$' :: rest =>
      match dollar inQuotes rest fuel with
      | .ok (.bare s, after) => braceWord inQuotes (s.toList.foldl pushBare w) after fuel
      | .ok (.quoted s, after) => braceWord inQuotes (pushQuoted w s) after fuel
      | .ok (p, after) => braceWord inQuotes (w ++ [p]) after fuel
      | .error e => .error e
    | c :: rest => braceWord inQuotes (pushText inQuotes w c) rest fuel

/-- Reads the inside of double quotes, up to the closing quote. -/
def doubleQuoted (w : Word) (cs : List Char) : (fuel : Nat) → Except String (Word × List Char)
  | 0 => .error unterminated
  | fuel + 1 =>
    match cs with
    | [] => .error unterminated
    | c :: cs =>
      if c = '"' then .ok (w, cs)
      else if c = '\\' then
        match cs with
        | d :: ds =>
          if d = '\n' then doubleQuoted w ds fuel
          else if d = '$' || d = '`' || d = '"' || d = '\\' then
            doubleQuoted (pushQuoted w (String.singleton d)) ds fuel
          else doubleQuoted (pushQuoted w (String.ofList ['\\', d])) ds fuel
        | [] => .error unterminated
      else if c = '$' then
        match dollar true cs fuel with
        | .ok (.quoted s, rest) => doubleQuoted (pushQuoted w s) rest fuel
        | .ok (p, rest) => doubleQuoted (w ++ [p]) rest fuel
        | .error e => .error e
      else if c = '`' then
        match cs.span (· ≠ '`') with
        | (inner, '`' :: rest) => doubleQuoted (w ++ [.subst (String.ofList inner) true]) rest fuel
        | _ => .error unterminated
      else doubleQuoted (pushQuoted w (String.singleton c)) cs fuel

end

/-- Reads a word, up to the first unquoted delimiter. -/
def word (w : Word) (cs : List Char) : (fuel : Nat) → Except String (Word × List Char)
  | 0 => .ok (w, cs)
  | fuel + 1 =>
    match cs with
    | [] => .ok (w, [])
    | c :: cs =>
      if isDelimiter c then .ok (w, c :: cs)
      else if c = '\\' then
        match cs with
        | '\n' :: ds => word w ds fuel
        | d :: ds => word (pushQuoted w (String.singleton d)) ds fuel
        | [] => .ok (pushBare w '\\', [])
      else if c = '\'' then
        match cs.span (· ≠ '\'') with
        | (inner, '\'' :: rest) => word (w ++ [.quoted (String.ofList inner)]) rest fuel
        | _ => .error unterminated
      else if c = '"' then
        match doubleQuoted (w ++ [.quoted ""]) cs fuel with
        | .ok (w', rest) => word w' rest fuel
        | .error e => .error e
      else if c = '$' then
        match dollar false cs fuel with
        | .ok (.bare s, rest) => word (s.toList.foldl pushBare w) rest fuel
        | .ok (p, rest) => word (w ++ [p]) rest fuel
        | .error e => .error e
      else if c = '`' then
        match cs.span (· ≠ '`') with
        | (inner, '`' :: rest) => word (w ++ [.subst (String.ofList inner) false]) rest fuel
        | _ => .error unterminated
      else if c = '~' && w.isEmpty then
        let (name, after) := cs.span fun d => d ≠ '/' && !isDelimiter d
        if name.all fun d => !"\\'\"$\x60".contains d then
          word [.home (String.ofList name)] after fuel
        else word (pushBare w c) cs fuel
      else word (pushBare w c) cs fuel

/-! ### Tokens -/

/-- A token of the command language. -/
inductive Token where
  /-- A word, with the line it is on. -/
  | word (w : Word) (line : Nat)
  /-- An operator: `;`, `;;`, `&`, `&&`, `||`, `|`, `(`, `)`. -/
  | op (s : String)
  /-- A redirection operator with its descriptor: `>`, `>>`, `<`, `>&`, `<&`. -/
  | redir (fd : Option Nat) (s : String) (line : Nat)
  /-- A line break. -/
  | newline
  /-- Text that cannot be read as tokens, with its line and the message
      saying why; nothing after it is read. -/
  | bad (line : Nat) (msg : String)

/-- The reserved words of the command language. -/
def reservedWords : List String :=
  ["if", "then", "else", "elif", "fi", "do", "done", "case", "esac", "while", "until", "for",
   "in", "\x7b", "\x7d", "!"]

/-- The reserved word a token is, when it is a single unquoted word. -/
def Token.keyword? : Token → Option String
  | .word [.bare s] _ => if reservedWords.contains s then some s else none
  | _ => none

/-- Whether a token is a given reserved word. -/
def Token.isKeyword (t : Token) (k : String) : Bool := t.keyword? = some k

/-- How an error message names a token. -/
def Token.describe : Token → String
  | .word w _ =>
    match Token.keyword? (.word w 0) with
    | some k => "\"" ++ k ++ "\""
    | none => "word"
  | .op s => "\"" ++ s ++ "\""
  | .redir _ _ _ => "redirection"
  | .newline => "newline"
  | .bad _ _ => "end of file"

/-- Reads a redirection operator after its descriptor; `<<-` is read as
    `<<` here and marked by the `-` left in front of the rest. -/
def redirOp (fd : Option Nat) (line : Nat) : List Char → Option (Token × List Char)
  | '<' :: '<' :: rest => some (.redir fd "<<" line, rest)
  | '>' :: '>' :: rest => some (.redir fd ">>" line, rest)
  | '>' :: '&' :: rest => some (.redir fd ">&" line, rest)
  | '>' :: '|' :: rest => some (.redir fd ">" line, rest)
  | '>' :: rest => some (.redir fd ">" line, rest)
  | '<' :: '&' :: rest => some (.redir fd "<&" line, rest)
  | '<' :: rest => some (.redir fd "<" line, rest)
  | _ => none

/-- Reads the body of a here-document whose delimiter was not quoted:
    parameters, arithmetic and command substitutions are expanded later,
    and a backslash escapes only `$`, `` ` ``, a backslash and a line
    break. -/
def hereBody (w : Word) (cs : List Char) : (fuel : Nat) → Except String Word
  | 0 => .ok w
  | fuel + 1 =>
    match cs with
    | [] => .ok w
    | '\\' :: '\n' :: rest => hereBody w rest fuel
    | '\\' :: d :: rest =>
      if d = '$' || d = '`' || d = '\\' then hereBody (pushQuoted w (String.singleton d)) rest fuel
      else hereBody (pushQuoted w (String.ofList ['\\', d])) rest fuel
    | '$' :: rest =>
      match dollar true rest fuel with
      | .ok (.quoted s, after) => hereBody (pushQuoted w s) after fuel
      | .ok (p, after) => hereBody (w ++ [p]) after fuel
      | .error e => .error e
    | '`' :: rest =>
      match rest.span (· ≠ '`') with
      | (inner, '`' :: after) => hereBody (w ++ [.subst (String.ofList inner) true]) after fuel
      | _ => .error unterminated
    | c :: rest => hereBody (pushQuoted w (String.singleton c)) rest fuel

/-- The literal text of a here-document delimiter, and whether any of it
    was quoted. -/
def delimiterText (w : Word) : String × Bool :=
  w.foldl (fun (acc : String × Bool) p =>
    match p with
    | .bare s => (acc.1 ++ s, acc.2)
    | .quoted s => (acc.1 ++ s, true)
    | .home u => (acc.1 ++ "~" ++ u, acc.2)
    | .param n _ _ => (acc.1 ++ "$" ++ n, acc.2)
    | .arith e _ => (acc.1 ++ "$((" ++ e ++ "))", acc.2)
    | .subst s _ => (acc.1 ++ "$(" ++ s ++ ")", acc.2)) ("", false)

/-- Takes the lines of a here-document from `cs`, the text after the line
    that holds its operator, up to a line equal to the delimiter (or the end
    of the script): the body, how many lines it spanned with the delimiter's,
    and the text after it. With `strip`, leading tabs are removed from every
    line first. -/
def hereLines (delim : String) (strip : Bool) (acc : List Char) (count : Nat) :
    List Char → (fuel : Nat) → List Char × Nat × List Char
  | [], _ => (acc, count, [])
  | _, 0 => (acc, count, [])
  | cs, fuel + 1 =>
    let lineText := cs.takeWhile (· ≠ '\n')
    let after := (cs.dropWhile (· ≠ '\n')).drop 1
    let shown := if strip then lineText.dropWhile (· = '\t') else lineText
    if String.ofList shown = delim then (acc, count + 1, after)
    else hereLines delim strip (acc ++ shown ++ ['\n']) (count + 1) after fuel

/-- Reads a here-document after `<<`: the word that holds its body, and the
    script with the body's lines taken out (each replaced by a bare line
    break, so that line numbers stay right). -/
def hereDocument (cs : List Char) : Except String (Word × List Char) := do
  let (strip, cs) := match cs with
    | '-' :: rest => (true, rest)
    | rest => (false, rest)
  let cs := cs.dropWhile (fun c => c = ' ' || c = '\t')
  let (delimWord, rest) ← word [] cs (2 * cs.length + 2)
  if delimWord.isEmpty then throw (unexpected (if rest.isEmpty then "end of file" else "newline"))
  let (delim, quoted) := delimiterText delimWord
  let lineRest := rest.takeWhile (· ≠ '\n')
  let afterLine := (rest.dropWhile (· ≠ '\n')).drop 1
  let hasBreak := rest.contains '\n'
  let (body, count, more) := hereLines delim strip [] 0 afterLine (afterLine.length + 1)
  let bodyWord ← if quoted then pure [Piece.quoted (String.ofList body)]
    else hereBody [Piece.quoted ""] body (2 * body.length + 2)
  pure (bodyWord, lineRest ++ (if hasBreak then ['\n'] else []) ++ List.replicate count '\n' ++ more)

/-- Splits a script into tokens; `acc` holds those read, last first, and
    `line` is the current line. Text that cannot be read ends the tokens
    with a `bad` one, so that the commands before it can still run. -/
def tokens (acc : List Token) (line : Nat) : List Char → (fuel : Nat) → List Token
  | _, 0 => acc.reverse
  | [], _ + 1 => acc.reverse
  | c :: cs, fuel + 1 =>
    if c = ' ' || c = '\t' then tokens acc line cs fuel
    else if c = '\n' then tokens (.newline :: acc) (line + 1) cs fuel
    else if c = '#' then tokens acc line (cs.dropWhile (· ≠ '\n')) fuel
    else if c = ';' then
      match cs with
      | ';' :: rest => tokens (.op ";;" :: acc) line rest fuel
      | _ => tokens (.op ";" :: acc) line cs fuel
    else if c = '&' then
      match cs with
      | '&' :: rest => tokens (.op "&&" :: acc) line rest fuel
      | _ => tokens (.op "&" :: acc) line cs fuel
    else if c = '|' then
      match cs with
      | '|' :: rest => tokens (.op "||" :: acc) line rest fuel
      | _ => tokens (.op "|" :: acc) line cs fuel
    else if c = '(' || c = ')' then tokens (.op (String.singleton c) :: acc) line cs fuel
    else if c = '<' || c = '>' then
      match redirOp none line (c :: cs) with
      | some (.redir fd "<<" l, rest) =>
        match hereDocument rest with
        | .ok (w, rest') => tokens (.word w l :: .redir fd "<<" l :: acc) line rest' fuel
        | .error e => (.bad line e :: acc).reverse
      | some (t, rest) => tokens (t :: acc) line rest fuel
      | none => tokens acc line cs fuel
    else
      let (digits, after) := (c :: cs).span Char.isDigit
      match (if digits.isEmpty then none else redirOp (some (digits.foldl
          (fun n d => 10 * n + (d.toNat - '0'.toNat)) 0)) line after) with
      | some (.redir fd "<<" l, rest) =>
        match hereDocument rest with
        | .ok (w, rest') => tokens (.word w l :: .redir fd "<<" l :: acc) line rest' fuel
        | .error e => (.bad line e :: acc).reverse
      | some (t, rest) => tokens (t :: acc) line rest fuel
      | none =>
        match word [] (c :: cs) (2 * cs.length + 2) with
        | .ok (w, rest) =>
          let consumed := (c :: cs).length - rest.length
          let breaks := ((c :: cs).take consumed).count '\n'
          tokens (.word w line :: acc) (line + breaks) rest fuel
        | .error e => (.bad line e :: acc).reverse

/-! ### Commands -/

/-- The name of an assignment word `name=…`, and its value. -/
def assignment? (w : Word) : Option (String × Word) :=
  match w with
  | .bare s :: rest =>
    match s.toList.span (· ≠ '=') with
    | (name, '=' :: value) =>
      if isName (String.ofList name) then
        some (String.ofList name, (if value.isEmpty then [] else [Piece.bare (String.ofList value)]) ++ rest)
      else none
    | _ => none
  | _ => none

/-- Tokens being read, with the line the script ends on. -/
structure Tokens where
  /-- The tokens left. -/
  rest : List Token
  /-- The line of the end of the script. -/
  lastLine : Nat
  /-- The aliases in force: names and the text each stands for. -/
  aliases : List (String × String) := []
  /-- The aliases whose text the next word came from; these are not looked
      up again for it, so that an alias may name a command of the same
      name. -/
  inUse : List String := []

/-- The line of the next token. -/
def Tokens.line (ts : Tokens) : Nat :=
  let rec go : List Token → Nat
    | .word _ l :: _ => l
    | .redir _ _ l :: _ => l
    | .bad l _ :: _ => l
    | _ :: more => go more
    | [] => ts.lastLine
  go ts.rest

/-- An error at the next token; text that could not be read as tokens
    reports why instead. -/
def Tokens.fail {α : Type} (ts : Tokens) (msg : String) : Except (Nat × String) α :=
  match ts.rest with
  | .bad l why :: _ => .error (l, why)
  | _ => .error (ts.line, msg)

/-- How an error message names the next token. -/
def Tokens.nextName (ts : Tokens) : String :=
  match ts.rest with
  | t :: _ => t.describe
  | [] => "end of file"

/-- Drops line breaks. -/
def Tokens.skipBreaks (ts : Tokens) : Tokens := { ts with rest := ts.rest.dropWhile fun
  | .newline => true
  | _ => false }

/-- Drops the next token. -/
def Tokens.drop (ts : Tokens) : Tokens := { ts with rest := ts.rest.drop 1 }

/-- Whether the next token ends a list. -/
def Tokens.atListEnd (ts : Tokens) : Bool :=
  match ts.rest with
  | [] => true
  | .op ")" :: _ => true
  | .op ";;" :: _ => true
  | t :: _ => ["then", "else", "elif", "fi", "do", "done", "esac", "\x7d"].any t.isKeyword

/-- Consumes a reserved word or fails expecting it. -/
def Tokens.expect (ts : Tokens) (k : String) : Except (Nat × String) Tokens :=
  match ts.rest with
  | t :: _ => if t.isKeyword k then .ok ts.drop else ts.fail (expecting t.describe k)
  | [] => ts.fail (expecting "end of file" k)

/-- The redirection an operator and its word make. -/
def redirectOf (fd : Option Nat) (o : String) (w : Word) : Redirect :=
  let n := fd.getD (if o = "<" || o = "<&" || o = "<<" then 0 else 1)
  let target := if o = "<<" then Target.here w
    else if o = ">&" || o = "<&" then
      match w with
      | [.bare s] =>
        match s.toNat? with
        | some m => Target.fd m
        | none => Target.file w
      | _ => Target.file w
    else Target.file w
  { fd := n, op := o, target := target }

/-- Reads the redirections that follow a command. -/
def redirections (acc : List Redirect) (ts : Tokens) : Except (Nat × String) (List Redirect × Tokens) :=
  let rec go (acc : List Redirect) : List Token → Except (Nat × String) (List Redirect × Tokens)
    | .redir fd o _ :: .word w _ :: more => go (acc ++ [redirectOf fd o w]) more
    | .redir _ _ _ :: more =>
      let after : Tokens := { ts with rest := more }
      after.fail (unexpected after.nextName)
    | rest => .ok (acc, { ts with rest := rest })
  go acc ts.rest

/-- Reads the words, assignments and redirections of a simple command. -/
def simpleParts (c : Command) (started : Bool) (ts : Tokens) : Except (Nat × String) (Command × Tokens) :=
  let rec go (c : Command) (started : Bool) : List Token → Except (Nat × String) (Command × Tokens)
    | .word w _ :: more =>
      let c := match assignment? w with
        | some (n, v) => if c.words.isEmpty then { c with assigns := c.assigns ++ [(n, v)] }
                         else { c with words := c.words ++ [w] }
        | none => { c with words := c.words ++ [w] }
      go c true more
    | .redir fd o _ :: .word w _ :: more => go { c with redirects := c.redirects ++ [redirectOf fd o w] } true more
    | .redir _ _ _ :: more =>
      let after : Tokens := { ts with rest := more }
      after.fail (unexpected after.nextName)
    | rest =>
      let here : Tokens := { ts with rest := rest }
      if started then .ok (c, here) else here.fail (unexpected here.nextName)
  go c started ts.rest

/-- Reads a simple command. -/
def simpleCommand (ts : Tokens) : Except (Nat × String) (Cmd × Tokens) := do
  let (c, ts') ← simpleParts { line := ts.line } false ts
  return (.simple c, ts')

/-- Wraps a compound command with the redirections that follow it. -/
def withRedirections (c : Cmd) (ts : Tokens) : Except (Nat × String) (Cmd × Tokens) := do
  let (rs, ts) ← redirections [] ts
  return (if rs.isEmpty then c else .redirected c rs, ts)

/-- Fails unless a list read for a compound command has a command. At the
    end of the script it lets the word that must come next report what is
    missing. -/
def nonEmpty (c : Cmd) (ts : Tokens) : Except (Nat × String) Unit :=
  match c, ts.rest with
  | .seq [], _ :: _ => ts.fail (unexpected ts.nextName)
  | _, _ => .ok ()

/-- The tokens of an alias's text, put in front of the tokens `more` that
    follow the alias. When the text ends in a blank the word after it is
    looked up as an alias too. -/
def spliceAlias (aliases : List (String × String)) (inUse : List String) (value : String) (line : Nat)
    (more : List Token) : (fuel : Nat) → List Token
  | 0 => more
  | fuel + 1 =>
    let own := tokens [] line value.toList (value.length + 1)
    let after := if value.endsWith " " || value.endsWith "\t" then
        match more with
        | .word [.bare n] l :: rest =>
          match aliases.lookup n with
          | some v => if inUse.contains n then more else spliceAlias aliases (n :: inUse) v l rest fuel
          | none => more
        | _ => more
      else more
    own ++ after

mutual

/-- Reads a list: and-or lists separated by `;`, `&` or line breaks, up to
    a token that ends it. -/
def list (ts : Tokens) : (fuel : Nat) → Except (Nat × String) (Cmd × Tokens)
  | 0 => .ok (.seq [], ts)
  | fuel + 1 => listItems [] ts.skipBreaks fuel

/-- Continues a list with the items read so far. -/
def listItems (items : List Cmd) (ts : Tokens) : (fuel : Nat) → Except (Nat × String) (Cmd × Tokens)
  | 0 => .ok (.seq items, ts)
  | fuel + 1 =>
    if ts.atListEnd then .ok (.seq items, ts)
    else do
      let (item, ts) ← andOr ts fuel
      match ts.rest with
      | .op ";" :: more | .op "&" :: more | .newline :: more =>
        listItems (items ++ [item]) ({ ts with rest := more }.skipBreaks) fuel
      | _ => .ok (.seq (items ++ [item]), ts)

/-- Reads pipelines joined by `&&` and `||`. -/
def andOr (ts : Tokens) : (fuel : Nat) → Except (Nat × String) (Cmd × Tokens)
  | 0 => ts.fail (unexpected ts.nextName)
  | fuel + 1 => do
    let (first, ts) ← pipeline ts fuel
    andOrRest first [] ts fuel

/-- Continues an and-or list. -/
def andOrRest (first : Cmd) (rest : List (Conn × Cmd)) (ts : Tokens) :
    (fuel : Nat) → Except (Nat × String) (Cmd × Tokens)
  | 0 => .ok ((if rest.isEmpty then first else .chain first rest), ts)
  | fuel + 1 =>
    let conn : Option Conn := match ts.rest with
      | .op "&&" :: _ => some .ifOk
      | .op "||" :: _ => some .ifFail
      | _ => none
    match conn with
    | some k => do
      let (next, ts') ← pipeline ts.drop.skipBreaks fuel
      andOrRest first (rest ++ [(k, next)]) ts' fuel
    | none => .ok ((if rest.isEmpty then first else .chain first rest), ts)

/-- Reads a pipeline, maybe negated by `!`. -/
def pipeline (ts : Tokens) : (fuel : Nat) → Except (Nat × String) (Cmd × Tokens)
  | 0 => ts.fail (unexpected ts.nextName)
  | fuel + 1 => do
    let (bang, ts) := match ts.rest with
      | t :: _ => if t.isKeyword "!" then (true, ts.drop) else (false, ts)
      | [] => (false, ts)
    let (first, ts) ← command ts fuel
    pipelineRest bang [first] ts fuel

/-- Continues a pipeline. -/
def pipelineRest (bang : Bool) (stages : List Cmd) (ts : Tokens) :
    (fuel : Nat) → Except (Nat × String) (Cmd × Tokens)
  | 0 => .ok (.pipe bang stages, ts)
  | fuel + 1 =>
    match ts.rest with
    | .op "|" :: _ => do
      let (next, ts') ← command ts.drop.skipBreaks fuel
      pipelineRest bang (stages ++ [next]) ts' fuel
    | _ =>
      match stages with
      | [c] => if bang then .ok (.pipe true [c], ts) else .ok (c, ts)
      | _ => .ok (.pipe bang stages, ts)

/-- Reads one command: compound, a function definition, or simple. -/
def command (ts : Tokens) : (fuel : Nat) → Except (Nat × String) (Cmd × Tokens)
  | 0 => ts.fail (unexpected ts.nextName)
  | fuel + 1 =>
    let inUse := ts.inUse
    let ts := { ts with inUse := [] }
    match ts.rest with
    | [] => ts.fail (unexpected "end of file")
    | t :: more =>
      match t.keyword? with
      | some "if" => do
        let (c, ts) ← ifRest ts.drop fuel
        withRedirections c ts
      | some "while" => do
        let (c, ts) ← loopRest false ts.drop fuel
        withRedirections c ts
      | some "until" => do
        let (c, ts) ← loopRest true ts.drop fuel
        withRedirections c ts
      | some "for" => do
        let (c, ts) ← forRest ts.drop fuel
        withRedirections c ts
      | some "case" => do
        let (c, ts) ← caseRest ts.drop fuel
        withRedirections c ts
      | some "\x7b" => do
        let (body, ts) ← list ts.drop fuel
        nonEmpty body ts
        let ts ← ts.expect "\x7d"
        withRedirections (.group body) ts
      | some k =>
        if ["then", "else", "elif", "fi", "do", "done", "esac", "\x7d"].contains k then
          ts.fail (unexpected t.describe)
        else simpleCommand ts
      | none =>
        match t, more with
        | .word [.bare name] l, _ =>
          match ts.aliases.lookup name with
          | some value =>
            if inUse.contains name then plainCommand ts fuel
            else
              command { ts with rest := spliceAlias ts.aliases (name :: inUse) value l more fuel,
                                inUse := name :: inUse } fuel
          | none => plainCommand ts fuel
        | _, _ => plainCommand ts fuel

/-- Reads a command that starts with no reserved word or alias: a
    subshell, a function definition, or a simple command. -/
def plainCommand (ts : Tokens) : (fuel : Nat) → Except (Nat × String) (Cmd × Tokens)
  | 0 => ts.fail (unexpected ts.nextName)
  | fuel + 1 =>
    match ts.rest with
    | [] => ts.fail (unexpected "end of file")
    | t :: more =>
      match t, more with
      | .op "(", _ => do
        let (body, ts) ← list ts.drop fuel
        nonEmpty body ts
        match ts.rest with
        | .op ")" :: _ => withRedirections (.subshell body) ts.drop
        | _ => ts.fail (expecting ts.nextName ")")
      | .word [.bare name] _, .op "(" :: .op ")" :: after =>
        if isName name then do
          let (body, ts) ← command { ts with rest := after }.skipBreaks fuel
          return (.define name body, ts)
        else ts.fail (unexpected "\"(\"")
      | _, _ => simpleCommand ts

/-- Reads an `if` after its first word, or an `elif` branch. -/
def ifRest (ts : Tokens) : (fuel : Nat) → Except (Nat × String) (Cmd × Tokens)
  | 0 => ts.fail (unexpected ts.nextName)
  | fuel + 1 => do
    let (test, ts) ← list ts fuel
    nonEmpty test ts
    let ts ← ts.expect "then"
    let (thenPart, ts) ← list ts fuel
    nonEmpty thenPart ts
    match ts.rest with
    | t :: _ =>
      if t.isKeyword "elif" then do
        let (rest, ts) ← ifRest ts.drop fuel
        return (.cond test thenPart (some rest), ts)
      else if t.isKeyword "else" then do
        let (elsePart, ts) ← list ts.drop fuel
        nonEmpty elsePart ts
        let ts ← ts.expect "fi"
        return (.cond test thenPart (some elsePart), ts)
      else do
        let ts ← ts.expect "fi"
        return (.cond test thenPart none, ts)
    | [] => ts.fail (expecting "end of file" "fi")

/-- Reads a `while` or `until` loop after its first word. -/
def loopRest (untilLoop : Bool) (ts : Tokens) : (fuel : Nat) → Except (Nat × String) (Cmd × Tokens)
  | 0 => ts.fail (unexpected ts.nextName)
  | fuel + 1 => do
    let (test, ts) ← list ts fuel
    nonEmpty test ts
    let ts ← ts.expect "do"
    let (body, ts) ← list ts fuel
    nonEmpty body ts
    let ts ← ts.expect "done"
    return (.loop test body untilLoop, ts)

/-- Reads a `for` loop after its first word. -/
def forRest (ts : Tokens) : (fuel : Nat) → Except (Nat × String) (Cmd × Tokens)
  | 0 => ts.fail (unexpected ts.nextName)
  | fuel + 1 =>
    match ts.rest with
    | .word [.bare var] _ :: more =>
      if !isName var then ts.fail "Syntax error: Bad for loop variable"
      else do
        let ts : Tokens := { ts with rest := more }
        let ts1 := ts.skipBreaks
        let (items, ts) ← match ts1.rest with
          | t :: after =>
            if t.isKeyword "in" then
              let ws := after.takeWhile fun
                | .word _ _ => true
                | _ => false
              let left := after.drop ws.length
              let words := ws.filterMap fun
                | .word w _ => some w
                | _ => none
              match left with
              | .op ";" :: rest | .newline :: rest => .ok (some words, { ts with rest := rest })
              | _ => .ok (some words, { ts with rest := left })
            else
              match ts.rest with
              | .op ";" :: rest => .ok (none, { ts with rest := rest })
              | _ => .ok (none, ts)
          | [] => .ok (none, ts)
        let ts ← ts.skipBreaks.expect "do"
        let (body, ts) ← list ts fuel
        nonEmpty body ts
        let ts ← ts.expect "done"
        return (.forEach var items body, ts)
    | _ => ts.fail "Syntax error: Bad for loop variable"

/-- Reads a `case` after its first word. -/
def caseRest (ts : Tokens) : (fuel : Nat) → Except (Nat × String) (Cmd × Tokens)
  | 0 => ts.fail (unexpected ts.nextName)
  | fuel + 1 =>
    match ts.rest with
    | .word subject _ :: more => do
      let ts ← ({ ts with rest := more } : Tokens).skipBreaks.expect "in"
      let (arms, ts) ← arms [] ts.skipBreaks fuel
      return (.choose subject arms, ts)
    | _ => ts.fail (unexpected ts.nextName)

/-- Reads the arms of a `case` up to `esac`. -/
def arms (acc : List (List Word × Cmd)) (ts : Tokens) : (fuel : Nat) →
    Except (Nat × String) (List (List Word × Cmd) × Tokens)
  | 0 => ts.fail (unexpected ts.nextName)
  | fuel + 1 =>
    match ts.rest with
    | t :: _ =>
      if t.isKeyword "esac" then .ok (acc, ts.drop)
      else do
        let ts := match ts.rest with
          | .op "(" :: more => { ts with rest := more }
          | _ => ts
        let (pats, ts) ← patterns [] ts fuel
        let (body, ts) ← list ts fuel
        match ts.rest with
        | .op ";;" :: more => arms (acc ++ [(pats, body)]) ({ ts with rest := more } : Tokens).skipBreaks fuel
        | u :: _ =>
          if u.isKeyword "esac" then .ok (acc ++ [(pats, body)], ts.drop)
          else ts.fail (expecting ts.nextName "esac")
        | [] => ts.fail (expecting "end of file" "esac")
    | [] => ts.fail (expecting "end of file" "esac")

/-- Reads the patterns of a `case` arm up to `)`. -/
def patterns (acc : List Word) (ts : Tokens) : (fuel : Nat) → Except (Nat × String) (List Word × Tokens)
  | 0 => ts.fail (unexpected ts.nextName)
  | fuel + 1 =>
    match ts.rest with
    | .word w _ :: .op "|" :: more => patterns (acc ++ [w]) { ts with rest := more } fuel
    | .word w _ :: .op ")" :: more => .ok (acc ++ [w], { ts with rest := more })
    | .word _ _ :: _ => ts.drop.fail (expecting ts.drop.nextName ")")
    | _ => ts.fail (unexpected ts.nextName)

end

/-- Reads the and-or lists of one line of a script, after those in
    `items`: the line ends at a line break or at the end of the script,
    also after a last `;` or `&`. -/
def lineItems (items : List Cmd) (ts : Tokens) : (fuel : Nat) → Except (Nat × String) (Cmd × Tokens)
  | 0 => .ok (.seq items, ts)
  | fuel + 1 => do
    let (item, ts) ← andOr ts fuel
    let items := items ++ [item]
    match ts.rest with
    | [] => .ok (.seq items, ts)
    | .newline :: more => .ok (.seq items, { ts with rest := more })
    | .op ";" :: more | .op "&" :: more =>
      match more with
      | [] => .ok (.seq items, { ts with rest := [] })
      | .newline :: after => .ok (.seq items, { ts with rest := after })
      | _ => lineItems items { ts with rest := more } fuel
    | _ => ts.fail (unexpected ts.nextName)

/-- The tokens of a script whose first line is `first`, to be read command
    by command. -/
def Tokens.ofScript (src : String) (aliases : List (String × String)) (first : Nat) : Tokens :=
  { rest := tokens [] first src.toList (src.length + 1), lastLine := first + src.toList.count '\n',
    aliases := aliases }

/-- Reads the next command of a script: the commands up to the end of the
    line it starts on, or of the compound command that starts there.
    `none` once no command is left. The shell runs each before reading the
    next, so the commands before an error run and an alias defined by one
    holds in those after it. -/
def Tokens.next (ts : Tokens) : Except (Nat × String) (Option Cmd × Tokens) :=
  let ts := ts.skipBreaks
  match ts.rest with
  | [] => .ok (none, ts)
  | _ => do
    let (c, ts) ← lineItems [] ts (4 * ts.rest.length + 8)
    return (some c, ts)

/-- Reads a whole script whose first line is `first`. A failure gives the
    line and the message. -/
def parse (src : String) (aliases : List (String × String)) (first : Nat) : Except (Nat × String) Cmd := do
  let ts := Tokens.ofScript src aliases first
  let (c, ts) ← list ts (4 * ts.rest.length + 8)
  match ts.rest with
  | [] => return c
  | t :: _ => ts.fail (unexpected t.describe)

end ReplHost.Shell
