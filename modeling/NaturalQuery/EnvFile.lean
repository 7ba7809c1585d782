import NaturalQuery.Text.Blank

/-!
Environment files: lines of `KEY=VALUE`. A line may start with `export` and blanks; a key is a
run of characters other than `=`, `#` and blanks, or any text in single quotes. A value is empty,
or quoted (single quotes understand `\\` and `\'`; double quotes also understand `\"` and the
letter escapes `\a \b \f \n \r \t \v`; both may span lines), or the rest of the line without a
comment that follows blanks and without trailing blanks. A key without `=` has no value. Lines
starting with `#` are comments; a statement that cannot be read is skipped to the end of its
line and reported by the line it started on. Values then have `${NAME}` and `${NAME:-default}`
replaced, from earlier values of the file or from the environment.
-/

namespace NaturalQuery.EnvFile

open Text

/-- One statement of a file: its key and value, if it has them, and the line it started on. -/
structure Statement where
  key : Option String
  value : Option String
  line : Nat
  broken : Bool

def isInlineBlank (c : Char) : Bool := isBlank c && c != '\n' && c != '\r'

def lineEnds : List Char → Nat
  | '\r' :: '\n' :: rest => lineEnds rest + 1
  | '\r' :: rest => lineEnds rest + 1
  | '\n' :: rest => lineEnds rest + 1
  | _ :: rest => lineEnds rest
  | [] => 0

def normalizeLineEnds : List Char → List Char
  | '\r' :: '\n' :: rest => '\n' :: normalizeLineEnds rest
  | '\r' :: rest => '\n' :: normalizeLineEnds rest
  | c :: rest => c :: normalizeLineEnds rest
  | [] => []

/-- The body of a quoted value up to its closing quote `q`, and what follows the quote. A
backslash before `q` keeps it inside; when no quote closes the value, the last such escaped
quote closes it instead, its backslash staying in the body. -/
def quotedBody (q : Char) : List Char → Option (List Char × List Char)
  | [] => none
  | [c] => if c = q then some ([], []) else none
  | c :: d :: more =>
    if c = q then some ([], d :: more)
    else if c = '\\' && d = q then
      match quotedBody q more with
      | some (body, after) => some ('\\' :: q :: body, after)
      | none => some (['\\'], more)
    else (quotedBody q (d :: more)).map fun (body, after) => (c :: body, after)

def unescape (known : List Char) (decode : Char → Char) : List Char → List Char
  | '\\' :: c :: rest =>
    if known.contains c then decode c :: unescape known decode rest
    else '\\' :: unescape known decode (c :: rest)
  | c :: rest => c :: unescape known decode rest
  | [] => []

def escapeValue (c : Char) : Char :=
  match c with
  | 'a' => Char.ofNat 7
  | 'b' => Char.ofNat 8
  | 'f' => Char.ofNat 12
  | 'n' => '\n'
  | 'r' => '\r'
  | 't' => '\t'
  | 'v' => Char.ofNat 11
  | other => other

/-- The position where a comment starts in an unquoted value: at the first run of blanks that
a `#` follows. -/
def commentStart : List Char → Option Nat
  | [] => none
  | c :: rest =>
    if isBlank c then
      let run := rest.takeWhile isBlank
      if (rest.drop run.length).head? == some '#' then some 0
      else (commentStart rest).map (· + 1)
    else (commentStart rest).map (· + 1)

def unquotedValue (line : List Char) : List Char :=
  let kept := match commentStart line with
    | some n => line.take n
    | none => line
  (kept.reverse.dropWhile isBlank).reverse

abbrev Step (α : Type) := Option (α × List Char × List Char)

def readKey (cs : List Char) : Step (Option String) :=
  match cs with
  | '#' :: _ => some (none, [], cs)
  | '\'' :: rest =>
    let inner := rest.takeWhile (· != '\'')
    match rest.drop inner.length with
    | '\'' :: after =>
      if inner.isEmpty then none else some (some (String.ofList inner), '\'' :: inner ++ ['\''], after)
    | _ => none
  | _ =>
    let key := cs.takeWhile fun c => c != '=' && c != '#' && !isBlank c
    if key.isEmpty then none else some (some (String.ofList key), key, cs.drop key.length)

def readValue (cs : List Char) : Step String :=
  match cs with
  | '\'' :: rest =>
    (quotedBody '\'' rest).map fun (body, after) =>
      (String.ofList (unescape ['\\', '\''] id body), cs.take (cs.length - after.length), after)
  | '"' :: rest =>
    (quotedBody '"' rest).map fun (body, after) =>
      (String.ofList (unescape ['\\', '\'', '"', 'a', 'b', 'f', 'n', 'r', 't', 'v'] escapeValue body),
        cs.take (cs.length - after.length), after)
  | [] => some ("", [], [])
  | '\n' :: _ => some ("", [], cs)
  | '\r' :: _ => some ("", [], cs)
  | _ =>
    let line := cs.takeWhile fun c => c != '\n' && c != '\r'
    some (String.ofList (unquotedValue line), line, cs.drop line.length)

def readEnd (cs : List Char) : Step Unit :=
  let blanks := cs.takeWhile isInlineBlank
  let afterBlanks := cs.drop blanks.length
  let (comment, rest) := match afterBlanks with
    | '#' :: more =>
      let text := more.takeWhile fun c => c != '\n' && c != '\r'
      (blanks ++ '#' :: text, more.drop text.length)
    | _ => ([], cs)
  let blanks2 := rest.takeWhile isInlineBlank
  let afterBlanks2 := rest.drop blanks2.length
  match afterBlanks2 with
  | [] => some ((), comment ++ blanks2, [])
  | '\r' :: '\n' :: more => some ((), comment ++ blanks2 ++ ['\r', '\n'], more)
  | '\n' :: more => some ((), comment ++ blanks2 ++ ['\n'], more)
  | '\r' :: more => some ((), comment ++ blanks2 ++ ['\r'], more)
  | _ => none

def skipLine (cs : List Char) : List Char × List Char :=
  let text := cs.takeWhile fun c => c != '\n' && c != '\r'
  match cs.drop text.length with
  | '\r' :: more => (text ++ ['\r'], more)
  | '\n' :: more => (text ++ ['\n'], more)
  | more => (text, more)

/-- After the leading blanks: an optional `export` with blanks, the key, blanks, and `=` with a
value. Gives the key and value, the line ends used, and the rest; or, when the statement breaks,
the line ends used before the break and the text from there. -/
def readBinding (cs : List Char) :
    Except (Nat × List Char) ((Option String × Option String) × Nat × List Char) := do
  let exportWord := ['e', 'x', 'p', 'o', 'r', 't']
  let cs :=
    if cs.take 6 == exportWord then
      let blanks := (cs.drop 6).takeWhile isInlineBlank
      if blanks.isEmpty then cs else cs.drop (6 + blanks.length)
    else cs
  let (key, keyText, cs) ← match readKey cs with
    | some r => .ok r
    | none => .error (0, cs)
  let used := lineEnds keyText
  let blanks := cs.takeWhile isInlineBlank
  let cs := cs.drop blanks.length
  let (value, used, cs) ← match cs with
    | '=' :: more =>
      let blanks := more.takeWhile isInlineBlank
      let more := more.drop blanks.length
      match readValue more with
      | some (v, text, after) => .ok (some v, used + lineEnds text, after)
      | none => .error (used, more)
    | _ => .ok (none, used, cs)
  match readEnd cs with
  | some ((), text, after) => .ok ((key, value), used + lineEnds text, after)
  | none => .error (used, cs)

/-- One statement from the front of a text that starts on `line`, the line the next one starts
on, and the rest. -/
def readStatement (line : Nat) (cs : List Char) : Statement × Nat × List Char :=
  let blanks := cs.takeWhile isBlank
  let line' := line + lineEnds blanks
  let rest := cs.drop blanks.length
  if rest.isEmpty then (⟨none, none, line, false⟩, line', [])
  else
    match readBinding rest with
    | .ok ((key, value), used, after) => (⟨key, value, line, false⟩, line' + used, after)
    | .error (used, stop) =>
      let (skipped, after) := skipLine stop
      (⟨none, none, line, true⟩, line' + used + lineEnds skipped, after)

/-- The statements of a text from `line` on; `fuel` bounds their number (each statement uses at
least one character, so the length of the text is enough). -/
def statementsFrom : Nat → Nat → List Char → List Statement
  | 0, _, _ => []
  | _ + 1, _, [] => []
  | fuel + 1, line, cs =>
    let (statement, next, rest) := readStatement line cs
    statement :: statementsFrom fuel next rest

def statements (text : String) : List Statement :=
  let cs := normalizeLineEnds text.toList
  statementsFrom (cs.length + 1) 1 cs

def brokenLines (text : String) : List Nat :=
  (statements text).filterMap fun s => if s.broken then some s.line else none

/-- A reference at the front of a text after its `$\x7b`: the name, an optional `:-` default,
and the number of characters up to and including the closing brace. -/
def readReference (cs : List Char) : Option ((String × Option String) × Nat) :=
  let name := cs.takeWhile fun c => c != '\x7d' && c != ':'
  match cs.drop name.length with
  | '\x7d' :: _ => some ((String.ofList name, none), name.length + 1)
  | ':' :: '-' :: more =>
    let fallback := more.takeWhile (· != '\x7d')
    match more.drop fallback.length with
    | '\x7d' :: _ =>
      some ((String.ofList name, some (String.ofList fallback)), name.length + fallback.length + 3)
    | _ => none
  | _ => none

/-- A value with its references replaced: a name that `lookup` knows gives its value (empty when
it has none), and an unknown name gives the default, or nothing. -/
def expand (lookup : String → Option (Option String)) : List Char → List Char
  | [] => []
  | '$' :: '\x7b' :: rest =>
    match readReference rest with
    | some ((name, fallback), used) =>
      let text := match lookup name with
        | some value => value.getD ""
        | none => fallback.getD ""
      text.toList ++ expand lookup (rest.drop used)
    | none => '$' :: '\x7b' :: expand lookup rest
  | c :: rest => c :: expand lookup rest
termination_by cs => cs.length
decreasing_by
  · exact Nat.lt_succ_of_lt (Nat.lt_succ_of_le (List.length_drop ▸ Nat.sub_le rest.length used))
  · exact Nat.lt_succ_of_lt (Nat.lt_add_one _)
  · exact Nat.lt_add_one _

def referenceNames : List Char → List String
  | [] => []
  | '$' :: '\x7b' :: rest =>
    match readReference rest with
    | some ((name, _), used) =>
      name :: referenceNames (rest.drop used)
    | none => referenceNames rest
  | _ :: rest => referenceNames rest
termination_by cs => cs.length
decreasing_by
  · exact Nat.lt_succ_of_lt (Nat.lt_succ_of_le (List.length_drop ▸ Nat.sub_le rest.length used))
  · exact Nat.lt_succ_of_lt (Nat.lt_add_one _)
  · exact Nat.lt_add_one _

def mentionedNames (text : String) : List String :=
  (statements text).flatMap fun s =>
    s.key.toList ++ (s.value.map (referenceNames ·.toList)).getD []

abbrev Bindings := List (String × Option String)

def Bindings.set (table : Bindings) (name : String) (value : Option String) : Bindings :=
  if table.any (·.1 == name) then table.map fun (k, v) => if k == name then (k, value) else (k, v)
  else table ++ [(name, value)]

/-- The values of a file, references replaced in order. With `fileFirst`, a name is looked up
among the values already read before the environment `outside`; otherwise after it. -/
def resolve (outside : List (String × String)) (fileFirst : Bool) (pairs : Bindings) : Bindings :=
  pairs.foldl (fun (done : Bindings) (name, value) =>
    let lookup (n : String) : Option (Option String) :=
      let inFile := done.lookup n
      let inOutside := (outside.lookup n).map some
      if fileFirst then inFile <|> inOutside else inOutside <|> inFile
    done.set name (value.map fun v => String.ofList (expand lookup v.toList))) []

def values (outside : List (String × String)) (fileFirst : Bool) (text : String) : Bindings :=
  resolve outside fileFirst ((statements text).filterMap fun s => s.key.map (·, s.value))

end NaturalQuery.EnvFile
