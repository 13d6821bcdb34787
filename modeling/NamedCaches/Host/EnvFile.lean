import NamedCaches.Text.Blank
import NamedCaches.Text.Alphanumeric
set_option autoImplicit false
/-!
# Environment files

An environment file assigns variables, one `KEY=VALUE` per logical line. A key starts with an
ASCII letter or `_` and goes on with ASCII letters, digits, `_` and `.`; it may be preceded by
`export`. Blank lines and lines starting with `#` assign nothing, and an empty value (or one that
is only a comment) is the empty text.

A value is read character by character: `'...'` keeps everything literally, `"..."` keeps
everything but `\` escapes, and outside quotes a backslash escapes one character; the escapes
are `\\`, `\'`, `\"`, `\$`, `\ ` and `\n` (a line break), any other is malformed. A blank outside
quotes ends the value, after which only blanks and a `#` comment may follow. `$NAME` and
`${NAME}` stand for a variable (a plain `$NAME` runs over letters and digits of any script):
its value in the environment, else the value this file gave it
last, else nothing. A quote left open makes the line go on over the next physical lines.

A byte order mark at the very start of the file is skipped, and blanks at the end of a logical
line do not count. Reading stops at the first malformed line (also a physical line that is no
valid UTF-8, or a file that ends inside an open quote, after a backslash or after a trailing
blank); what was read before it still counts. A variable that is already set keeps its value.
-/

namespace NamedCaches

namespace EnvFile

/-- Where a physical line leaves the reader of a logical line. -/
inductive Open where
  | complete
  | escape
  | strong
  | strongEscape
  | weak
  | weakEscape
  | blank
  deriving DecidableEq, Repr, Inhabited

/-- One character further on a logical line, a comment apart. -/
def Open.step : Open → Char → Open
  | .blank, c =>
    if c == '\\' then .escape
    else if c == '"' then .weak
    else if c == '\'' then .strong
    else .complete
  | .complete, c =>
    if Text.isBlank c && c != '\n' && c != '\r' then .blank
    else if c == '\\' then .escape
    else if c == '"' then .weak
    else if c == '\'' then .strong
    else .complete
  | .escape, _ => .complete
  | .weak, c => if c == '\\' then .weakEscape else if c == '"' then .complete else .weak
  | .weakEscape, _ => .weak
  | .strong, c => if c == '\\' then .strongEscape else if c == '\'' then .complete else .strong
  | .strongEscape, _ => .strong

/-- How a physical line ends: in a state, or at a comment, with the characters before it. -/
inductive Ending where
  | state (s : Open)
  | comment (kept : List Char)

/-- Reads a physical line on from a state; a `#` right after a blank starts a comment. -/
def scan (s : Open) (kept : List Char) : List Char → Ending
  | [] => .state s
  | c :: rest =>
    if s == .blank && c == '#' then .comment kept.reverse
    else scan (s.step c) (c :: kept) rest

/-- A logical line without its line break (and a carriage return before it). -/
def stripBreak (cs : List Char) : List Char :=
  match cs.reverse with
  | '\n' :: '\r' :: rest => rest.reverse
  | '\n' :: rest => rest.reverse
  | _ => cs

/-- The logical lines of a file from its physical lines (`none` for one that is no valid
text), and whether the file was read to its end. -/
def logicalLines (buf : List Char) (s : Open) : List (Option (List Char)) → List (List Char) × Bool
  | [] => ([], buf.isEmpty)
  | none :: _ => ([], false)
  | some chunk :: rest =>
    let line := buf ++ chunk
    let next (l : List Char) :=
      let (ls, ok) := logicalLines [] .complete rest
      (l :: ls, ok)
    if (Text.dropBlanks line).head? == some '#' then next []
    else
      match scan s [] chunk with
      | .comment kept => next (buf ++ kept)
      | .state .complete => next (stripBreak line)
      | .state s' => logicalLines line s' rest

/-- The physical lines of a file, each with its line break. -/
def physicalLines (bytes : List UInt8) : List (List UInt8) :=
  let rec go (current : List UInt8) : List UInt8 → List (List UInt8)
    | [] => if current.isEmpty then [] else [current.reverse]
    | b :: rest =>
      if b == 10 then (b :: current).reverse :: go [] rest
      else go (b :: current) rest
  go [] bytes

/-- A part of a value: literal text, or a variable to look up. -/
inductive Piece where
  | text (s : String)
  | var (name : String)
  deriving DecidableEq, Repr, Inhabited

/-- How far a variable reference has been read. -/
inductive Reference where
  | none
  | plain
  | braced
  deriving DecidableEq, Repr, Inhabited

/-- The reader of a value. -/
structure ValueReader where
  strong : Bool := false
  weak : Bool := false
  escaped : Bool := false
  ending : Bool := false
  reference : Reference := .none
  name : List Char := []
  pieces : List Piece := []
  deriving Inhabited

/-- Characters that go on a variable name: letters and digits of any script, and nothing else
(not even `_`). -/
def isNameChar (c : Char) : Bool :=
  Text.isAlphanumeric c

namespace ValueReader

/-- Adds a literal character. -/
def push (r : ValueReader) (c : Char) : ValueReader :=
  { r with pieces := .text (String.singleton c) :: r.pieces }

/-- Ends a variable reference. -/
def close (r : ValueReader) : ValueReader :=
  if r.name.isEmpty then r
  else { r with pieces := .var (String.ofList r.name) :: r.pieces, name := [] }

/-- Reads one character: `none` ends the value at a comment, an error is a malformed value. -/
def step (r : ValueReader) (c : Char) : Except Unit (Option ValueReader) :=
  if r.ending then
    if c == ' ' || c == '\t' then .ok (some r)
    else if c == '#' then .ok none
    else .error ()
  else if r.escaped then
    let r := { r with escaped := false }
    if c == '\\' || c == '\'' || c == '"' || c == '$' || c == ' ' then .ok (some (r.push c))
    else if c == 'n' then .ok (some (r.push '\n'))
    else .error ()
  else if r.strong then
    if c == '\'' then .ok (some { r with strong := false }) else .ok (some (r.push c))
  else if r.reference != .none then
    if isNameChar c then .ok (some { r with name := r.name ++ [c] })
    else if r.reference == .plain then
      if c == '{' && r.name.isEmpty then .ok (some { r with reference := .braced })
      else if c == '$' then .ok (some { r.close with reference := .plain })
      else .ok (some ({ r.close with reference := .none }.push c))
    else if c == '}' then .ok (some { r.close with reference := .none })
    else .ok (some { r with name := r.name ++ [c] })
  else if c == '$' then .ok (some { r with reference := .plain })
  else if r.weak then
    if c == '"' then .ok (some { r with weak := false })
    else if c == '\\' then .ok (some { r with escaped := true })
    else .ok (some (r.push c))
  else if c == '\'' then .ok (some { r with strong := true })
  else if c == '"' then .ok (some { r with weak := true })
  else if c == '\\' then .ok (some { r with escaped := true })
  else if c == ' ' || c == '\t' then .ok (some { r with ending := true })
  else .ok (some (r.push c))

/-- Reads characters up to the end or a comment. -/
def run (r : ValueReader) : List Char → Except Unit ValueReader
  | [] => .ok r
  | c :: rest =>
    match r.step c with
    | .error e => .error e
    | .ok none => .ok r
    | .ok (some r') => r'.run rest

end ValueReader

/-- The parts of a value; a quote or `${` left open is malformed. -/
def value (cs : List Char) : Except Unit (List Piece) := do
  let r ← ValueReader.run {} cs
  if r.reference == .braced || r.strong || r.weak then throw ()
  pure r.close.pieces.reverse

/-- A key at the front of a line, and the rest. -/
def key? (cs : List Char) : Option (String × List Char) :=
  let isKeyChar (c : Char) := c.isAlphanum || c == '_' || c == '.'
  match cs with
  | c :: _ =>
    if c.isAlpha || c == '_' then some (String.ofList (cs.takeWhile isKeyChar), cs.dropWhile isKeyChar)
    else none
  | [] => none

/-- The `=` after a key, and the rest. -/
def equals? : List Char → Option (List Char)
  | '=' :: rest => some rest
  | _ => none

/-- A logical line as an assignment: `none` for a line that assigns nothing. Blanks at the end
of the line do not count. -/
def assignment (line : List Char) : Except Unit (Option (String × List Piece)) := do
  let cs := Text.dropBlanks (Text.dropBlanks line.reverse).reverse
  if cs.isEmpty || cs.head? == some '#' then return none
  let some (k, rest) := key? cs | throw ()
  let rest := Text.dropBlanks rest
  let (k, rest) ← match k, equals? rest with
    | _, some r => pure (k, r)
    | "export", none =>
      match key? rest with
      | some (k', r) =>
        match equals? (Text.dropBlanks r) with
        | some r' => pure (k', r')
        | none => throw ()
      | none => throw ()
    | _, none => throw ()
  let rest := Text.dropBlanks rest
  if rest.isEmpty || rest.head? == some '#' then return some (k, [])
  return some (k, ← value rest)

/-- The assignments of a file, in order, up to its first malformed line. -/
def assignments (lines : List (List Char)) : List (String × List Piece) :=
  match lines with
  | [] => []
  | l :: rest =>
    match assignment l with
    | .error () => []
    | .ok none => assignments rest
    | .ok (some a) => a :: assignments rest

/-- The bytes of a file without the byte order mark it may start with. -/
def withoutMark : List UInt8 → List UInt8
  | 0xEF :: 0xBB :: 0xBF :: rest => rest
  | bytes => bytes

/-- The assignments of a file's bytes: its logical lines, up to the first malformed one. A byte
order mark at the start is skipped. -/
def ofBytes (bytes : ByteArray) : List (String × List Piece) :=
  let chunks := (physicalLines (withoutMark bytes.toList)).map fun l =>
    (String.fromUTF8? (ByteArray.mk l.toArray)).map String.toList
  assignments (logicalLines [] .complete chunks).1

/-- The value of a variable reference: the environment's, else the file's latest, else empty. -/
def resolve {m : Type → Type} [Monad m] (env : String → m (Option String))
    (latest : List (String × String)) : List Piece → m String
  | [] => pure ""
  | .text s :: rest => do pure (s ++ (← resolve env latest rest))
  | .var n :: rest => do
    let v := match ← env n with
      | some v => v
      | none => (latest.lookup n).getD ""
    pure (v ++ (← resolve env latest rest))

/-- Applies a file's assignments to an environment: the variables the file sets, in order. A
variable already set, by the environment or earlier in the file, is not set again. -/
def load {m : Type → Type} [Monad m] (present : String → m (Option String)) :
    List (String × List Piece) → m (List (String × String)) :=
  let rec go (set latest : List (String × String)) : List (String × List Piece) → m (List (String × String))
    | [] => pure set
    | (k, pieces) :: rest => do
      let env (n : String) : m (Option String) := do
        match ← present n with
        | some v => pure (some v)
        | none => pure (set.lookup n)
      let v ← resolve env latest pieces
      let latest := (k, v) :: latest.filter (·.1 != k)
      let set := if (← env k).isSome then set else set ++ [(k, v)]
      go set latest rest
  go [] []

end EnvFile

end NamedCaches
