import NamedCaches.Text.Alphanumeric
import NamedCaches.Text.Blank
set_option autoImplicit false
/-!
# Field value patterns

A log rule may ask for a field value (`[{field=VALUE}]`). The value is taken as `true` or `false`,
as a number, or else as a regular expression; a value that is none of these refuses the whole
setting. A pattern is taken when it is written in the usual syntax of such patterns and the
matcher built from it needs no Unicode tables, for it has none: no case folding beyond ASCII, no
Unicode classes and no Unicode word boundaries. Written syntax:

* literals, `.`, `^`, `$`, alternation `|` and groups `( )`, `(?:...)`, `(?P<name>...)` and
  `(?<name>...)` with distinct names, and flag groups `(?flags)` or `(?flags:...)` over the flags
  `i`, `m`, `s`, `U`, `u`, `x` and `R`, each at most once, with at most one `-`, which must be
  followed by a flag;
* repetitions `*`, `+`, `?` and `{n}`, `{n,}`, `{n,m}` (with `n ≤ m`, both below 2^32, blanks
  allowed around the numbers), each perhaps followed by `?`; a repetition needs something before
  it, and a flag group does not count;
* classes `[...]` with `^`, any number of leading `-` or else a leading `]` as literals, ranges
  `a-z` between literals in order, nested classes, ASCII classes `[:name:]` and the set
  operators `&&`, `--` and `~~`;
* escapes: the meta characters and any other ASCII punctuation but `<` and `>`, the control
  escapes `\a \f \t \n \r \v`, hexadecimal `\x` (2 digits), `\u` (4), `\U` (8) or braced, the
  classes `\d \s \w` and their negations, and outside classes the assertions `\A \z \b \B \< \>`
  and `\b{start}`, `\b{end}`, `\b{start-half}`, `\b{end-half}`;
* with the flag `x`, blanks and comments from `#` to the end of the line are skipped between the
  parts of the pattern, inside classes, counts and hexadecimal escapes too.

Look-around, back-references (`\1`), octal escapes and Unicode classes `\p` are refused, and so
is a pattern that nests more than `nestLimit` levels deep (see `Nesting`). The flags
`i`, `u` and `x` hold to the end of the group that sets them (see `Mode`); `u` is on at the start.
With `u` on, a literal or class under `i` is refused, and so are `\d \s \w`, their negations and
the word boundaries. With `u` off, whatever could match a byte that is not ASCII is refused: `.`,
negated classes and `\D \S \W`, `\x` escapes of two digits above 7F and, inside classes, any
character above 7F.

Checking is by fuel, one unit per character read, and the length of the text plus one always
suffices.
-/

namespace NamedCaches.Pattern

/-- The value of a hexadecimal digit. -/
def hexValue (c : Char) : Option Nat :=
  if c.isDigit then some (c.toNat - '0'.toNat)
  else if 'a' ≤ c && c ≤ 'f' then some (c.toNat - 'a'.toNat + 10)
  else if 'A' ≤ c && c ≤ 'F' then some (c.toNat - 'A'.toNat + 10)
  else none

/-- The number written by hexadecimal digits, first digit most significant. -/
def hexNumber (ds : List Char) : Option Nat :=
  ds.foldlM (fun n c => (hexValue c).map fun d => 16 * n + d) 0

/-- Whether a number is a Unicode scalar value: at most U+10FFFF and not a surrogate. -/
def isScalar (n : Nat) : Bool := n ≤ 0x10FFFF && !(0xD800 ≤ n && n ≤ 0xDFFF)

/-- Characters that always stand for themselves after a backslash. -/
def isMeta (c : Char) : Bool := "\\.+*?()|[]\x7b\x7d^$#&-~".toList.contains c

/-- Characters a backslash may precede to mean themselves: the meta characters and every other
ASCII character that is not a letter, a digit, `<` or `>`. -/
def isEscapable (c : Char) : Bool :=
  isMeta c || (c.toNat < 128 && !c.isAlphanum && c != '<' && c != '>')

/-! ## Modes -/

/-- The flags that decide how a pattern is read and whether it can be used: `i` (case-blind
matching), `u` (matching characters rather than bytes) and `x` (blanks and comments skipped). -/
structure Mode where
  caseless : Bool := false
  unicode : Bool := true
  spaced : Bool := false
  deriving DecidableEq, Repr, Inhabited

namespace Mode

/-- Turns one flag on or off; the flags that do not bear on the check are ignored. -/
def set (m : Mode) (flag : Char) (on : Bool) : Mode :=
  if flag == 'i' then { m with caseless := on }
  else if flag == 'u' then { m with unicode := on }
  else if flag == 'x' then { m with spaced := on }
  else m

/-- Applies the flags of a flag group in turn. -/
def setAll (m : Mode) (items : List (Char × Bool)) : Mode :=
  items.foldl (fun m p => m.set p.1 p.2) m

/-- Drops blanks and comments; `inComment` tells whether a comment is open, which a line feed
closes. -/
def skipFrom : Bool → List Char → List Char
  | _, [] => []
  | true, c :: rest => skipFrom (c != '\n') rest
  | false, c :: rest =>
    if Text.isBlank c then skipFrom false rest
    else if c == '#' then skipFrom true rest
    else c :: rest

/-- What is read next: in extended mode after the blanks and comments in front. -/
def skip (m : Mode) (cs : List Char) : List Char := if m.spaced then skipFrom false cs else cs

/-- The character taken to follow a `-` in a class, when the class decides whether the `-` makes a
range; `cs` is what stands after the `-`. In extended mode this looks past blanks and one `#`,
and when it finds nothing there it gives the very next character. -/
def peek (m : Mode) (cs : List Char) : Option Char :=
  if m.spaced then
    match cs.dropWhile Text.isBlank with
    | '#' :: more =>
      match more.dropWhile Text.isBlank with
      | c :: _ => some c
      | [] => cs.head?
    | c :: _ => some c
    | [] => cs.head?
  else cs.head?

/-- In extended mode a `?` after a count, even past blanks, makes the repetition lazy. -/
def dropLazy (m : Mode) (cs : List Char) : List Char :=
  match m.skip cs with
  | '?' :: rest => rest
  | rest => rest

end Mode

/-! ## Escapes -/

/-- What an escape or a plain character stands for. -/
inductive Atom where
  /-- One character, by its code point; `byte` when written as `\x` with two digits, which
  without `u` stands for a byte. -/
  | literal (code : Nat) (byte : Bool)
  /-- One of the classes `\d \s \w`, or a negation `\D \S \W`. -/
  | perl (negated : Bool)
  /-- A word boundary: `\b \B \< \>` or a special one `\b{...}`. -/
  | boundary
  /-- The start or the end of the text: `\A \z`. -/
  | anchor
  deriving DecidableEq, Repr, Inhabited

namespace Atom

/-- Whether an atom can be used outside classes: with `u`, no literal under `i` (folding its case
needs the Unicode tables), no Perl class and no word boundary; without `u`, nothing that matches a
byte above 7F. -/
def usable (m : Mode) : Atom → Bool
  | .literal code byte => if m.unicode then !m.caseless else !(byte && code > 0x7F)
  | .perl negated => !m.unicode && !negated
  | .boundary => !m.unicode
  | .anchor => true

/-- Whether an atom can be a member of a class: a literal, only ASCII without `u`, or an ASCII
Perl class without `u`; the case of the whole class is checked with the class. -/
def usableInClass (m : Mode) : Atom → Bool
  | .literal code _ => m.unicode || code ≤ 0x7F
  | .perl negated => !m.unicode && !negated
  | _ => false

end Atom

/-- Reads `n` hexadecimal digits, each perhaps after what extended mode skips. -/
def hexRun (m : Mode) : Nat → List Char → Option (List Char × List Char)
  | 0, cs => some ([], cs)
  | n + 1, cs =>
    match m.skip cs with
    | c :: rest =>
      if (hexValue c).isSome then (hexRun m n rest).map fun p => (c :: p.1, p.2) else none
    | [] => none

/-- Reads the digits of a braced hexadecimal escape up to and past its `}`. -/
def hexBraced (m : Mode) : Nat → List Char → Option (List Char × List Char)
  | 0, _ => none
  | fuel + 1, cs =>
    match m.skip cs with
    | '}' :: rest => some ([], rest)
    | c :: rest =>
      if (hexValue c).isSome then (hexBraced m fuel rest).map fun p => (c :: p.1, p.2) else none
    | [] => none

/-- Reads a hexadecimal escape after `\x`, `\u` or `\U`: exactly `width` digits, or at least one
digit in braces; the code must be a scalar value. -/
def hexEscape (m : Mode) (width : Nat) (cs : List Char) : Option (Atom × List Char) :=
  match m.skip cs with
  | '{' :: rest => do
    let (ds, after) ← hexBraced m (rest.length + 1) rest
    if ds.isEmpty then none
    let n ← hexNumber ds
    if isScalar n then some (.literal n false, after) else none
  | [] => none
  | rest => do
    let (ds, after) ← hexRun m width rest
    let n ← hexNumber ds
    if isScalar n then some (.literal n (width == 2), after) else none

/-- The names of the special word boundaries `\b{...}`. -/
def boundaryNames : List String := ["start", "end", "start-half", "end-half"]

/-- Whether a character may stand in the name of a special word boundary. -/
def isBoundaryChar (c : Char) : Bool := c.isAlpha || c == '-'

/-- Reads the name of a special word boundary up to the first character that cannot stand in
one, skipping what extended mode skips after each character. -/
def boundaryWord (m : Mode) : Nat → List Char → List Char × List Char
  | 0, cs => ([], cs)
  | fuel + 1, cs =>
    match cs with
    | c :: rest =>
      if isBoundaryChar c then
        let p := boundaryWord m fuel (m.skip rest)
        (c :: p.1, p.2)
      else ([], cs)
    | [] => ([], [])

/-- Reads what follows `\b`: a special word boundary in braces when the brace holds a letter or
`-` first; otherwise the brace, if any, is left to be read as a repetition. -/
def boundaryEscape (m : Mode) (cs : List Char) : Option (Atom × List Char) :=
  match cs with
  | '{' :: rest =>
    match m.skip rest with
    | [] => none
    | c :: more =>
      if isBoundaryChar c then
        match boundaryWord m (rest.length + 1) (c :: more) with
        | (word, '}' :: after) =>
          if boundaryNames.contains (String.ofList word) then some (.boundary, after) else none
        | _ => none
      else some (.boundary, cs)
  | _ => some (.boundary, cs)

/-- Reads an escape after its backslash. -/
def escape (m : Mode) (cs : List Char) : Option (Atom × List Char) :=
  match cs with
  | [] => none
  | c :: rest =>
    if c.isDigit then none
    else if c == 'x' then hexEscape m 2 rest
    else if c == 'u' then hexEscape m 4 rest
    else if c == 'U' then hexEscape m 8 rest
    else if c == 'p' || c == 'P' then none
    else if "dsw".toList.contains c then some (.perl false, rest)
    else if "DSW".toList.contains c then some (.perl true, rest)
    else if isEscapable c then some (.literal c.toNat false, rest)
    else if c == 'a' then some (.literal 7 false, rest)
    else if c == 'f' then some (.literal 12 false, rest)
    else if c == 't' then some (.literal 9 false, rest)
    else if c == 'n' then some (.literal 10 false, rest)
    else if c == 'r' then some (.literal 13 false, rest)
    else if c == 'v' then some (.literal 11 false, rest)
    else if c == 'b' then boundaryEscape m rest
    else if "B<>".toList.contains c then some (.boundary, rest)
    else if c == 'A' || c == 'z' then some (.anchor, rest)
    else none

/-! ## Classes -/

/-- The names of the ASCII classes `[:name:]`. -/
def asciiClassNames : List String :=
  ["alnum", "alpha", "ascii", "blank", "cntrl", "digit", "graph", "lower", "print", "punct",
    "space", "upper", "word", "xdigit"]

/-- An ASCII class `[:name:]` or `[:^name:]` at the front, if one is there: whether it is negated
and what follows it. -/
def asciiClass (cs : List Char) : Option (Bool × List Char) :=
  match cs with
  | '[' :: ':' :: rest =>
    let (negated, body) := match rest with
      | '^' :: more => (true, more)
      | _ => (false, rest)
    let name := body.takeWhile Char.isAlpha
    match body.dropWhile Char.isAlpha with
    | ':' :: ']' :: after =>
      if asciiClassNames.contains (String.ofList name) then some (negated, after) else none
    | _ => none
  | _ => none

/-- Reads one member of a class: a character or an escape that is a literal or a class. -/
def member (m : Mode) (cs : List Char) : Option (Atom × List Char) :=
  match cs with
  | '\\' :: rest =>
    match escape m rest with
    | some (.boundary, _) | some (.anchor, _) => none
    | r => r
  | c :: rest => some (.literal c.toNat false, rest)
  | [] => none

/-- Reads the leading `-` of a class, each a literal: how many there are and what follows; `none`
when the text ends. -/
def dashes (m : Mode) : Nat → List Char → Option (Nat × List Char)
  | 0, _ => none
  | fuel + 1, cs =>
    match cs with
    | '-' :: rest =>
      match m.skip rest with
      | [] => none
      | after => (dashes m fuel after).map fun p => (p.1 + 1, p.2)
    | _ => some (0, cs)

/-- Reads the start of a class after its `[`: whether it is negated by `^`, then any number of
`-`, or else a `]`, standing for themselves; gives how many members these make and what
follows. -/
def classOpen (m : Mode) (cs : List Char) : Option (Bool × Nat × List Char) :=
  match m.skip cs with
  | [] => none
  | c :: rest => do
    let (negated, cs) := if c == '^' then (true, m.skip rest) else (false, c :: rest)
    if cs.isEmpty then none
    let (dashed, cs) ← dashes m (cs.length + 1) cs
    match cs with
    | [] => none
    | ']' :: rest =>
      if dashed > 0 then some (negated, dashed, cs)
      else
        let after := m.skip rest
        if after.isEmpty then none else some (negated, 1, after)
    | _ => some (negated, dashed, cs)

/-- What the reader keeps of one open class to know how deeply it nests: the members read since
the last set operator, the greatest height among them, and the height of the left side of a
pending set operator. One member stands for itself; several make a union, one level deeper. -/
structure ClassNesting where
  members : Nat := 0
  top : Nat := 0
  left : Option Nat := none
  deriving DecidableEq, Repr, Inhabited

namespace ClassNesting

/-- Adds a member of a height: 0 for a character, a range or a named class. -/
def add (c : ClassNesting) (h : Nat) : ClassNesting :=
  { c with members := c.members + 1, top := max c.top h }

/-- The height of the members since the last set operator. -/
def union (c : ClassNesting) : Nat := if c.members ≤ 1 then c.top else c.top + 1

/-- The height of the whole set: an operator stands one level above both its sides. -/
def set (c : ClassNesting) : Nat :=
  match c.left with
  | some l => max l c.union + 1
  | none => c.union

/-- A set operator: what was read so far becomes its left side. -/
def operator (c : ClassNesting) : ClassNesting := { left := some c.set }

/-- The height of the class: one level above its set. -/
def height (c : ClassNesting) : Nat := c.set + 1

end ClassNesting

/-- Reads the inside of a class up to and past its closing `]`, giving its height. `c` is the
class being read and `outer` the classes it is nested in. Without `u` a nested class or ASCII
class may not be negated. A `-` after a member makes a range unless what follows it is `]` or
`-`. -/
def classBody : Nat → Mode → ClassNesting → List ClassNesting → List Char → Option (Nat × List Char)
  | 0, _, _, _, _ => none
  | fuel + 1, m, c, outer, cs =>
    match m.skip cs with
    | [] => none
    | '[' :: rest =>
      match asciiClass ('[' :: rest) with
      | some (negated, after) =>
        if m.unicode || !negated then classBody fuel m (c.add 0) outer after else none
      | none =>
        match classOpen m rest with
        | some (negated, members, after) =>
          if m.unicode || !negated then classBody fuel m { members } (c :: outer) after else none
        | none => none
    | ']' :: rest =>
      match outer with
      | [] => some (c.height, rest)
      | o :: more => classBody fuel m (o.add c.height) more rest
    | '&' :: '&' :: rest | '-' :: '-' :: rest | '~' :: '~' :: rest =>
      classBody fuel m c.operator outer rest
    | cs =>
      match member m cs with
      | none => none
      | some (first, rest) =>
        match m.skip rest with
        | [] => none
        | '-' :: more =>
          let next := m.peek more
          if next == some ']' || next == some '-' then
            if first.usableInClass m then classBody fuel m (c.add 0) outer ('-' :: more) else none
          else
            match member m (m.skip more), first with
            | some (.literal hi hb, after), .literal lo lb =>
              if lo ≤ hi && (Atom.literal lo lb).usableInClass m && (Atom.literal hi hb).usableInClass m
              then classBody fuel m (c.add 0) outer after
              else none
            | _, _ => none
        | rest => if first.usableInClass m then classBody fuel m (c.add 0) outer rest else none

/-- Reads a class after its `[`, up to and past its `]`, giving its height: with `u` it may not
stand under `i`, without `u` it may not be negated. -/
def bracketed (m : Mode) (cs : List Char) : Option (Nat × List Char) :=
  if m.unicode && m.caseless then none
  else
    match classOpen m cs with
    | some (negated, members, body) =>
      if m.unicode || !negated then classBody (body.length + 1) m { members } [] body else none
    | none => none

/-! ## Groups and repetitions -/

/-- The flags a flag group may set. -/
def flagLetters : List Char := "imsUuxR".toList

/-- Reads the flags of a group after `(?` up to `:` or `)`: each flag with whether it is turned on,
the character that ends them and what follows it. A flag may not come twice, `-` may come once and
must be followed by a flag. -/
def flags : Nat → List (Char × Bool) → List Char → Bool → Bool →
    Option (List (Char × Bool) × Char × List Char)
  | 0, _, _, _, _ => none
  | _ + 1, _, [], _, _ => none
  | fuel + 1, items, c :: rest, negated, dangling =>
    if c == ':' || c == ')' then
      if dangling then none else some (items.reverse, c, rest)
    else if c == '-' then
      if negated then none else flags fuel items rest true true
    else if flagLetters.contains c && !(items.any fun p => p.1 == c) then
      flags fuel ((c, !negated) :: items) rest negated false
    else none

/-- Whether a character may stand in a group name: first a letter or `_`; later also a digit,
`.`, `[` or `]`. A letter here is a letter or digit that is not an ASCII digit. -/
def isNameChar (first : Bool) (c : Char) : Bool :=
  c == '_' || (Text.isAlphanumeric c && !(first && c.isDigit)) ||
    (!first && (c == '.' || c == '[' || c == ']'))

/-- Reads a group name up to and past its `>`: not empty, made of name characters. -/
def groupName (cs : List Char) : Option (String × List Char) :=
  let name := cs.takeWhile (· != '>')
  match cs.dropWhile (· != '>') with
  | '>' :: rest =>
    match name with
    | [] => none
    | c :: more =>
      if isNameChar true c && more.all (isNameChar false) then some (String.ofList name, rest)
      else none
  | _ => none

/-- Reads the digits of a count; in extended mode what it skips may stand between them. -/
def digitRun (spaced : Bool) : Bool → List Char → List Char × List Char
  | _, [] => ([], [])
  | true, c :: rest => digitRun spaced (c != '\n') rest
  | false, c :: rest =>
    if c.isDigit then
      let p := digitRun spaced false rest
      (c :: p.1, p.2)
    else if spaced && Text.isBlank c then digitRun spaced false rest
    else if spaced && c == '#' then digitRun spaced true rest
    else ([], c :: rest)

/-- Reads a number of a count, blanks allowed around it: its value, below 2^32, and what follows. -/
def decimal (m : Mode) (cs : List Char) : Option (Nat × List Char) :=
  let (ds, rest) := digitRun m.spaced false (cs.dropWhile Text.isBlank)
  let n := ds.foldl (fun n d => 10 * n + (d.toNat - '0'.toNat)) 0
  if ds.isEmpty || n ≥ Nat.pow 2 32 then none else some (n, rest.dropWhile Text.isBlank)

/-- Reads the count of a repetition after its `{` up to and past its `}`: `n`, `n,` or `n,m`
with `n ≤ m`. -/
def counted (m : Mode) (cs : List Char) : Option (List Char) := do
  let cs := m.skip cs
  if cs.isEmpty then none
  let (lo, rest) ← decimal m cs
  match rest with
  | '}' :: after => some after
  | ',' :: more =>
    match m.skip more with
    | [] => none
    | '}' :: after => some after
    | more => do
      let (hi, rest) ← decimal m more
      match rest with
      | '}' :: after => if lo ≤ hi then some after else none
      | _ => none
  | _ => none

/-- The deepest a pattern may nest: groups, repetitions, alternations, sequences of several
parts and classes each count one level. -/
def nestLimit : Nat := 250

/-- What the reader keeps of one open group to know how deeply it nests: the parts of the
current alternative, the greatest height among them but the last, the height of the last (a
repetition lifts it), and the alternatives already closed with the greatest height among
them. One part stands for itself, several make a sequence one level deeper; several
alternatives make an alternation one level deeper. -/
structure Nesting where
  parts : Nat := 0
  front : Nat := 0
  last : Nat := 0
  closed : Nat := 0
  closedTop : Nat := 0
  deriving DecidableEq, Repr, Inhabited

namespace Nesting

/-- Adds a part of a height: 0 for a character, an escape or a flag group. -/
def push (n : Nesting) (h : Nat) : Nesting :=
  { n with parts := n.parts + 1, front := if n.parts == 0 then 0 else max n.front n.last, last := h }

/-- Repeats the last part, one level above it. -/
def repeated (n : Nesting) : Nesting := { n with last := n.last + 1 }

/-- The height of the current alternative. -/
def branch (n : Nesting) : Nat :=
  if n.parts == 0 then 0 else if n.parts == 1 then n.last else max n.front n.last + 1

/-- Closes the current alternative at a `|`. -/
def alternate (n : Nesting) : Nesting :=
  { closed := n.closed + 1, closedTop := max n.closedTop n.branch }

/-- The height of what the group holds. -/
def height (n : Nesting) : Nat :=
  if n.closed == 0 then n.branch else max n.closedTop n.branch + 1

end Nesting

/-- A `?` right after a repetition makes it lazy. -/
def dropLazy (cs : List Char) : List Char :=
  match cs with
  | '?' :: rest => rest
  | _ => cs

/-- Checks a pattern from the front. `m` is the mode in force, `n` what is kept of the open group
to know how deeply it nests, `outer` the modes and nestings of the enclosing groups to return to
at their `)`, `names` the group names given so far, and `repeatable` tells whether a repetition
may follow. -/
def check : Nat → Mode → Nesting → List (Mode × Nesting) → List String → Bool → List Char → Bool
  | 0, _, _, _, _, _, _ => false
  | fuel + 1, m, n, outer, names, repeatable, cs =>
    match m.skip cs with
    | [] => outer.isEmpty && n.height ≤ nestLimit
    | '(' :: rest =>
      match m.skip rest with
      | '?' :: '=' :: _ | '?' :: '!' :: _ | '?' :: '<' :: '=' :: _ | '?' :: '<' :: '!' :: _ => false
      | '?' :: 'P' :: '<' :: more | '?' :: '<' :: more =>
        match groupName more with
        | some (name, after) =>
          !names.contains name && check fuel m {} ((m, n) :: outer) (name :: names) false after
        | none => false
      | '?' :: more =>
        match flags (more.length + 1) [] more false false with
        | some (items, ':', after) => check fuel (m.setAll items) {} ((m, n) :: outer) names false after
        | some (items, _, after) =>
          !items.isEmpty && check fuel (m.setAll items) (n.push 0) outer names false after
        | none => false
      | rest => check fuel m {} ((m, n) :: outer) names false rest
    | ')' :: rest =>
      match outer with
      | [] => false
      | (o, on) :: more => check fuel o (on.push (n.height + 1)) more names true rest
    | '|' :: rest => check fuel m n.alternate outer names false rest
    | '*' :: rest | '+' :: rest | '?' :: rest =>
      repeatable && check fuel m n.repeated outer names true (dropLazy rest)
    | '{' :: rest =>
      repeatable &&
        match counted m rest with
        | some after => check fuel m n.repeated outer names true (m.dropLazy after)
        | none => false
    | '[' :: rest =>
      match bracketed m rest with
      | some (h, after) => check fuel m (n.push h) outer names true after
      | none => false
    | '\\' :: rest =>
      match escape m rest with
      | some (a, after) => a.usable m && check fuel m (n.push 0) outer names true after
      | none => false
    | '.' :: rest => m.unicode && check fuel m (n.push 0) outer names true rest
    | c :: rest =>
      (c == '^' || c == '$' || (Atom.literal c.toNat false).usable m) &&
        check fuel m (n.push 0) outer names true rest

/-- Whether a text is a well-formed pattern that can be used. -/
def isValid (s : String) : Bool := check (s.length + 1) {} {} [] [] false s.toList

/-! ## Plain values -/

/-- Whether a text is a floating-point number as the value reader takes it: an optional sign,
then `inf`, `infinity` or `nan` in any case, or digits with an optional point (at least one digit
in all) and an optional exponent of `e` or `E`, an optional sign and digits. -/
def isNumber (s : String) : Bool :=
  let cs := match s.toList with
    | '+' :: rest | '-' :: rest => rest
    | cs => cs
  if ["inf", "infinity", "nan"].contains (String.ofList cs).toLower then true
  else
    let whole := cs.takeWhile Char.isDigit
    let cs := cs.dropWhile Char.isDigit
    let (fraction, cs) := match cs with
      | '.' :: rest => (rest.takeWhile Char.isDigit, rest.dropWhile Char.isDigit)
      | _ => ([], cs)
    let exponentOk := match cs with
      | [] => true
      | e :: rest =>
        (e == 'e' || e == 'E') &&
          let ds := match rest with
            | '+' :: more | '-' :: more => more
            | _ => rest
          !ds.isEmpty && ds.all Char.isDigit
    (!whole.isEmpty || !fraction.isEmpty) && exponentOk

/-- Whether a field value is accepted: a truth value, a number, or a well-formed pattern. -/
def isValue (s : String) : Bool := s == "true" || s == "false" || isNumber s || isValid s

example : isValid "(" = false := by decide

example : isValid "a*" = true := by decide

example : isValid "+5" = false := by decide

example : isValid "(?i)a" = false := by decide

example : isValid "(?i-u)a" = true := by decide

example : isValid "(?x)#(" = true := by decide

end NamedCaches.Pattern
