import NamedCaches.Log
import NamedCaches.Text.Blank
import NamedCaches.Text.Alphanumeric
import NamedCaches.Log.Pattern
set_option autoImplicit false
/-!
# Log filters

A filter decides which log lines are written. It is set from a text of comma-separated rules;
empty rules are skipped. A rule is

* `TARGET[SPAN{FIELD}]=LEVEL`, where every part may be left out: a target alone lets every level
  through, an empty level after `=` too. A target starts with a letter, a digit, `_`, `:` or `-`
  and runs up to `[`, `=` or the end; it may hold any other character. Inside the brackets a span
  name runs up to `]` or `{`, and a field up to `}`; a field is `NAME` or `NAME=VALUE`, where the
  value is a truth value, a number or a well-formed pattern (see `Pattern.isValue`);
* a level is `off`, `error`, `warn`, `info`, `debug` or `trace` in any ASCII case, or a number
  from 0 (off) to 5 (trace), with an optional `+` and any leading zeros. A rule that is only a
  target is a level for every target when its text is a level, so `+5` is refused: `+` cannot
  start a target.

The rule is read from its text with blanks trimmed at both ends, but its parts are cut from the
untrimmed text at the places found in the trimmed one. With no leading blank this is the same;
with leading blanks every cut is shifted to the left: ` a=info` reads the target ` ` and the
level `=info`, which is refused, and a rule whose cut falls inside a character is refused too.
Trailing blanks stay in the last part: `debug ` is the target `debug `.

A rule with a span name, or with a field value, only applies inside spans; no line here is
written inside one, so such rules let nothing through. The other rules are kept sorted from the
most specific to the least: a longer target first, a rule without target last, then more fields
first; a later rule with the same target and fields replaces an earlier one. A line is written
when the first kept rule that applies to it lets its level through: a rule applies when its
target is a prefix of the line's target and each of its fields is the line's `message`. Without
such a rule nothing is written: an empty setting silences everything. A setting with a refused
rule, like no setting at all, gives the default filter `cache_bridge=info`.
-/

namespace NamedCaches

/-- The level a level text stands for (0 is off, 5 is trace): a number from 0 to 5 that fits
in 64 bits, optionally after `+`, or a level name in any ASCII case; the empty text is `error`. -/
def levelOf? (s : String) : Option Nat :=
  let digits := match s.toList with
    | '+' :: ds@(_ :: _) => ds
    | ds => ds
  let number :=
    if !digits.isEmpty && digits.all Char.isDigit then
      let n := digits.foldl (fun n c => 10 * n + (c.toNat - '0'.toNat)) 0
      if n < Nat.pow 2 64 && n ≤ 5 then some n else none
    else none
  match number with
  | some n => some n
  | none =>
    if s.isEmpty then some 1
    else match s.toLower with
      | "error" => some 1
      | "warn" => some 2
      | "info" => some 3
      | "debug" => some 4
      | "trace" => some 5
      | "off" => some 0
      | _ => none

/-- A field a rule asks for: its name, and the value it must have, if any. -/
structure FieldMatch where
  name : String
  value : Option String
  deriving DecidableEq, Repr, Inhabited

/-- Reads a field: the name up to the first `=`, the value up to the next; `none` when the
value is neither a truth value, a number nor a well-formed pattern. -/
def FieldMatch.ofText? (s : String) : Option FieldMatch :=
  match s.splitOn "=" with
  | name :: value :: _ => if Pattern.isValue value then some ⟨name, some value⟩ else none
  | _ => some ⟨s, none⟩

/-- One rule of a filter: the target it is about (`none` for every target), the span it applies
in, the fields it asks for, and the most verbose level it lets through. -/
structure Directive where
  target : Option String := none
  span : Option String := none
  fields : List FieldMatch := []
  verbosity : Nat := 5
  deriving DecidableEq, Repr, Inhabited

namespace Directive

/-- Where the reading of a rule stands. -/
inductive Scan where
  /-- Before the first character. -/
  | start
  /-- In a level or target that starts at a byte offset. -/
  | levelOrTarget (start : Nat)
  /-- In a span name that starts at a byte offset. -/
  | span (start : Nat)
  /-- In a field that starts at a byte offset. -/
  | field (start : Nat)
  /-- After a field, before `]`. -/
  | fields
  /-- After the target and span, before `=`. -/
  | target
  /-- In a level that starts at a byte offset. -/
  | level (start : Nat)
  deriving DecidableEq, Repr, Inhabited

/-- The characters of a text with the byte offset of each. -/
def offsets : List Char → Nat → List (Nat × Char)
  | [], _ => []
  | c :: cs, i => (i, c) :: offsets cs (i + c.utf8Size)

/-- The bytes from one offset to another as a text; `none` when a cut falls inside a
character. -/
def cut (bytes : List UInt8) (a b : Nat) : Option String :=
  String.fromUTF8? ⟨((bytes.drop a).take (b - a)).toArray⟩

/-- The bytes from an offset to the end as a text. -/
def cutFrom (bytes : List UInt8) (a : Nat) : Option String := cut bytes a bytes.length

/-- Characters a rule may start with besides `[`. -/
def isFirstChar (c : Char) : Bool := c == '-' || c == ':' || c == '_' || Text.isAlphanumeric c

/-- Reads one character at an offset; `none` when the rule is refused. -/
def step (bytes : List UInt8) : Directive × Scan → Nat × Char → Option (Directive × Scan)
  | (d, .start), (i, c) =>
    if c == '[' then some (d, .span (i + 1))
    else if isFirstChar c then some (d, .levelOrTarget i)
    else none
  | (d, .levelOrTarget s), (i, c) =>
    if c == '=' then (cut bytes s i).map fun t => ({ d with target := some t }, .level (i + 1))
    else if c == '[' then (cut bytes s i).map fun t => ({ d with target := some t }, .span (i + 1))
    else some (d, .levelOrTarget s)
  | (d, .target), (i, c) => if c == '=' then some (d, .level (i + 1)) else none
  | (d, .span s), (i, c) =>
    if c == ']' then (cut bytes s i).map fun n => ({ d with span := some n }, .target)
    else if c == '{' then
      (cut bytes s i).map fun n => ({ d with span := if n.isEmpty then none else some n }, .field (i + 1))
    else some (d, .span s)
  | (d, .field s), (i, c) =>
    if c == '}' then
      match cut bytes s i with
      | some t =>
        if t.isEmpty then none
        else (FieldMatch.ofText? t).map fun m => ({ d with fields := d.fields ++ [m] }, .fields)
      | none => none
    else some (d, .field s)
  | (d, .fields), (_, c) => if c == ']' then some (d, .target) else none
  | (d, .level s), _ => some (d, .level s)

/-- Reads the characters in turn. -/
def scan (bytes : List UInt8) : Directive × Scan → List (Nat × Char) → Option (Directive × Scan)
  | ds, [] => some ds
  | ds, p :: ps => match step bytes ds p with
    | some ds' => scan bytes ds' ps
    | none => none

/-- Completes a rule at its end. -/
def finish (bytes : List UInt8) : Directive × Scan → Option Directive
  | (d, .levelOrTarget s) => do
    let t ← cutFrom bytes s
    if t.isEmpty then pure d
    else match levelOf? t with
      | some v => pure { d with verbosity := v }
      | none => pure { d with target := some t }
  | (d, .level s) => do
    let t ← cutFrom bytes s
    if t.isEmpty then pure d
    else pure { d with verbosity := ← levelOf? t }
  | (d, .target) => some d
  | _ => none

/-- Reads one rule; `none` when it is refused. -/
def parse? (s : String) : Option Directive :=
  let bytes := s.toUTF8.toList
  (scan bytes ({}, .start) (offsets (Text.trimChars s.toList) 0)).bind (finish bytes)

/-- Whether the rule only applies inside spans: it names a span or a field value. -/
def inSpans (d : Directive) : Bool := d.span.isSome || d.fields.any fun f => f.value.isSome

end Directive

/-- A rule that applies outside spans: a target, the names of the fields it asks for, and the
most verbose level it lets through. -/
structure Rule where
  target : Option String
  fields : List String
  verbosity : Nat
  deriving DecidableEq, Repr, Inhabited

namespace Rule

/-- The rule of a directive, unless it only applies inside spans. -/
def ofDirective? (d : Directive) : Option Rule :=
  if d.inSpans then none else some ⟨d.target, d.fields.map FieldMatch.name, d.verbosity⟩

/-- Compares two lists of names, first by first. -/
def compareNames : List String → List String → Ordering
  | [], [] => .eq
  | [], _ :: _ => .lt
  | _ :: _, [] => .gt
  | a :: as, b :: bs => (compare a b).then (compareNames as bs)

/-- Compares two optional texts; no text comes first. -/
def compareTarget : Option String → Option String → Ordering
  | none, none => .eq
  | none, some _ => .lt
  | some _, none => .gt
  | some a, some b => compare a b

/-- How specific one rule is against another: by target length (no target is least), then by
number of fields, then by target and field names so that only equal rules tie. -/
def specificity (a b : Rule) : Ordering :=
  (compare ((a.target.map String.length).map (· + 1) |>.getD 0)
      ((b.target.map String.length).map (· + 1) |>.getD 0)).then
    ((compare a.fields.length b.fields.length).then
      ((compareTarget a.target b.target).then (compareNames a.fields b.fields)))

/-- Whether the rule applies to a line: its target is a prefix of the line's, and each field it
asks for is the message, the only field of a line. -/
def appliesTo (r : Rule) (l : LogLine) : Bool :=
  (r.target.all fun t => l.target.startsWith t) && r.fields.all (· == "message")

end Rule

/-- A log filter: its rules that apply outside spans, most specific first. -/
structure Filter where
  rules : List Rule
  deriving Inhabited

namespace Filter

/-- Adds a rule at its place, most specific first; it replaces a rule with the same target and
fields. -/
def add : List Rule → Rule → List Rule
  | [], r => [r]
  | e :: es, r =>
    match r.specificity e with
    | .gt => r :: e :: es
    | .eq => r :: es
    | .lt => e :: add es r

/-- The filter of a list of rules: rules without span or fields first, then those with fields,
each group in the order given. -/
def ofDirectives (ds : List Directive) : Filter :=
  let plain := ds.filter fun d => d.span.isNone && d.fields.isEmpty
  let withFields := ds.filter fun d => !(d.span.isNone && d.fields.isEmpty)
  ⟨((plain ++ withFields).filterMap Rule.ofDirective?).foldl add []⟩

/-- The filter used when no valid setting is given: `cache_bridge=info`. -/
def default : Filter := ⟨[⟨some Target.root, [], 3⟩]⟩

/-- Reads a setting; `none` when a rule is refused. Empty rules are skipped. -/
def parse? (setting : String) : Option Filter :=
  (((setting.splitOn ",").filter (· != "")).mapM Directive.parse?).map ofDirectives

/-- The filter a setting gives: the default when there is none or it is refused. -/
def ofSetting : Option String → Filter
  | none => default
  | some s => (parse? s).getD default

/-- Whether a line is written: the first rule that applies to it decides. -/
def allows (f : Filter) (l : LogLine) : Bool :=
  match f.rules.find? fun r => r.appliesTo l with
  | some r => l.level.rank ≤ r.verbosity
  | none => false

end Filter

end NamedCaches
