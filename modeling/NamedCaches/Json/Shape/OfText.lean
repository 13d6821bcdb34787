import NamedCaches.Json.Scan
import NamedCaches.Json.Shape
set_option autoImplicit false
/-!
# Reading text against a shape

`Scan.shaped` reads JSON text directly against a `Shape`, giving the same normal form as
`Shape.ofValue` and reporting each problem with its place:

* a value of the wrong kind is read first when it is a literal, a number or a string (so its own
  syntax errors win) and the place is after it; an array or object is not entered, and the place
  is before it;
* a problem with the value just read (an unknown name, a negative count) is placed after it;
* a missing record field is noticed when the record is complete, and placed after its closing
  brace (or bracket); a field written twice is placed after its second key;
* unknown record fields are skipped with a check of their syntax only.
-/

namespace NamedCaches.Json.Scan

/-- Refuses the value ahead as not being `expected`. -/
def invalidType {α : Type} (expected : String) : Scan α := do
  let b ← peekOrZero
  if b == 110 then
    eat; word ull; failHere (.invalidType .null expected)
  else if b == 116 then
    eat; word rue; failHere (.invalidType (.bool true) expected)
  else if b == 102 then
    eat; word alse; failHere (.invalidType (.bool false) expected)
  else if b == 45 then
    eat
    let n ← number false
    failHere (.invalidType n.found expected)
  else if isDigit b then
    let n ← number true
    failHere (.invalidType n.found expected)
  else if b == 34 then
    eat
    let s ← string
    failHere (.invalidType (.str s) expected)
  else if b == 91 then failHere (.invalidType .seq expected)
  else if b == 123 then failHere (.invalidType .map expected)
  else failAhead .expectedSomeValue

/-- Reads `true` or `false`. -/
def flag : Scan Value := do
  match ← blanks with
  | none => failAhead .eofWhileParsingValue
  | some b =>
    if b == 116 then
      eat; word rue; pure (.bool true)
    else if b == 102 then
      eat; word alse; pure (.bool false)
    else invalidType "a boolean"

/-- Reads an unsigned 64-bit integer. -/
def count : Scan Value := do
  match ← blanks with
  | none => failAhead .eofWhileParsingValue
  | some b =>
    let n ← if b == 45 then do eat; number false
      else if isDigit b then number true
      else invalidType "u64"
    match n with
    | .nat k => pure (.num (.nat k))
    | .neg i => failHere (.invalidValue (.signed i) "u64")
    | .float x => failHere (.invalidType (.float x) "u64")

/-- Reads a string, described as `expected` when something else stands there. -/
def textAs (expected : String) : Scan String := do
  match ← blanks with
  | none => failAhead .eofWhileParsingValue
  | some b =>
    if b == 34 then
      eat; string
    else invalidType expected

/-- Reads one name of a closed list, written as a string. -/
def name (names : List String) : Scan String := do
  let s ← textAs "variant identifier"
  if names.contains s then pure s else failHere (.unknownVariant s names)

/-- Reads `null` where a name written as an object carries no value. -/
def unit : Scan Unit := do
  match ← blanks with
  | none => failAhead .eofWhileParsingValue
  | some b =>
    if b == 110 then
      eat; word ull
    else invalidType "unit"

/-- Reads the name that keys an object written for a name of a closed list: a string, where a
closing brace is a missing value and anything else a key that is not a string. -/
def nameKey (names : List String) : Scan String := do
  match ← blanks with
  | none => failAhead .eofWhileParsingValue
  | some b =>
    if b == 34 then name names
    else if b == 125 then failAhead .expectedSomeValue
    else failAhead .keyMustBeAString

/-- Reads one name of a closed list: `"NAME"` or `{"NAME": null}`. -/
def choice (names : List String) : Scan Value := do
  match ← blanks with
  | none => failAhead .eofWhileParsingValue
  | some b =>
    if b == 34 then .str <$> name names
    else if b == 123 then
      enter; eat
      let s ← nameKey names
      colon
      unit
      leave
      match ← blanks with
      | some c =>
        if c == 125 then
          eat; pure (.str s)
        else failHere .expectedSomeValue
      | none => failHere .eofWhileParsingObject
    else failAhead .expectedSomeValue

/-- Checks a table key that was just read. -/
def key (keys : Option (List String)) (k : String) : Scan Unit :=
  match keys with
  | some names => if names.contains k then pure () else failHere (.unknownVariant k names)
  | none => pure ()

mutual
/-- Reads a value of a shape, in its normal form. -/
def shaped : Nat → Shape → Scan Value
  | 0, _ => failAhead .recursionLimitExceeded
  | _ + 1, .flag => flag
  | _ + 1, .count => count
  | _ + 1, .text => .str <$> textAs "a string"
  | _ + 1, .any => do
    let c ← get
    value (c.bytes.size + 1)
  | _ + 1, .choice names => choice names
  | fuel + 1, .optional item => do
    if (← blanks) == some 110 then
      eat; word ull; pure .null
    else shaped fuel item
  | fuel + 1, .table keys entry => do
    match ← blanks with
    | none => failAhead .eofWhileParsingValue
    | some b =>
      if b == 123 then
        enter; eat
        let fs ← tableEntries fuel keys entry true []
        leave
        endObject
        pure (.obj (Fields.ofList fs))
      else invalidType "a map"
  | fuel + 1, .record rname fields => do
    match ← blanks with
    | none => failAhead .eofWhileParsingValue
    | some b =>
      if b == 91 then
        enter; eat
        let r ← recordItems fuel rname fields.length fields true 0 []
        leave
        match r with
        | .ok v =>
          endArray; pure v
        | .error p =>
          endArrayAfterFailure; failHere p
      else if b == 123 then
        enter; eat
        let r ← recordEntries fuel fields true []
        leave
        match r with
        | .ok v =>
          endObject; pure v
        | .error p =>
          endObjectAfterFailure; failHere p
      else invalidType (Shape.recordText rname)

/-- Reads the entries of a table up to its closing brace, in text order. -/
def tableEntries : Nat → Option (List String) → Shape → Bool → List (String × Value) →
    Scan (List (String × Value))
  | 0, _, _, _, _ => failAhead .recursionLimitExceeded
  | fuel + 1, keys, entry, first, acc => do
    match ← nextKey first with
    | none => pure acc.reverse
    | some k =>
      key keys k
      colon
      let v ← shaped fuel entry
      tableEntries fuel keys entry false ((k, v) :: acc)

/-- Reads the fields of a record written as an object, up to its closing brace. A problem of the
record itself is given back rather than raised, so that the brace is read before it is placed. -/
def recordEntries : Nat → List (String × Bool × Shape) → Bool → List (String × Value) →
    Scan (Except Problem Value)
  | 0, _, _, _ => failAhead .recursionLimitExceeded
  | fuel + 1, fields, first, got => do
    match ← nextKey first with
    | none => pure (Shape.complete fields got)
    | some k =>
      match Shape.fieldShape fields k with
      | some s =>
        if (Fields.get? k got).isSome then pure (.error (.duplicateField k))
        else
          colon
          let v ← shaped fuel s
          recordEntries fuel fields false (Fields.insert k v got)
      | none =>
        colon
        skip
        recordEntries fuel fields false got

/-- Reads the fields of a record written as an array, in field order, up to its closing
bracket or its last field. -/
def recordItems : Nat → String → Nat → List (String × Bool × Shape) → Bool → Nat →
    List (String × Value) → Scan (Except Problem Value)
  | 0, _, _, _, _, _, _ => failAhead .recursionLimitExceeded
  | _ + 1, _, _, [], _, _, got => pure (.ok (.obj got))
  | fuel + 1, rname, total, (fname, required, s) :: rest, first, i, got => do
    match ← nextItem first with
    | none =>
      if required then pure (.error (.invalidLength i (Shape.lengthText rname total)))
      else recordItems fuel rname total rest first (i + 1) (Fields.insert fname s.empty got)
    | some _ =>
      let v ← shaped fuel s
      recordItems fuel rname total rest false (i + 1) (Fields.insert fname v got)
end

/-- Reads a whole text against a shape: one value, then only blanks. -/
def shapedDocument (shape : Shape) : Scan Value := do
  let c ← get
  let v ← shaped ((c.bytes.size + 1) * (shape.size + 2)) shape
  finish
  pure v

end NamedCaches.Json.Scan

namespace NamedCaches.Json

/-- Reads a whole JSON text against a shape. -/
def Shape.ofText (shape : Shape) (text : String) : Except Error Value :=
  Scan.run (Scan.shapedDocument shape) text

end NamedCaches.Json
