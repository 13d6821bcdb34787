import NamedCaches.Json.Error
import NamedCaches.Decimal.Double
set_option autoImplicit false
/-!
# Scanning JSON text

The syntax layer of the JSON reader: a cursor over the UTF-8 bytes of a text, blanks, literal
words, strings with their escapes, numbers, whole values and skipped values. Each failure carries
the place where it was noticed, in one of two ways: *here*, the line and column after the last
byte read, or *ahead*, those of the next byte (the first byte that does not fit).

Numbers are read into `Number`: digits that fit 64 bits stay integers; a fraction, an exponent or
too many digits give a double, computed from at most 19 significant digits and one scaling by a
tabulated power of ten (`Decimal.powersOfTen`), so it can differ from the nearest double in the
last place. Arrays and objects nest at most 127 deep.

Every loop takes fuel; the entry points give as much fuel as the text has bytes, and every step
that uses fuel also reads at least one byte, so the fuel never runs out first.
-/

namespace NamedCaches.Json

/-- Where a reader stands: the text's bytes, the index of the next byte, and how many more
arrays or objects may open before the nesting limit. -/
structure Cursor where
  bytes : ByteArray
  pos : Nat
  room : Nat

/-- Reading from a cursor; a failure is an error with its place. -/
abbrev Scan := StateT Cursor (Except Error)

namespace Scan

/-- The next byte, if any, without reading it. -/
def peek : Scan (Option UInt8) := do
  let c ← get
  pure c.bytes[c.pos]?

/-- The next byte, or `0` at the end. -/
def peekOrZero : Scan UInt8 := do
  pure ((← peek).getD 0)

/-- Steps over one byte. -/
def eat : Scan Unit := modify fun c => { c with pos := c.pos + 1 }

/-- Reads one byte, if any. -/
def next : Scan (Option UInt8) := do
  let b ← peek
  if b.isSome then eat
  pure b

/-- Reads one byte, or gives `0` at the end. -/
def nextOrZero : Scan UInt8 := do
  pure ((← next).getD 0)

/-- Line and column after the first `i` bytes: lines count from 1, the column is the number of
bytes since the last line feed. -/
def place (bytes : ByteArray) (i : Nat) : Nat × Nat :=
  (bytes.extract 0 i).foldl (fun (l, c) b => if b == 10 then (l + 1, 0) else (l, c + 1)) (1, 0)

/-- Fails with the place after the last byte read. -/
def failHere {α : Type} (p : Problem) : Scan α := do
  let c ← get
  throw ⟨p, some (place c.bytes c.pos)⟩

/-- Fails with the place of the next byte. -/
def failAhead {α : Type} (p : Problem) : Scan α := do
  let c ← get
  throw ⟨p, some (place c.bytes (min c.bytes.size (c.pos + 1)))⟩

/-- Space, tab, line feed or carriage return. -/
def isSpace (b : UInt8) : Bool := b == 32 || b == 9 || b == 10 || b == 13

/-- A decimal digit. -/
def isDigit (b : UInt8) : Bool := 48 ≤ b && b ≤ 57

/-- The value of a decimal digit. -/
def digitOf (b : UInt8) : Nat := b.toNat - 48

/-- The index of the first non-blank byte from `i` on (looking at most `fuel` bytes). -/
def skipSpace (bytes : ByteArray) : Nat → Nat → Nat
  | 0, i => i
  | fuel + 1, i =>
    match bytes[i]? with
    | some b => if isSpace b then skipSpace bytes fuel (i + 1) else i
    | none => i

/-- Skips blanks and shows the next byte. -/
def blanks : Scan (Option UInt8) := do
  let c ← get
  let i := skipSpace c.bytes c.bytes.size c.pos
  set { c with pos := i }
  pure c.bytes[i]?

/-- The index of the first non-digit byte from `i` on. -/
def skipDigits (bytes : ByteArray) : Nat → Nat → Nat
  | 0, i => i
  | fuel + 1, i =>
    match bytes[i]? with
    | some b => if isDigit b then skipDigits bytes fuel (i + 1) else i
    | none => i

/-- Steps over a run of digits. -/
def digits : Scan Unit := do
  let c ← get
  set { c with pos := skipDigits c.bytes c.bytes.size c.pos }

/-- Reads the rest of a literal word (`ull` after `n`, and so on). -/
def word (rest : List UInt8) : Scan Unit :=
  rest.forM fun b => do
    match ← next with
    | none => failHere .eofWhileParsingValue
    | some x => if x != b then failHere .expectedSomeIdent

/-- The rest of `null`. -/
def ull : List UInt8 := [117, 108, 108]

/-- The rest of `true`. -/
def rue : List UInt8 := [114, 117, 101]

/-- The rest of `false`. -/
def alse : List UInt8 := [97, 108, 115, 101]

/-- Opens an array or object: one less level of nesting is left. -/
def enter : Scan Unit := do
  let c ← get
  if c.room ≤ 1 then failAhead .recursionLimitExceeded
  else set { c with room := c.room - 1 }

/-- Closes an array or object. -/
def leave : Scan Unit := modify fun c => { c with room := c.room + 1 }

/-! ## Strings -/

/-- The value of a hex digit. -/
def hexValue (b : UInt8) : Option Nat :=
  if 48 ≤ b && b ≤ 57 then some (b.toNat - 48)
  else if 97 ≤ b && b ≤ 102 then some (b.toNat - 87)
  else if 65 ≤ b && b ≤ 70 then some (b.toNat - 55)
  else none

/-- Reads the four hex digits of a `\u` escape. -/
def hex4 : Scan Nat := do
  let c ← get
  if c.pos + 4 ≤ c.bytes.size then
    set { c with pos := c.pos + 4 }
    let ds := (List.range 4).map fun j => hexValue ((c.bytes[c.pos + j]?).getD 0)
    match ds with
    | [some a, some b, some d, some e] => pure (((a * 16 + b) * 16 + d) * 16 + e)
    | _ => failHere .invalidEscape
  else
    set { c with pos := c.bytes.size }
    failHere .eofWhileParsingString

/-- Appends the UTF-8 bytes of a code point. -/
def pushCode (acc : ByteArray) (n : Nat) : ByteArray :=
  if n < 0x80 then acc.push n.toUInt8
  else if n < 0x800 then (acc.push (0xC0 + n / 64).toUInt8).push (0x80 + n % 64).toUInt8
  else if n < 0x10000 then
    ((acc.push (0xE0 + n / 4096).toUInt8).push (0x80 + n / 64 % 64).toUInt8).push
      (0x80 + n % 64).toUInt8
  else
    (((acc.push (0xF0 + n / 262144).toUInt8).push (0x80 + n / 4096 % 64).toUInt8).push
      (0x80 + n / 64 % 64).toUInt8).push (0x80 + n % 64).toUInt8

/-- Reads a `\u` escape (after the `u`); a leading surrogate must be followed by `\u` and a
trailing surrogate. -/
def unicodeEscape (acc : ByteArray) : Scan ByteArray := do
  let n ← hex4
  if 0xDC00 ≤ n && n ≤ 0xDFFF then failHere .loneLeadingSurrogateInHexEscape
  else if n < 0xD800 || n > 0xDBFF then pure (pushCode acc n)
  else
    match ← peek with
    | none => failHere .eofWhileParsingString
    | some b =>
      eat
      if b != 92 then failHere .unexpectedEndOfHexEscape
      else
        match ← peek with
        | none => failHere .eofWhileParsingString
        | some u =>
          eat
          if u != 117 then failHere .unexpectedEndOfHexEscape
          else
            let m ← hex4
            if m < 0xDC00 || m > 0xDFFF then failHere .loneLeadingSurrogateInHexEscape
            else pure (pushCode acc ((n - 0xD800) * 1024 + (m - 0xDC00) + 0x10000))

/-- Reads an escape after its backslash. -/
def escape (acc : ByteArray) : Scan ByteArray := do
  match ← next with
  | none => failHere .eofWhileParsingString
  | some b =>
    if b == 34 || b == 92 || b == 47 then pure (acc.push b)
    else if b == 98 then pure (acc.push 8)
    else if b == 102 then pure (acc.push 12)
    else if b == 110 then pure (acc.push 10)
    else if b == 114 then pure (acc.push 13)
    else if b == 116 then pure (acc.push 9)
    else if b == 117 then unicodeEscape acc
    else failHere .invalidEscape

/-- Reads string bytes up to and including the closing quote. -/
def stringBytes : Nat → ByteArray → Scan ByteArray
  | 0, _ => failHere .eofWhileParsingString
  | fuel + 1, acc => do
    match ← peek with
    | none => failHere .eofWhileParsingString
    | some b =>
      eat
      if b == 34 then pure acc
      else if b == 92 then
        let acc ← escape acc
        stringBytes fuel acc
      else if b < 32 then failHere .controlCharacterWhileParsingString
      else stringBytes fuel (acc.push b)

/-- Reads the rest of a string after its opening quote. -/
def string : Scan String := do
  let c ← get
  let bytes ← stringBytes (c.bytes.size + 1) ByteArray.empty
  pure ((String.fromUTF8? bytes).getD "")

/-- Checks an escape after its backslash without keeping it. -/
def skipEscape : Scan Unit := do
  match ← next with
  | none => failHere .eofWhileParsingString
  | some b =>
    if b == 34 || b == 92 || b == 47 || b == 98 || b == 102 || b == 110 || b == 114 ||
        b == 116 then pure ()
    else if b == 117 then discard hex4
    else failHere .invalidEscape

/-- Steps over the rest of a string after its opening quote. A control byte is reported at the
place before it. -/
def skipString : Nat → Scan Unit
  | 0 => failHere .eofWhileParsingString
  | fuel + 1 => do
    match ← peek with
    | none => failHere .eofWhileParsingString
    | some b =>
      if b == 34 then eat
      else if b == 92 then
        eat
        skipEscape
        skipString fuel
      else if b < 32 then failHere .controlCharacterWhileParsingString
      else
        eat
        skipString fuel

/-! ## Numbers -/

/-- The largest 64-bit unsigned integer. -/
def maxU64 : Nat := Nat.pow 2 64 - 1

/-- The largest 32-bit signed integer. -/
def maxI32 : Nat := Nat.pow 2 31 - 1

/-- A 32-bit signed integer, saturated. -/
def clampI32 (e : Int) : Int := max (-(Nat.pow 2 31 : Int)) (min ((Nat.pow 2 31 : Int) - 1) e)

/-- Scales a double by `10^exponent` with the tabulated powers; `none` when the result is
infinite. Exponents below `-308` divide by `10^308` first, until the double is zero or the
exponent is in the table. -/
def scale (f : Float) (exponent : Int) : Nat → Option Float
  | 0 => some f
  | fuel + 1 =>
    let a := exponent.natAbs
    if a < 309 then
      let p := (Decimal.powersOfTen[a]?).getD 1
      if exponent ≥ 0 then
        let g := f * p
        if g.isInf then none else some g
      else some (f / p)
    else if f == 0 then some f
    else if exponent ≥ 0 then none
    else scale (f / (Decimal.powersOfTen[308]?).getD 1) (exponent + 308) fuel

/-- The double for `± significand * 10^exponent`. -/
def fromParts (positive : Bool) (significand : Nat) (exponent : Int) : Scan Float := do
  match scale (Decimal.nearest significand) exponent 8 with
  | none => failHere .numberOutOfRange
  | some f => pure (if positive then f else -f)

/-- After an exponent too large for 32 bits: out of range unless the number is zero or the
exponent negative, and then zero. -/
def exponentOverflow (positive zero positiveExp : Bool) : Scan Float := do
  if !zero && positiveExp then failHere .numberOutOfRange
  else
    digits
    pure (if positive then 0 else -0)

/-- Reads the digits of an exponent, its first digit already read as `e`. -/
def exponentDigits (positive zero positiveExp : Bool) : Nat → Nat → Scan (Option Nat)
  | 0, e => pure (some e)
  | fuel + 1, e => do
    let b ← peekOrZero
    if isDigit b then
      eat
      let e' := e * 10 + digitOf b
      if e' > maxI32 then pure none
      else exponentDigits positive zero positiveExp fuel e'
    else pure (some e)

/-- Reads an exponent part from its `e`, then builds the double. -/
def exponentPart (positive : Bool) (significand : Nat) (start : Int) : Scan Float := do
  eat
  let b ← peekOrZero
  let positiveExp := b != 45
  if b == 43 || b == 45 then eat
  match ← next with
  | none => failHere .eofWhileParsingValue
  | some d =>
    if !isDigit d then failHere .invalidNumber
    else
      let c ← get
      match ← exponentDigits positive (significand == 0) positiveExp c.bytes.size (digitOf d) with
      | none => exponentOverflow positive (significand == 0) positiveExp
      | some e =>
        let final := clampI32 (if positiveExp then start + e else start - e)
        fromParts positive significand final

/-- After 19 or more significant digits of a fraction: the rest are ignored. -/
def decimalOverflow (positive : Bool) (significand : Nat) (exponent : Int) : Scan Float := do
  digits
  let b ← peekOrZero
  if b == 101 || b == 69 then exponentPart positive significand exponent
  else fromParts positive significand exponent

/-- Reads fraction digits into the significand. -/
def fractionDigits (positive : Bool) (before : Int) : Nat → Nat → Int →
    Scan (Sum Float (Nat × Int))
  | 0, s, after => pure (.inr (s, after))
  | fuel + 1, s, after => do
    let b ← peekOrZero
    if isDigit b then
      let s' := s * 10 + digitOf b
      if s' > maxU64 then return .inl (← decimalOverflow positive s (before + after))
      eat
      fractionDigits positive before fuel s' (after - 1)
    else pure (.inr (s, after))

/-- Reads a fraction from its `.`, then any exponent. -/
def fraction (positive : Bool) (significand : Nat) (before : Int) : Scan Float := do
  eat
  let c ← get
  match ← fractionDigits positive before c.bytes.size significand 0 with
  | .inl f => pure f
  | .inr (s, after) =>
    if after = 0 then
      match ← peek with
      | some _ => failAhead .invalidNumber
      | none => failAhead .eofWhileParsingValue
    else
      let b ← peekOrZero
      if b == 101 || b == 69 then exponentPart positive s (before + after)
      else fromParts positive s (before + after)

/-- After 20 or more integer digits: count the rest as powers of ten. -/
def longInteger (positive : Bool) (significand : Nat) : Nat → Int → Scan Float
  | 0, e => fromParts positive significand e
  | fuel + 1, e => do
    let b ← peekOrZero
    if isDigit b then
      eat
      longInteger positive significand fuel (e + 1)
    else if b == 46 then fraction positive significand e
    else if b == 101 || b == 69 then exponentPart positive significand e
    else fromParts positive significand e

/-- The number once the integer digits are read. -/
def afterInteger (positive : Bool) (significand : Nat) : Scan Number := do
  let b ← peekOrZero
  if b == 46 then .float <$> fraction positive significand 0
  else if b == 101 || b == 69 then .float <$> exponentPart positive significand 0
  else if positive then pure (.nat significand)
  else if 0 < significand && significand ≤ Nat.pow 2 63 then pure (.neg (-(significand : Int)))
  else pure (.float (-(Decimal.nearest significand)))

/-- Reads integer digits after the first. -/
def integerDigits (positive : Bool) : Nat → Nat → Scan Number
  | 0, s => afterInteger positive s
  | fuel + 1, s => do
    let b ← peekOrZero
    if isDigit b then
      let s' := s * 10 + digitOf b
      if s' > maxU64 then
        let c ← get
        return .float (← longInteger positive s c.bytes.size 0)
      eat
      integerDigits positive fuel s'
    else afterInteger positive s

/-- Reads a number after its sign. -/
def number (positive : Bool) : Scan Number := do
  match ← next with
  | none => failHere .eofWhileParsingValue
  | some b =>
    if b == 48 then
      if isDigit (← peekOrZero) then failAhead .invalidNumber
      else afterInteger positive 0
    else if isDigit b then
      let c ← get
      integerDigits positive c.bytes.size (digitOf b)
    else failHere .invalidNumber

/-- Steps over an exponent part from its `e`. -/
def skipExponent : Scan Unit := do
  eat
  let b ← peekOrZero
  if b == 43 || b == 45 then eat
  if isDigit (← nextOrZero) then digits
  else failHere .invalidNumber

/-- Steps over a number after its sign, checking only its syntax. -/
def skipNumber : Scan Unit := do
  let b ← nextOrZero
  if b == 48 then
    if isDigit (← peekOrZero) then failAhead .invalidNumber
  else if isDigit b then digits
  else failHere .invalidNumber
  let b ← peekOrZero
  if b == 46 then
    eat
    let c ← get
    digits
    let c' ← get
    if c'.pos == c.pos then failAhead .invalidNumber
    else
      let e ← peekOrZero
      if e == 101 || e == 69 then skipExponent
  else if b == 101 || b == 69 then skipExponent

/-! ## Containers -/

/-- Reads the `:` after an object key. -/
def colon : Scan Unit := do
  match ← blanks with
  | some b => if b == 58 then eat else failAhead .expectedColon
  | none => failAhead .eofWhileParsingObject

/-- Where the next array item starts, given whether it would be the first: `none` at the
closing bracket. Fails on a missing comma, a trailing comma or the end of the text. -/
def nextItem (first : Bool) : Scan (Option UInt8) := do
  match ← blanks with
  | none => failAhead .eofWhileParsingList
  | some b =>
    if b == 93 then pure none
    else if b == 44 && !first then
      eat
      match ← blanks with
      | some c => if c == 93 then failAhead .trailingComma else pure (some c)
      | none => failAhead .eofWhileParsingValue
    else if first then pure (some b)
    else failAhead .expectedListCommaOrEnd

/-- The next key of an object, given whether it would be the first: `none` at the closing
brace. The key's text is read; the `:` is not. -/
def nextKey (first : Bool) : Scan (Option String) := do
  let start ← do
    match ← blanks with
    | none => failAhead .eofWhileParsingObject
    | some b =>
      if b == 125 then return none
      else if b == 44 && !first then
        eat
        pure (← blanks)
      else if first then pure (some b)
      else failAhead .expectedObjectCommaOrEnd
  match start with
  | none => failAhead .eofWhileParsingValue
  | some b =>
    if b == 34 then
      eat
      some <$> string
    else if b == 125 then failAhead .trailingComma
    else failAhead .keyMustBeAString

/-- Closes an array. -/
def endArray : Scan Unit := do
  match ← blanks with
  | some b =>
    if b == 93 then eat
    else if b == 44 then
      eat
      match ← blanks with
      | some c => if c == 93 then failAhead .trailingComma else failAhead .trailingCharacters
      | none => failAhead .trailingCharacters
    else failAhead .trailingCharacters
  | none => failAhead .eofWhileParsingList

/-- What closing an array consumes when its reading already failed. -/
def endArrayAfterFailure : Scan Unit := do
  match ← blanks with
  | some b =>
    if b == 93 then eat
    else if b == 44 then
      eat
      discard blanks
  | none => pure ()

/-- Closes an object. -/
def endObject : Scan Unit := do
  match ← blanks with
  | some b =>
    if b == 125 then eat
    else if b == 44 then failAhead .trailingComma
    else failAhead .trailingCharacters
  | none => failAhead .eofWhileParsingObject

/-- What closing an object consumes when its reading already failed. -/
def endObjectAfterFailure : Scan Unit := do
  match ← blanks with
  | some b => if b == 125 then eat
  | none => pure ()

/-! ## Values -/

mutual
/-- Reads any value. -/
def value : Nat → Scan Value
  | 0 => failAhead .recursionLimitExceeded
  | fuel + 1 => do
    match ← blanks with
    | none => failAhead .eofWhileParsingValue
    | some b =>
      if b == 110 then
        eat; word ull; pure .null
      else if b == 116 then
        eat; word rue; pure (.bool true)
      else if b == 102 then
        eat; word alse; pure (.bool false)
      else if b == 45 then
        eat; .num <$> number false
      else if isDigit b then .num <$> number true
      else if b == 34 then
        eat; .str <$> string
      else if b == 91 then
        enter; eat
        let xs ← items fuel true []
        leave; endArray
        pure (.arr xs)
      else if b == 123 then
        enter; eat
        let fs ← entries fuel true []
        leave; endObject
        pure (.obj (Fields.ofList fs))
      else failAhead .expectedSomeValue

/-- Reads array items up to the closing bracket (not consumed). -/
def items : Nat → Bool → List Value → Scan (List Value)
  | 0, _, acc => pure acc.reverse
  | fuel + 1, first, acc => do
    match ← nextItem first with
    | none => pure acc.reverse
    | some _ =>
      let v ← value fuel
      items fuel false (v :: acc)

/-- Reads object entries up to the closing brace (not consumed), in text order. -/
def entries : Nat → Bool → List (String × Value) → Scan (List (String × Value))
  | 0, _, acc => pure acc.reverse
  | fuel + 1, first, acc => do
    match ← nextKey first with
    | none => pure acc.reverse
    | some k =>
      colon
      let v ← value fuel
      entries fuel false ((k, v) :: acc)
end

/-- After a value inside arrays and objects: reads the commas and closing brackets that follow.
`none` when the outermost one closed; otherwise the container the next item belongs to and the
ones around it. -/
def closeFrames : Nat → Bool → UInt8 → List UInt8 → Scan (Option (UInt8 × List UInt8))
  | 0, _, _, _ => pure none
  | fuel + 1, acceptComma, frame, stack => do
    match ← blanks with
    | none => failAhead (if frame == 91 then .eofWhileParsingList else .eofWhileParsingObject)
    | some b =>
      if b == 44 && acceptComma then
        eat
        pure (some (frame, stack))
      else if (b == 93 && frame == 91) || (b == 125 && frame == 123) then
        eat
        match stack with
        | [] => pure none
        | f :: rest => closeFrames fuel true f rest
      else if acceptComma then
        failAhead (if frame == 91 then .expectedListCommaOrEnd else .expectedObjectCommaOrEnd)
      else pure (some (frame, stack))

/-- Steps over the key and `:` of an object entry while skipping. -/
def skipKey : Scan Unit := do
  match ← blanks with
  | some b =>
    if b == 34 then
      eat
      let c ← get
      skipString (c.bytes.size + 1)
    else failAhead .keyMustBeAString
  | none => failAhead .eofWhileParsingObject
  match ← blanks with
  | some b => if b == 58 then eat else failAhead .expectedColon
  | none => failAhead .eofWhileParsingObject

/-- Skips one value without building it, checking its syntax but not the range of its numbers.
`enclosing` is the container whose item was just skipped, `stack` the ones around it. -/
def skipFrom : Nat → Option UInt8 → List UInt8 → Scan Unit
  | 0, _, _ => pure ()
  | fuel + 1, enclosing, stack => do
    let opened ← do
      match ← blanks with
      | none => failAhead .eofWhileParsingValue
      | some b =>
        if b == 110 then
          eat; word ull; pure none
        else if b == 116 then
          eat; word rue; pure none
        else if b == 102 then
          eat; word alse; pure none
        else if b == 45 then
          eat; skipNumber; pure none
        else if isDigit b then
          skipNumber; pure none
        else if b == 34 then
          eat
          let c ← get
          skipString (c.bytes.size + 1)
          pure none
        else if b == 91 || b == 123 then
          eat; pure (some b)
        else failAhead .expectedSomeValue
    let (acceptComma, frame, stack) ← match opened, enclosing, stack with
      | some f, _, _ => pure (false, f, enclosing.toList ++ stack)
      | none, some f, _ => pure (true, f, stack)
      | none, none, f :: rest => pure (true, f, rest)
      | none, none, [] => return ()
    match ← closeFrames fuel acceptComma frame stack with
    | none => pure ()
    | some (f, rest) =>
      if f == 123 then skipKey
      skipFrom fuel (some f) rest

/-- Skips one value. -/
def skip : Scan Unit := do
  let c ← get
  skipFrom (c.bytes.size + 1) none []

/-- Checks that only blanks are left. -/
def finish : Scan Unit := do
  match ← blanks with
  | some _ => failAhead .trailingCharacters
  | none => pure ()

/-- Runs a reading on the bytes of a text from its start. -/
def run {α : Type} (s : Scan α) (text : String) : Except Error α :=
  (StateT.run s ⟨text.toUTF8, 0, 128⟩).map Prod.fst

/-- Reads one value and checks that only blanks follow it. -/
def document : Scan Value := do
  let c ← get
  let v ← value (c.bytes.size + 1)
  finish
  pure v

end Scan

/-- Reads a whole text as one JSON value. -/
def Value.parse (text : String) : Except Error Value :=
  Scan.run Scan.document text

end NamedCaches.Json
