import NamedCaches.Json.Value
import NamedCaches.Decimal.Render
import NamedCaches.Text.Escaped
set_option autoImplicit false
/-!
# Reading errors

What can go wrong while reading JSON text or decoding a value into a record, and the text that
reports it. A problem found in text carries the line and the column where it was noticed;
columns count bytes from the start of the line. A problem found while decoding an
already-read value carries no place.
-/

namespace NamedCaches.Json

/-- What a reader found where it expected something else. -/
inductive Found where
  | bool (b : Bool)
  | unsigned (n : Nat)
  | signed (i : Int)
  | float (x : Float)
  | str (s : String)
  | null
  | seq
  | map

/-- How a found item is named in an error: ``integer `5` ``, ``string "x"``, `sequence`. -/
def Found.describe : Found → String
  | .bool b => s!"boolean `{b}`"
  | .unsigned n => s!"integer `{n}`"
  | .signed i => s!"integer `{i}`"
  | .float x => "floating point `" ++ Decimal.render x ++ "`"
  | .str s => "string " ++ Text.quoted s
  | .null => "null"
  | .seq => "sequence"
  | .map => "map"

/-- What a number looks like in an error. -/
def Number.found : Number → Found
  | .nat n => .unsigned n
  | .neg i => .signed i
  | .float x => .float x

/-- What a value looks like in an error. -/
def Value.found : Value → Found
  | .null => .null
  | .bool b => .bool b
  | .num n => n.found
  | .str s => .str s
  | .arr _ => .seq
  | .obj _ => .map

/-- A reading or decoding problem. -/
inductive Problem where
  | eofWhileParsingList
  | eofWhileParsingObject
  | eofWhileParsingString
  | eofWhileParsingValue
  | expectedColon
  | expectedListCommaOrEnd
  | expectedObjectCommaOrEnd
  | expectedSomeIdent
  | expectedSomeValue
  | invalidEscape
  | invalidNumber
  | numberOutOfRange
  | controlCharacterWhileParsingString
  | keyMustBeAString
  | loneLeadingSurrogateInHexEscape
  | trailingComma
  | trailingCharacters
  | unexpectedEndOfHexEscape
  | recursionLimitExceeded
  /-- A value of the wrong kind: what was found, and what was expected. -/
  | invalidType (found : Found) (expected : String)
  /-- A value of the right kind out of range. -/
  | invalidValue (found : Found) (expected : String)
  /-- A sequence of the wrong length. -/
  | invalidLength (length : Nat) (expected : String)
  /-- A name outside a closed list of names. -/
  | unknownVariant (name : String) (names : List String)
  | missingField (name : String)
  | duplicateField (name : String)

/-- Names a closed list of alternatives: ``one of `A`, `B`, `C` `` or `` `A` or `B` ``. -/
def oneOf (names : List String) : String :=
  match names with
  | [] => "nothing"
  | [a] => s!"`{a}`"
  | [a, b] => s!"`{a}` or `{b}`"
  | _ => "one of " ++ ", ".intercalate (names.map fun n => s!"`{n}`")

/-- The text of a problem. -/
def Problem.text : Problem → String
  | .eofWhileParsingList => "EOF while parsing a list"
  | .eofWhileParsingObject => "EOF while parsing an object"
  | .eofWhileParsingString => "EOF while parsing a string"
  | .eofWhileParsingValue => "EOF while parsing a value"
  | .expectedColon => "expected `:`"
  | .expectedListCommaOrEnd => "expected `,` or `]`"
  | .expectedObjectCommaOrEnd => "expected `,` or `\x7d`"
  | .expectedSomeIdent => "expected ident"
  | .expectedSomeValue => "expected value"
  | .invalidEscape => "invalid escape"
  | .invalidNumber => "invalid number"
  | .numberOutOfRange => "number out of range"
  | .controlCharacterWhileParsingString =>
    "control character (\\u0000-\\u001F) found while parsing a string"
  | .keyMustBeAString => "key must be a string"
  | .loneLeadingSurrogateInHexEscape => "lone leading surrogate in hex escape"
  | .trailingComma => "trailing comma"
  | .trailingCharacters => "trailing characters"
  | .unexpectedEndOfHexEscape => "unexpected end of hex escape"
  | .recursionLimitExceeded => "recursion limit exceeded"
  | .invalidType f e => "invalid type: " ++ f.describe ++ ", expected " ++ e
  | .invalidValue f e => "invalid value: " ++ f.describe ++ ", expected " ++ e
  | .invalidLength n e => s!"invalid length {n}, expected " ++ e
  | .unknownVariant v [] => s!"unknown variant `{v}`, there are no variants"
  | .unknownVariant v ns => s!"unknown variant `{v}`, expected " ++ oneOf ns
  | .missingField f => s!"missing field `{f}`"
  | .duplicateField f => s!"duplicate field `{f}`"

/-- A problem, with the line and column where the text showed it (`none` when decoding a value). -/
structure Error where
  problem : Problem
  place : Option (Nat × Nat)

/-- The text of an error: the problem, then ` at line L column C` when it has a place. -/
def Error.message (e : Error) : String :=
  match e.place with
  | some (l, c) => e.problem.text ++ s!" at line {l} column {c}"
  | none => e.problem.text

end NamedCaches.Json
