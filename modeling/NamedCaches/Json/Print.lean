import NamedCaches.Json.Value
import NamedCaches.Decimal.Render
set_option autoImplicit false
/-!
# Writing JSON

The compact text of a value: no blanks, object entries in their stored (key) order, doubles in
the form `Decimal.render` gives. Inside strings `"` and `\` get a backslash, the controls
`\b \f \n \r \t` their short escapes, other characters below U+0020 a `\u00xx` escape with
lower-case hex digits; every other character is written as it is.
-/

namespace NamedCaches.Json

/-- A hex digit, lower case. -/
def hexDigit (n : Nat) : Char :=
  if n < 10 then Char.ofNat (48 + n) else Char.ofNat (87 + n)

/-- The escaped form of one character inside a JSON string. -/
def escapeChar (c : Char) : List Char :=
  if c = '"' then ['\\', '"']
  else if c = '\\' then ['\\', '\\']
  else if c = '\x08' then ['\\', 'b']
  else if c = '\x0c' then ['\\', 'f']
  else if c = '\n' then ['\\', 'n']
  else if c = '\r' then ['\\', 'r']
  else if c = '\t' then ['\\', 't']
  else if c.toNat < 0x20 then ['\\', 'u', '0', '0', hexDigit (c.toNat / 16), hexDigit (c.toNat % 16)]
  else [c]

/-- A string as a JSON string literal. -/
def quote (s : String) : String :=
  String.ofList ('"' :: (s.toList.flatMap escapeChar ++ ['"']))

/-- The text of a number. -/
def Number.render : Number → String
  | .nat n => toString n
  | .neg i => toString i
  | .float x => Decimal.render x

mutual
/-- The compact text of a value. -/
def Value.render : Value → String
  | .null => "null"
  | .bool b => if b then "true" else "false"
  | .num n => n.render
  | .str s => quote s
  | .arr xs => "[" ++ renderItems xs ++ "]"
  | .obj fs => "\x7b" ++ renderFields fs ++ "\x7d"

/-- Array items, separated by commas. -/
def renderItems : List Value → String
  | [] => ""
  | [x] => x.render
  | x :: rest => x.render ++ "," ++ renderItems rest

/-- Object entries, separated by commas. -/
def renderFields : List (String × Value) → String
  | [] => ""
  | [(k, v)] => quote k ++ ":" ++ v.render
  | (k, v) :: rest => quote k ++ ":" ++ v.render ++ "," ++ renderFields rest
end

example : quote "ab" = "\"ab\"" := by decide

end NamedCaches.Json
