import NamedCaches.Text.Hidden
set_option autoImplicit false
/-!
# Debug-quoted text

Names inside diagnostic texts (`Cache { name: "a", ... }`, ``invalid type: string "x"``) are
written between double quotes with escapes: a backslash before `"` and `\`, the short forms
`\0 \t \r \n`, and `\u{hex}` for a character that does not show by itself: a control or format
character, a separator other than the space, a private-use or unassigned code point, a mark
that extends the character before it, or a filler that shows nothing (`Text.isHidden`); a single
quote stays as it is.
-/

namespace NamedCaches.Text

/-- Lower-case hexadecimal digits of a number, without leading zeros (`0` for zero). -/
def hexDigits (n : Nat) : String :=
  String.ofList (Nat.toDigits 16 n)

/-- The escaped form of one character inside a quoted name. -/
def escapeChar (c : Char) : String :=
  if c = '\x00' then "\\0"
  else if c = '\t' then "\\t"
  else if c = '\r' then "\\r"
  else if c = '\n' then "\\n"
  else if c = '\\' then "\\\\"
  else if c = '"' then "\\\""
  else if isHidden c then "\\u" ++ "\x7b" ++ hexDigits c.toNat ++ "\x7d"
  else String.singleton c

/-- A name between double quotes, each character escaped as `escapeChar` says. -/
def quoted (s : String) : String :=
  "\"" ++ String.join (s.toList.map escapeChar) ++ "\""

example : quoted "a b" = "\"a b\"" := by decide

example : quoted "a\"b" = "\"a\\\"b\"" := by decide

end NamedCaches.Text
