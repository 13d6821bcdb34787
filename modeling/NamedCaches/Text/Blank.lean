set_option autoImplicit false
/-!
# Blank characters

The characters with the Unicode `White_Space` property, and trimming by them. Configuration
texts are trimmed with this set: it holds the no-break space U+00A0 and the ideographic space
U+3000, but not the zero-width space U+200B, which Unicode does not count as white space.
-/

namespace NamedCaches.Text

/-- The Unicode `White_Space` set: the ASCII blanks, U+0085, U+00A0, U+1680, U+2000 to U+200A,
U+2028, U+2029, U+202F, U+205F and U+3000. -/
def isBlank (c : Char) : Bool :=
  let n := c.toNat
  (0x09 ≤ n && n ≤ 0x0D) || n == 0x20 || n == 0x85 || n == 0xA0 || n == 0x1680 ||
    (0x2000 ≤ n && n ≤ 0x200A) || n == 0x2028 || n == 0x2029 || n == 0x202F ||
    n == 0x205F || n == 0x3000

/-- Drops blank characters from the front of a character list. -/
def dropBlanks (cs : List Char) : List Char := cs.dropWhile isBlank

/-- The characters of a text with blanks removed at both ends. -/
def trimChars (cs : List Char) : List Char :=
  (dropBlanks (dropBlanks cs).reverse).reverse

/-- A text with its leading and trailing blanks removed. -/
def trim (s : String) : String := String.ofList (trimChars s.toList)

example : isBlank ' ' = true := by decide

example : isBlank '\u00A0' = true := by decide

example : isBlank '\u200B' = false := by decide

end NamedCaches.Text
