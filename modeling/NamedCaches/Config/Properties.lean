import NamedCaches.Text.Blank
import NamedCaches.Json.Value
import NamedCaches.Failure
set_option autoImplicit false
/-!
# Property strings

Properties are `key=value` pairs written in one string, such as `url=db://x;timeout=5`. The text
is cut into pieces at a given non-empty delimiter, or at every `;` and `,` when none is given;
each piece is trimmed of Unicode blanks, blank pieces are skipped, and the rest must hold an `=`
with a non-blank key before it. Keys and values are trimmed; a later key replaces an earlier
one. Properties are kept in key order.
-/

namespace NamedCaches

namespace Properties

/-- Cuts a text at every non-overlapping occurrence of a non-empty separator, leftmost first;
`piece` is the open piece. -/
def splitOn (sep : List Char) (hsep : 0 < sep.length) : List Char → List Char → List (List Char)
  | [], piece => [piece]
  | c :: rest, piece =>
    if sep.isPrefixOf (c :: rest) then
      piece :: splitOn sep hsep ((c :: rest).drop sep.length) []
    else splitOn sep hsep rest (piece ++ [c])
termination_by s _ => s.length
decreasing_by
  all_goals simp only [List.length_drop, List.length_cons]
  all_goals omega

/-- Cuts a text at every character that passes a test; `piece` is the open piece. -/
def splitWhere (p : Char → Bool) : List Char → List Char → List (List Char)
  | [], piece => [piece]
  | c :: rest, piece =>
    if p c then piece :: splitWhere p rest [] else splitWhere p rest (piece ++ [c])

/-- `;` and `,` separate properties when no delimiter is given. -/
def isDefaultDelimiter (c : Char) : Bool := c == ';' || c == ','

/-- The pieces of a property text: cut at the delimiter when it is non-empty, else at every `;`
and `,`. -/
def pieces (text : String) (delimiter : Option String) : List String :=
  let cut :=
    match delimiter with
    | some d =>
      if h : 0 < d.toList.length then splitOn d.toList h text.toList []
      else splitWhere isDefaultDelimiter text.toList []
    | none => splitWhere isDefaultDelimiter text.toList []
  cut.map String.ofList

/-- The error for a piece without `=`. -/
def missingEquals (piece : String) : Failure :=
  .config "properties" ("expected `key=value`, found `" ++ piece ++ "`")

/-- The error for a piece with a blank key. -/
def emptyKey (piece : String) : Failure :=
  .config "properties" ("empty key in `" ++ piece ++ "`")

/-- The key and value of a trimmed, non-blank piece: both sides of its first `=`, trimmed. -/
def entry (piece : String) : Except Failure (String × String) :=
  let cs := piece.toList
  if cs.contains '=' then
    let key := Text.trim (String.ofList (cs.takeWhile (· != '=')))
    let value := Text.trim (String.ofList ((cs.dropWhile (· != '=')).drop 1))
    if key.isEmpty then .error (emptyKey piece) else .ok (key, value)
  else .error (missingEquals piece)

end Properties

/-- Parsed properties: values by key, in strictly increasing key order. -/
structure Properties where
  entries : List (String × String)
  sorted : (entries.map Prod.fst).Pairwise (· < ·)
  deriving DecidableEq, Repr

namespace Properties

/-- No properties. -/
def empty : Properties := ⟨[], .nil⟩

instance : Inhabited Properties := ⟨empty⟩

/-- Sets a property as given, replacing an earlier value of the key. -/
def insert (p : Properties) (key value : String) : Properties :=
  ⟨Json.Fields.insert key value p.entries, Json.Fields.insert_sorted key value p.entries p.sorted⟩

/-- The value of a key. -/
def get? (p : Properties) (key : String) : Option String :=
  Json.Fields.get? key p.entries

/-- The number of properties. -/
def size (p : Properties) : Nat := p.entries.length

/-- Whether there are no properties. -/
def isEmpty (p : Properties) : Bool := p.entries.isEmpty

/-- Reads properties from a text, cut at `delimiter` (or at `;` and `,`). The first bad piece is
the error. -/
def parse (text : String) (delimiter : Option String) : Except Failure Properties :=
  (pieces text delimiter).foldlM (fun props piece =>
    let p := Text.trim piece
    if p.isEmpty then .ok props
    else do
      let (k, v) ← entry p
      pure (props.insert k v)) empty

/-- The properties as an object of strings. -/
def toEnvironment (p : Properties) : Json.Value :=
  .obj (p.entries.map fun (k, v) => (k, .str v))

end Properties

end NamedCaches
