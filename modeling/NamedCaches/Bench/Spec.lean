import NamedCaches.Failure
set_option autoImplicit false
/-!
# Failure specs

The scripted collaborators of a test bench read the failures they are to produce from text. A
*spec* is `TAG:message`, or `TAG` alone for an empty message; the tag picks the kind of failure,
and the component that fails (its *owner*) supplies the names it needs. The tags are `!loader`,
`!listener`, `!storage`, `!illegal`, `!config` and `!notcloneable`; any other text is no spec.
-/

namespace NamedCaches

namespace Failure

/-- A spec text cut at its first colon: the tag, and the message after it (empty without one). -/
def specParts (text : String) : String × String :=
  match text.splitOn ":" with
  | tag :: rest => (tag, ":".intercalate rest)
  | [] => (text, "")

/-- The failure a spec stands for, with the owner's name filled in; `none` for other text. -/
def ofSpec? (owner text : String) : Option Failure :=
  let (tag, message) := specParts text
  match tag with
  | "!loader" => some (.loader owner message)
  | "!listener" => some (.listener owner message)
  | "!storage" => some (.storage message)
  | "!illegal" => some (.illegalState owner message)
  | "!config" => some (.config owner message)
  | "!notcloneable" => some (.notCloneable "loader" owner)
  | _ => none

/-- The failure a text stands for: its spec's, or the fallback made from the whole text. -/
def ofSpecOr (owner text : String) (fallback : String → Failure) : Failure :=
  (ofSpec? owner text).getD (fallback text)

end Failure

end NamedCaches
