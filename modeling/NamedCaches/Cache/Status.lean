import NamedCaches.Failure
set_option autoImplicit false
/-!
# Cache status

A cache moves only forward: `uninitialized → alive → disposing → disposed`, or straight from
`uninitialized` to `disposing`. Data operations are allowed while the cache is uninitialized (so
that setup, and a loader's `init`, may use it) or alive; every other status refuses them.
-/

namespace NamedCaches

/-- Where a cache is in its life. -/
inductive Status where
  /-- Built and configured; its loader is not initialised yet. -/
  | uninitialized
  /-- Serving operations. -/
  | alive
  /-- Being torn down: its loader and listeners are being disposed. -/
  | disposing
  /-- Torn down; its storage is released. -/
  | disposed
  deriving DecidableEq, Repr, Inhabited

namespace Status

/-- The status in running text. -/
def text : Status → String
  | .uninitialized => "uninitialized"
  | .alive => "alive"
  | .disposing => "disposing"
  | .disposed => "disposed"

/-- The status as a record field. -/
def title : Status → String
  | .uninitialized => "Uninitialized"
  | .alive => "Alive"
  | .disposing => "Disposing"
  | .disposed => "Disposed"

/-- Whether data operations are allowed. -/
def isOperable : Status → Bool
  | .uninitialized | .alive => true
  | _ => false

/-- Moves from `source` to `target` if the status is `source`; the error names the cache. -/
def transition (s : Status) (cache : String) (source target : Status) : Except Failure Status :=
  if s = source then .ok target
  else .error (.illegalState cache ("cannot move to " ++ target.text ++ " while " ++ s.text))

/-- Refuses an operation unless the cache is operable. -/
def checkOperable (s : Status) (cache operation : String) : Except Failure Unit :=
  if s.isOperable then .ok ()
  else .error (.illegalState cache ("`" ++ operation ++ "` not permitted while " ++ s.text))

end Status

end NamedCaches
