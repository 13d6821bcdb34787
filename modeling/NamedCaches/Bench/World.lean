import NamedCaches.Handler
set_option autoImplicit false
/-!
# The bench world

What a test bench observes while caches run: the lines its scripted collaborators write, in
order, and the failures its recording handlers receive, oldest first. The caches' own
diagnostic lines are not kept.
-/

namespace NamedCaches

/-- The observations of a test bench. -/
structure World where
  events : Array String := #[]
  failures : Array HandledFailure := #[]
  deriving Inhabited

instance : Journal World := ⟨fun _ w => w⟩

instance : FailureLog World := ⟨fun f w => { w with failures := w.failures.push f }⟩

/-- Writes a line of the bench log. -/
def World.note (line : String) : StateM World Unit :=
  modify fun w => { w with events := w.events.push line }

end NamedCaches
