import NamedCaches.Bench.World
set_option autoImplicit false
/-!
# Bench handlers

A cache of the test bench hands its recoverable failures to a recording handler, which keeps
them in the bench's failure log, or to a logging handler, which keeps nothing the bench sees.
Declarations can ask for the `recording` factory, or for `broken`, which refuses to build a
handler and names how many properties it was given.
-/

namespace NamedCaches

/-- A failure handler of the test bench. -/
inductive BenchHandler where
  | recording
  | logging
  deriving DecidableEq, Inhabited

namespace BenchHandler

instance : Handler BenchHandler World where
  onFailure h s key f :=
    match h with
    | .recording => Handler.onFailure (W := World) RecordingHandler.mk s key f
    | .logging => Handler.onFailure (W := World) LoggingHandler.mk s key f

/-- The factory that refuses every handler. -/
def brokenFactory : HandlerFactory BenchHandler World :=
  ⟨fun props => pure (.error (.config "handler" ("refused " ++ toString props.size ++ " properties")))⟩

/-- The bench's handler factories by name. -/
def factories : List (String × HandlerFactory BenchHandler World) :=
  [("recording", ⟨fun _ => pure (.ok .recording)⟩), ("broken", brokenFactory)]

end BenchHandler

end NamedCaches
