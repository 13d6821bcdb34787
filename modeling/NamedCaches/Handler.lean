import NamedCaches.Cache.Collaborator
import NamedCaches.Registry
set_option autoImplicit false
/-!
# Failure handlers

Two handlers: one logs each failure as a warning, the other records it, with the cache, its
manager and the key, in the world's failure log (oldest first). The recording factory hands out
recording handlers whatever their properties.
-/

namespace NamedCaches

/-- A failure a handler received: the cache, its manager, the key and the failure. -/
structure HandledFailure where
  cache : String
  manager : Option String
  key : Option String
  failure : Failure
  deriving DecidableEq, Repr, Inhabited

/-- A world that keeps a log of handled failures. -/
class FailureLog (W : Type) where
  record : HandledFailure → W → W

/-- The handler that logs a warning and goes on. -/
structure LoggingHandler where
  deriving Inhabited

instance {W : Type} [Journal W] : Handler LoggingHandler W where
  onFailure _ s key f :=
    match key with
    | some k => logLine .warn Target.isolation
        ("Cache '" ++ s.name ++ "' failed for key " ++ Text.quoted k ++ ": " ++ f.message)
    | none => logLine .warn Target.isolation ("Cache '" ++ s.name ++ "' failed: " ++ f.message)

/-- The handler that records every failure in the world's failure log. -/
structure RecordingHandler where
  deriving Inhabited

instance {W : Type} [FailureLog W] : Handler RecordingHandler W where
  onFailure _ s key f := modify (FailureLog.record ⟨s.name, s.manager, key, f⟩)

/-- The factory of recording handlers. -/
def RecordingHandler.factory {W : Type} : HandlerFactory RecordingHandler W :=
  ⟨fun _ => pure (.ok {})⟩

end NamedCaches
