set_option autoImplicit false
/-!
# Failures

Everything that can go wrong while resolving, attaching or operating caches. Only loader,
listener and storage failures are *recoverable*: those are handed to a cache's failure handler
and the operation goes on; every other failure is a configuration or lifecycle mistake and
reaches the caller.
-/

namespace NamedCaches

/-- A failure, with the names it is about. -/
inductive Failure where
  /-- A configuration source could not be read or parsed. -/
  | config (source message : String)
  /-- A cache declared a loader factory nobody registered. -/
  | unknownLoaderFactory (cache factory : String)
  /-- A cache declared a failure handler factory nobody registered. -/
  | unknownHandlerFactory (cache factory : String)
  /-- A loader or listener (`kind`) cannot produce independent instances. -/
  | notCloneable (kind name : String)
  /-- An operation was attempted in a lifecycle state that forbids it. -/
  | illegalState (cache message : String)
  /-- A loader failed to produce a value. -/
  | loader (loader message : String)
  /-- A listener failed while handling a notification. -/
  | listener (listener message : String)
  /-- The storage engine rejected an operation. -/
  | storage (message : String)
  deriving DecidableEq, Repr, Inhabited

namespace Failure

/-- The failure's text. -/
def message : Failure → String
  | .config s m => "configuration error in source `" ++ s ++ "`: " ++ m
  | .unknownLoaderFactory c f => "cache `" ++ c ++ "` references unknown loader factory `" ++ f ++ "`"
  | .unknownHandlerFactory c f =>
    "cache `" ++ c ++ "` references unknown exception handler factory `" ++ f ++ "`"
  | .notCloneable k n => k ++ " `" ++ n ++ "` cannot be cloned"
  | .illegalState c m => "illegal state for cache `" ++ c ++ "`: " ++ m
  | .loader l m => "loader `" ++ l ++ "` failed: " ++ m
  | .listener l m => "listener `" ++ l ++ "` failed: " ++ m
  | .storage m => "storage failure: " ++ m

/-- Loader, listener and storage failures may be handed to a handler; the rest may not. -/
def isRecoverable : Failure → Bool
  | .loader .. | .listener .. | .storage _ => true
  | _ => false

/-- The name of the failure's kind. -/
def kind : Failure → String
  | .config .. => "Config"
  | .unknownLoaderFactory .. => "UnknownLoaderFactory"
  | .unknownHandlerFactory .. => "UnknownHandlerFactory"
  | .notCloneable .. => "NotCloneable"
  | .illegalState .. => "IllegalState"
  | .loader .. => "Loader"
  | .listener .. => "Listener"
  | .storage _ => "Storage"

end Failure

end NamedCaches
