set_option autoImplicit false
/-!
# Diagnostic log lines

Components report what they do as log lines: a level, the component (target) that wrote the
line, and the message. Where the lines go is the world's business (`Journal`): a running program
prints those its filter lets through, a test session drops them.
-/

namespace NamedCaches

/-- How important a log line is, most severe first. -/
inductive Level where
  | error
  | warn
  | info
  | debug
  | trace
  deriving DecidableEq, Repr, Inhabited

namespace Level

/-- The level's rank: `error` is 1, `trace` is 5. -/
def rank : Level → Nat
  | .error => 1
  | .warn => 2
  | .info => 3
  | .debug => 4
  | .trace => 5

/-- The level as printed. -/
def name : Level → String
  | .error => "ERROR"
  | .warn => "WARN"
  | .info => "INFO"
  | .debug => "DEBUG"
  | .trace => "TRACE"

end Level

/-- One log line. -/
structure LogLine where
  level : Level
  target : String
  message : String
  deriving DecidableEq, Repr, Inhabited

/-! The components that write log lines. -/
namespace Target

def root : String := "cache_bridge"
def registry : String := "cache_bridge::cache::registry"
def manager : String := "cache_bridge::cache::manager"
def handle : String := "cache_bridge::cache::handle"
def store : String := "cache_bridge::cache::store"
def source : String := "cache_bridge::source"
def binding : String := "cache_bridge::loader::binding"
def propertiesLoader : String := "cache_bridge::loader::properties_loader"
def isolation : String := "cache_bridge::isolation"
def nullSink : String := "cache_bridge::events::null_sink"

end Target

/-- A world that keeps (or drops) log lines. -/
class Journal (W : Type) where
  write : LogLine → W → W

/-- Writes a log line to the world. -/
def logLine {W : Type} [Journal W] (level : Level) (target message : String) : StateM W Unit :=
  modify (Journal.write ⟨level, target, message⟩)

end NamedCaches
