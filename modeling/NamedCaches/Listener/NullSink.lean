import NamedCaches.Cache.Collaborator
import NamedCaches.Loader.Basic
set_option autoImplicit false
/-!
# The null sink

The listener every cache starts with: it is named `null`, never fails, and only traces what it
is told. It can always be cloned.
-/

namespace NamedCaches

/-- The listener that does nothing but trace. -/
structure NullSink where
  deriving Inhabited

instance : Named NullSink := ⟨fun _ => "null"⟩

/-- How the sink traces an event. -/
def Event.traceText : Event → String
  | .put .. => "element put"
  | .updated .. => "element updated"
  | .removed .. => "element removed"
  | .expired .. => "element expired"
  | .evicted .. => "element evicted"
  | .removeAll => "all elements removed"

instance {W : Type} [Journal W] : Listener NullSink W where
  notify _ cache ev := do
    logLine .trace Target.nullSink (cache ++ ": " ++ ev.traceText)
    pure (.ok ())
  dispose _ := logLine .trace Target.nullSink "null event sink disposed"

end NamedCaches
