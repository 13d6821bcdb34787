import NamedCaches.Bench.Spec
import NamedCaches.Bench.World
import NamedCaches.Listener.NullSink
set_option autoImplicit false
/-!
# Bench listeners

The listeners of a test bench:

* the null sink, named `null`, which writes nothing and never fails;
* a *logging* listener, which writes `NAME EVENT KEY=VALUE` for each event on an entry,
  `NAME remove_all` and `NAME dispose`, and after writing fails where its table says: a failure
  spec under the event's name is that failure, any other text the listener's own failure;
* a *quiet* listener, which does nothing and never fails.

Only the null sink can be cloned.
-/

namespace NamedCaches

/-- The name an event goes by. -/
def Event.name : Event → String
  | .put .. => "put"
  | .updated .. => "updated"
  | .removed .. => "removed"
  | .expired .. => "expired"
  | .evicted .. => "evicted"
  | .removeAll => "remove_all"

/-- An event as a logging listener writes it: its name, and the entry it is about. -/
def Event.logText (ev : Event) : String :=
  match ev with
  | .put k v | .updated k v | .removed k v | .expired k v | .evicted k v =>
    ev.name ++ " " ++ k ++ "=" ++ v
  | .removeAll => ev.name

/-- A listener of the test bench. -/
inductive BenchListener where
  /-- The null sink. -/
  | sink
  /-- A listener that writes what it is told and fails on the events its table names. -/
  | logging (name : String) (failOn : List (String × String))
  /-- A listener that does nothing. -/
  | quiet (name : String)
  deriving Inhabited

namespace BenchListener

instance : Named BenchListener where
  name
    | .sink => "null"
    | .logging n _ => n
    | .quiet n => n

instance : Listener BenchListener World where
  notify l cache ev :=
    match l with
    | .sink => Listener.notify (W := World) NullSink.mk cache ev
    | .logging name failOn => do
      World.note (name ++ " " ++ ev.logText)
      pure <| match Json.Fields.get? ev.name failOn with
        | some t => .error (Failure.ofSpecOr name t (.listener name))
        | none => .ok ()
    | .quiet _ => pure (.ok ())
  dispose l :=
    match l with
    | .sink => Listener.dispose (W := World) NullSink.mk
    | .logging name _ => World.note (name ++ " dispose")
    | .quiet _ => pure ()

/-- An independent copy of the listener: only the null sink has one. -/
def clone (l : BenchListener) : Except Failure BenchListener :=
  match l with
  | .sink => .ok .sink
  | l => .error (.notCloneable "listener" (Named.name l))

end BenchListener

end NamedCaches
