import NamedCaches.Request.Basic
import NamedCaches.Bench.Loader
import NamedCaches.Bench.Listener
import NamedCaches.Cache.Status
set_option autoImplicit false
/-!
# Steps of stateful requests

The stateful requests (`binding`, `session`) run a list of steps and answer one object per step:
`{"ok": VALUE}` or an error, together with the bench log lines the step wrote (`events`) and, in a
session, the failures the bench recorded (`failures`); each list is there only when it is not
empty. This module holds what both kinds of request read from a step and how a step's answer is
put together.
-/

namespace NamedCaches

open Json

namespace Request

/-- The argument a step passes to a load: a string is an owned text, an object holding exactly
a string under `static` a lasting one, and anything else (or nothing) no text. -/
def argument (v : Option Value) : Argument :=
  match v with
  | some (.str s) => .owned s
  | some (.obj [("static", .str s)]) => .literal s
  | _ => .other

/-- A table of texts given as an object: a string as it is, anything else as its JSON text. -/
def texts (v : Value) : List (String × String) :=
  (v.obj?.getD []).map fun (k, x) => (k, PropertiesLoader.environmentText x)

/-- The values of a loader or listener, given as an object; none when absent or null, and
anything else is a malformed request. -/
def valueTable (v : Value) : Reply (List (String × String)) :=
  match v with
  | .null => .ok []
  | .obj _ => .ok (texts v)
  | _ => Reply.bad "expected an object of values"

/-- A status named in running text. -/
def Status.ofText? (s : String) : Option Status :=
  [Status.uninitialized, .alive, .disposing, .disposed].find? (·.text == s)

/-- A loader built from a step: its kind (`scripted` unless given), its name (the kind unless
given) and its values. -/
def loader (step : Value) : Reply BenchLoader := do
  let kind := (step.optText "loader").getD "scripted"
  let values ← valueTable (step.get "values")
  match BenchLoader.ofKind? kind ((step.optText "name").getD kind) values with
  | some l => .ok l
  | none => Reply.bad ("unknown loader kind " ++ kind)

/-- A listener built from its description: its kind (`log` unless given), its name (`log`, or
`quiet` for that kind, unless given) and the failures it is to produce by event. -/
def listener (spec : Value) : Reply BenchListener := do
  let kind := (spec.optText "kind").getD "log"
  match kind with
  | "log" => .ok (.logging ((spec.optText "name").getD "log") (← valueTable (spec.get "fail_on")))
  | "null" => .ok .sink
  | "quiet" => .ok (.quiet ((spec.optText "name").getD "quiet"))
  | k => Reply.bad ("unknown listener kind " ++ k)

/-- The answer of one step: its outcome, with the log lines and failures it produced. -/
def stepAnswer (r : Reply Value) (events failures : List Value) : Value :=
  let outcome := match r with
    | .ok v => [("ok", v)]
    | .error (.obj fs) => fs
    | .error v => [("error", v)]
  let extra (key : String) (xs : List Value) := if xs.isEmpty then [] else [(key, Value.arr xs)]
  .object (outcome ++ extra "events" events ++ extra "failures" failures)

end Request

end NamedCaches
