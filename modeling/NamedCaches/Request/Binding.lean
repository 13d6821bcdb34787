import NamedCaches.Request.Step
import NamedCaches.Bench.Store
import NamedCaches.Bench.Handler
import NamedCaches.Cache.Ops
set_option autoImplicit false
/-!
# Binding requests

The `binding` request drives loader bindings step by step. Binding 0 holds a loader named
`template`; clones are appended and numbered in order. Each step names a binding (`b`, 0 unless
given as a whole number) and a cache (`cache`, `bound` unless given); a missing key is the empty
key and an owner status that is not one of the four is `uninitialized`. Caches are created on first use, standalone:
with the engine as store, the null sink as listener and a logging handler. Loads are sent to the
bound loader directly, whatever the binding's state.
-/

namespace NamedCaches

open Json

/-- The state of a binding request: the bindings, the caches by name and the bench world. -/
structure BindingBench where
  bindings : List (Binding BenchLoader)
  caches : List (String × Cache BenchLoader BenchListener BenchHandler BenchStore) := []
  world : World := {}
  deriving Inhabited

namespace BindingBench

/-- Runs an action on a binding; a binding that does not exist is a malformed step. -/
def onBinding {α : Type} (i : Nat) (act : Binding.BindingM BenchLoader World α) :
    StateM BindingBench (Reply α) := do
  let s ← get
  match s.bindings[i]? with
  | none => pure (Reply.bad "no such binding")
  | some b =>
    let ((a, b'), w) := (act.run b).run s.world
    set { s with bindings := s.bindings.set i b', world := w }
    pure (.ok a)

/-- The standalone cache of a name, created on first use. -/
def cache (name : String) : StateM BindingBench (Cache BenchLoader BenchListener BenchHandler BenchStore) := do
  let s ← get
  match s.caches.lookup name with
  | some c => pure c
  | none =>
    let settings := Settings.named name
    let (e, w) := (Engine.create settings).run s.world
    let c : Cache BenchLoader BenchListener BenchHandler BenchStore :=
      { settings, store := .engine e, listeners := [.sink], handler := .logging }
    set { s with caches := s.caches ++ [(name, c)], world := w }
    pure c

/-- Runs a cache operation on a standalone cache and answers its new status. -/
def onCache (name : String)
    (op : CacheM BenchLoader BenchListener BenchHandler BenchStore World Unit) :
    StateM BindingBench (Reply Value) := do
  let c ← cache name
  let s ← get
  let ((r, c'), w) := ((op.run).run c).run s.world
  set { s with caches := s.caches.map fun (n, x) => if n == name then (n, c') else (n, x), world := w }
  pure <| match r with
    | .ok () => .ok (.str c'.status.text)
    | .error f => Reply.failure f

end BindingBench

namespace Request

/-- The binding a step names: `b` when it is a whole number, binding 0 otherwise. -/
def bindingIndex (step : Value) : Nat :=
  ((step.get "b").nat?).getD 0

/-- Runs one step of a binding request; a step that names a binding that does not exist is
refused whatever it asks. -/
def bindingStep (step : Value) : StateM BindingBench (Reply Value) := do
  let i := bindingIndex step
  let s ← get
  if s.bindings.length ≤ i then return Reply.bad "no such binding"
  let cache := (step.optText "cache").getD "bound"
  let key := (step.optText "key").getD ""
  let loaded (r : Reply (Except Failure (Option String))) : Reply Value :=
    r.bind fun r => Reply.ofExcept (r.map Value.ofOption)
  match (step.optText "do").getD "" with
  | "init" =>
    return (← BindingBench.onBinding i (Binding.init cache)).bind fun r =>
      Reply.ofExcept (r.map fun () => Value.null)
  | "dispose" =>
    return (← BindingBench.onBinding i Binding.dispose).map fun () => .null
  | "state" => return (← BindingBench.onBinding i get).map fun b => .str b.state.title
  | "is_ready" => return (← BindingBench.onBinding i get).map fun b => .bool b.isReady
  | "name" => return (← BindingBench.onBinding i get).map fun b => .str b.name
  | "debug" => return (← BindingBench.onBinding i get).map fun b => .str b.describe
  | "load" => return loaded (← BindingBench.onBinding i (Binding.onLoader (KeyedLoader.load key)))
  | "load_with" =>
    let a := argument (step.field? "arg")
    return loaded (← BindingBench.onBinding i (Binding.onLoader (KeyedLoader.loadWith key a)))
  | "clone" =>
    let owner := ((step.optText "owner").bind Status.ofText?).getD .uninitialized
    match ← BindingBench.onBinding i (Binding.cloneInto owner cache) with
    | .error e => return .error e
    | .ok (.error f) => return Reply.failure f
    | .ok (.ok b) =>
      modify fun s => { s with bindings := s.bindings ++ [b] }
      return .ok (.ofNat ((← get).bindings.length - 1))
  | "initialise_cache" => BindingBench.onCache cache Cache.initialise
  | "dispose_cache" => BindingBench.onCache cache Cache.dispose
  | "load_count" =>
    match s.bindings.head?.bind fun b => b.loader.loads? with
    | some n => return .ok (.ofNat n)
    | none => return Reply.bad "load_count needs a properties template"
  | other => return Reply.bad ("unknown binding step " ++ other)

/-- Runs the steps in order, answering each with the log lines it wrote. -/
def bindingSteps : List Value → StateM BindingBench (List Value)
  | [] => pure []
  | step :: rest => do
    let before := (← get).world.events.size
    let r ← bindingStep step
    let events := ((← get).world.events.toList.drop before).map Value.str
    let answer := stepAnswer r events []
    pure (answer :: (← bindingSteps rest))

/-- `binding`: drives a binding over a loader named `template` through the steps. The loader is
scripted unless `loader` names another kind. -/
def binding (req : Value) : Reply Value := do
  let kind := (req.optText "loader").getD "scripted"
  let values ← valueTable (req.get "values")
  let template := (BenchLoader.ofKind? kind "template" values).getD (.scripted "template" values)
  let steps := ((req.get "steps").arr?).getD []
  let (answers, _) := (bindingSteps steps).run { bindings := [{ loader := template }] }
  pure (.object [("steps", .arr answers)])

end Request

end NamedCaches
