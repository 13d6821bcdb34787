import NamedCaches.Bench.Spec
import NamedCaches.Bench.World
import NamedCaches.Loader.Properties
set_option autoImplicit false
/-!
# Bench loaders

The loaders of a test bench, over a table of texts:

* a *table* loader is the properties loader;
* a *scripted* loader writes a line for every call (`init NAME @CACHE`, `dispose NAME`,
  `load NAME KEY`, `load_with NAME KEY ARG`, `load_all NAME COUNT`, `load_all_with NAME COUNT`,
  `clone NAME -> TARGET`) and fails where its table holds a failure spec: a value that is a spec
  fails its load, `!init` fails `init` (any text there does), `!batch` fails a batch load and
  `!clone` a clone; a missing key and the value `!none` load nothing. Only an owned text counts
  as an argument; any other is written `<other>`. A loaded value with an argument is
  `VALUE+ARG`. A clone for a cache is named `scripted:CACHE`;
* a *stubborn* loader only writes its loads and disposal, answers its values as they are and
  keeps every default, so it ignores arguments and cannot be cloned.

The factories build them from declarations: `scripted` and `stubborn` loaders are named for the
factory, or `FACTORY@CACHE` when built from properties; the `broken` factory always refuses.
-/

namespace NamedCaches

/-- A loader of the test bench. -/
inductive BenchLoader where
  /-- The properties loader. -/
  | table (l : PropertiesLoader)
  /-- A loader that writes every call and fails where its values say. -/
  | scripted (name : String) (values : List (String × String))
  /-- A loader that writes its loads and keeps every default. -/
  | stubborn (name : String) (values : List (String × String))
  deriving Inhabited, DecidableEq

namespace BenchLoader

instance : Named BenchLoader where
  name
    | .table l => l.name
    | .scripted n _ => n
    | .stubborn n _ => n

/-- A loader of the named kind (`scripted`, `properties` or `stubborn`) over some values. -/
def ofKind? (kind name : String) (values : List (String × String)) : Option BenchLoader :=
  match kind with
  | "scripted" => some (.scripted name values)
  | "properties" => some (.table { name, values })
  | "stubborn" => some (.stubborn name values)
  | _ => none

/-- Runs an action of the properties loader on a table loader. -/
def onTable {α : Type} (act : LoaderM PropertiesLoader World α) (l : PropertiesLoader) :
    LoaderM BenchLoader World α := do
  let (a, l') ← monadLift (act.run l)
  set (BenchLoader.table l')
  pure a

/-- Writes a line of the bench log from a loader action. -/
def note (line : String) : LoaderM BenchLoader World Unit := monadLift (World.note line)

/-- How a scripted loader writes an argument: an owned text as it is, anything else `<other>`. -/
def argumentText : Argument → String
  | .owned s => s
  | _ => "<other>"

/-- What a scripted loader loads from a table entry: nothing for a missing key or `!none`, the
failure of a spec, and the value otherwise. -/
def scriptedValue (name : String) : Option String → Except Failure (Option String)
  | none => .ok none
  | some v =>
    if v = "!none" then .ok none
    else match Failure.ofSpec? name v with
      | some f => .error f
      | none => .ok (some v)

/-- The failure a spec under a reserved key stands for, if it holds one. -/
def scriptedFailure (name key : String) (values : List (String × String)) : Option Failure :=
  (Json.Fields.get? key values).bind (Failure.ofSpec? name)

/-- Loads one key. -/
def load (key : String) : LoaderM BenchLoader World (Except Failure (Option String)) := do
  match ← get with
  | .table l => onTable (KeyedLoader.load key) l
  | .scripted name values =>
    note ("load " ++ name ++ " " ++ key)
    pure (scriptedValue name (Json.Fields.get? key values))
  | .stubborn name values =>
    note ("load " ++ name ++ " " ++ key)
    pure (.ok (Json.Fields.get? key values))

/-- Loads one key with an argument. -/
def loadWith (key : String) (a : Argument) :
    LoaderM BenchLoader World (Except Failure (Option String)) := do
  match ← get with
  | .table l => onTable (KeyedLoader.loadWith key a) l
  | .scripted name values =>
    let text := argumentText a
    note ("load_with " ++ name ++ " " ++ key ++ " " ++ text)
    pure ((scriptedValue name (Json.Fields.get? key values)).map (·.map (· ++ "+" ++ text)))
  | .stubborn .. => load key

/-- Loads a set of keys, with or without an argument: a scripted loader writes the batch, may
fail it whole, and otherwise loads key by key. -/
def loadBatch (keys : List String) (a : Option Argument) :
    LoaderM BenchLoader World (Except Failure Batch) := do
  let each (k : String) := match a with
    | some a => loadWith k a
    | none => load k
  match ← get with
  | .table l =>
    match a with
    | some a => onTable (KeyedLoader.loadAllWith keys a) l
    | none => onTable (KeyedLoader.loadAll keys) l
  | .scripted name values =>
    let verb := if a.isSome then "load_all_with " else "load_all "
    note (verb ++ name ++ " " ++ toString keys.length)
    match scriptedFailure name "!batch" values with
    | some f => pure (.error f)
    | none => .ok <$> Batch.collect each keys
  | .stubborn .. => .ok <$> Batch.collect each keys

/-- One-time setup for a cache. -/
def init (cache : String) : LoaderM BenchLoader World (Except Failure Unit) := do
  match ← get with
  | .table l => onTable (KeyedLoader.init cache) l
  | .scripted name values =>
    note ("init " ++ name ++ " @" ++ cache)
    pure <| match Json.Fields.get? "!init" values with
      | some t => .error (Failure.ofSpecOr name t (.loader name))
      | none => .ok ()
  | .stubborn .. => pure (.ok ())

/-- One-time teardown. -/
def dispose : LoaderM BenchLoader World Unit := do
  match ← get with
  | .table l => onTable (KeyedLoader.dispose (W := World)) l
  | .scripted name _ => note ("dispose " ++ name)
  | .stubborn name _ => note ("dispose " ++ name)

/-- A loader for the named cache. -/
def cloneFor (target : String) : LoaderM BenchLoader World (Except Failure BenchLoader) := do
  match ← get with
  | .table l => (·.map BenchLoader.table) <$> onTable (KeyedLoader.cloneFor target) l
  | .scripted name values =>
    note ("clone " ++ name ++ " -> " ++ target)
    match scriptedFailure name "!clone" values with
    | some f => pure (.error f)
    | none => pure (.ok (.scripted ("scripted:" ++ target) values))
  | .stubborn name _ => pure (.error (.notCloneableLoader name))

instance : KeyedLoader BenchLoader World where
  init := init
  dispose := dispose
  load := load
  loadWith := loadWith
  loadAll keys := loadBatch keys none
  loadAllWith keys a := loadBatch keys (some a)
  cloneFor := cloneFor

/-- The load count of a table loader. -/
def loads? : BenchLoader → Option Nat
  | .table l => some l.loads
  | _ => none

/-- Values of an environment: a string as it is, anything else as its JSON text. -/
def environmentValues (env : List (String × Json.Value)) : List (String × String) :=
  env.map fun (k, v) => (k, PropertiesLoader.environmentText v)

/-- The factory of table loaders. -/
def tableFactory : LoaderFactory BenchLoader World where
  create env := (·.map BenchLoader.table) <$> PropertiesLoader.factory.create env
  createFor cache props := (·.map BenchLoader.table) <$> PropertiesLoader.factory.createFor cache props

/-- The factory of scripted loaders. -/
def scriptedFactory : LoaderFactory BenchLoader World where
  create env := pure (.ok (.scripted "scripted" (environmentValues env)))
  createFor cache props := pure (.ok (.scripted ("scripted@" ++ cache) props.entries))

/-- The factory of stubborn loaders. -/
def stubbornFactory : LoaderFactory BenchLoader World where
  create env := pure (.ok (.stubborn "stubborn" (environmentValues env)))
  createFor cache props := pure (.ok (.stubborn ("stubborn@" ++ cache) props.entries))

/-- The factory that refuses every loader. -/
def brokenFactory : LoaderFactory BenchLoader World where
  create _ := pure (.error (.loader "broken" "factory refused"))
  createFor cache _ := pure (.error (.config "broken" ("cannot build for " ++ cache)))

/-- The bench's loader factories by name. -/
def factories : List (String × LoaderFactory BenchLoader World) :=
  [("properties", tableFactory), ("scripted", scriptedFactory), ("stubborn", stubbornFactory),
    ("broken", brokenFactory)]

end BenchLoader

end NamedCaches
