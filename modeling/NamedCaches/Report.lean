import NamedCaches.Host.Basic
import NamedCaches.Host.EnvFile
import NamedCaches.Log.Filter
import NamedCaches.Registry
import NamedCaches.Loader.Properties
import NamedCaches.Listener.NullSink
import NamedCaches.Handler
import NamedCaches.Cache.Engine
set_option autoImplicit false
/-!
# The settings report

The program behind the command line: it resolves one cache manager from a configuration
document and reports the settings of its caches.

1. Variables from `.env` in the working directory are added to the environment (none is
   overridden).
2. The log filter comes from `RUST_LOG` (see `Filter.ofSetting`).
3. The document is the file `CACHE_BRIDGE_CONFIG` names, `cache-bridge.json` by default; it has to
   be a regular file.
4. The manager is `CACHE_BRIDGE_MANAGER`, trimmed; blank or `default` (in any case) is the
   default manager.
5. The document is read (it must be UTF-8) and parsed; each of its managers becomes a named
   source, and only the properties loader factory and no handler factory is registered.
6. The manager is resolved; then each usable cache's settings are logged in name order, each
   failed cache with its failure as a warning, and the manager is shut down.

Log lines go to standard output as `LEVEL target: message`, when the filter lets them through;
control characters that could drive a terminal are written as escapes (see `terminalSafe`).
A failure ends the run with exit code 1 and `Error: message` on standard error, followed by a
blank line, `Caused by:` and the indented cause when it has one.
-/

namespace NamedCaches

/-- What a run wrote, record by record, and how it ended. -/
structure Outcome where
  code : UInt32
  out : List String
  err : List String
  deriving Inhabited

/-- The log of a run. -/
structure Console where
  lines : Array LogLine := #[]
  deriving Inhabited

instance : Journal Console := ⟨fun l c => { c with lines := c.lines.push l }⟩

namespace Report

/-- The document read when no path is set. -/
def defaultPath : String := "cache-bridge.json"

/-- The manager a setting names: trimmed, and none when blank or `default` in any case. -/
def managerOf (setting : Option String) : Option String :=
  setting.bind fun raw =>
    let t := Text.trim raw
    if t.isEmpty || t.toLower == "default" then none else some t

/-- A registry of the report. -/
abbrev ReportRegistry := Registry PropertiesLoader NullSink LoggingHandler Engine Console

/-- The registry over a document: its caches as the base, each manager's as a named source. -/
def registryOf (doc : Document) : ReportRegistry where
  files := Files.empty
  base := { name := "default", origin := .declared (.ofList doc.caches) }
  named := doc.managers.map fun (n, ds) => (n, { name := n, origin := .declared (.ofList ds) })
  loaders := [("properties", PropertiesLoader.factory)]
  handlers := []
  defaultHandler := {}
  sink := {}
  storeFor := Engine.create
  managers := []

/-- The report line of a cache. -/
def settingsLine (label name : String) (c : Cache PropertiesLoader NullSink LoggingHandler Engine) :
    String :=
  let s := c.settings
  "[" ++ label ++ "] " ++ name ++ ": store_by_value=" ++ toString s.storeByValue ++
    " accessed=" ++ (s.expiry .accessed).describe ++ " modified=" ++ (s.expiry .modified).describe ++
    " overflow_to_disk=" ++ toString s.overflowToDisk ++ " max_entries=" ++ toString s.maxEntries.toNat ++
    " loader=" ++ c.loaderName.getD "none"

/-- Resolves the manager and reports on it. -/
def resolve (doc : Document) (manager : Option String) : StateM Console (Except Failure Unit) := do
  let r := registryOf doc
  r.announce
  match ← (Registry.getManager manager).run' r with
  | .error e => pure (.error e)
  | .ok m =>
    m.caches.forM fun (name, c) => logLine .info Target.root (settingsLine m.label name c)
    m.failed.forM fun (name, f) =>
      logLine .warn Target.root ("[" ++ m.label ++ "] " ++ name ++ ": unusable: " ++ f.message)
    discard m.shutdown
    pure (.ok ())

/-- A character of a log message as written: the escape, bell, backspace, form feed and delete
characters and the C1 controls U+0080 to U+009F are written as escapes, so that no message can
drive a terminal; every other character, line breaks and tabs included, stays. -/
def terminalSafe (c : Char) : String :=
  let n := c.toNat
  if n == 0x1B then "\\x1b"
  else if n == 0x07 then "\\x07"
  else if n == 0x08 then "\\x08"
  else if n == 0x0C then "\\x0c"
  else if n == 0x7F then "\\x7f"
  else if 0x80 ≤ n && n ≤ 0x9F then "\\u" ++ "\x7b" ++ Text.hexDigits n ++ "\x7d"
  else String.singleton c

/-- A log line as written: `LEVEL target: message`, the message made terminal-safe. -/
def LogLine.text (l : LogLine) : String :=
  l.level.name ++ " " ++ l.target ++ ": " ++ String.join (l.message.toList.map terminalSafe)

example : terminalSafe '\x1b' = "\\x1b" := by decide

example : terminalSafe '\t' = "\t" := by decide

/-- The end of a run: the records of the lines the filter lets through, and the failure with
its cause. A record is what one write puts out; a message with a line break makes a record of
several lines. -/
def finish (filter : Filter) (lines : Array LogLine) (failure : Option (String × Option String)) :
    Outcome :=
  let out := (lines.toList.filter filter.allows).map LogLine.text
  match failure with
  | none => { code := 0, out, err := [] }
  | some (message, cause) =>
    let causeLines := match cause with
      | some c => ["", "Caused by:", "    " ++ c]
      | none => []
    { code := 1, out, err := ("Error: " ++ message) :: causeLines }

/-- Runs the report on a host whose variables are read by `var`. -/
def runWith {m : Type → Type} [Monad m] (host : Host m) (var : String → m (Option String)) :
    m Outcome := do
  let filter := Filter.ofSetting (← var "RUST_LOG")
  let path := (← var "CACHE_BRIDGE_CONFIG").getD defaultPath
  match ← host.entry path with
  | .ok (.file bytes) =>
    let manager := managerOf (← var "CACHE_BRIDGE_MANAGER")
    let start : Array LogLine := #[⟨.info, Target.root, "Using cache configuration " ++ path⟩]
    match String.fromUTF8? bytes with
    | none => pure (finish filter start (some ("reading " ++ path, some ReadError.invalidText.text)))
    | some text =>
      match Document.parse text with
      | .error f => pure (finish filter start (some (f.message, none)))
      | .ok doc =>
        let (r, console) := (resolve doc manager).run { lines := start }
        pure (finish filter console.lines (match r with
          | .ok () => none
          | .error f => some (f.message, none)))
  | _ =>
    let missing := "cache configuration " ++ path ++ " not found (set CACHE_BRIDGE_CONFIG)"
    pure { code := 1, out := [], err := ["Error: " ++ missing] }

/-- Runs the report on a host: a variable the environment leaves unset is read from `.env`. -/
def run {m : Type → Type} [Monad m] (host : Host m) : m Outcome := do
  let envFile ← match ← host.entry ".env" with
    | .ok (.file bytes) => EnvFile.load host.envVar (EnvFile.ofBytes bytes)
    | _ => pure []
  runWith host fun k => do
    match ← host.envVar k with
    | some v => pure (some v)
    | none => pure (envFile.lookup k)

end Report

end NamedCaches
