import NamedCaches.Request.Basic
import NamedCaches.Config.Settings
import NamedCaches.Config.Source
import NamedCaches.Json.Print
import NamedCaches.Config.Properties
set_option autoImplicit false
/-!
# Configuration requests

Operations on the configuration layer: parsing property strings (`properties`), expiries
(`duration`, `expiry_type`), merging declarations (`merge`), reading sources and documents
(`json_source`, `document`) and building a declaration call by call (`raw_builder`).
-/

namespace NamedCaches

open Json

namespace Request

/-- `properties`: parses a property text (or starts empty when only `with` pairs are given),
applies the `with` pairs and reads the `get` keys. -/
def properties (req : Value) : Reply Value := do
  let pairs := (req.get "with").arr?
  let start ← match req.field? "text", pairs with
    | none, some _ => pure Properties.empty
    | t, _ => Reply.ofExcept (Properties.parse ((t.bind Value.str?).getD "") (req.optText "delimiter"))
  let props := (pairs.getD []).foldl (fun (p : Properties) pair =>
    match pair with
    | .arr [.str k, .str v] => p.insert k v
    | _ => p) start
  let entries := Value.obj (props.entries.map fun (k, v) => (k, .str v))
  let base := [("entries", entries), ("len", .ofNat props.size), ("is_empty", .bool props.isEmpty),
    ("environment", props.toEnvironment)]
  match (req.get "get").arr? with
  | some keys =>
    let got := keys.map fun k => match k with
      | .str s => Value.ofOption (props.get? s)
      | _ => .null
    pure (.object (base ++ [("got", .arr got)]))
  | none => pure (.object base)

/-- An expiry read from a value. -/
def expiry (v : Value) : Reply Expiry := do
  pure (Expiry.ofNormal (← Reply.shaped Expiry.shape v))

/-- An expiry kind read from a value. -/
def expiryKind (v : Value) : Reply ExpiryKind := do
  let n ← Reply.shaped (.choice ExpiryKind.names) v
  pure (((n.str?).bind ExpiryKind.ofName?).getD .accessed)

/-- A count read from a value, or a refusal. -/
def count (v : Value) : Reply Nat :=
  match v with
  | .num (.nat n) => .ok n
  | _ => Reply.bad "expected u64"

/-- `duration`: an expiry with what it means, its exact span, and how it compares to `other`.
The expiry is `seconds` when that is a whole number of 64 bits, and `duration` otherwise. -/
def duration (req : Value) : Reply Value := do
  let d ← match req.get "seconds" with
    | .num (.nat n) => pure (Expiry.seconds n.toUInt64)
    | _ => expiry (req.get "duration")
  let other ← match req.field? "other" with
    | some v => some <$> expiry v
    | none => pure none
  let span : Value := (d.span?.map Span.toValue).getD .null
  let fields := match d.describeValue with
    | .obj fs => fs
    | _ => []
  let extra : List (String × Value) := match other with
    | some o =>
      [("equals", .bool (d.same o))] ++
        (if req.isTrue "hash" then [("set_size", .ofNat (if d.same o then 1 else 2))] else [])
    | none => []
  pure (.object (fields ++ [("std", span)] ++ extra))

/-- `expiry_type`: the text of an expiry kind. -/
def expiryTypeOp (req : Value) : Reply Value := do
  let k ← expiryKind (req.get "value")
  pure (.object [("display", .str k.name)])

/-- A table of cache declarations read from a value. -/
def declarations (v : Value) : Reply Declarations := do
  pure (CacheDecl.tableOfNormal (← Reply.shaped (.table none CacheDecl.shape) v))

/-- Declarations as an object. -/
def declarationsValue (ds : Declarations) : Value := .obj (ds.map fun (n, d) => (n, d.toValue))

/-- `merge`: lays the named declarations over the base ones (none when not given) and resolves
them. -/
def merge (req : Value) : Reply Value := do
  let base ← match req.get "base" with
    | .null => pure []
    | v => declarations v
  let named ← match req.get "named" with
    | .null => pure none
    | v => some <$> declarations v
  let merged := match named with
    | some n => mergeDeclarations base n
    | none => base
  let manager := req.optText "manager"
  pure (.object [("merged", declarationsValue merged),
    ("resolved", .obj (merged.map fun (n, d) => (n, (Settings.resolve manager n d).toValue)))])

/-- The text of a value that should be a JSON text: a string as it is, anything else as JSON. -/
def textOf (v : Value) : String :=
  match v with
  | .str s => s
  | v => v.render

/-- The JSON text a request gives under a key: empty when the key is missing. -/
def textField (req : Value) (key : String) : String := ((req.field? key).map textOf).getD ""

/-- The working directory that paths of requests start from, three levels below the root: the
protocol text, the build and run scripts, the script that wrote the inputs, and the `driver`
crate's manifest and sources. Only how the files begin matters here: none of them is JSON. -/
def workingDirectory : Files :=
  { entries := [
      ("PROTOCOL.md", .file "# cache-bridge oracle protocol\n".toUTF8),
      ("build.sh", .file "#!/bin/sh\n".toUTF8),
      ("run.sh", .file "#!/bin/sh\n".toUTF8),
      ("gen_inputs.py", .file "#!/usr/bin/env python3\n".toUTF8),
      ("driver", .directory),
      ("driver/Cargo.toml", .file "[package]\n".toUTF8),
      ("driver/src", .directory),
      ("driver/src/main.rs", .file "use std::io;\n".toUTF8)],
    home := ["root", "workspace", "oracle"] }

/-- `json_source`: reads a source from a text, a path or a file holding a text. -/
def jsonSource (req : Value) : Reply Value := do
  let name := (req.optText "name").getD "json"
  match req.optText "path", req.optText "file_text" with
  | some path, _ =>
    let caches ← Reply.ofExcept (Source.load workingDirectory { name, origin := .file path })
    pure (.object [("caches", declarationsValue caches), ("source_name", .str name)])
  | none, some text =>
    let files : Files := { entries := [("source.json", .file text.toUTF8)] }
    let caches ← Reply.ofExcept (Source.load files { name, origin := .file "source.json" })
    pure (.object [("caches", declarationsValue caches), ("source_name", .str name)])
  | none, none =>
    let caches ← Reply.ofExcept (Section.parse name (textField req "text"))
    pure (.object [("caches", declarationsValue caches)])

/-- `document`: reads a whole document into its base and named sections. -/
def document (req : Value) : Reply Value := do
  let doc ← Reply.ofExcept (Document.parse (textField req "text"))
  let named := doc.managers.map fun (n, ds) =>
    Value.object [("name", .str n), ("source_name", .str n), ("caches", declarationsValue ds)]
  pure (.object [("base", .object [("source_name", .str "default"),
    ("caches", declarationsValue doc.caches)]), ("named", .arr named)])

/-- A flag argument of a builder call. -/
def flag (v : Value) : Reply Bool :=
  match v with
  | .bool b => .ok b
  | _ => Reply.bad "expected a bool"

/-- Applies one builder call. -/
def builderCall (d : CacheDecl) (call : Value) : Reply CacheDecl := do
  let args ← match call with
    | .arr xs => pure xs
    | _ => Reply.bad "a call is [method, args...]"
  let arg (i : Nat) : Value := args.getD i .null
  match arg 0 with
  | .str "expiry" => do
    let k ← expiryKind (arg 1)
    let e ← expiry (arg 2)
    pure (d.withExpiry k e)
  | .str "copy_on_read" => do pure { d with copyOnRead := some (← flag (arg 1)) }
  | .str "copy_on_write" => do pure { d with copyOnWrite := some (← flag (arg 1)) }
  | .str "overflow_to_disk" => do pure { d with overflowToDisk := some (← flag (arg 1)) }
  | .str "max_entries" => do pure { d with maxEntries := some (← count (arg 1)).toUInt64 }
  | .str "loader" => do
    pure { d with loader := some (LoaderDecl.ofNormal (← Reply.shaped LoaderDecl.shape (arg 1))) }
  | .str "exception_handler" => do
    pure { d with handler := some (HandlerDecl.ofNormal (← Reply.shaped HandlerDecl.shape (arg 1))) }
  | .str m => Reply.bad ("unknown builder method " ++ m)
  | _ => Reply.bad "unknown builder method "

/-- `raw_builder`: builds a declaration call by call, then resolves it. -/
def rawBuilder (req : Value) : Reply Value := do
  let calls := ((req.get "calls").arr?).getD []
  let d ← calls.foldlM builderCall {}
  let name := (req.optText "name").getD "built"
  let manager := req.optText "manager"
  let under ← match req.field? "over" with
    | some v => some <$> (CacheDecl.ofNormal <$> Reply.shaped CacheDecl.shape v)
    | none => pure none
  let base := [("raw", d.toValue), ("settings", (Settings.resolve manager name d).toValue)]
  let withOver := match under with
    | some o => [("merged_over", (d.mergedOver o).toValue)]
    | none => []
  let withNamed := if req.isTrue "named" then [("named", (Settings.named name).toValue)] else []
  pure (.object (base ++ withOver ++ withNamed))

end Request

end NamedCaches
