import NamedCaches.Config.Document
import NamedCaches.Files
import NamedCaches.Log
set_option autoImplicit false
/-!
# Configuration sources

A source is somewhere cache declarations come from, under a name used in diagnostics: a fixed
table of declarations, a JSON text, or a file holding one. A fixed table holds one declaration
per cache, in name order, as it was built cache by cache (`DeclTable.ofList`). A text or file is
read again every time the source is loaded, so a malformed one fails when a manager that needs
it is built.

Merging a named source over a base source (`mergeSources`) lays each cache the named source
declares over the base's declaration of it, if any; caches only one side declares are taken as
they are.
-/

namespace NamedCaches

/-- Cache declarations held as a table: by cache name, in strictly increasing name order. -/
structure DeclTable where
  entries : Declarations
  sorted : (entries.map Prod.fst).Pairwise (· < ·)

/-- The table of declarations given one cache after another, a later declaration of a cache
replacing an earlier one. -/
def DeclTable.ofList (caches : Declarations) : DeclTable :=
  ⟨Json.Fields.ofList caches, Json.Fields.ofList_sorted caches⟩

/-- Where a source's declarations come from. -/
inductive Origin where
  | declared (caches : DeclTable)
  | text (text : String)
  | file (path : String)
  deriving Inhabited

/-- A named source of cache declarations. -/
structure Source where
  name : String
  origin : Origin
  deriving Inhabited

namespace Source

/-- Reads every cache declaration of the source. -/
def load (files : Files) (s : Source) : Except Failure Declarations :=
  match s.origin with
  | .declared caches => .ok caches.entries
  | .text t => Section.parse s.name t
  | .file path =>
    match files.readText path with
    | .ok t => Section.parse s.name t
    | .error e => .error (.config s.name (path ++ ": " ++ e.text))

end Source

/-- Lays a named source's declarations over the base's, cache by cache. -/
def mergeDeclarations (base named : Declarations) : Declarations :=
  named.foldl (fun acc (name, d) =>
    match Json.Fields.get? name acc with
    | some b => Json.Fields.insert name (d.mergedOver b) acc
    | none => Json.Fields.insert name d acc) base

/-- Loads the base source and, if given, the named source, and merges them; each cache taken
from the named source is logged. -/
def mergeSources {W : Type} [Journal W] (files : Files) (base : Source) (named : Option Source) :
    StateM W (Except Failure Declarations) := do
  match base.load files with
  | .error e => pure (.error e)
  | .ok merged =>
    match named with
    | none => pure (.ok merged)
    | some n =>
      match n.load files with
      | .error e => pure (.error e)
      | .ok overrides =>
        overrides.forM fun (name, _) =>
          logLine .debug Target.source
            ("Merging cache '" ++ name ++ "' from source '" ++ n.name ++ "' over '" ++ base.name ++ "'")
        pure (.ok (mergeDeclarations merged overrides))

end NamedCaches
