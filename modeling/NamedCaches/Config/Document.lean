import NamedCaches.Config.Declaration
import NamedCaches.Json.Shape.OfText
import NamedCaches.Failure
set_option autoImplicit false
/-!
# Configuration documents

A configuration document holds a base section of cache declarations (`caches`) and named
sections for managers (`managers`, each with its own `caches`); both may be left out. A section
of its own is an object with optional `caches`. Reading a document or section that is not valid
fails as a configuration error of its source, with the reader's text.
-/

namespace NamedCaches

open Json

/-- Cache declarations by cache name, in name order. -/
abbrev Declarations := List (String × CacheDecl)

/-- A section with its cache declarations. -/
def Section.shape : Shape :=
  .record "CachesSection" [("caches", false, .table none CacheDecl.shape)]

/-- A whole document. -/
def Document.shape : Shape :=
  .record "ConfigDocument" [("caches", false, .table none CacheDecl.shape),
    ("managers", false, .table none Section.shape)]

/-- A configuration document: the base declarations and, by manager name, the named ones. -/
structure Document where
  caches : Declarations
  managers : List (String × Declarations)
  deriving Inhabited

/-- Reads a section's text; a failure is a configuration error of the named source. -/
def Section.parse (source text : String) : Except Failure Declarations :=
  match Section.shape.ofText text with
  | .ok v => .ok (CacheDecl.tableOfNormal ((v.field? "caches").getD (.obj [])))
  | .error e => .error (.config source e.message)

/-- Reads a document's text; a failure is a configuration error of source `document`. -/
def Document.parse (text : String) : Except Failure Document :=
  match Document.shape.ofText text with
  | .ok v =>
    let managers := ((v.field? "managers").bind Value.obj?).getD []
    .ok { caches := CacheDecl.tableOfNormal ((v.field? "caches").getD (.obj []))
          managers := managers.map fun (name, s) =>
            (name, CacheDecl.tableOfNormal ((s.field? "caches").getD (.obj []))) }
  | .error e => .error (.config "document" e.message)

end NamedCaches
