import NamedCaches.Expiry
import NamedCaches.Json.Shape
set_option autoImplicit false
/-!
# Cache declarations

What one configuration source says about one cache. Every field is optional: a source declares
only what it wants to set. A declaration laid over another (`CacheDecl.mergedOver`) keeps each
field it declares and takes the rest from the one below; the two expiries are merged one by one,
and a declared expiry replaces the one below whole, unit included. Loader and handler
declarations are taken whole from one side.

The module also fixes how declarations are written in JSON documents: the shapes they are read
against, and how they are written back.
-/

namespace NamedCaches

open Json

/-- Which loader factory builds a cache's loader, and with what: parsed `properties` (cut at
`separator`) when they are given, else the `environment` object. -/
structure LoaderDecl where
  factory : String
  properties : Option String := none
  separator : Option String := none
  environment : List (String × Value) := []
  deriving Inhabited

/-- Which handler factory builds a cache's failure handler, and its properties. -/
structure HandlerDecl where
  factory : String
  properties : Option String := none
  separator : Option String := none
  deriving DecidableEq, Repr, Inhabited

/-- One cache as one source declares it. -/
structure CacheDecl where
  accessed : Option Expiry := none
  modified : Option Expiry := none
  copyOnRead : Option Bool := none
  copyOnWrite : Option Bool := none
  overflowToDisk : Option Bool := none
  maxEntries : Option UInt64 := none
  loader : Option LoaderDecl := none
  handler : Option HandlerDecl := none
  deriving Inhabited

namespace CacheDecl

/-- The declared expiry of a kind. -/
def expiry (d : CacheDecl) : ExpiryKind → Option Expiry
  | .accessed => d.accessed
  | .modified => d.modified

/-- Declares the expiry of a kind, replacing an earlier one. -/
def withExpiry (d : CacheDecl) (kind : ExpiryKind) (e : Expiry) : CacheDecl :=
  match kind with
  | .accessed => { d with accessed := some e }
  | .modified => { d with modified := some e }

/-- Lays `d` over `base`: what `d` declares wins, the rest comes from `base`. -/
def mergedOver (d base : CacheDecl) : CacheDecl where
  accessed := d.accessed.or base.accessed
  modified := d.modified.or base.modified
  copyOnRead := d.copyOnRead.or base.copyOnRead
  copyOnWrite := d.copyOnWrite.or base.copyOnWrite
  overflowToDisk := d.overflowToDisk.or base.overflowToDisk
  maxEntries := d.maxEntries.or base.maxEntries
  loader := d.loader.or base.loader
  handler := d.handler.or base.handler

end CacheDecl

/-! ## JSON form -/

/-- An expiry in a document: `{"unit": "SECONDS", "amount": 360}`. -/
def Expiry.shape : Shape :=
  .record "ExpiryDuration" [("unit", true, .choice (TimeUnit.all.map TimeUnit.name)),
    ("amount", true, .count)]

/-- The expiry kinds' names, as keys of a declaration's `expiry` object. -/
def ExpiryKind.names : List String := ExpiryKind.all.map ExpiryKind.name

/-- A loader declaration in a document. -/
def LoaderDecl.shape : Shape :=
  .record "LoaderDecl" [("factory", true, .text), ("properties", false, .optional .text),
    ("property_separator", false, .optional .text), ("environment", false, .table none .any)]

/-- A handler declaration in a document. -/
def HandlerDecl.shape : Shape :=
  .record "HandlerDecl" [("factory", true, .text), ("properties", false, .optional .text),
    ("property_separator", false, .optional .text)]

/-- A cache declaration in a document. -/
def CacheDecl.shape : Shape :=
  .record "RawCacheConfig" [("expiry", false, .table (some ExpiryKind.names) Expiry.shape),
    ("copy_on_read", false, .optional .flag), ("copy_on_write", false, .optional .flag),
    ("overflow_to_disk", false, .optional .flag), ("max_entries", false, .optional .count),
    ("loader", false, .optional LoaderDecl.shape),
    ("exception_handler", false, .optional HandlerDecl.shape)]

/-- An expiry from its normal form. -/
def Expiry.ofNormal (v : Value) : Expiry where
  unit := ((v.text? "unit").bind TimeUnit.ofName?).getD .seconds
  amount := (((v.field? "amount").bind Value.nat?).getD 0).toUInt64

/-- A loader declaration from its normal form. -/
def LoaderDecl.ofNormal (v : Value) : LoaderDecl where
  factory := (v.text? "factory").getD ""
  properties := v.text? "properties"
  separator := v.text? "property_separator"
  environment := ((v.field? "environment").bind Value.obj?).getD []

/-- A handler declaration from its normal form. -/
def HandlerDecl.ofNormal (v : Value) : HandlerDecl where
  factory := (v.text? "factory").getD ""
  properties := v.text? "properties"
  separator := v.text? "property_separator"

/-- A cache declaration from its normal form. -/
def CacheDecl.ofNormal (v : Value) : CacheDecl :=
  let expiry := (v.field? "expiry").getD (.obj [])
  { accessed := (expiry.field? "ACCESSED").map Expiry.ofNormal
    modified := (expiry.field? "MODIFIED").map Expiry.ofNormal
    copyOnRead := (v.field? "copy_on_read").bind Value.bool?
    copyOnWrite := (v.field? "copy_on_write").bind Value.bool?
    overflowToDisk := (v.field? "overflow_to_disk").bind Value.bool?
    maxEntries := ((v.field? "max_entries").bind Value.nat?).map Nat.toUInt64
    loader := match v.field? "loader" with
      | some .null | none => none
      | some l => some (LoaderDecl.ofNormal l)
    handler := match v.field? "exception_handler" with
      | some .null | none => none
      | some h => some (HandlerDecl.ofNormal h) }

/-- A table of cache declarations from its normal form. -/
def CacheDecl.tableOfNormal (v : Value) : List (String × CacheDecl) :=
  ((v.obj?).getD []).map fun (name, d) => (name, CacheDecl.ofNormal d)

/-- An expiry as written in a declaration. -/
def Expiry.toValue (e : Expiry) : Value :=
  .object [("unit", .str e.unit.name), ("amount", .ofNat e.amount.toNat)]

/-- A loader declaration as written back. -/
def LoaderDecl.toValue (l : LoaderDecl) : Value :=
  .object [("factory", .str l.factory), ("properties", .ofOption l.properties),
    ("property_separator", .ofOption l.separator), ("environment", .obj l.environment)]

/-- A handler declaration as written back. -/
def HandlerDecl.toValue (h : HandlerDecl) : Value :=
  .object [("factory", .str h.factory), ("properties", .ofOption h.properties),
    ("property_separator", .ofOption h.separator)]

/-- A cache declaration as written back; undeclared fields are `null`. -/
def CacheDecl.toValue (d : CacheDecl) : Value :=
  let expiry := ExpiryKind.all.filterMap fun k => (d.expiry k).map fun e => (k.name, e.toValue)
  .object [("expiry", .object expiry),
    ("copy_on_read", (d.copyOnRead.map Value.bool).getD .null),
    ("copy_on_write", (d.copyOnWrite.map Value.bool).getD .null),
    ("overflow_to_disk", (d.overflowToDisk.map Value.bool).getD .null),
    ("max_entries", (d.maxEntries.map fun n => Value.ofNat n.toNat).getD .null),
    ("loader", (d.loader.map LoaderDecl.toValue).getD .null),
    ("exception_handler", (d.handler.map HandlerDecl.toValue).getD .null)]

end NamedCaches
