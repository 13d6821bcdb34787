import NamedCaches.Config.Declaration
set_option autoImplicit false
/-!
# Resolved cache settings

The settings a cache runs with, resolved once from the merged declaration of its sources: an
undeclared flag is false, an undeclared capacity is 10000 entries and an undeclared expiry never
comes. Values are stored by value exactly when they are copied both on read and on write.
-/

namespace NamedCaches

open Json

/-- The capacity of a cache that declares none. -/
def defaultMaxEntries : UInt64 := 10000

/-- The settings of one cache of one manager (`none` is the default manager). -/
structure Settings where
  name : String
  manager : Option String
  accessed : Expiry
  modified : Expiry
  copyOnRead : Bool
  copyOnWrite : Bool
  overflowToDisk : Bool
  maxEntries : UInt64
  loader : Option LoaderDecl
  handler : Option HandlerDecl
  deriving Inhabited

namespace Settings

/-- Resolves a merged declaration, filling in the defaults. -/
def resolve (manager : Option String) (name : String) (d : CacheDecl) : Settings where
  name := name
  manager := manager
  accessed := d.accessed.getD .eternal
  modified := d.modified.getD .eternal
  copyOnRead := d.copyOnRead.getD false
  copyOnWrite := d.copyOnWrite.getD false
  overflowToDisk := d.overflowToDisk.getD false
  maxEntries := d.maxEntries.getD defaultMaxEntries
  loader := d.loader
  handler := d.handler

/-- The settings of a cache built in code, with every default, outside any manager. -/
def named (name : String) : Settings := resolve none name {}

/-- The expiry of a kind. -/
def expiry (s : Settings) : ExpiryKind → Expiry
  | .accessed => s.accessed
  | .modified => s.modified

/-- Values are stored by value when they are copied both on read and on write. -/
def storeByValue (s : Settings) : Bool := s.copyOnRead && s.copyOnWrite

end Settings

/-- An expiry with what it means: its whole seconds, whether it never comes, and its text. -/
def Expiry.describeValue (e : Expiry) : Value :=
  .object [("unit", .str e.unit.name), ("amount", .ofNat e.amount.toNat), ("secs", .ofNat e.secs),
    ("eternal", .bool e.isEternal), ("display", .str e.display)]

/-- A span as `{"secs", "nanos"}`. -/
def Span.toValue (s : Span) : Value :=
  .object [("secs", .ofNat s.secs), ("nanos", .ofNat s.nanos)]

/-- Settings as written in answers. -/
def Settings.toValue (s : Settings) : Value :=
  .object [("name", .str s.name), ("manager", .ofOption s.manager),
    ("accessed", s.accessed.describeValue), ("modified", s.modified.describeValue),
    ("copy_on_read", .bool s.copyOnRead), ("copy_on_write", .bool s.copyOnWrite),
    ("store_by_value", .bool s.storeByValue), ("overflow_to_disk", .bool s.overflowToDisk),
    ("max_entries", .ofNat s.maxEntries.toNat),
    ("loader", (s.loader.map LoaderDecl.toValue).getD .null),
    ("exception_handler", (s.handler.map HandlerDecl.toValue).getD .null)]

end NamedCaches
