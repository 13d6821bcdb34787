import NamedCaches.Cache.Collaborator
set_option autoImplicit false
/-!
# The storage engine

The default store of a cache: an in-memory engine with a capacity and the cache's expiries.
The engine takes an expiry only up to a limit of 1000 years; a longer one, like an undeclared
one, never comes. The ACCESSED expiry is the engine's time to idle and the MODIFIED expiry its
time to live.

The engine keeps its entries in a map that reads and writes change at once, and a *policy*
that decides which entries it holds on to. The policy learns of reads and writes only when the
engine does its pending work: when it is asked for its size, when it is cleared, and before a
read or write finds 64 of its kind waiting. Then

1. every read counts once for its key, if the engine is counting yet, and moves a held key to
   the back of the line (the front is the least recently used);
2. every write is taken in order: a write of an entry that has left the map since (it was
   removed, perhaps written anew) is passed over; a key already held moves to the back, a new
   key is held if there is room, and otherwise it competes with the first of the six frontmost
   held keys that is in the map and has no write waiting; the keys passed over move to the
   back. The newcomer is held, and the other evicted, only if it was read more often; else the
   newcomer itself is evicted, unless a later write of it waits. A removal lets go of its key;
3. once at least half of the capacity is held, the engine starts counting reads; a count stops
   at 15, and all counts halve once ten times the capacity in reads (at least 1280) have been
   counted.

An evicted entry leaves the map with an *evicted* notice. A capacity of 0 keeps nothing at all.

Time is not modelled beyond two cases. With an expiry shorter than a millisecond, an entry
expires as soon as it is written: it is never found again, and it is dropped with an *expired*
notice when the engine next does its pending work (in the order written when its time to live is that short,
else in the order used), or when it is overwritten or removed; a removal still gives its value.
Any other entry, even one whose expiry is just under a second, stays until it is removed or
evicted: a run is over long before.
-/

namespace NamedCaches

/-- The longest expiry the engine takes, in seconds: 1000 years of 365 days. -/
def engineLimit : Nat := 1000 * 365 * 24 * 3600

/-- An expiry as the engine takes it: `none` when it never comes or exceeds the limit. -/
def Expiry.engineSpan (e : Expiry) : Option Span :=
  match e.span? with
  | some s => if s.exceeds engineLimit then none else some s
  | none => none

/-- An entry of the engine's map: its key, its value, and the number of the insertion that made
it. Writing over an entry keeps its number; after a removal the key's next entry gets a new one. -/
structure Slot where
  key : String
  value : String
  serial : Nat
  deriving DecidableEq, Repr, Inhabited

/-- A write the policy has yet to learn of: a write of an entry, by its number, or a removal. -/
inductive Pending where
  | upsert (key : String) (serial : Nat)
  | remove (key : String)
  deriving DecidableEq, Repr, Inhabited

/-- The key a pending write is about. -/
def Pending.key : Pending → String
  | .upsert k _ => k
  | .remove k => k

/-- The engine state: its settings, its map (oldest written first) with the number the next new
entry gets, what its policy holds (least recently used first), the reads and writes the policy
has yet to learn of, and the read counts it keeps once it counts. -/
structure Engine where
  name : String
  capacity : Nat
  idle : Option Span
  live : Option Span
  entries : List Slot := []
  nextSerial : Nat := 0
  held : List String := []
  reads : List String := []
  writes : List Pending := []
  counting : Bool := false
  counts : List (String × Nat) := []
  sampled : Nat := 0
  removals : List Removal := []
  deriving Inhabited

namespace Engine

/-- The engine expiry of a cache's settings; an expiry beyond the limit is reported. -/
def expiryFor {W : Type} [Journal W] (s : Settings) (kind : ExpiryKind) : StateM W (Option Span) := do
  let e := s.expiry kind
  match e.span? with
  | some sp =>
    if sp.exceeds engineLimit then
      logLine .debug Target.store ("Cache '" ++ s.name ++ "': " ++ kind.name ++ " expiry of " ++
        sp.text ++ " exceeds the engine limit, treating as eternal")
      pure none
    else pure (some sp)
  | none => pure none

/-- An empty engine for a cache's settings. -/
def create {W : Type} [Journal W] (s : Settings) : StateM W Engine := do
  let idle ← expiryFor s .accessed
  let live ← expiryFor s .modified
  pure { name := s.name, capacity := s.maxEntries.toNat, idle, live }

/-- The shortest expiry, in nanoseconds, that an entry outlasts a step with: a millisecond. -/
def fleetingLimit : Nat := 1000000

/-- Whether an expiry is over before the next step: it is shorter than `fleetingLimit`. -/
def Span.fleeting (s : Span) : Bool := s.secs == 0 && s.nanos < fleetingLimit

/-- Entries expire as soon as they are written when an expiry is fleeting. -/
def fleeting (e : Engine) : Bool :=
  (e.idle.any Span.fleeting) || (e.live.any Span.fleeting)

/-- An engine of capacity 0 keeps nothing. -/
def keepsNothing (e : Engine) : Bool := e.capacity == 0

/-- The entry of a key, expired or not. -/
def slot? (e : Engine) (key : String) : Option Slot := e.entries.find? fun p => p.key == key

/-- The stored value of a key, expired or not. -/
def lookup (e : Engine) (key : String) : Option String := (e.slot? key).map Slot.value

/-- The entries without a key. -/
def without (e : Engine) (key : String) : List Slot :=
  e.entries.filter fun p => p.key != key

/-! ## Read counts -/

/-- How often a key was read, as far as the engine counted. -/
def count (e : Engine) (key : String) : Nat := (e.counts.lookup key).getD 0

/-- After this many counted reads all counts are halved, so that old reads fade. -/
def sampleSize (e : Engine) : Nat := 10 * max e.capacity 128

/-- Halves every count; the number of counted reads halves too, less one for each odd count. -/
def halve (e : Engine) : Engine :=
  let odd := (e.counts.filter fun p => p.2 % 2 == 1).length
  { e with counts := e.counts.map (fun p => (p.1, p.2 / 2)), sampled := e.sampled / 2 - odd }

/-- Counts one read of a key, if the engine is counting; a count stops at 15. -/
def countRead (e : Engine) (key : String) : Engine :=
  let n := e.count key
  if !e.counting || n ≥ 15 then e
  else
    let e := { e with counts := (key, n + 1) :: e.counts.filter (·.1 != key), sampled := e.sampled + 1 }
    if e.sampled == e.sampleSize then e.halve else e

/-! ## The policy -/

/-- Moves a held key to the back of the line. -/
def refresh (e : Engine) (key : String) : Engine :=
  if e.held.contains key then { e with held := e.held.erase key ++ [key] } else e

/-- Learns of one read. -/
def learnRead (e : Engine) (key : String) : Engine := (e.countRead key).refresh key

/-- Evicts a key: its entry leaves the map with a notice, if it is still there. -/
def evict (e : Engine) (key : String) : Engine :=
  match e.lookup key with
  | some v => { e with entries := e.without key, removals := e.removals ++ [⟨key, v, .evicted⟩] }
  | none => e

/-- How many held keys a newcomer may pass over in search of one to compete with. -/
def searchLimit : Nat := 6

/-- Learns of a write of a key's entry, with the writes still waiting after it. A write of an
entry that has left the map since is passed over. A held key moves to the back, and a new one
is held if there is room. Otherwise it competes with the first of the
frontmost held keys that is in the map and has no write waiting; the keys passed over move to
the back. The newcomer wins only if it was read more often: then the other is evicted and the
newcomer held. Else the newcomer is evicted, unless a later write of it waits. -/
def learnUpsert (e : Engine) (key : String) (serial : Nat) (later : List Pending) : Engine :=
  if (e.slot? key).map Slot.serial != some serial then e
  else if e.held.contains key then e.refresh key
  else if e.held.length < e.capacity then { e with held := e.held ++ [key] }
  else
    let settled (k : String) := (e.lookup k).isSome && !(later.any fun p => p.key == k)
    let front := e.held.take searchLimit
    let passed := front.takeWhile fun k => !settled k
    let rest := e.held.filter fun k => !passed.contains k
    let reject :=
      let e' := if later.any (fun p => p.key == key) then e else e.evict key
      { e' with held := rest ++ passed }
    match front.find? settled with
    | some victim =>
      if e.count key > e.count victim then
        let e' := e.evict victim
        { e' with held := rest.erase victim ++ passed ++ [key] }
      else reject
    | none => reject

/-- Learns of the waiting writes, in order. -/
def learnWrites (e : Engine) : List Pending → Engine
  | [] => e
  | .upsert k n :: rest => (e.learnUpsert k n rest).learnWrites rest
  | .remove k :: rest => { e with held := e.held.erase k }.learnWrites rest

/-- Starts counting once at least half of the capacity is held. -/
def startCounting (e : Engine) : Engine :=
  if !e.counting && e.capacity > 0 && e.held.length ≥ e.capacity / 2 then { e with counting := true }
  else e

/-- Whether entries expire at once because their time to live is fleeting. -/
def fleetingLife (e : Engine) : Bool := e.live.any Span.fleeting

/-- Drops every expired held entry with a notice: in the order they were written when their
time to live is fleeting, else in the order they were used. -/
def dropExpired (e : Engine) : Engine :=
  if e.fleeting then
    let order :=
      if e.fleetingLife then (e.entries.map Slot.key).filter e.held.contains else e.held
    let gone := order.filterMap fun k => (e.lookup k).map fun v => (⟨k, v, .expired⟩ : Removal)
    { e with entries := e.entries.filter (fun p => !e.held.contains p.key), held := [],
             removals := e.removals ++ gone }
  else e

/-- Does the pending work: the policy learns of the reads, then of the writes, may start
counting, and expired entries go. -/
def settle (e : Engine) : Engine :=
  let e' := e.reads.foldl learnRead { e with reads := [] }
  let e'' := { e' with writes := [] }.learnWrites e.writes
  e''.startCounting.dropExpired

/-! ## Operations -/

/-- Reads and writes wait until this many of a kind are pending: the next one of that kind
first has the engine do its pending work. -/
def flushPoint : Nat := 64

/-- Records a read of a key, doing the pending work first if enough reads wait. -/
def noteRead (e : Engine) (key : String) : Engine :=
  let e := if e.reads.length ≥ flushPoint then e.settle else e
  { e with reads := e.reads ++ [key] }

/-- Records a write, doing the pending work first if enough writes wait. -/
def noteWrite (e : Engine) (p : Pending) : Engine :=
  let e := if e.writes.length ≥ flushPoint then e.settle else e
  { e with writes := e.writes ++ [p] }

/-- Reads a key: its value unless it expired. -/
def read (e : Engine) (key : String) : Option String × Engine :=
  if e.keepsNothing then (none, e)
  else (if e.fleeting then none else e.lookup key, e.noteRead key)

/-- Writes a value, after reading the key; `true` when it replaced one that had not expired.
An expired value it overwrites is dropped with a notice. -/
def write (e : Engine) (key value : String) : Bool × Engine :=
  if e.keepsNothing then (false, e)
  else
    let replaced := !e.fleeting && (e.lookup key).isSome
    let e := e.noteRead key
    let notices := if e.fleeting then ((e.lookup key).map fun v => [(⟨key, v, .expired⟩ : Removal)]).getD [] else []
    let (serial, next) := match e.slot? key with
      | some p => (p.serial, e.nextSerial)
      | none => (e.nextSerial, e.nextSerial + 1)
    let e := { e with entries := e.without key ++ [({ key, value, serial } : Slot)], nextSerial := next,
                      removals := e.removals ++ notices }
    (replaced, e.noteWrite (.upsert key serial))

/-- Removes a key, giving its value even when it expired: the map still holds it. An expired
value is also reported with an *expired* notice. -/
def erase (e : Engine) (key : String) : Option String × Engine :=
  match e.lookup key with
  | none => (none, e)
  | some v =>
    let e' := { e with entries := e.without key }
    if e.fleeting then
      (some v, ({ e' with removals := e'.removals ++ [⟨key, v, .expired⟩] } : Engine).noteWrite (.remove key))
    else (some v, e'.noteWrite (.remove key))

/-- Clears the engine: the pending work is done first, then every entry goes without notice. -/
def clear (e : Engine) : Engine :=
  { e.settle with entries := [], held := [] }

/-- The engine as a record: `MokaStore { name: Some("a"), entry_count: 1 }`, counting the entries
its policy holds. -/
def describe (e : Engine) : String :=
  "MokaStore \x7b name: Some(" ++ Text.quoted e.name ++ "), entry_count: " ++
    toString e.held.length ++ " \x7d"

instance {W : Type} : Storage Engine W where
  get key := do
    let (v, e) := (← get).read key
    set e
    pure (.ok v)
  put key value := do
    let (replaced, e) := (← get).write key value
    set e
    pure (.ok replaced)
  remove key := do
    let (old, e) := (← get).erase key
    set e
    pure (.ok old)
  removeAll := do
    modify clear
    pure (.ok ())
  containsKey e key := !e.fleeting && (e.lookup key).isSome
  size := do
    modify settle
    pure (← get).held.length
  takeRemovals := do
    let e ← get
    set { e with removals := [] }
    pure e.removals

end Engine

end NamedCaches
