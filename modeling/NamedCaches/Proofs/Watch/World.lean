import NamedCaches.Registry
set_option autoImplicit false
/-!
# Watching a cache's collaborators

To say what a cache does to its loaders, listeners, stores and handler, the world they run in is
watched. `Watched W` is a world `W` together with the sightings of every call a collaborator
received, oldest first, and a supply of fresh tags. A watched collaborator (`Tagged α`) carries
the tag it is known by, behaves as the underlying one does over `W`, and records each call it
receives with its answer. A loader factory gives each loader it makes a fresh tag, and so does a
loader for each clone it makes; a registry gives each store it opens for a cache a fresh tag.
Watching changes no answer: each is the underlying collaborator's.

The log is read per collaborator: `Sighting.loaderCalls t log` are the calls the loader tagged
`t` received, in order.
-/

namespace NamedCaches

/-- A collaborator with the tag the world knows it by. -/
structure Tagged (α : Type) where
  tag : Nat
  val : α

instance {α : Type} [Named α] : Named (Tagged α) := ⟨fun x => Named.name x.val⟩

/-- A call a loader received, with its answer; a clone is answered by its tag. -/
inductive LoaderCall where
  | init (cache : String) (r : Except Failure Unit)
  | load (key : String) (arg : Option Argument) (r : Except Failure (Option String))
  | loadAll (keys : List String) (arg : Option Argument) (r : Except Failure Batch)
  | dispose
  | cloneFor (target : String) (r : Except Failure Nat)

/-- The kinds of call a loader receives. -/
inductive LoaderCall.Kind where
  | init
  | load
  | dispose
  | clone
  deriving DecidableEq, Repr

/-- What kind of call it was. -/
def LoaderCall.kind : LoaderCall → LoaderCall.Kind
  | .init .. => .init
  | .load .. | .loadAll .. => .load
  | .dispose => .dispose
  | .cloneFor .. => .clone

/-- A call a listener received, with its answer. -/
inductive ListenerCall where
  | notify (cache : String) (ev : Event) (r : Except Failure Unit)
  | dispose

/-- A call a store received, with its answer. -/
inductive StoreCall where
  | get (key : String) (r : Except Failure (Option String))
  | put (key value : String) (r : Except Failure Bool)
  | remove (key : String) (r : Except Failure (Option String))
  | removeAll (r : Except Failure Unit)

/-- Something the world saw a collaborator do. -/
inductive Sighting where
  /-- A factory made the loader tagged `tag`. -/
  | made (tag : Nat)
  | loader (tag : Nat) (call : LoaderCall)
  | listener (tag : Nat) (call : ListenerCall)
  /-- The store tagged `tag` was opened for the named cache. -/
  | opened (tag : Nat) (cache : String)
  | store (tag : Nat) (call : StoreCall)
  /-- A handler received a failure of the cache with these settings, about a key. -/
  | handled (settings : Settings) (key : Option String) (failure : Failure)

/-- A world with the sightings of the collaborators' calls, oldest first, and the next fresh
tag. -/
structure Watched (W : Type) where
  base : W
  next : Nat
  seen : List Sighting

namespace Watched

variable {W α : Type}

/-- Runs an action of the world being watched. -/
def lift (act : StateM W α) : StateM (Watched W) α :=
  fun w => ((act.run w.base).1, { w with base := (act.run w.base).2 })

/-- Records a sighting. -/
def see (s : Sighting) : StateM (Watched W) Unit :=
  fun w => ((), { w with seen := w.seen ++ [s] })

/-- A fresh tag. -/
def fresh : StateM (Watched W) Nat :=
  fun w => (w.next, { w with next := w.next + 1 })

/-- Tags what an action of the world being watched makes, if it makes something. -/
def make {β : Type} (act : StateM W (Except Failure β)) : StateM (Watched W) (Except Failure (Tagged β)) := do
  match ← lift act with
  | .ok b =>
    let t ← fresh
    see (.made t)
    pure (.ok ⟨t, b⟩)
  | .error e => pure (.error e)

instance [Journal W] : Journal (Watched W) := ⟨fun line w => { w with base := Journal.write line w.base }⟩

/-- The world after a run that left the watched world at `base`, took `k` fresh tags and saw
`seg`. -/
def after (w : Watched W) (base : W) (k : Nat) (seg : List Sighting) : Watched W :=
  { base, next := w.next + k, seen := w.seen ++ seg }

@[simp] theorem after_next (w : Watched W) (base : W) (k : Nat) (seg : List Sighting) :
    (w.after base k seg).next = w.next + k := rfl

@[simp] theorem after_seen (w : Watched W) (base : W) (k : Nat) (seg : List Sighting) :
    (w.after base k seg).seen = w.seen ++ seg := rfl

theorem after_after (w : Watched W) (b₁ b₂ : W) (k₁ k₂ : Nat) (s₁ s₂ : List Sighting) :
    (w.after b₁ k₁ s₁).after b₂ k₂ s₂ = w.after b₂ (k₁ + k₂) (s₁ ++ s₂) := by
  simp only [after, Nat.add_assoc, List.append_assoc]

end Watched

namespace Tagged

variable {σ W α : Type}

/-- Runs an action of the underlying collaborator on a watched one. -/
def run (act : StateT σ (StateM W) α) : StateT (Tagged σ) (StateM (Watched W)) α :=
  fun t w =>
    (((((act.run t.val).run w.base).1.1, { t with val := ((act.run t.val).run w.base).1.2 })),
      { w with base := ((act.run t.val).run w.base).2 })

/-- Records a sighting about the watched collaborator. -/
def see (s : Nat → Sighting) : StateT (Tagged σ) (StateM (Watched W)) Unit :=
  fun t w => (((), t), { w with seen := w.seen ++ [s t.tag] })

/-- Runs an action of the underlying collaborator and records it with its answer. -/
def answer {β : Type} (act : StateT σ (StateM W) β) (s : Nat → β → Sighting) :
    StateT (Tagged σ) (StateM (Watched W)) β := do
  let r ← run act
  see fun t => s t r
  pure r

variable {L : Type} [KeyedLoader L W]

/-- Clones the underlying loader; the clone gets a fresh tag. -/
def cloneFor (target : String) : LoaderM (Tagged L) (Watched W) (Except Failure (Tagged L)) := do
  match ← run (KeyedLoader.cloneFor (L := L) (W := W) target) with
  | .ok copy =>
    let n ← monadLift (Watched.fresh (W := W))
    see fun t => .loader t (.cloneFor target (.ok n))
    pure (.ok ⟨n, copy⟩)
  | .error e =>
    see fun t => .loader t (.cloneFor target (.error e))
    pure (.error e)

instance : KeyedLoader (Tagged L) (Watched W) where
  init cache := answer (KeyedLoader.init cache) fun t r => .loader t (.init cache r)
  dispose := answer (KeyedLoader.dispose (L := L) (W := W)) fun t _ => .loader t .dispose
  load k := answer (KeyedLoader.load k) fun t r => .loader t (.load k none r)
  loadWith k a := answer (KeyedLoader.loadWith k a) fun t r => .loader t (.load k (some a) r)
  loadAll ks := answer (KeyedLoader.loadAll ks) fun t r => .loader t (.loadAll ks none r)
  loadAllWith ks a := answer (KeyedLoader.loadAllWith ks a) fun t r =>
    .loader t (.loadAll ks (some a) r)
  cloneFor := cloneFor

instance {E : Type} [Listener E W] : Listener (Tagged E) (Watched W) where
  notify l cache ev := do
    let r ← Watched.lift (Listener.notify l.val cache ev)
    Watched.see (.listener l.tag (.notify cache ev r))
    pure r
  dispose l := do
    Watched.lift (Listener.dispose l.val)
    Watched.see (.listener l.tag .dispose)

instance {S : Type} [Storage S W] : Storage (Tagged S) (Watched W) where
  get k := answer (Storage.get k) fun t r => .store t (.get k r)
  put k v := answer (Storage.put k v) fun t r => .store t (.put k v r)
  remove k := answer (Storage.remove k) fun t r => .store t (.remove k r)
  removeAll := answer (Storage.removeAll (S := S) (W := W)) fun t r => .store t (.removeAll r)
  containsKey s k := Storage.containsKey (W := W) s.val k
  size := run (Storage.size (S := S) (W := W))
  takeRemovals := run (Storage.takeRemovals (S := S) (W := W))

end Tagged

instance {H W : Type} [Handler H W] : Handler H (Watched W) where
  onFailure h s key f := do
    Watched.lift (Handler.onFailure h s key f)
    Watched.see (.handled s key f)

/-- The factory's loaders, each tagged when made. -/
def LoaderFactory.watch {L W : Type} (f : LoaderFactory L W) : LoaderFactory (Tagged L) (Watched W) where
  create env := Watched.make (f.create env)
  createFor name props := Watched.make (f.createFor name props)

/-- The factory over the watched world. -/
def HandlerFactory.watch {H W : Type} (f : HandlerFactory H W) : HandlerFactory H (Watched W) :=
  ⟨fun props => Watched.lift (f.create props)⟩

/-- The registry over the watched world, before any manager is built: its factories' loaders
are tagged when made, each store it opens is tagged, and its sink listener has tag 0. -/
def Registry.watch {L E H S W : Type} (r : Registry L E H S W) :
    Registry (Tagged L) (Tagged E) H (Tagged S) (Watched W) where
  files := r.files
  base := r.base
  named := r.named
  loaders := r.loaders.map fun p => (p.1, p.2.watch)
  handlers := r.handlers.map fun p => (p.1, p.2.watch)
  defaultHandler := r.defaultHandler
  sink := ⟨0, r.sink⟩
  storeFor s := do
    let st ← Watched.lift (r.storeFor s)
    let t ← Watched.fresh
    Watched.see (.opened t s.name)
    pure ⟨t, st⟩
  managers := []

/-! ## Reading the log -/

namespace Sighting

/-- The call of a sighting, if it is one the loader tagged `t` received. -/
def loaderCall? (t : Nat) : Sighting → Option LoaderCall
  | .loader t' c => if t' = t then some c else none
  | _ => none

/-- The calls the loader tagged `t` received, oldest first. -/
def loaderCalls (t : Nat) (log : List Sighting) : List LoaderCall := log.filterMap (loaderCall? t)

/-- The call of a sighting, if it is one the store tagged `t` received. -/
def storeCall? (t : Nat) : Sighting → Option StoreCall
  | .store t' c => if t' = t then some c else none
  | _ => none

/-- The calls the store tagged `t` received, oldest first. -/
def storeCalls (t : Nat) (log : List Sighting) : List StoreCall := log.filterMap (storeCall? t)

@[simp] theorem loaderCalls_nil (t : Nat) : loaderCalls t [] = [] := rfl

@[simp] theorem loaderCalls_append (t : Nat) (l₁ l₂ : List Sighting) :
    loaderCalls t (l₁ ++ l₂) = loaderCalls t l₁ ++ loaderCalls t l₂ :=
  List.filterMap_append

@[simp] theorem loaderCalls_cons (t : Nat) (s : Sighting) (l : List Sighting) :
    loaderCalls t (s :: l) = (loaderCall? t s).toList ++ loaderCalls t l := by
  unfold loaderCalls
  cases h : loaderCall? t s <;> simp [h]

@[simp] theorem storeCalls_nil (t : Nat) : storeCalls t [] = [] := rfl

@[simp] theorem storeCalls_append (t : Nat) (l₁ l₂ : List Sighting) :
    storeCalls t (l₁ ++ l₂) = storeCalls t l₁ ++ storeCalls t l₂ :=
  List.filterMap_append

@[simp] theorem storeCalls_cons (t : Nat) (s : Sighting) (l : List Sighting) :
    storeCalls t (s :: l) = (storeCall? t s).toList ++ storeCalls t l := by
  unfold storeCalls
  cases h : storeCall? t s <;> simp [h]

end Sighting

end NamedCaches
