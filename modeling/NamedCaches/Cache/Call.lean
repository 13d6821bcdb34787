import NamedCaches.Cache.Ops
set_option autoImplicit false
/-!
# Calls on a cache, and calls back into it

A program calls a cache's operations one after another (`CacheCall`), and so may a collaborator
from inside one of its callbacks: a loader is handed its cache in `init` and may keep it for
`dispose`, and a listener may keep it for its own `dispose`. What a callback calls is a `Script`:
a call, then from its answer the rest, until it is done. Each call of a script is a plain call:
the collaborators it reaches do not call back in turn.

A call from a callback is made on the cache as it stands then. While a loader's `init` runs for
`initialise`, its binding is the cache's and holds the binding's lock; a call that takes that
binding out of the cache (a `dispose`, or a `register_loader` whose loader initialises) disposes
it, and so waits for the lock, which `init` holds until the call returns: that run never returns
(`Script.holding`, where it is `failure`).
-/

namespace NamedCaches

/-- A call a program makes on a cache. `get` with an argument is `get_with`, and `getAll` with
one is `get_all_with`. -/
inductive CacheCall (L E : Type) where
  | initialise
  | dispose
  | registerLoader (loader : L)
  | attachDeclaredLoader (template : L)
  | registerListener (listener : E)
  | replaceListeners (listeners : List E)
  | get (key : String) (arg : Option Argument)
  | getAll (keys : List String) (arg : Option Argument)
  | put (key value : String)
  | putAll (entries : List (String × String))
  | remove (key : String)
  | removeAll
  | containsKey (key : String)

/-- What a call answers. -/
inductive CacheReply where
  | done
  | value (v : Option String)
  | found (entries : List (String × String))
  | flag (b : Bool)

namespace CacheCall

variable {L E H S W : Type} [Named L] [KeyedLoader L W] [Named E] [Listener E W] [Handler H W]
  [Storage S W] [Journal W]

/-- Makes a call. -/
def run : CacheCall L E → CacheM L E H S W CacheReply
  | .initialise => do Cache.initialise; pure .done
  | .dispose => do Cache.dispose; pure .done
  | .registerLoader l => do Cache.registerLoader l; pure .done
  | .attachDeclaredLoader t => do Cache.attachDeclaredLoader t; pure .done
  | .registerListener l => do Cache.registerListener l; pure .done
  | .replaceListeners ls => do Cache.replaceListeners ls; pure .done
  | .get k a => .value <$> Cache.get k a
  | .getAll ks a => .found <$> Cache.getAll ks a
  | .put k v => do Cache.put k v; pure .done
  | .putAll es => do Cache.putAll es; pure .done
  | .remove k => .value <$> Cache.remove k
  | .removeAll => do Cache.removeAll; pure .done
  | .containsKey k => .flag <$> Cache.containsKey k

/-- Makes a call and takes its failure as its answer. -/
def answer (call : CacheCall L E) : CacheM L E H S W (Except Failure CacheReply) :=
  tryCatch (Except.ok <$> call.run) fun e => pure (.error e)

end CacheCall

/-- The calls a collaborator makes on its cache from inside a callback: no more, or a call and,
from its answer, the rest. -/
inductive Script (L E : Type) where
  | done
  | call (q : CacheCall L E) (next : Except Failure CacheReply → Script L E)

namespace Script

variable {L E H S W : Type} [Named L] [KeyedLoader L W] [Named E] [Listener E W] [Handler H W]
  [Storage S W] [Journal W]

/-- Makes a script's calls, each on the cache the ones before left, and gives each call with its
answer. -/
def run : Script L E → CacheM L E H S W (List (CacheCall L E × Except Failure CacheReply))
  | .done => pure []
  | .call q next => do
    let r ← q.answer
    let rest ← (next r).run
    pure ((q, r) :: rest)

end Script

/-- What each callback calls on the cache, as the operations take it. -/
def Script.reenter {L E H S W : Type} [Named L] [KeyedLoader L W] [Named E] [Listener E W]
    [Handler H W] [Storage S W] [Journal W] (calls : Callback L E → Script L E) :
    Callback L E → CacheM L E H S W Unit :=
  fun cb => discard (calls cb).run

namespace Cache

variable {L E H S W : Type} [Named L] [KeyedLoader L W] [Named E] [Listener E W] [Handler H W]
  [Storage S W] [Journal W]

end Cache

end NamedCaches
