import NamedCaches.Files
set_option autoImplicit false
/-!
# Hosts

What a program sees of the machine it runs on: its environment variables, and what stands at
the paths of its working directory. A host's actions run in some monad `m`: the running program
asks the operating system, while a host given as data (`Host.ofFiles`) answers from a fixed
environment and a fixed set of files.
-/

namespace NamedCaches

/-- The environment and working directory of a program, in a monad `m`. -/
structure Host (m : Type → Type) where
  /-- The value of an environment variable. -/
  envVar : String → m (Option String)
  /-- What stands at a path. -/
  entry : String → m (Except ReadError FileEntry)

namespace Host

/-- Looks a name up in an environment as the system does: each entry is the text
`NAME=VALUE`, and the first entry that starts with the name and `=` gives what follows. A name
that holds `=` can thus match part of a value: `A=B` finds `C` in the entry `A=B=C`. -/
def lookupVar (env : List (String × String)) (name : String) : Option String :=
  let key := name ++ "="
  (env.find? fun (n, v) => (n ++ "=" ++ v).startsWith key).map fun (n, v) =>
    (n ++ "=" ++ v).drop key.length |>.toString

/-- A host given as data: an environment, looked up as the system does, and files. -/
def ofFiles (files : Files) (env : List (String × String)) : Host Id where
  envVar k := pure (lookupVar env k)
  entry p := pure (files.lookup p)

end Host

end NamedCaches
