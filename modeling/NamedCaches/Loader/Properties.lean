import NamedCaches.Loader.Basic
import NamedCaches.Config.Properties
import NamedCaches.Json.Print
import NamedCaches.Registry
set_option autoImplicit false
/-!
# The properties loader

A loader that answers from a fixed table of texts. A text argument (owned or lasting) is put in
front of the loaded value; any other argument is ignored. Each instance counts the keys it was
asked to load. Its factory builds it from a declaration's environment (a string entry is taken
as it is, any other value as its compact JSON text) under the name `properties`, or for a cache
from parsed properties under the name `properties:CACHE`; a clone for a cache is named the same
way and starts counting from zero.
-/

namespace NamedCaches

/-- A loader answering from a fixed table. -/
structure PropertiesLoader where
  name : String
  values : List (String × String)
  loads : Nat := 0
  deriving Inhabited, DecidableEq

namespace PropertiesLoader

instance : Named PropertiesLoader := ⟨PropertiesLoader.name⟩

/-- Looks a key up, counting the load. -/
def lookup {W : Type} (key : String) : LoaderM PropertiesLoader W (Option String) := do
  modify fun l => { l with loads := l.loads + 1 }
  pure (Json.Fields.get? key (← get).values)

/-- The text of an argument that is text. -/
def argumentText : Argument → Option String
  | .owned s => some s
  | .literal s => some s
  | .other => none

instance {W : Type} [Journal W] : KeyedLoader PropertiesLoader W where
  init cache := do
    let l ← get
    monadLift (logLine (W := W) .debug Target.propertiesLoader ("Properties loader '" ++ l.name ++
      "' serving " ++ toString l.values.length ++ " keys for cache '" ++ cache ++ "'"))
    pure (.ok ())
  load key := do pure (.ok (← lookup key))
  loadWith key a := do
    let v ← lookup key
    pure (.ok (match argumentText a with
      | some lead => v.map (lead ++ ·)
      | none => v))
  cloneFor target := do
    let l ← get
    pure (.ok { name := "properties:" ++ target, values := l.values })

/-- The text an environment value stands for: a string as it is, anything else as JSON. -/
def environmentText : Json.Value → String
  | .str s => s
  | v => v.render

/-- The factory of properties loaders. -/
def factory {W : Type} : LoaderFactory PropertiesLoader W where
  create env := pure (.ok { name := "properties", values := env.map fun (k, v) => (k, environmentText v) })
  createFor cache props := pure (.ok { name := "properties:" ++ cache, values := props.entries })

end PropertiesLoader

end NamedCaches
