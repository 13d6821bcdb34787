import NamedCaches.Request.Config
import NamedCaches.Request.Binding
import NamedCaches.Request.Session
import NamedCaches.Request.Cli
import NamedCaches.Json.Scan
set_option autoImplicit false
/-!
# Answering requests

One request, one answer: the request's `op` picks the operation.
-/

namespace NamedCaches

open Json

namespace Request

/-- The answer to a request. -/
def answer (req : Value) : Value :=
  Reply.answer <|
    match req.get "op" with
    | .str "properties" => properties req
    | .str "duration" => duration req
    | .str "expiry_type" => expiryTypeOp req
    | .str "merge" => merge req
    | .str "json_source" => jsonSource req
    | .str "document" => document req
    | .str "raw_builder" => rawBuilder req
    | .str "binding" => binding req
    | .str "session" => session req
    | .str "cli" => cli req
    | .str op => Reply.bad ("unknown op `" ++ op ++ "`")
    | _ => Reply.bad "unknown op ``"

/-- The answer to a request written as one line of JSON, as one line of JSON. -/
def answerLine (line : String) : String :=
  match Value.parse line with
  | .ok req => (answer req).render
  | .error e => (Value.object [("error", .str "BadInput"), ("message", .str e.message)]).render

end Request

end NamedCaches
