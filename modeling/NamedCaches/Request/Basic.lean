import NamedCaches.Json.Shape
import NamedCaches.Failure
set_option autoImplicit false
/-!
# Requests and answers

A request is a JSON object naming an operation; its answer is a JSON value. A failure of the
library is answered as `{"error": KIND, "message": TEXT, "recoverable": B}`; a value that does
not have the shape an operation reads is answered as `{"error": "Json", "message": TEXT}`; a
request that is itself malformed as `{"error": "BadInput", "message": TEXT}`.

While an answer is worked out, a refusal is carried as the finished error answer (`Reply`).
-/

namespace NamedCaches

open Json

/-- A failure as an answer. -/
def Failure.toValue (f : Failure) : Value :=
  .object [("error", .str f.kind), ("message", .str f.message), ("recoverable", .bool f.isRecoverable)]

/-- Working out an answer: a refusal is already the answer. -/
abbrev Reply := Except Value

namespace Reply

/-- Refuses a malformed request. -/
def bad {α : Type} (message : String) : Reply α :=
  .error (.object [("error", .str "BadInput"), ("message", .str message)])

/-- Refuses a value of the wrong shape. -/
def json {α : Type} (p : Problem) : Reply α :=
  .error (.object [("error", .str "Json"), ("message", .str p.text)])

/-- Answers a library failure. -/
def failure {α : Type} (f : Failure) : Reply α := .error f.toValue

/-- Takes a library result. -/
def ofExcept {α : Type} (r : Except Failure α) : Reply α :=
  match r with
  | .ok a => .ok a
  | .error f => failure f

/-- Reads a value against a shape, refusing it as a wrong shape. -/
def shaped (shape : Shape) (v : Value) : Reply Value :=
  match shape.ofValue v with
  | .ok n => .ok n
  | .error p => json p

/-- The finished answer. -/
def answer (r : Reply Value) : Value :=
  match r with
  | .ok v => v
  | .error v => v

end Reply

/-- A field of a request, `null` when absent. -/
def Json.Value.get (v : Value) (key : String) : Value := (v.field? key).getD .null

/-- A string field of a request, or a refusal naming it. -/
def Json.Value.needText (v : Value) (key : String) : Reply String :=
  match v.field? key with
  | some (.str s) => .ok s
  | _ => Reply.bad ("missing string field `" ++ key ++ "`")

/-- Whether a field of a request is `true`. -/
def Json.Value.isTrue (v : Value) (key : String) : Bool :=
  match v.field? key with
  | some (.bool true) => true
  | _ => false

/-- An optional string field of a request: anything but a string counts as absent. -/
def Json.Value.optText (v : Value) (key : String) : Option String := v.text? key

end NamedCaches
