import NamedCaches.Json.Error
set_option autoImplicit false
/-!
# Shapes of JSON values

A `Shape` says what a JSON value must look like to be read as a piece of a typed document: a
flag, a count (an unsigned 64-bit integer), a text, any value, one name of a closed list, an
optional value, a table with text keys (or keys from a closed list of names) whose entries share
one shape, or a record with named fields, some required.

Reading against a shape checks the value and gives it back in *normal form*: a record holds every
one of its fields (an absent field takes its default: `null` for an optional value, `{}` for a
table), and a name of a closed list is its text. A record may also be written as an array of its
field values in field order, where missing trailing values take their defaults; a name may also be
written as the object `{"NAME": null}`. Unknown record fields are ignored, and a record field
written twice is refused.

This module reads values that are already parsed (`Shape.ofValue`), where errors have no place;
`Scan.shaped` reads text directly.
-/

namespace NamedCaches.Json

/-- What a JSON value must look like. -/
inductive Shape where
  /-- `true` or `false`. -/
  | flag
  /-- An unsigned 64-bit integer. -/
  | count
  /-- A string. -/
  | text
  /-- Any JSON value, kept as it is. -/
  | any
  /-- One of the given names. -/
  | choice (names : List String)
  /-- `null`, or a value of the inner shape. -/
  | optional (item : Shape)
  /-- An object whose keys are any texts (`none`) or names of the list, with entries of one shape. -/
  | table (keys : Option (List String)) (entry : Shape)
  /-- An object of named fields: each has a name, whether it is required, and its shape. -/
  | record (name : String) (fields : List (String × Bool × Shape))
  deriving Inhabited

namespace Shape

mutual
/-- The number of shape nodes: it bounds how deeply reading against a shape can nest. -/
def size : Shape → Nat
  | .optional item => item.size + 1
  | .table _ entry => entry.size + 1
  | .record _ fields => fieldsSize fields + 1
  | _ => 1

/-- The total size of the fields' shapes. -/
def fieldsSize : List (String × Bool × Shape) → Nat
  | [] => 0
  | (_, _, s) :: rest => s.size + fieldsSize rest
end

/-- The value an absent field takes. -/
def empty : Shape → Value
  | .table _ _ => .obj []
  | _ => .null

/-- The shape of the field with this name. -/
def fieldShape (fields : List (String × Bool × Shape)) (key : String) : Option Shape :=
  (fields.find? fun f => f.1 == key).map fun f => f.2.2

/-- The record once its fields are read: every absent field takes its default, and the first
absent required field (in field order) is reported. -/
def complete (fields : List (String × Bool × Shape)) (got : List (String × Value)) :
    Except Problem Value :=
  let step (acc : List (String × Value)) (f : String × Bool × Shape) :
      Except Problem (List (String × Value)) :=
    match Fields.get? f.1 got with
    | some _ => .ok acc
    | none => if f.2.1 then .error (.missingField f.1) else .ok (Fields.insert f.1 f.2.2.empty acc)
  (fields.foldlM step got).map Value.obj

/-- How a record is described when it has the wrong kind or length. -/
def recordText (name : String) : String := "struct " ++ name

/-- How a record written as an array of `n` values is described. -/
def lengthText (name : String) (n : Nat) : String :=
  recordText name ++ " with " ++ toString n ++ (if n == 1 then " element" else " elements")

/-- Checks a name against a closed list. -/
def pick (names : List String) (s : String) : Except Problem Value :=
  if names.contains s then .ok (.str s) else .error (.unknownVariant s names)

/-- Checks a table key: any text, or a name of the list. -/
def checkKey (keys : Option (List String)) (k : String) : Except Problem Unit :=
  match keys with
  | some names => if names.contains k then .ok () else .error (.unknownVariant k names)
  | none => .ok ()

/-- Reads an already parsed value against a shape (fuel: the shape's size). Object entries are
visited in key order. -/
def ofValueWith : Nat → Shape → Value → Except Problem Value
  | 0, _, _ => .error .recursionLimitExceeded
  | fuel + 1, shape, v =>
    match shape, v with
    | .flag, .bool b => .ok (.bool b)
    | .flag, v => .error (.invalidType v.found "a boolean")
    | .count, .num (.nat n) => .ok (.num (.nat n))
    | .count, .num (.neg i) => .error (.invalidValue (.signed i) "u64")
    | .count, v => .error (.invalidType v.found "u64")
    | .text, .str s => .ok (.str s)
    | .text, v => .error (.invalidType v.found "a string")
    | .any, v => .ok v
    | .choice names, .str s => pick names s
    | .choice names, .obj [(k, u)] => do
      let r ← pick names k
      match u with
      | .null => .ok r
      | u => .error (.invalidType u.found "unit")
    | .choice _, .obj _ => .error (.invalidValue .map "map with a single key")
    | .choice _, v => .error (.invalidType v.found "string or map")
    | .optional _, .null => .ok .null
    | .optional item, v => ofValueWith fuel item v
    | .table keys entry, .obj fs => do
      let out ← fs.mapM fun (k, x) => do
        checkKey keys k
        pure (k, ← ofValueWith fuel entry x)
      .ok (.obj out)
    | .table _ _, v => .error (.invalidType v.found "a map")
    | .record _ fields, .obj fs => do
      let got ← fs.foldlM (fun got (k, x) =>
        match fieldShape fields k with
        | some s =>
          if (Fields.get? k got).isSome then .error (.duplicateField k)
          else do pure (Fields.insert k (← ofValueWith fuel s x) got)
        | none => .ok got) []
      complete fields got
    | .record name fields, .arr xs => do
      let (got, _) ← fields.foldlM (fun (got, i) (fname, required, s) =>
        match xs[i]? with
        | some x => do pure (Fields.insert fname (← ofValueWith fuel s x) got, i + 1)
        | none =>
          if required then .error (.invalidLength i (lengthText name fields.length))
          else .ok (Fields.insert fname s.empty got, i + 1)) ([], 0)
      if xs.length > fields.length then
        .error (.invalidLength xs.length "fewer elements in array")
      else .ok (.obj got)
    | .record name _, v => .error (.invalidType v.found (recordText name))

/-- Reads an already parsed value against a shape. -/
def ofValue (shape : Shape) (v : Value) : Except Problem Value :=
  ofValueWith shape.size shape v

end Shape

end NamedCaches.Json
