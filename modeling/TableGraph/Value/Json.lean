import TableGraph.Json.Read
import TableGraph.Number.Parse
import TableGraph.Value.Literal

/-!
# Values as JSON

The two directions between values and JSON documents.

* `Value.ofJson` reads a document as values: an integer literal is an
  integer of any size, a literal with a point or an exponent is the nearest
  double, `NaN` and `±Infinity` are the special doubles; an object that
  repeats a key keeps the key's first place and its last value.
* `Value.toJson?` writes values as a document. Truth values, integers,
  doubles (shortest text; `NaN`, `Infinity`, `-Infinity`), text, lists,
  tuples and objects are written directly. With `extended` set, dates and
  times are written as their ISO text, decimals and UUIDs as their text, and
  an enumeration member as its value, while bytes and records are refused
  with the reason. Without it every other kind is refused.
-/

namespace TableGraph

namespace Value

/-- The double a JSON number text denotes. -/
def jsonNumberFloat (t : String) : Float :=
  if t == "NaN" then Number.floatOfFields false 2047 (Nat.pow 2 51)
  else if t == "Infinity" then Number.floatOfFields false 2047 0
  else if t == "-Infinity" then Number.floatOfFields true 2047 0
  else (Number.readFloat? t).getD 0

/-- The value of a JSON number text: an integer when it has neither point
nor exponent, a double otherwise. -/
def ofJsonNumber (t : String) : Value :=
  if t.toList.any (fun c => c == '.' || c == 'e' || c == 'E' || c == 'N' || c == 'I') then
    .float (jsonNumberFloat t)
  else .int ((Number.readInt? t).getD 0)

mutual

/-- Reads a JSON document as values. -/
def ofJson : Json → Value
  | .null => .none
  | .bool b => .bool b
  | .number t => ofJsonNumber t
  | .string s => .str s
  | .stringCodes cs => .strCodes cs
  | .array items => .list (ofJsonItems items)
  | .object ms => .dict (mappingOf (ofJsonMembers ms))

/-- Reads array items. -/
def ofJsonItems : List Json → List Value
  | [] => []
  | j :: rest => ofJson j :: ofJsonItems rest

/-- Reads object members, repeated keys included. -/
def ofJsonMembers : List (String × Json) → List (String × Value)
  | [] => []
  | (k, j) :: rest => (k, ofJson j) :: ofJsonMembers rest

end

/-- The JSON number text of a double. -/
def floatJsonText (x : Float) : String :=
  match Number.Binary64.ofFloat x with
  | .nan => "NaN"
  | .infinite neg => if neg then "-Infinity" else "Infinity"
  | .finite .. => Number.floatText x

mutual

/-- Writes values as a JSON document; `extended` admits the typed scalars
and enumeration members. The error is the reason a value was refused. -/
def toJson? (extended : Bool) : Value → Except String Json
  | .none => .ok .null
  | .bool b => .ok (.bool b)
  | .int n => .ok (.number (toString n))
  | .float x => .ok (.number (floatJsonText x))
  | .str s => .ok (.string s)
  | .strCodes cs => .ok (.stringCodes cs)
  | .list xs => (itemsToJson? extended xs).map .array
  | .tuple xs => (itemsToJson? extended xs).map .array
  | .dict es => (membersToJson? extended es).map .object
  | .bytes _ =>
    if extended then .error "binary values cannot be embedded in JSON"
    else .error "Object of type bytes is not JSON serializable"
  | .date d => if extended then .ok (.string d.isoText) else .error "Object of type date is not JSON serializable"
  | .time t => if extended then .ok (.string t.isoText) else .error "Object of type time is not JSON serializable"
  | .datetime d =>
    if extended then .ok (.string (d.date.isoText ++ "T" ++ d.time.isoText))
    else .error "Object of type datetime is not JSON serializable"
  | .decimal d => if extended then .ok (.string d.text) else .error "Object of type Decimal is not JSON serializable"
  | .uuid n => if extended then .ok (.string (uuidText n)) else .error "Object of type UUID is not JSON serializable"
  | .member _ v =>
    if extended then toJson? extended v
    else .error ("Object of type " ++ enumClassName ++ " is not JSON serializable")
  | .point _ _ => .error "Object of type SimpleNamespace is not JSON serializable"

/-- Writes list items. -/
def itemsToJson? (extended : Bool) : List Value → Except String (List Json)
  | [] => .ok []
  | v :: rest => do
    let j ← toJson? extended v
    let js ← itemsToJson? extended rest
    pure (j :: js)

/-- Writes object members. -/
def membersToJson? (extended : Bool) : List (String × Value) → Except String (List (String × Json))
  | [] => .ok []
  | (k, v) :: rest => do
    let j ← toJson? extended v
    let js ← membersToJson? extended rest
    pure ((k, j) :: js)

end

end Value

end TableGraph
