import TableGraph.Value.Exchange
import TableGraph.Backend
import TableGraph.Registry.Remap
import TableGraph.Registry.Resolve
import TableGraph.Api.Build

/-!
# Requests and answers

A request is a JSON object naming an operation in `op` and its arguments in
other members; an answer is `{"result": …}` or `{"error": kind, "message":
text}`. This module holds the reading of arguments and the writing of
answers that every operation shares.
-/

namespace TableGraph.Service

/-- A request: the members of its object. -/
abbrev Request := List (String × Json)

/-- The argument under a key, if present (the last one when repeated). -/
def arg? (r : Request) (key : String) : Option Json :=
  (r.reverse.find? (·.1 == key)).map (·.2)

/-- The argument under a key as a value, absent and null alike as null. -/
def valueArg (r : Request) (key : String) : Outcome Value :=
  match arg? r key with
  | some j => Value.ofExchange j
  | none => .ok .none

/-- A text argument. -/
def textArg? (r : Request) (key : String) : Option String :=
  match arg? r key with
  | some (.string s) => some s
  | _ => none

/-- A truth-valued argument read by truthiness, with a default when absent. -/
def flagArg (r : Request) (key : String) (default : Bool) : Bool :=
  match arg? r key with
  | some j => match Value.ofExchange j with
    | .ok v => v.truthy
    | .error _ => default
  | none => default

/-- A request the library cannot serve. -/
def badRequest (message : String) : Failure := ⟨.badRequest, message⟩

/-- The answer to a request. -/
def answerJson (o : Outcome Json) : Json :=
  match o with
  | .ok j => .object [("result", j)]
  | .error f => .object [("error", .string f.kind.name), ("message", .string f.message)]

/-- An optional text as JSON. -/
def optText : Option String → Json
  | some s => .string s
  | none => .null

/-- A backend chosen by a `dialect` argument: a dialect name, an object
standing for a connection or dialect of a name, or the capabilities of a
caller-defined backend. -/
def backendOf (j : Option Json) : Outcome Backend :=
  match j with
  | some (.string s) => Backend.ofName s
  | some (.object [("dialect_object", .string s)]) => Backend.ofName s
  | some (.object [("engine", .string s)]) => Backend.ofName s
  | some (.object [("async_engine", .string s)]) => Backend.ofName s
  | some (.object [("adapter", .object caps)]) =>
    let r : Request := caps
    .ok { dialect := .custom, name := (textArg? r "name").getD "custom"
          canReportAffectedRows := flagArg r "can_report_affected_rows" true
          supportsWindowFunctions := flagArg r "supports_window_functions" true }
  | some j => do
    let v ← Value.ofExchange j
    .error (Backend.unnamed v)
  | none => .error (Backend.unnamed .none)

/-- A backend as JSON. -/
def backendJson (b : Backend) : Json :=
  .object [("name", .string b.name), ("can_report_affected_rows", .bool b.canReportAffectedRows),
    ("supports_window_functions", .bool b.supportsWindowFunctions)]

/-- A truth-valued member of an object argument, read by truthiness. -/
def flagOf (ms : Request) (key : String) (default : Bool) : Bool := flagArg ms key default

/-- A column described by an object: only the tag is required. Item
columns nest at most `depth` deep. -/
def columnAt : Nat → Json → Outcome Column
  | depth, .object ms => do
    let r : Request := ms
    let tag ← match textArg? r "tag" with
      | some t => pure t
      | none => .error (badRequest "column needs a tag")
    let item ← match arg? r "item", depth with
      | none, _ | some .null, _ => pure none
      | some j, d + 1 => some <$> columnAt d j
      | some _, 0 => .error (badRequest "column nests too deep")
    let enumValues := match arg? r "enum_values" with
      | some (.array vs) => some (vs.filterMap fun
        | .string s => some s
        | _ => none)
      | _ => none
    let options ← match arg? r "options" with
      | some j => do
        match ← Value.ofExchange j with
        | .dict es => pure es
        | _ => pure []
      | none => pure []
    pure { name := (textArg? r "name").getD "value", table := (textArg? r "table").getD "things"
           tag, columnType := (textArg? r "column_type").getD tag
           nullable := flagArg r "nullable" true, hasDefault := flagArg r "has_default" false
           primaryKey := flagArg r "primary_key" false, enumValues, item, options
           description := textArg? r "description" }
  | _, _ => .error (badRequest "column must be an object")

/-- A column described by an object. -/
def columnOf (j : Json) : Outcome Column := columnAt 64 j

/-- An API type named by a registration: `String`, `Int`, `Float`,
`Boolean`, or `[Int]`. -/
def apiTypeOf (name : String) : Outcome ApiType :=
  match name with
  | "String" => .ok .string
  | "Int" => .ok .int
  | "Float" => .ok .float
  | "Boolean" => .ok .boolean
  | "[Int]" => .ok (.list .int)
  | _ => .error (badRequest ("unknown factory " ++ textLiteral name))

/-- A registered type: a type name, or an object with the type, a
description and whether it is given bare. -/
def factoryOf : Option Json → Outcome Resolved
  | some (.string n) => (fun t => { type := t }) <$> apiTypeOf n
  | some (.object ms) => do
    let r : Request := ms
    let t ← apiTypeOf ((textArg? r "type").getD "")
    if flagArg r "raw" false then pure { type := t }
    else pure { type := t, description := textArg? r "description" }
  | _ => .error (badRequest "unknown factory")

/-- A conversion named by a registration. -/
def conversionOf (j : Option Json) : Outcome Conversion :=
  match j with
  | some (.string n) => match Conversion.ofName? n with
    | some c => .ok c
    | none => .error (badRequest ("unknown converter " ++ textLiteral n))
  | _ => .error (badRequest "unknown converter")

/-- The registration an object describes; `kind` defaults to a type. -/
def registrationOf (j : Json) (defaultKind : Option String) : Outcome Registry.Op :=
  match j with
  | .object ms =>
    let r : Request := ms
    let tag := (textArg? r "tag").getD ""
    match (textArg? r "kind" <|> defaultKind) with
    | some "type" => do pure (.registerType tag (← factoryOf (arg? r "factory")))
    | some "to_wire" => do pure (.registerToWire tag (← conversionOf (arg? r "fn")))
    | some "from_wire" => do pure (.registerFromWire tag (← conversionOf (arg? r "fn")))
    | some k => .error (badRequest ("unknown registration kind " ++ textLiteral k))
    | none => .error (badRequest "unknown registration kind None")
  | _ => .error (badRequest "registration must be an object")

/-- Applies one registration to a registry; `kind` defaults to a type. -/
def registerOne (reg : Registry) (j : Json) (defaultKind : Option String) : Outcome Registry := do
  let op ← registrationOf j defaultKind
  let (reg', o) := reg.perform op
  o.map fun _ => reg'

/-- A registry with the registrations of a request applied, in order. -/
def registryOf (r : Request) (defaultKind : Option String) (start : Registry) : Outcome Registry :=
  match arg? r "registrations" with
  | some (.array regs) => regs.foldlM (fun reg j => registerOne reg j defaultKind) start
  | _ => .ok start

/-- The geometry mode a request sets, `xy` when absent. -/
def geometryModeOf (r : Request) : Outcome Value :=
  match arg? r "geometry_mode" with
  | some j => Value.ofExchange j
  | none => .ok (.str "xy")

end TableGraph.Service
