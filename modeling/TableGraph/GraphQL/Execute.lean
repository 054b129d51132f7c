import TableGraph.GraphQL.Introspect
import TableGraph.GraphQL.Parser
import TableGraph.Value.Json
import TableGraph.Failure

/-!
# Executing operations

`executeOperation` runs one operation of a validated document against
resolvers and a state (the data the resolvers read and change).

The fields of a selection set are *collected* first: fields are grouped by
response key in the order they appear, fragments are expanded where their
type condition names the object type, and `@skip` / `@include` drop what
they exclude. A field is then *resolved* — its arguments coerced, its
resolver run — and *completed* against its type: a non-null type refuses
null, a list completes each item, a leaf is serialized and an object has
its own selection set executed.

A field that fails yields null and records an error with its response path,
when its type admits null; otherwise the failure moves to the field above,
and a failure of a non-null root field leaves no data at all.

Root fields of a query run side by side. Every field's checks run before
any field touches the state, and the fields then touch it one after another
in order. Of the failures of non-null root fields only the first is
reported, after the errors of fields that admit null; fields after it do not
run. Root fields of a mutation run one after another, each to its end.
-/

namespace TableGraph.GraphQL

/-- An error of a request: its message, the response path of the field it
belongs to (none for an error of the request as a whole), and the name of
its cause, when it has one. -/
structure RequestError where
  message : String
  path : Option (List PathSeg)
  kind : Option String
  deriving Repr, BEq, Inhabited

/-- A field node of a selection. -/
structure FieldNode where
  aliasName : Option String
  name : String
  arguments : List (String × Literal)
  directives : List DirectiveUse
  selections : Option (List Selection)
  deriving Repr, BEq, Inhabited

/-- The field nodes that share a response key. -/
abbrev FieldGroup := String × List FieldNode

/-- What executing a document needs besides the resolvers. -/
structure Context where
  schema : Schema
  document : Document
  variableValues : List (String × Value)

/-- A call of a root field's resolver. -/
structure RootCall where
  /-- The root type: the query or the mutation type. -/
  rootType : String
  field : String
  responseKey : String
  /-- The coerced arguments, under their resolver keys. -/
  args : List (String × Value)
  /-- The selections of the first node of the field. -/
  selections : List Selection
  variableValues : List (String × Value)
  document : Document

/-- The resolvers of an application with state `σ` and objects `ω`. A root
field's resolver first makes its checks, which may fail, and gives the run
that touches the state; a field of an object is read from the object. -/
structure Resolvers (σ ω : Type) where
  prepare : RootCall → Outcome (σ → Outcome (Source ω) × σ)
  field : ω → (parentType fieldName responseKey : String) → Outcome (Source ω)

/-- The error of a failed resolver. -/
def RequestError.ofFailure (f : Failure) (path : List PathSeg) : RequestError :=
  ⟨f.message, some path, some f.kind.name⟩

/-- An error raised by the rules of the query language itself. -/
def RequestError.query (message : String) (path : List PathSeg) : RequestError :=
  ⟨message, some path, some "GraphQLError"⟩

namespace Context

/-- The value of the `if` argument of a directive. -/
def directiveIf (c : Context) (d : DirectiveUse) : Option Bool :=
  match d.arguments.find? (·.1 == "if") with
  | some (_, l) =>
    match c.schema.coerceLiteral c.variableValues l (required "Boolean") with
    | some (.bool b) => some b
    | _ => none
  | none => none

/-- Whether `@skip` or `@include` excludes a selection: the first of each
directive counts. -/
def excludes (c : Context) (ds : List DirectiveUse) : Bool :=
  let skip := (ds.find? (·.name == "skip")).bind c.directiveIf
  let included := (ds.find? (·.name == "include")).bind c.directiveIf
  skip == some true || included == some false

/-- Adds a field node to its group, keeping the order of first appearance. -/
def addToGroup (groups : List FieldGroup) (key : String) (node : FieldNode) : List FieldGroup :=
  if groups.any (·.1 == key) then groups.map fun (k, ns) => if k == key then (k, ns ++ [node]) else (k, ns)
  else groups ++ [(key, [node])]

/-- Collects the fields of selections for an object type, after the groups
and visited fragments given; `fuel` bounds the nesting of fragments. -/
def collect (c : Context) (typeName : String) (fuel : Nat) (sels : List Selection)
    (acc : List FieldGroup × List String) : List FieldGroup × List String :=
  match sels with
  | [] => acc
  | sel :: rest =>
    let (groups, visited) := acc
    let acc := match sel, fuel with
      | .field aliasName name args ds sub, _ =>
        if c.excludes ds then acc
        else (addToGroup groups (aliasName.getD name) ⟨aliasName, name, args, ds, sub⟩, visited)
      | .inline cond ds inner, fuel' + 1 =>
        if c.excludes ds || (cond.isSome && cond != some typeName) then acc
        else c.collect typeName fuel' inner acc
      | .spread n ds, fuel' + 1 =>
        if visited.contains n || c.excludes ds then acc
        else
          match c.document.fragment? n with
          | some f =>
            if f.typeCondition == typeName then c.collect typeName fuel' f.selections (groups, visited ++ [n])
            else (groups, visited ++ [n])
          | none => (groups, visited ++ [n])
      | _, 0 => acc
    c.collect typeName fuel rest acc
termination_by (fuel, sels.length)

/-- The nesting of fragments that collection follows. -/
def collectFuel : Nat := 4096

/-- The fields of an object type selected by a set of field nodes. -/
def subfields (c : Context) (typeName : String) (nodes : List FieldNode) : List FieldGroup :=
  (nodes.foldl (fun acc n =>
    match n.selections with
    | some sels => c.collect typeName collectFuel sels acc
    | none => acc) ([], [])).1

/-- The coerced arguments of a field from the arguments of its node. -/
def argumentValues (c : Context) (defs : List InputValue) (given : List (String × Literal)) :
    Except String (List (String × Value)) :=
  defs.foldlM (fun acc (d : InputValue) =>
    let fallback (missing : String) : Except String (List (String × Value)) :=
      match d.defaultValue with
      | some text => .ok (acc ++ [(d.key, Schema.defaultValueOf text)])
      | none => if d.type.isNullable then .ok acc else .error missing
    match given.find? (·.1 == d.name) with
    | none => fallback ("Argument '" ++ d.name ++ "' of required type '" ++ d.type.render ++ "' was not provided.")
    | some (_, .variable v) =>
      match Value.lookup? c.variableValues v with
      | none => fallback ("Argument '" ++ d.name ++ "' of required type '" ++ d.type.render ++
          "' was provided the variable '$" ++ v ++ "' which was not provided a runtime value.")
      | some .none =>
        if d.type.isNullable then .ok (acc ++ [(d.key, .none)])
        else .error ("Argument '" ++ d.name ++ "' of non-null type '" ++ d.type.render ++ "' must not be null.")
      | some w => .ok (acc ++ [(d.key, w)])
    | some (_, .null) =>
      if d.type.isNullable then .ok (acc ++ [(d.key, .none)])
      else .error ("Argument '" ++ d.name ++ "' of non-null type '" ++ d.type.render ++ "' must not be null.")
    | some (_, l) =>
      match c.schema.coerceLiteral c.variableValues l d.type with
      | some w => .ok (acc ++ [(d.key, w)])
      | none => .error ("Argument '" ++ d.name ++ "' has invalid value " ++ l.print ++ ".")) []

end Context

/-- The meta field every object type has: the name of the type. -/
def typenameField : Field := { name := "__typename", type := required "String" }

/-- The meta field of the query type that introspects the schema. -/
def schemaField : Field := { name := "__schema", type := required "__Schema" }

/-- The meta field of the query type that introspects one type. -/
def typeField : Field :=
  { name := "__type", args := [{ name := "name", type := required "String" }], type := ref "__Type" }

/-- The definition of a field of a type, meta fields included. -/
def Schema.fieldDef? (s : Schema) (typeName fieldName : String) : Option Field :=
  if fieldName == "__typename" then some typenameField
  else if fieldName == "__schema" && typeName == s.query then some schemaField
  else if fieldName == "__type" && typeName == s.query then some typeField
  else (s.definition? typeName).bind (·.field? fieldName)

/-- A number as JSON, in the form of a double. -/
def floatJson (x : Float) : Json := .number (Value.floatJsonText x)

/-- Serializes a leaf value for a scalar or enumeration type. `Int` takes
integers of 32 bits, whole doubles, integer texts and truth values (as one
and zero); `Float` finite numbers, numeric texts and truth values; `String`
texts, numbers and truth values (as `true` / `false`); `Boolean` truth
values and numbers; an enumeration the stored value of one of its values,
which it writes by name. -/
def serializeLeaf (nt : NamedType) (v : Value) : Except String Json :=
  let shown := Value.inspect v
  let intJson (n : Int) : Except String Json :=
    if int32Min ≤ n && n ≤ int32Max then .ok (.number (toString n))
    else .error ("Int cannot represent non 32-bit signed integer value: " ++ shown)
  match nt.definition with
  | .enum values =>
    let byValue : Option EnumValue := match v with
      | .member name _ => values.find? (fun (ev : EnumValue) => ev.name == name)
      | .str s => values.find? (fun (ev : EnumValue) => ev.value == s)
      | _ => none
    match byValue with
    | some ev => .ok (.string ev.name)
    | none => .error ("Enum '" ++ nt.name ++ "' cannot represent value: " ++ shown)
  | _ =>
    match nt.name, v with
    | "Int", .bool b => .ok (.number (if b then "1" else "0"))
    | "Int", .int n => intJson n
    | "Int", .float x =>
      match (if x.isFinite then Number.truncate x else none) with
      | some n => if Number.floatOfInt n == x then intJson n
        else .error ("Int cannot represent non-integer value: " ++ shown)
      | none => .error ("Int cannot represent non-integer value: " ++ shown)
    | "Int", .str s =>
      match Number.readInt? s with
      | some n => intJson n
      | none => .error ("Int cannot represent non-integer value: " ++ shown)
    | "Int", _ => .error ("Int cannot represent non-integer value: " ++ shown)
    | "Float", .bool b => .ok (.number (if b then "1" else "0"))
    | "Float", .int n => .ok (floatJson (Number.floatOfInt n))
    | "Float", .float x =>
      if x.isFinite then .ok (floatJson x) else .error ("Float cannot represent non numeric value: " ++ shown)
    | "Float", .str s =>
      match Number.readFloat? s with
      | some x => if x.isFinite then .ok (floatJson x) else .error ("Float cannot represent non numeric value: " ++ shown)
      | none => .error ("Float cannot represent non numeric value: " ++ shown)
    | "Float", _ => .error ("Float cannot represent non numeric value: " ++ shown)
    | "String", .str s => .ok (.string s)
    | "String", .bool b => .ok (.string (if b then "true" else "false"))
    | "String", .int n => .ok (.string (toString n))
    | "String", .float x => .ok (.string (Number.floatText x))
    | "String", _ => .error ("String cannot represent value: " ++ shown)
    | "Boolean", .bool b => .ok (.bool b)
    | "Boolean", .int n => .ok (.bool (n != 0))
    | "Boolean", .float x =>
      if x.isFinite then .ok (.bool (x != 0)) else .error ("Boolean cannot represent a non boolean value: " ++ shown)
    | "Boolean", _ => .error ("Boolean cannot represent a non boolean value: " ++ shown)
    | "ID", .str s => .ok (.string s)
    | "ID", .int n => .ok (.string (toString n))
    | "ID", _ => .error ("ID cannot represent value: " ++ shown)
    | _, .str s => .ok (.string s)
    | _, _ => .ok .null

/-- Completion: a computation that may fail with an error that moves up,
and that records the errors of fields that yield null. -/
abbrev Completion := ExceptT RequestError (StateM (Array RequestError))

/-- Records the error of a field that yields null. -/
def logError (e : RequestError) : Completion Unit := modify (·.push e)

/-- Runs a completion; a failure of a field whose type admits null is
recorded and yields null, any other moves up. -/
def guardField (nullable : Bool) (run : Completion Json) : Completion Json :=
  tryCatch run fun e => if nullable then do logError e; pure .null else throw e

namespace Execution

variable {ω : Type}

/-- Resolves a field of an object or of an introspection object. -/
def resolveField (c : Context) (r : ω → String → String → String → Outcome (Source ω)) (src : Source ω)
    (parentType : String) (f : Field) (key : String) (args : List (String × Value)) : Outcome (Source ω) :=
  match src with
  | .object o => r o parentType f.name key
  | .part m => .ok (SchemaPart.resolve c.schema m f.name args)
  | _ => .ok .null

mutual

/-- Completes a resolved value against its type. -/
def completeValue (c : Context) (r : ω → String → String → String → Outcome (Source ω)) :
    Nat → TypeRef → List FieldNode → String → String → List PathSeg → Source ω → Completion Json
  | 0, _, _, _, _, path, _ => throw (.query "Query is nested too deeply." path)
  | fuel + 1, t, nodes, parent, fieldName, path, src =>
    match t with
    | .nonNull inner => do
      let j ← completeValue c r fuel inner nodes parent fieldName path src
      if j == .null then
        throw ⟨"Cannot return null for non-nullable field " ++ parent ++ "." ++ fieldName ++ ".", some path,
          some "TypeError"⟩
      pure j
    | .list inner =>
      match src with
      | .null | .leaf .none => pure .null
      | .list items => completeItems c r fuel inner nodes parent fieldName path 0 items []
      | .leaf (.list vs) => completeItems c r fuel inner nodes parent fieldName path 0 (vs.map .leaf) []
      | _ => throw (.query ("Expected Iterable, but did not find one for field '" ++ parent ++ "." ++
          fieldName ++ "'.") path)
    | .named n =>
      match src with
      | .null | .leaf .none => pure .null
      | _ =>
        match c.schema.definition? n with
        | some { definition := .object _, .. } =>
          completeFields c r fuel n src (c.subfields n nodes) path []
        | some nt =>
          match src with
          | .leaf v =>
            match serializeLeaf nt v with
            | .ok j => pure j
            | .error m => throw (.query m path)
          | _ => pure .null
        | none => pure .null

/-- Completes the items of a list, from position `i` on. -/
def completeItems (c : Context) (r : ω → String → String → String → Outcome (Source ω)) :
    Nat → TypeRef → List FieldNode → String → String → List PathSeg → Nat → List (Source ω) → List Json →
    Completion Json
  | _, _, _, _, _, _, _, [], acc => pure (.array acc.reverse)
  | fuel, inner, nodes, parent, fieldName, path, i, item :: rest, acc => do
    let j ← guardField inner.isNullable
      (completeValue c r fuel inner nodes parent fieldName (path ++ [.index i]) item)
    completeItems c r fuel inner nodes parent fieldName path (i + 1) rest (j :: acc)

/-- Executes the collected fields of an object. -/
def completeFields (c : Context) (r : ω → String → String → String → Outcome (Source ω)) :
    Nat → String → Source ω → List FieldGroup → List PathSeg → List (String × Json) → Completion Json
  | _, _, _, [], _, acc => pure (.object acc.reverse)
  | fuel, typeName, src, (key, nodes) :: rest, path, acc => do
    match nodes with
    | [] => completeFields c r fuel typeName src rest path acc
    | node :: _ =>
      if node.name == "__typename" then
        completeFields c r fuel typeName src rest path ((key, .string typeName) :: acc)
      else
        match c.schema.fieldDef? typeName node.name with
        | none => completeFields c r fuel typeName src rest path acc
        | some f =>
          let fieldPath := path ++ [.key key]
          let j ← guardField f.type.isNullable (do
            let args ← match c.argumentValues f.args node.arguments with
              | .ok a => pure a
              | .error m => throw (.query m fieldPath)
            let resolved ← match resolveField c r src typeName f key args with
              | .ok s => pure s
              | .error e => throw (.ofFailure e fieldPath)
            completeValue c r fuel f.type nodes typeName f.name fieldPath resolved)
          completeFields c r fuel typeName src rest path ((key, j) :: acc)

end

end Execution

/-- The outcome of executing an operation: the data (none when a failure
reached the root), the errors in the order they arose, and the state. -/
structure Executed (σ : Type) where
  data : Option Json
  errors : Array RequestError
  state : σ

/-- A root field that waits for its run. -/
structure Pending (σ ω : Type) where
  key : String
  field : Field
  nodes : List FieldNode
  call : RootCall

namespace Execution

variable {σ ω : Type}

/-- The fuel that completion needs: more than the nesting of any result. -/
def completionFuel : Nat := 4096

/-- Completes a root field from its resolved value, under the errors so
far: the field's value, or the error that reaches the root. -/
def completeRoot (c : Context) (r : Resolvers σ ω) (rootType : String) (f : Field) (nodes : List FieldNode)
    (key : String) (src : Source ω) (log : Array RequestError) : Except RequestError Json × Array RequestError :=
  (guardField f.type.isNullable
    (completeValue c r.field completionFuel f.type nodes rootType f.name [.key key] src)).run.run log

/-- Handles the failure of a root field: recorded as null when its type
admits null, else fatal. -/
def failRoot (f : Field) (e : RequestError) (log : Array RequestError) : Except RequestError Json × Array RequestError :=
  if f.type.isNullable then (.ok .null, log.push e) else (.error e, log)

/-- The call of a root field, or the error of its arguments. -/
def rootCall (c : Context) (rootType key : String) (f : Field) (nodes : List FieldNode) :
    Except RequestError RootCall :=
  match nodes with
  | [] => .error (.query "No field node." [.key key])
  | node :: _ =>
    match c.argumentValues f.args node.arguments with
    | .ok args => .ok ⟨rootType, f.name, key, args, node.selections.getD [], c.variableValues, c.document⟩
    | .error m => .error (.query m [.key key])

/-- Executes a root field that needs no resolver run: a meta field. -/
def syncRoot (c : Context) (r : Resolvers σ ω) (rootType : String) (f : Field) (nodes : List FieldNode)
    (key : String) (log : Array RequestError) : Except RequestError Json × Array RequestError :=
  if f.name == "__typename" then (.ok (.string rootType), log)
  else if f.name == "__schema" then completeRoot c r rootType f nodes key (.part .schema) log
  else
    match rootCall c rootType key f nodes with
    | .error e => failRoot f e log
    | .ok call =>
      let name := match Value.lookup? call.args "name" with
        | some (.str n) => n
        | _ => ""
      let src : Source ω := match c.schema.type? name with
        | some _ => .part (.type (.named name))
        | none => .null
      completeRoot c r rootType f nodes key src log

/-- Whether a root field is answered without a resolver run. -/
def isMetaField (f : Field) : Bool :=
  f.name == "__typename" || f.name == "__schema" || f.name == "__type"

/-- Runs a prepared root field against the state and completes it. -/
def runRoot (c : Context) (r : Resolvers σ ω) (rootType : String) (p : Pending σ ω)
    (run : σ → Outcome (Source ω) × σ) (state : σ) (log : Array RequestError) :
    Except RequestError Json × Array RequestError × σ :=
  let (res, state) := run state
  match res with
  | .error e =>
    let (j, log) := failRoot p.field (.ofFailure e [.key p.key]) log
    (j, log, state)
  | .ok src =>
    let (j, log) := completeRoot c r rootType p.field p.nodes p.key src log
    (j, log, state)

/-- Executes the root fields of a mutation one after another. -/
def executeSerially (c : Context) (r : Resolvers σ ω) (rootType : String) :
    List FieldGroup → List (String × Json) → Array RequestError → σ → Executed σ
  | [], acc, log, state => ⟨some (.object acc.reverse), log, state⟩
  | (key, nodes) :: rest, acc, log, state =>
    match nodes.head?.bind fun n => c.schema.fieldDef? rootType n.name with
    | none => executeSerially c r rootType rest acc log state
    | some f =>
      let (j, log, state) :=
        if isMetaField f then
          let (j, log) := syncRoot c r rootType f nodes key log
          (j, log, state)
        else
          match rootCall c rootType key f nodes with
          | .error e =>
            let (j, log) := failRoot f e log
            (j, log, state)
          | .ok call =>
            match r.prepare call with
            | .error e =>
              let (j, log) := failRoot f (.ofFailure e [.key key]) log
              (j, log, state)
            | .ok run => runRoot c r rootType ⟨key, f, nodes, call⟩ run state log
      match j with
      | .ok j => executeSerially c r rootType rest ((key, j) :: acc) log state
      | .error e => ⟨none, log.push e, state⟩

/-- Executes the root fields of a query: the meta fields and the arguments
of all fields first, then every field's checks, then the runs in order. -/
def executeConcurrently (c : Context) (r : Resolvers σ ω) (rootType : String) (groups : List FieldGroup)
    (state : σ) : Executed σ := Id.run do
  let mut log : Array RequestError := #[]
  let mut done : List (String × Json) := []
  let mut pending : List (Pending σ ω) := []
  -- meta fields and arguments, in order; a fatal error stops everything
  for (key, nodes) in groups do
    match nodes.head?.bind fun n => c.schema.fieldDef? rootType n.name with
    | none => pure ()
    | some f =>
      if isMetaField f then
        let (j, log') := syncRoot c r rootType f nodes key log
        log := log'
        match j with
        | .ok j => done := done ++ [(key, j)]
        | .error e => return ⟨none, log.push e, state⟩
      else
        match rootCall c rootType key f nodes with
        | .error e =>
          let (j, log') := failRoot f e log
          log := log'
          match j with
          | .ok j => done := done ++ [(key, j)]
          | .error e => return ⟨none, log.push e, state⟩
        | .ok call => pending := pending ++ [⟨key, f, nodes, call⟩]
  -- every field's checks; the first fatal failure wins
  let mut fatal : Option RequestError := none
  let mut ready : List (Pending σ ω × (σ → Outcome (Source ω) × σ)) := []
  for p in pending do
    match r.prepare p.call with
    | .ok run => ready := ready ++ [(p, run)]
    | .error e =>
      let err := RequestError.ofFailure e [.key p.key]
      if p.field.type.isNullable then
        log := log.push err
        done := done ++ [(p.key, .null)]
      else if fatal.isNone then fatal := some err
  if let some e := fatal then return ⟨none, log.push e, state⟩
  -- the runs, in order
  let mut st := state
  for (p, run) in ready do
    let (j, log', st') := runRoot c r rootType p run st log
    log := log'
    st := st'
    match j with
    | .ok j => done := done ++ [(p.key, j)]
    | .error e => return ⟨none, log.push e, st⟩
  let members := groups.filterMap fun (key, _) => done.find? (·.1 == key)
  return ⟨some (.object members), log, st⟩

end Execution

/-- Executes an operation of a document. -/
def executeOperation {σ ω : Type} (c : Context) (r : Resolvers σ ω) (op : Operation) (state : σ) : Executed σ :=
  let rootType := match op.kind with
    | .mutation => c.schema.mutation.getD c.schema.query
    | _ => c.schema.query
  let groups := (c.collect rootType Context.collectFuel op.selections ([], [])).1
  match op.kind with
  | .mutation => Execution.executeSerially c r rootType groups [] #[] state
  | _ => Execution.executeConcurrently c r rootType groups state

end TableGraph.GraphQL
