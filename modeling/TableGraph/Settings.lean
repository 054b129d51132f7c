import TableGraph.Failure
import TableGraph.Value.Literal
import TableGraph.Number.Parse

/-!
# Build settings

The options that shape a generated API:

* `depthLimit`: how many relation hops the output types expose; null builds
  one cyclic type per table. The value is kept as given and checked when the
  relation graph is built.
* `mutations`: whether the mutation root is generated (by truthiness).
* `geometryMode`: the wire shape of geometry columns.
* `maxRelationDepth`: the request-time bound on nested relation selections
  when no depth limit is set.

`BuildSettings.ofArgs` builds settings from named arguments and
`BuildSettings.ofEnv` from environment variables under a prefix. Both check
the geometry mode first and the request-time bound second.

An `Environment` holds the variables a caller sets before settings are read;
`Environment.set` refuses what a process environment refuses: a value that is
not text, a NUL in a name or value, a name holding `=`, an empty name.
-/

namespace TableGraph

/-- Process environment variables: names with their text values. -/
abbrev Environment := List (String × String)

namespace Environment

/-- Sets a variable to a value; an existing variable keeps its place. -/
def set (env : Environment) (name : String) (v : Value) : Outcome Environment :=
  match v with
  | .str value =>
    if name.contains (Char.ofNat 0) || value.contains (Char.ofNat 0) then
      .error ⟨.badValue, "embedded null byte"⟩
    else if name.contains '=' then .error ⟨.badValue, "illegal environment variable name"⟩
    else if name.isEmpty then .error ⟨.system, "[Errno 22] Invalid argument"⟩
    else if env.any (·.1 == name) then
      .ok (env.map fun (n, w) => if n == name then (n, value) else (n, w))
    else .ok (env ++ [(name, value)])
  | other => .error ⟨.badType, "str expected, not " ++ other.className⟩

/-- The value of a variable, if it is set. -/
def get? (env : Environment) (name : String) : Option String :=
  (env.find? (·.1 == name)).map (·.2)

end Environment

/-- How a geometry travels on the wire: an object with `x` and `y`, or a
two-element list. -/
inductive GeometryMode where
  | xy
  | tuple
  deriving Repr, BEq, DecidableEq, Inhabited

namespace GeometryMode

/-- The name of a mode. -/
def name : GeometryMode → String
  | .xy => "xy"
  | .tuple => "tuple"

/-- The mode a text names. -/
def ofName? : String → Option GeometryMode
  | "xy" => some .xy
  | "tuple" => some .tuple
  | _ => none

/-- The refusal of a value that names no mode. -/
def invalid (v : Value) : Failure :=
  .schemaBuild ("geometry_mode must be one of xy, tuple, got " ++ v.literal)

/-- The mode a value names: only the texts `xy` and `tuple` do. -/
def ofValue (v : Value) : Outcome GeometryMode :=
  match v with
  | .str s => match ofName? s with
    | some m => .ok m
    | none => .error (invalid v)
  | _ => .error (invalid v)

end GeometryMode

/-- Options of a build. -/
structure BuildSettings where
  depthLimit : Value := .none
  mutations : Value := .bool true
  geometryMode : GeometryMode := .xy
  maxRelationDepth : Nat := 8
  deriving Repr, Inhabited

namespace BuildSettings

/-- The names of the options. -/
def optionNames : List String := ["relations_depth_limit", "mutations", "geometry_mode", "max_relation_depth"]

/-- The refusal of a request-time bound that is no natural number. -/
def badMaxDepth : Failure := .schemaBuild "max_relation_depth must be a nonnegative integer"

/-- A request-time bound: an integer (not a truth value) that is not negative. -/
def maxDepthOf (v : Value) : Outcome Nat :=
  match v with
  | .int n => if n < 0 then .error badMaxDepth else .ok n.toNat
  | _ => .error badMaxDepth

/-- Settings from option values, each absent one at its default. -/
def make (depthLimit mutations : Value) (mode : Value) (maxDepth : Value) : Outcome BuildSettings := do
  let geometryMode ← GeometryMode.ofValue mode
  let maxRelationDepth ← maxDepthOf maxDepth
  pure { depthLimit, mutations, geometryMode, maxRelationDepth }

/-- Settings from named arguments; an unknown name is refused first. -/
def ofArgs (args : List (String × Value)) : Outcome BuildSettings :=
  match args.find? (fun (k, _) => !optionNames.contains k) with
  | some (k, _) =>
    .error ⟨.badType, "BuildSchemaConfig.__init__() got an unexpected keyword argument " ++ textLiteral k⟩
  | none =>
    let arg (k : String) (d : Value) : Value := (Value.lookup? args k).getD d
    make (arg "relations_depth_limit" .none) (arg "mutations" (.bool true))
      (arg "geometry_mode" (.str "xy")) (arg "max_relation_depth" (.int 8))

/-- Flag words read as true. -/
def trueWords : List String := ["1", "true", "yes", "on"]

/-- Flag words read as false. -/
def falseWords : List String := ["0", "false", "no", "off"]

/-- A variable's text as an integer, refused with the variable's name. -/
def envInt (var raw : String) : Outcome Int :=
  match Number.readInt? raw with
  | some n => .ok n
  | none => .error (.schemaBuild (var ++ " must be an integer, got " ++ textLiteral raw))

/-- A variable that is set to a text with more than blanks. -/
def present (v : Option String) : Option String :=
  match v with
  | some s => if (Text.strip s).isEmpty then none else some s
  | none => none

/-- Settings from the variables `prefix ++ name`; `lookup` reads a variable.
Unset and blank variables keep the defaults; the depth limit is read first,
then the mutation flag, the geometry mode and the request-time bound. -/
def ofEnv (lookup : String → Option String) (pre : String) : Outcome BuildSettings := do
  let depth ← match present (lookup (pre ++ "RELATIONS_DEPTH_LIMIT")) with
    | some s => (fun n => Value.int n) <$> envInt (pre ++ "RELATIONS_DEPTH_LIMIT") s
    | none => pure .none
  let mutations ← match present (lookup (pre ++ "MUTATIONS")) with
    | some s =>
      let flag := Text.lower (Text.strip s)
      if trueWords.contains flag then pure (Value.bool true)
      else if falseWords.contains flag then pure (Value.bool false)
      else .error (.schemaBuild (pre ++ "MUTATIONS must be a boolean flag, got " ++ textLiteral s))
    | none => pure (.bool true)
  let mode := match lookup (pre ++ "GEOMETRY_MODE") with
    | some s => if s.isEmpty then Value.str "xy" else .str (Text.lower (Text.strip s))
    | none => .str "xy"
  let budget ← match present (lookup (pre ++ "MAX_RELATION_DEPTH")) with
    | some s => (fun n => Value.int n) <$> envInt (pre ++ "MAX_RELATION_DEPTH") s
    | none => pure (.int 8)
  make depth mutations mode budget

end BuildSettings

end TableGraph
