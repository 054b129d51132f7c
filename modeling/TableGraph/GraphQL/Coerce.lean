import TableGraph.GraphQL.Syntax
import TableGraph.GraphQL.Suggest
import TableGraph.Value.Literal
import TableGraph.Number.Parse
import TableGraph.Number.Binary

/-!
# Input values

Arguments and variables are *coerced* to their types before a resolver sees
them. A coerced value is a `Value`: `Int` an integer of 32 bits, `Float` a
double, `String` and `ID` a text, `Boolean` a truth value, an enumeration
value a member with its name and stored value, a list a list, and an input
object a dictionary of the fields given (and of fields with defaults), each
under the key its resolver expects.

Values come from two places. Variables arrive as JSON values and are checked
by `coerceInput`, which reports every fault with the path to it; the
messages quote the offending value the way the request gave it
(`Value.inspect`). Arguments are written in the document and read by
`coerceLiteral`; they have been checked by validation already, where
`literalErrors` gives the faults of a written value, quoted in the query
language. A fault is a `Problem`: a message, and the kind of the error
behind it when the value could not be read at all (an integer numeral too
long to convert).
-/

namespace TableGraph.GraphQL

/-- A fault found in a document: its message, and the kind of the error
behind it when a value could not be read at all. -/
structure Problem where
  message : String
  kind : Option String
  deriving Repr, BEq, Inhabited

/-- A fault that is only a message. -/
def Problem.plain (message : String) : Problem := ⟨message, none⟩

namespace Inspect

/-- A text shortened to at most 240 characters by cutting its middle. -/
def truncate (s : String) : String :=
  if s.length > 240 then String.ofList (s.toList.take 118) ++ "..." ++ String.ofList (s.toList.drop (s.length - 119))
  else s

/-- A list of rendered items shortened to at most ten by cutting its middle. -/
def truncateItems (xs : List String) : List String :=
  if xs.length > 10 then xs.take 5 ++ ["..."] ++ xs.drop (xs.length - 4) else xs

end Inspect

namespace Value

open Inspect in
mutual

/-- How a message shows a value received from a request, at a nesting
depth: containers below the second level are elided, long texts and lists
are cut in the middle. -/
def inspectAt : Nat → TableGraph.Value → String
  | _, .none => "None"
  | _, .bool b => if b then "True" else "False"
  | _, .float x => Number.floatText x
  | _, .int n => truncate (toString n)
  | _, .str s => truncate (textLiteral s)
  | d, .list xs =>
    if xs.isEmpty then "[]" else if d ≥ 2 then "[...]"
    else "[" ++ ", ".intercalate (truncateItems (inspectItems (d + 1) xs)) ++ "]"
  | d, .dict es =>
    if es.isEmpty then "\x7b\x7d" else if d ≥ 2 then "\x7b...\x7d"
    else "\x7b" ++ ", ".intercalate (truncateItems (inspectMembers (d + 1) es)) ++ "\x7d"
  | _, v => v.literal

/-- The items of a list, each shown. -/
def inspectItems : Nat → List TableGraph.Value → List String
  | _, [] => []
  | d, x :: rest => inspectAt d x :: inspectItems d rest

/-- The members of a dictionary, each shown as key and value. -/
def inspectMembers : Nat → List (String × TableGraph.Value) → List String
  | _, [] => []
  | d, (k, v) :: rest => (truncate (textLiteral k) ++ ": " ++ inspectAt d v) :: inspectMembers d rest

end

/-- How a message shows a value received from a request. -/
def inspect (v : TableGraph.Value) : String := inspectAt 0 v

end Value

/-- A step of a path into an input value: a field or a list position. -/
inductive PathSeg where
  | key (name : String)
  | index (i : Nat)
  deriving Repr, BEq, Inhabited

/-- A path as messages show it: `.field` and `[index]` steps. -/
def printPath (p : List PathSeg) : String :=
  String.join (p.map fun
    | .key k => "." ++ k
    | .index i => "[" ++ toString i ++ "]")

/-- The smallest 32-bit integer. -/
def int32Min : Int := -2147483648

/-- The largest 32-bit integer. -/
def int32Max : Int := 2147483647

/-- Coerces a runtime value to a built-in scalar type; other scalars take
any value. `Int` takes integers of 32 bits (a double that is a whole number
too), `Float` any finite number, `String` texts, `Boolean` truth values and
`ID` texts and integers. -/
def coerceScalar (name : String) (v : Value) : Except String Value :=
  let shown := Value.inspect v
  match name with
  | "Int" =>
    let whole : Option Int := match v with
      | .int n => some n
      | .float x => if x.isFinite then (Number.truncate x).bind fun n => if Number.floatOfInt n == x then some n else none else none
      | _ => none
    match whole with
    | some n =>
      if int32Min ≤ n && n ≤ int32Max then .ok (.int n)
      else .error ("Int cannot represent non 32-bit signed integer value: " ++ shown)
    | none => .error ("Int cannot represent non-integer value: " ++ shown)
  | "Float" =>
    match v with
    | .int n => .ok (.float (Number.floatOfInt n))
    | .float x => if x.isFinite then .ok (.float x) else .error ("Float cannot represent non numeric value: " ++ shown)
    | _ => .error ("Float cannot represent non numeric value: " ++ shown)
  | "String" =>
    match v with
    | .str _ => .ok v
    | _ => .error ("String cannot represent a non string value: " ++ shown)
  | "Boolean" =>
    match v with
    | .bool _ => .ok v
    | _ => .error ("Boolean cannot represent a non boolean value: " ++ shown)
  | "ID" =>
    match v with
    | .str _ => .ok v
    | .int n => .ok (.str (toString n))
    | _ => .error ("ID cannot represent value: " ++ shown)
  | _ => .ok v

/-- The suggestion sentence for an enumeration value. -/
def enumSuggestions (input : String) (values : List EnumValue) : String :=
  didYouMean (suggestionList input (values.map (·.name))) (some "the enum value")

/-- Coerces a runtime value to an enumeration: a text naming one of its
values. -/
def coerceEnum (typeName : String) (values : List EnumValue) (v : Value) : Except String Value :=
  match v with
  | .str s =>
    match values.find? (·.name == s) with
    | some ev => .ok (.member ev.name (.str ev.value))
    | none => .error ("Value '" ++ s ++ "' does not exist in '" ++ typeName ++ "' enum." ++ enumSuggestions s values)
  | _ =>
    let shown := Value.inspect v
    .error ("Enum '" ++ typeName ++ "' cannot represent non-string value: " ++ shown ++ "." ++
      enumSuggestions shown values)

/-- Whether an input value must be given: its type is non-null and it has
no default. -/
def InputValue.isRequired (f : InputValue) : Bool := !f.type.isNullable && f.defaultValue.isNone

/-- The faults found in an input, each with the path to it. -/
abbrev Faults := List (List PathSeg × String)

namespace Schema

/-- The value a default written in the schema stands for: only `null`,
`true` and `false` occur. -/
def defaultValueOf (text : String) : Value :=
  match text with
  | "true" => .bool true
  | "false" => .bool false
  | _ => .none

/-- Coerces a runtime leaf value (or a value given for an input object that
is no object) to a named type. -/
def coerceLeaf (name : String) (nt : NamedType) (v : Value) (path : List PathSeg) : Value × Faults :=
  match nt.definition with
  | .scalar =>
    match coerceScalar name v with
    | .ok w => (w, [])
    | .error m => (v, [(path, m)])
  | .enum values =>
    match coerceEnum name values v with
    | .ok w => (w, [])
    | .error m => (v, [(path, m)])
  | .inputObject _ =>
    (v, [(path, "Expected value of type '" ++ name ++ "' to be an object, found: " ++ Value.inspect v ++ ".")])
  | .object _ => (v, [])

/-- Coerces a runtime value to a type, collecting every fault with its path.
A list type takes a single value as a list of one. An input object keeps
the fields its type defines under their resolver keys; a required field
that is missing, and a field it does not define, are faults. -/
def coerceInput (s : Schema) : Value → TypeRef → List PathSeg → Value × Faults
  | .none, t@(.nonNull _), path => (.none, [(path, "Expected value of non-null type '" ++ t.render ++ "' not to be None.")])
  | v, .nonNull inner, path => s.coerceInput v inner path
  | .none, _, _ => (.none, [])
  | .list xs, .list inner, path =>
    let results := xs.attach.zipIdx.map fun (⟨x, _⟩, i) => s.coerceInput x inner (path ++ [PathSeg.index i])
    (.list (results.map (·.1)), results.flatMap (·.2))
  | v, .list inner, path =>
    let (w, faults) := s.coerceInput v inner path
    (.list [w], faults)
  | .dict es, .named name, path =>
    let v := Value.dict es
    match s.definition? name with
    | some { definition := .inputObject fields, .. } =>
      let shown := Value.inspect v
      let step (acc : List (String × Value) × Faults) (f : InputValue) : List (String × Value) × Faults :=
        match es.attach.find? (·.1.1 == f.name) with
        | some ⟨(_, fv), _⟩ =>
          let (w, faults) := s.coerceInput fv f.type (path ++ [PathSeg.key f.name])
          (acc.1 ++ [(f.key, w)], acc.2 ++ faults)
        | none =>
          match f.defaultValue with
          | some d => (acc.1 ++ [(f.key, defaultValueOf d)], acc.2)
          | none =>
            if f.type.isNullable then acc
            else (acc.1, acc.2 ++ [(path, "Expected value of type '" ++ name ++
              "' to include required field '" ++ f.name ++ "', found: " ++ shown ++ ".")])
      let (entries, faults) := fields.foldl step ([], [])
      let unknown := es.filterMap fun (k, _) =>
        if fields.any (·.name == k) then none
        else
          let suggestion := didYouMean (suggestionList k (fields.map (·.name))) none
          some (path, "Expected value of type '" ++ name ++ "' not to include unknown field '" ++ k ++ "'" ++
            (if suggestion.isEmpty then ", found" else "." ++ suggestion ++ " Found") ++ ": " ++ shown ++ ".")
      (.dict entries, faults ++ unknown)
    | some nt => coerceLeaf name nt v path
    | none => (v, [])
  | v, .named name, path =>
    match s.definition? name with
    | some nt => coerceLeaf name nt v path
    | none => (v, [])
termination_by v t => (sizeOf v, sizeOf t)
decreasing_by
  all_goals first
    | (apply Prod.Lex.right; simp)
    | (apply Prod.Lex.left; exact Value.sizeOf_lt_of_mem_list ‹_›)
    | (apply Prod.Lex.left; exact Value.sizeOf_lt_of_mem_dict ‹_›)

theorem Literal.sizeOf_lt_of_mem_list {items : List Literal} {l : Literal} (h : l ∈ items) :
    sizeOf l < sizeOf (Literal.list items) := by
  have := List.sizeOf_lt_of_mem h
  simp only [Literal.list.sizeOf_spec]
  omega

theorem Literal.sizeOf_lt_of_mem_object {given : List (String × Literal)} {k : String} {l : Literal}
    (h : (k, l) ∈ given) : sizeOf l < sizeOf (Literal.object given) := by
  have := List.sizeOf_lt_of_mem h
  simp only [Literal.object.sizeOf_spec, Prod.mk.sizeOf_spec] at *
  omega

/-- Reads a written number as an integer of 32 bits. -/
def literalInt? (text : String) : Option Int :=
  (Number.readInt? text).bind fun n => if int32Min ≤ n && n ≤ int32Max then some n else none

/-- The value of a written scalar, if it fits the scalar type. -/
def scalarLiteral? (name : String) (l : Literal) : Option Value :=
  match name, l with
  | "Int", .int t => .int <$> literalInt? t
  | "Float", .int t => .float <$> Number.readFloat? t
  | "Float", .float t => .float <$> Number.readFloat? t
  | "String", .string v _ => some (.str v)
  | "Boolean", .boolean b => some (.bool b)
  | "ID", .string v _ => some (.str v)
  | "ID", .int t => some (.str t)
  | "Int", _ | "Float", _ | "String", _ | "Boolean", _ | "ID", _ => none
  | _, _ => none

/-- Whether a written value is a variable that was not given. -/
def isMissingVariable (vars : List (String × Value)) : Literal → Bool
  | .variable n => (Value.lookup? vars n).isNone
  | _ => false

/-- The value a written argument stands for under coerced variables; none
when it does not fit its type. -/
def coerceLiteral (s : Schema) (vars : List (String × Value)) : Literal → TypeRef → Option Value
  | .variable n, t =>
    match Value.lookup? vars n with
    | none => none
    | some .none => if t.isNullable then some .none else none
    | some v => some v
  | .null, .nonNull _ => none
  | l, .nonNull inner => s.coerceLiteral vars l inner
  | .null, _ => some .none
  | .list items, .list inner =>
    let coerced := items.attach.map fun ⟨item, _⟩ =>
      if isMissingVariable vars item then (if inner.isNullable then some Value.none else none)
      else s.coerceLiteral vars item inner
    (coerced.mapM id).map .list
  | l, .list inner => (fun w => .list [w]) <$> s.coerceLiteral vars l inner
  | .object given, .named name =>
    match s.definition? name with
    | some { definition := .inputObject fields, .. } =>
      let step (acc : Option (List (String × Value))) (f : InputValue) : Option (List (String × Value)) :=
        acc.bind fun entries =>
          match given.attach.find? (·.1.1 == f.name) with
          | some ⟨(_, fl), _⟩ =>
            if isMissingVariable vars fl then
              match f.defaultValue with
              | some d => some (entries ++ [(f.key, defaultValueOf d)])
              | none => if f.type.isNullable then some entries else none
            else (s.coerceLiteral vars fl f.type).map fun w => entries ++ [(f.key, w)]
          | none =>
            match f.defaultValue with
            | some d => some (entries ++ [(f.key, defaultValueOf d)])
            | none => if f.type.isNullable then some entries else none
      (fields.foldl step (some [])).map .dict
    | _ => none
  | l, .named name =>
    match s.definition? name with
    | some { definition := .scalar, .. } => scalarLiteral? name l
    | some { definition := .enum values, .. } =>
      match l with
      | .enum n => (values.find? (·.name == n)).map fun ev => .member ev.name (.str ev.value)
      | _ => none
    | _ => none
termination_by l t => (sizeOf l, sizeOf t)
decreasing_by
  all_goals first
    | (apply Prod.Lex.right; simp)
    | (apply Prod.Lex.left; exact Literal.sizeOf_lt_of_mem_list ‹_›)
    | (apply Prod.Lex.left; exact Literal.sizeOf_lt_of_mem_object ‹_›)

/-- The message for a required field missing from a written object. -/
def missingFieldMessage (typeName fieldName shown : String) : String :=
  "Expected value of type '" ++ typeName ++ "' to include required field '" ++ fieldName ++
    "', found: " ++ shown ++ "."

/-- The message for a field an input object type does not define. -/
def unknownFieldMessage (typeName fieldName : String) (defined : List String) (shown : String) : String :=
  let suggestion := didYouMean (suggestionList fieldName defined) none
  "Expected value of type '" ++ typeName ++ "' not to include unknown field '" ++ fieldName ++ "'" ++
    (if suggestion.isEmpty then ", found" else "." ++ suggestion ++ " Found") ++ ": " ++ shown ++ "."

/-- The fault of an integer numeral too long to read, at a place of the
type `location`. -/
def unreadableInt (location shown : String) (digits : Nat) : Problem :=
  ⟨"Expected value of type '" ++ location ++ "', but encountered error '" ++ Number.digitLimitMessage digits ++
    "'; found: " ++ shown ++ ".", some "ValueError"⟩

/-- The messages of a written leaf value for a scalar or enumeration type. -/
def leafLiteralMessages (name : String) (def_ : TypeDef) (l : Literal) : List String :=
  let shown := l.print
  match def_ with
  | .scalar =>
    match scalarLiteral? name l, name with
    | some _, _ => []
    | none, "Int" =>
      match l with
      | .int _ => ["Int cannot represent non 32-bit signed integer value: " ++ shown]
      | _ => ["Int cannot represent non-integer value: " ++ shown]
    | none, "Float" => ["Float cannot represent non numeric value: " ++ shown]
    | none, "String" => ["String cannot represent a non string value: " ++ shown]
    | none, "Boolean" => ["Boolean cannot represent a non boolean value: " ++ shown]
    | none, "ID" => ["ID cannot represent a non-string and non-integer value: " ++ shown]
    | none, _ => []
  | .enum values =>
    match l with
    | .enum n =>
      if values.any (·.name == n) then []
      else ["Value '" ++ n ++ "' does not exist in '" ++ name ++ "' enum." ++ enumSuggestions n values]
    | _ => ["Enum '" ++ name ++ "' cannot represent non-enum value: " ++ shown ++ "." ++
        enumSuggestions shown values]
  | .inputObject _ => ["Expected value of type '" ++ name ++ "' to be an object, found: " ++ shown ++ "."]
  | .object _ => []

/-- The faults of a written leaf value for a scalar or enumeration type;
`location` is the type of the place the value stands at. An integer numeral
past the digit limit cannot even be read. -/
def leafLiteralErrors (name : String) (def_ : TypeDef) (location : String) (l : Literal) : List Problem :=
  match def_, name, l with
  | .scalar, "Int", .int t =>
    let digits := (t.toList.filter Text.isAsciiDigit).length
    if digits > Number.intDigitLimit then [unreadableInt location l.print digits]
    else (leafLiteralMessages name def_ l).map Problem.plain
  | _, _, _ => (leafLiteralMessages name def_ l).map Problem.plain

/-- The faults of a written value for a type, quoted in the query language;
`location` is the type of the place the value stands at as written (with
the non-null mark a leaf's own type drops). Variables are not looked into:
their use is checked separately. -/
def literalErrors (s : Schema) : Literal → TypeRef → String → List Problem
  | .variable _, _, _ => []
  | .null, t@(.nonNull _), _ => [.plain ("Expected value of non-null type '" ++ t.render ++ "' not to be null.")]
  | l, .nonNull inner, location => s.literalErrors l inner location
  | .null, _, _ => []
  | .list items, .list inner, _ =>
    (items.attach.map fun ⟨item, _⟩ => s.literalErrors item inner inner.render).flatten
  | l, .list inner, location => s.literalErrors l inner location
  | l@(.object given), .named name, location =>
    match s.definition? name with
    | some { definition := .inputObject fields, .. } =>
      let shown := l.print
      let own := fields.map fun f =>
        match given.attach.find? (·.1.1 == f.name) with
        | some ⟨(_, fl), _⟩ => s.literalErrors fl f.type f.type.render
        | none => if f.isRequired then [.plain (missingFieldMessage name f.name shown)] else []
      let unknown := given.filterMap fun (k, _) =>
        if fields.any (·.name == k) then none
        else some (.plain (unknownFieldMessage name k (fields.map (·.name)) shown))
      own.flatten ++ unknown
    | some nt => leafLiteralErrors name nt.definition location l
    | none => []
  | l, .named name, location =>
    match s.definition? name with
    | some nt => leafLiteralErrors name nt.definition location l
    | none => []
termination_by l t _ => (sizeOf l, sizeOf t)
decreasing_by
  all_goals first
    | (apply Prod.Lex.right; simp)
    | (apply Prod.Lex.left; exact Literal.sizeOf_lt_of_mem_list ‹_›)
    | (apply Prod.Lex.left; exact Literal.sizeOf_lt_of_mem_object ‹_›)

end Schema

/-- A coerced value as resolvers receive it: members become their stored
values. -/
def resolverInput : Value → Value
  | .member _ v => resolverInput v
  | .list xs => .list (xs.attach.map fun ⟨x, _⟩ => resolverInput x)
  | .dict es => .dict (es.attach.map fun ⟨(k, x), _⟩ => (k, resolverInput x))
  | v => v
termination_by v => sizeOf v
decreasing_by
  all_goals first
    | (simp <;> omega)
    | exact Value.sizeOf_lt_of_mem_list ‹_›
    | exact Value.sizeOf_lt_of_mem_dict ‹_›

end TableGraph.GraphQL
