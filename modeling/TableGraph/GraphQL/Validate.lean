import TableGraph.GraphQL.Execute

/-!
# Validating documents

A document is checked against the schema before anything runs; a document
that breaks a rule does not run, and the messages of the rules it breaks are
the answer. The rules are those of the query language:

* every definition is executable, and operations are of a kind the schema
  has a root type for;
* operation, fragment, variable, argument and input field names are unique
  where they stand, an anonymous operation stands alone, and a directive
  that cannot repeat appears once per place;
* types, fragments, directives and arguments are known; fragments
  condition on types with fields, are used, never spread themselves, and
  are spread only where their type can occur;
* fields exist on the type they are selected from and select subfields
  exactly when their type has some; written values fit their types and
  required arguments are given;
* variables are of input types, defined, used, and of a type allowed where
  they stand;
* fields answering under one key can be merged, and introspection does not
  nest its lists three deep.

Messages come in the order of one walk over the document: when the walk
enters a node its checks run in the order of the rules, then its children
are walked, then the checks that wait for the node's end run. After a
hundred messages the walk stops with one more that says so.
-/

namespace TableGraph.GraphQL

namespace Validation

/-- What the checks consult: the schema, the document and the names of the
schema's types. -/
structure Scope where
  schema : Schema
  document : Document
  typeNames : List String

/-- Where the walk stands: the type fields are selected from (none when it
is unknown) and the definition of the innermost field around. -/
structure Place where
  parent : Option String := none
  field : Option Field := none

/-- The bound on the nesting of selection sets the walk follows. -/
def walkFuel : Nat := 100000

/-- The bound on the nesting of fields the merge check follows. -/
def mergeFuel : Nat := 1000

/-- The number of messages after which validation stops. -/
def errorLimit : Nat := 100

namespace Scope

/-- The type of a name, when the schema has it. -/
def named? (c : Scope) (name : String) : Option NamedType :=
  if c.typeNames.contains name then c.schema.definition? name else none

/-- The name again, when the schema has a type of that name with fields. -/
def composite? (c : Scope) (name : String) : Option String :=
  match c.named? name with
  | some t => if t.isObject then some name else none
  | none => none

/-- Whether a written type names a type the schema has. -/
def knows (c : Scope) (t : TypeRef) : Bool := (c.named? t.baseName).isSome

/-- Whether a written type is one values can be given in. -/
def isInput (c : Scope) (t : TypeRef) : Bool := (c.named? t.baseName).any (·.isInput)

/-- Whether a name is of a type of the schema with fields. -/
def isObjectName (c : Scope) : Option String → Bool
  | some n => (c.composite? n).isSome
  | none => false

/-- Whether a name is of a scalar or enumeration type of the schema. -/
def isLeafName (c : Scope) (n : String) : Bool := (c.named? n).any (·.isLeaf)

/-- The fragment of a name; a later definition hides an earlier one. -/
def fragment? (c : Scope) (name : String) : Option Fragment :=
  c.document.fragments.reverse.find? (·.name == name)

/-- The type the root of an operation selects from, if the schema has one. -/
def rootType? (c : Scope) : OperationKind → Option String
  | .query => c.composite? c.schema.query
  | .mutation => c.schema.mutation.bind c.composite?
  | .subscription => none

/-- The type selected from inside an inline fragment: its condition, or
where it stands when it has none. -/
def innerParent (c : Scope) (parent : Option String) : Option String → Option String
  | some t => c.composite? t
  | none => parent

/-- The arguments a directive takes; for an unknown directive, those of
the field around it. -/
def directiveArgs (c : Scope) (place : Place) (name : String) : Option (List InputValue) :=
  match c.schema.directives.find? (·.name == name) with
  | some d => some d.args
  | none => place.field.map (·.args)

end Scope

/-- The location a directive stands at for an operation kind. -/
def operationLocation : OperationKind → String
  | .query => "QUERY"
  | .mutation => "MUTATION"
  | .subscription => "SUBSCRIPTION"

/-- Faults that are only messages. -/
def plain (messages : List String) : List Problem := messages.map Problem.plain

/-- A name in single quotes. -/
def quoted (s : String) : String := "'" ++ s ++ "'"

/-- The names of a list in order of first appearance. -/
def firstAppearances (names : List String) : List String :=
  names.foldl (fun acc n => if acc.contains n then acc else acc ++ [n]) []

/-! ## Written values -/

mutual

/-- The input field names written twice in one object of a value, in the
order written. -/
def repeatedFields : Literal → List String
  | .list items => repeatedInItems items
  | .object fields => repeatedInFields [] fields
  | _ => []

/-- The repeated input field names of list items. -/
def repeatedInItems : List Literal → List String
  | [] => []
  | v :: rest => repeatedFields v ++ repeatedInItems rest

/-- The repeated input field names of an object's fields after `seen`. -/
def repeatedInFields (seen : List String) : List (String × Literal) → List String
  | [] => []
  | (k, v) :: rest =>
    (if seen.contains k then ["There can be only one input field named " ++ quoted k ++ "."] else []) ++
      repeatedFields v ++ repeatedInFields (k :: seen) rest

end

mutual

/-- A value with the fields of its objects sorted by name. -/
def sortedLiteral : Literal → Literal
  | .list items => .list (sortedItems items)
  | .object fields => .object ((sortedFields fields).mergeSort fun a b => decide (a.1 ≤ b.1))
  | l => l

/-- List items with their objects sorted. -/
def sortedItems : List Literal → List Literal
  | [] => []
  | v :: rest => sortedLiteral v :: sortedItems rest

/-- Object fields with their values' objects sorted. -/
def sortedFields : List (String × Literal) → List (String × Literal)
  | [] => []
  | (k, v) :: rest => (k, sortedLiteral v) :: sortedFields rest

end

/-- The arguments of a field as one text that does not depend on their
order. -/
def argumentText (args : List (String × Literal)) : String :=
  (sortedLiteral (.object args)).print

/-! ## Variable uses -/

/-- A use of a variable: its name, the type expected where it stands (none
when unknown) and whether that place has a default value. -/
structure Usage where
  name : String
  expected : Option TypeRef
  hasDefault : Bool

/-- The input fields of the type expected at a place, when it is an input
object type. -/
def inputFieldsOf (c : Scope) (expected : Option TypeRef) : Option (List InputValue) :=
  expected.bind fun t =>
    (c.named? t.baseName).bind fun nt => if nt.isInputObject then some nt.inputFields else none

/-- The type expected for the items of a list written where a type is
expected. -/
def itemType (expected : Option TypeRef) : Option TypeRef :=
  expected.map fun t =>
    match t.nullable with
    | .list inner => inner
    | other => other

mutual

/-- The variables a written value uses, where a type is expected. -/
def literalUsages (c : Scope) (expected : Option TypeRef) (hasDefault : Bool) : Literal → List Usage
  | .variable n => [⟨n, expected, hasDefault⟩]
  | .list items => itemUsages c (itemType expected) items
  | .object fields => fieldUsages c (inputFieldsOf c expected) fields
  | _ => []

/-- The variables list items use. -/
def itemUsages (c : Scope) (expected : Option TypeRef) : List Literal → List Usage
  | [] => []
  | v :: rest => literalUsages c expected false v ++ itemUsages c expected rest

/-- The variables the fields of an object use. -/
def fieldUsages (c : Scope) (defs : Option (List InputValue)) : List (String × Literal) → List Usage
  | [] => []
  | (k, v) :: rest =>
    let d := defs.bind (·.find? (·.name == k))
    literalUsages c (d.map (·.type)) (d.any (·.defaultValue.isSome)) v ++ fieldUsages c defs rest

end

/-- The variables arguments use. -/
def argumentUsages (c : Scope) (defs : Option (List InputValue)) (args : List (String × Literal)) :
    List Usage :=
  args.flatMap fun (k, v) =>
    let d := defs.bind (·.find? (·.name == k))
    literalUsages c (d.map (·.type)) (d.any (·.defaultValue.isSome)) v

/-- The variables directives use. -/
def directiveUsages (c : Scope) (place : Place) (uses : List DirectiveUse) : List Usage :=
  uses.flatMap fun d => argumentUsages c (c.directiveArgs place d.name) d.arguments

/-- The variables selections use, fragments they spread aside. -/
def selectionUsages (c : Scope) : Nat → Place → List Selection → List Usage
  | 0, _, _ => []
  | fuel + 1, place, sels => sels.flatMap fun
    | .field _ name args dirs sub =>
      let f := place.parent.bind fun p => c.schema.fieldDef? p name
      argumentUsages c (f.map (·.args)) args ++ directiveUsages c { place with field := f } dirs ++
        selectionUsages c fuel ⟨f.bind fun f => c.composite? f.type.baseName, f⟩ (sub.getD [])
    | .spread _ dirs => directiveUsages c place dirs
    | .inline cond dirs inner =>
      directiveUsages c place dirs ++ selectionUsages c fuel ⟨c.innerParent place.parent cond, place.field⟩ inner

/-- The fragment names spread in selection sets, fragments aside: the
spreads of the first set in order, then those of the sets nested in it, the
last nested set first. -/
def spreadsOf : Nat → List (List Selection) → List String
  | 0, _ => []
  | _, [] => []
  | fuel + 1, set :: stack =>
    let own := set.filterMap fun
      | .spread n _ => some n
      | _ => none
    let nested := set.filterMap fun
      | .field _ _ _ _ (some inner) => some inner
      | .inline _ _ inner => some inner
      | _ => none
    own ++ spreadsOf fuel (nested.reverse ++ stack)

/-- The fragments spread from selection sets, directly or through other
fragments, each once, in the order found; `names` holds the names found
so far. -/
def referencedFragments (c : Scope) : Nat → List (List Selection) → List String → List Fragment →
    List Fragment
  | 0, _, _, found => found
  | _, [], _, found => found
  | fuel + 1, set :: stack, names, found =>
    let (names, found, pushed) := (spreadsOf walkFuel [set]).foldl
      (fun (acc : List String × List Fragment × List (List Selection)) n =>
        let (names, found, pushed) := acc
        if names.contains n then acc
        else
          match c.fragment? n with
          | some f => (n :: names, found ++ [f], f.selections :: pushed)
          | none => (n :: names, found, pushed)) (names, found, [])
    referencedFragments c fuel (pushed ++ stack) names found

/-- The fragments an operation spreads, directly or not. -/
def operationFragments (c : Scope) (op : Operation) : List Fragment :=
  referencedFragments c walkFuel [op.selections] [] []

/-- The variables an operation uses, in the fragments it spreads too. -/
def operationUsages (c : Scope) (op : Operation) : List Usage :=
  directiveUsages c {} op.directives ++
    selectionUsages c walkFuel ⟨c.rootType? op.kind, none⟩ op.selections ++
    (operationFragments c op).flatMap fun f =>
      directiveUsages c {} f.directives ++ selectionUsages c walkFuel ⟨c.composite? f.typeCondition, none⟩ f.selections

/-- Whether a type is the same as another or stricter: non-null where the
other admits null, and item by item for lists. -/
def subtypeOf : TypeRef → TypeRef → Bool
  | .named n, .named m => n == m
  | .nonNull x, .nonNull y => subtypeOf x y
  | _, .nonNull _ => false
  | .nonNull x, y => subtypeOf x y
  | .list x, .list y => subtypeOf x y
  | _, _ => false

/-- Whether a variable of a type, with a default value or not, may stand
where a type is expected: a nullable variable stands for a non-null type
only when it or the place has a default other than null. -/
def allowedUsage (varType : TypeRef) (varDefault : Option Literal) (location : TypeRef)
    (locationHasDefault : Bool) : Bool :=
  match location with
  | .nonNull inner =>
    if varType.isNullable then
      let nonNullDefault := match varDefault with
        | some .null | none => false
        | some _ => true
      (nonNullDefault || locationHasDefault) && subtypeOf varType inner
    else subtypeOf varType location
  | _ => subtypeOf varType location

/-- The checks of an operation's variables when the walk leaves it: every
variable used is defined, every variable defined is used, and each use
stands where its type is allowed. -/
def variableErrors (c : Scope) (op : Operation) : List String :=
  let usages := operationUsages c op
  let undefined := usages.filterMap fun u =>
    if op.variableDefinitions.any (·.name == u.name) then none
    else some ("Variable '$" ++ u.name ++ "' is not defined" ++
      (match op.name with | some n => " by operation " ++ quoted n ++ "." | none => "."))
  let unused := op.variableDefinitions.filterMap fun v =>
    if usages.any (·.name == v.name) then none
    else some ("Variable '$" ++ v.name ++ "' is never used" ++
      (match op.name with | some n => " in operation " ++ quoted n ++ "." | none => "."))
  let misplaced := usages.filterMap fun u =>
    match op.variableDefinitions.reverse.find? (·.name == u.name), u.expected with
    | some v, some t =>
      if c.knows v.type && !allowedUsage v.type v.defaultValue t u.hasDefault then
        some ("Variable '$" ++ u.name ++ "' of type " ++ quoted v.type.render ++
          " used in position expecting type " ++ quoted t.render ++ ".")
      else none
    | _, _ => none
  undefined ++ unused ++ misplaced

/-! ## Fields that answer under one key -/

/-- A field as the merge check sees it: the type it is selected from, its
name, arguments and selections, and its definition (meta fields have
none). -/
structure FieldUse where
  parent : Option String
  name : String
  args : List (String × Literal)
  sub : Option (List Selection)
  definition : Option Field

/-- Fields by response key, in order of first appearance. -/
abbrev FieldMap := List (String × List FieldUse)

/-- Adds a field under its response key. -/
def FieldMap.add (m : FieldMap) (key : String) (u : FieldUse) : FieldMap :=
  if m.any (·.1 == key) then m.map fun e => if e.1 == key then (key, e.2 ++ [u]) else e
  else m ++ [(key, [u])]

/-- Gathers the fields of selections by response key, entering inline
fragments, and the names of the fragments spread, each once. -/
def gatherFields (c : Scope) : Nat → Option String → List Selection → FieldMap × List String →
    FieldMap × List String
  | 0, _, _, acc => acc
  | fuel + 1, parent, sels, acc => sels.foldl (fun (acc : FieldMap × List String) sel =>
      let (fields, frags) := acc
      match sel with
      | .field aliasName name args _ sub =>
        let d := parent.bind fun p => (c.schema.definition? p).bind (·.field? name)
        (fields.add (aliasName.getD name) ⟨parent, name, args, sub, d⟩, frags)
      | .spread n _ => (fields, if frags.contains n then frags else frags ++ [n])
      | .inline cond _ inner =>
        let t := match cond with
          | some t => if c.typeNames.contains t then some t else none
          | none => parent
        gatherFields c fuel t inner acc) acc

/-- The fields of selections by response key and the fragments spread. -/
def fieldsOf (c : Scope) (parent : Option String) (sels : List Selection) : FieldMap × List String :=
  gatherFields c walkFuel parent sels ([], [])

/-- The fields of a fragment by response key and the fragments it spreads. -/
def fragmentFields (c : Scope) (f : Fragment) : FieldMap × List String :=
  fieldsOf c (if c.typeNames.contains f.typeCondition then some f.typeCondition else none) f.selections

/-- Whether two types differ in a way no merge can hide: one is a list or
non-null where the other is not, or they end in different leaf types. -/
def typesConflict (c : Scope) : TypeRef → TypeRef → Bool
  | .list a, .list b => typesConflict c a b
  | .list _, _ => true
  | _, .list _ => true
  | .nonNull a, .nonNull b => typesConflict c a b
  | .nonNull _, _ => true
  | _, .nonNull _ => true
  | .named a, .named b => (c.isLeafName a || c.isLeafName b) && a != b

/-- Why two fields under one key cannot be merged: a reason, or the
conflicts of their subfields by key. -/
inductive Clash where
  | reason (text : String)
  | subfields (conflicts : List (String × Clash))

mutual

/-- The sentence of a clash. -/
def Clash.text : Clash → String
  | .reason t => t
  | .subfields cs => " and ".intercalate (Clash.texts cs)

/-- The sentences of subfield conflicts. -/
def Clash.texts : List (String × Clash) → List String
  | [] => []
  | (k, r) :: rest => ("subfields " ++ quoted k ++ " conflict because " ++ r.text) :: Clash.texts rest

end

mutual

/-- The clash of two fields under one response key, if they cannot be
merged. Fields of different object types never answer together, so only
their types and subfields must agree. -/
def findConflict (c : Scope) : Nat → Bool → String → FieldUse → FieldUse → Option (String × Clash)
  | 0, _, _, _, _ => none
  | fuel + 1, exclusive, key, a, b =>
    let exclusive := exclusive || (a.parent != b.parent && c.isObjectName a.parent && c.isObjectName b.parent)
    let t1 := a.definition.map (·.type)
    let t2 := b.definition.map (·.type)
    if !exclusive && a.name != b.name then
      some (key, .reason (quoted a.name ++ " and " ++ quoted b.name ++ " are different fields"))
    else if !exclusive && argumentText a.args != argumentText b.args then
      some (key, .reason "they have differing arguments")
    else
      match t1, t2 with
      | some x, some y =>
        if typesConflict c x y then
          some (key, .reason ("they return conflicting types " ++ quoted x.render ++ " and " ++ quoted y.render))
        else subfieldConflict c fuel exclusive key (t1.map (·.baseName)) a.sub (t2.map (·.baseName)) b.sub
      | _, _ => subfieldConflict c fuel exclusive key (t1.map (·.baseName)) a.sub (t2.map (·.baseName)) b.sub

/-- The clash of two fields' subfields, if any. -/
def subfieldConflict (c : Scope) : Nat → Bool → String → Option String → Option (List Selection) →
    Option String → Option (List Selection) → Option (String × Clash)
  | 0, _, _, _, _, _, _ => none
  | fuel + 1, exclusive, key, p1, some s1, p2, some s2 =>
    match subConflicts c fuel exclusive p1 s1 p2 s2 with
    | [] => none
    | cs => some (key, .subfields cs)
  | _ + 1, _, _, _, _, _, _ => none

/-- The conflicts between the subfields of two fields. -/
def subConflicts (c : Scope) : Nat → Bool → Option String → List Selection → Option String →
    List Selection → List (String × Clash)
  | 0, _, _, _, _, _ => []
  | fuel + 1, exclusive, p1, s1, p2, s2 =>
    let (m1, f1) := fieldsOf c p1 s1
    let (m2, f2) := fieldsOf c p2 s2
    conflictsBetween c fuel exclusive m1 m2 ++
      f2.flatMap (fun n => conflictsWithFragment c fuel exclusive m1 n) ++
      f1.flatMap (fun n => conflictsWithFragment c fuel exclusive m2 n) ++
      f1.flatMap fun n1 => f2.flatMap fun n2 => conflictsBetweenFragments c fuel exclusive n1 n2

/-- The conflicts between two sets of fields, key by key. -/
def conflictsBetween (c : Scope) : Nat → Bool → FieldMap → FieldMap → List (String × Clash)
  | 0, _, _, _ => []
  | fuel + 1, exclusive, m1, m2 => m1.flatMap fun (key, uses1) =>
    match m2.lookup key with
    | some uses2 => uses1.flatMap fun a => uses2.filterMap fun b => findConflict c fuel exclusive key a b
    | none => []

/-- The conflicts between fields and those of a fragment, and of the
fragments it spreads. -/
def conflictsWithFragment (c : Scope) : Nat → Bool → FieldMap → String → List (String × Clash)
  | 0, _, _, _ => []
  | fuel + 1, exclusive, m, n =>
    match c.fragment? n with
    | none => []
    | some f =>
      let (m2, refs) := fragmentFields c f
      conflictsBetween c fuel exclusive m m2 ++ refs.flatMap fun r => conflictsWithFragment c fuel exclusive m r

/-- The conflicts between the fields of two fragments, and of the
fragments they spread. -/
def conflictsBetweenFragments (c : Scope) : Nat → Bool → String → String → List (String × Clash)
  | 0, _, _, _ => []
  | fuel + 1, exclusive, n1, n2 =>
    if n1 == n2 then []
    else
      match c.fragment? n1, c.fragment? n2 with
      | some f1, some f2 =>
        let (m1, refs1) := fragmentFields c f1
        let (m2, refs2) := fragmentFields c f2
        conflictsBetween c fuel exclusive m1 m2 ++
          refs2.flatMap (fun r => conflictsBetweenFragments c fuel exclusive n1 r) ++
          refs1.flatMap fun r => conflictsBetweenFragments c fuel exclusive r n2
      | _, _ => []

end

/-- Pairs of list members, each member with those after it. -/
def orderedPairs {α : Type} : List α → List (α × α)
  | [] => []
  | x :: rest => rest.map (x, ·) ++ orderedPairs rest

/-- The messages of fields in a selection set that answer under one key
but cannot be merged. -/
def mergeErrors (c : Scope) (parent : Option String) (sels : List Selection) : List String :=
  let (m, frags) := fieldsOf c parent sels
  let within := m.flatMap fun (key, uses) =>
    (orderedPairs uses).filterMap fun (a, b) => findConflict c mergeFuel false key a b
  let withFragments := frags.zipIdx.flatMap fun (n, i) =>
    conflictsWithFragment c mergeFuel false m n ++
      (frags.drop (i + 1)).flatMap (conflictsBetweenFragments c mergeFuel false n)
  (within ++ withFragments).map fun (key, clash) =>
    "Fields " ++ quoted key ++ " conflict because " ++ clash.text ++
      ". Use different aliases on the fields to fetch both if this was intentional."

/-! ## Directives and arguments -/

/-- The message for a type the schema does not have. -/
def unknownTypeErrors (c : Scope) (name : String) : List String :=
  if c.typeNames.contains name then []
  else ["Unknown type " ++ quoted name ++ "." ++ didYouMean (suggestionList name c.typeNames) none]

/-- The directives that cannot repeat but do, at one place. -/
def repeatedDirectives (c : Scope) (uses : List DirectiveUse) : List String :=
  (uses.foldl (fun (acc : List String × List String) d =>
    let (seen, errs) := acc
    let unique := c.schema.directives.any fun dd => dd.name == d.name && !dd.isRepeatable
    if !unique then acc
    else if seen.contains d.name then
      (seen, errs ++ ["The directive '@" ++ d.name ++ "' can only be used once at this location."])
    else (d.name :: seen, errs)) ([], [])).2

/-- The argument names given more than once, in order of first appearance. -/
def repeatedArguments (args : List (String × Literal)) : List String :=
  let names := args.map (·.1)
  (firstAppearances names).filterMap fun n =>
    if names.count n > 1 then some ("There can be only one argument named " ++ quoted n ++ ".") else none

/-- The checks of arguments given to a field or directive named `owner`:
each is known to the field around, its value fits its type, and no object
in it repeats a field. -/
def argumentErrors (c : Scope) (place : Place) (owner : String) (defs : Option (List InputValue))
    (args : List (String × Literal)) : List Problem :=
  args.flatMap fun (name, value) =>
    let d := defs.bind (·.find? (·.name == name))
    let unknown := match d, place.field, place.parent with
      | none, some f, some p =>
        ["Unknown argument " ++ quoted name ++ " on field " ++ quoted (p ++ "." ++ owner) ++ "." ++
          didYouMean (suggestionList name (f.args.map (·.name))) none]
      | _, _, _ => []
    let typed := match d with
      | some d => c.schema.literalErrors value d.type d.type.render
      | none => []
    plain unknown ++ typed ++ plain (repeatedFields value)

/-- The checks of directives at a location: each is known and allowed
there, takes the arguments given, and is given those it requires. -/
def directiveErrors (c : Scope) (place : Place) (location : String) (uses : List DirectiveUse) : List Problem :=
  uses.flatMap fun d =>
    let defn := c.schema.directives.find? (·.name == d.name)
    let known := match defn with
      | none => ["Unknown directive '@" ++ d.name ++ "'."]
      | some dd =>
        if dd.locations.contains location then []
        else ["Directive '@" ++ d.name ++ "' may not be used on " ++ location ++ "."]
    let unknownArgs := match defn with
      | some dd => d.arguments.filterMap fun (a, _) =>
        if dd.args.any (·.name == a) then none
        else some ("Unknown argument " ++ quoted a ++ " on directive '@" ++ d.name ++ "'." ++
          didYouMean (suggestionList a (dd.args.map (·.name))) none)
      | none => []
    let required := match defn with
      | some dd => dd.args.filterMap fun a =>
        if a.isRequired && !d.arguments.any (·.1 == a.name) then
          some ("Directive '@" ++ d.name ++ "' argument " ++ quoted a.name ++ " of type " ++
            quoted a.type.render ++ " is required, but it was not provided.")
        else none
      | none => []
    plain (known ++ unknownArgs ++ repeatedArguments d.arguments) ++
      argumentErrors c place d.name (c.directiveArgs place d.name) d.arguments ++ plain required

/-! ## Selections -/

/-- The names of the introspection fields that list types or fields. -/
def listingFields : List String := ["fields", "interfaces", "possibleTypes", "inputFields"]

/-- Whether selections nest the introspection listing fields three deep,
counting `depth` levels already; fragments are followed once on a path. -/
def introspectionTooDeep (c : Scope) : Nat → List String → Nat → List Selection → Bool
  | 0, _, _, _ => false
  | fuel + 1, visited, depth, sels => sels.any fun
    | .field _ name _ _ sub =>
      let depth := if listingFields.contains name then depth + 1 else depth
      decide (3 ≤ depth) || introspectionTooDeep c fuel visited depth (sub.getD [])
    | .inline _ _ inner => introspectionTooDeep c fuel visited depth inner
    | .spread n _ =>
      if visited.contains n then false
      else
        match c.fragment? n with
        | some f => introspectionTooDeep c fuel (n :: visited) depth f.selections
        | none => false

/-- The checks of a field when the walk enters it: it selects subfields
exactly when its type has some (at least one), it exists on the type
selected from, its directives and arguments do not repeat, and
introspection stays shallow. -/
def fieldEnterErrors (c : Scope) (place : Place) (f : Option Field) (name : String)
    (args : List (String × Literal)) (dirs : List DirectiveUse) (sub : Option (List Selection)) : List String :=
  let leaf := match f with
    | some f =>
      match c.named? f.type.baseName with
      | some nt =>
        if nt.isLeaf then
          if sub.isSome then
            ["Field " ++ quoted name ++ " must not have a selection since type " ++ quoted f.type.render ++
              " has no subfields."]
          else []
        else
          match sub with
          | none =>
            ["Field " ++ quoted name ++ " of type " ++ quoted f.type.render ++
              " must have a selection of subfields. Did you mean '" ++ name ++ " \x7b ... \x7d'?"]
          | some [] =>
            ["Field " ++ quoted name ++ " of type " ++ quoted f.type.render ++
              " must have at least one field selected."]
          | some _ => []
      | none => []
    | none => []
  let onType := match place.parent, f with
    | some p, none =>
      let names := ((c.schema.definition? p).map fun t => t.fields.map (·.name)).getD []
      ["Cannot query field " ++ quoted name ++ " on type " ++ quoted p ++ "." ++
        didYouMean (suggestionList name names) none]
    | _, _ => []
  let deep :=
    if (name == "__schema" || name == "__type") && introspectionTooDeep c walkFuel [] 0 (sub.getD []) then
      ["Maximum introspection depth exceeded"]
    else []
  leaf ++ onType ++ repeatedDirectives c dirs ++ repeatedArguments args ++ deep

/-- The required arguments of a field that are not given, checked when the
walk leaves the field. -/
def missingArguments (f : Option Field) (name : String) (args : List (String × Literal)) : List String :=
  match f with
  | some f => f.args.filterMap fun a =>
    if a.isRequired && !args.any (·.1 == a.name) then
      some ("Field " ++ quoted name ++ " argument " ++ quoted a.name ++ " of type " ++ quoted a.type.render ++
        " is required, but it was not provided.")
    else none
  | none => []

/-- The checks of a fragment spread when the walk enters it: the fragment
exists and its type can occur where it is spread. -/
def spreadErrors (c : Scope) (place : Place) (n : String) (dirs : List DirectiveUse) : List String :=
  let frag := c.fragment? n
  (if frag.isNone then ["Unknown fragment " ++ quoted n ++ "."] else []) ++
    (match frag.bind (fun f => c.composite? f.typeCondition), place.parent with
      | some t, some p =>
        if t != p then
          ["Fragment " ++ quoted n ++ " cannot be spread here as objects of type " ++ quoted p ++
            " can never be of type " ++ quoted t ++ "."]
        else []
      | _, _ => []) ++
    repeatedDirectives c dirs

/-- The checks of an inline fragment when the walk enters it: its type has
fields and can occur where it stands. -/
def inlineErrors (c : Scope) (place : Place) (cond : Option String) (dirs : List DirectiveUse) : List String :=
  (match cond.bind c.named? with
    | some nt =>
      if nt.isObject then [] else ["Fragment cannot condition on non composite type " ++ quoted nt.name ++ "."]
    | none => []) ++
    (match cond.bind c.composite?, place.parent with
      | some t, some p =>
        if t != p then
          ["Fragment cannot be spread here as objects of type " ++ quoted p ++ " can never be of type " ++
            quoted t ++ "."]
        else []
      | _, _ => []) ++
    repeatedDirectives c dirs

/-- The messages of selections, walked in order with the place they stand
at: first the fields that cannot be merged, then each selection. -/
def selectionErrors (c : Scope) : Nat → Place → List Selection → List Problem
  | 0, _, _ => []
  | fuel + 1, place, sels =>
    plain (mergeErrors c place.parent sels) ++ sels.flatMap fun
      | .field _ name args dirs sub =>
        let f := place.parent.bind fun p => c.schema.fieldDef? p name
        let here := { place with field := f }
        plain (fieldEnterErrors c place f name args dirs sub) ++
          argumentErrors c here name (f.map (·.args)) args ++
          directiveErrors c here "FIELD" dirs ++
          (match sub with
            | some inner => selectionErrors c fuel ⟨f.bind fun f => c.composite? f.type.baseName, f⟩ inner
            | none => []) ++
          plain (missingArguments f name args)
      | .spread n dirs => plain (spreadErrors c place n dirs) ++ directiveErrors c place "FRAGMENT_SPREAD" dirs
      | .inline cond dirs inner =>
        plain (inlineErrors c place cond dirs) ++
          (match cond with
            | some t => plain (unknownTypeErrors c t)
            | none => []) ++
          directiveErrors c place "INLINE_FRAGMENT" dirs ++
          selectionErrors c fuel ⟨c.innerParent place.parent cond, place.field⟩ inner

/-! ## Definitions -/

/-- The checks of an operation's variable definitions: each is of an input
type it knows, its default fits that type and repeats no field, and its
directives fit. -/
def variableDefinitionErrors (c : Scope) (defs : List VariableDefinition) : List Problem :=
  defs.flatMap fun v =>
    let inputType := c.knows v.type && c.isInput v.type
    let enter :=
      plain ((if c.knows v.type && !c.isInput v.type then
        ["Variable '$" ++ v.name ++ "' cannot be non-input type " ++ quoted v.type.render ++ "."]
      else []) ++
      repeatedDirectives c v.directives) ++
      (match v.defaultValue with
        | some d => if inputType then c.schema.literalErrors d v.type v.type.render else []
        | none => [])
    enter ++ plain (unknownTypeErrors c v.type.baseName ++ ((v.defaultValue.map repeatedFields).getD [])) ++
      directiveErrors c {} "VARIABLE_DEFINITION" v.directives

/-- The variable names an operation defines more than once. -/
def repeatedVariables (defs : List VariableDefinition) : List String :=
  let names := defs.map (·.name)
  (firstAppearances names).filterMap fun n =>
    if names.count n > 1 then some ("There can be only one variable named '$" ++ n ++ "'.") else none

/-- The messages of an operation; `count` is the number of operations of
the document and `namesBefore` the names of those before it. -/
def operationErrors (c : Scope) (count : Nat) (namesBefore : List String) (op : Operation) : List Problem :=
  let supported := op.kind == .query || (c.rootType? op.kind).isSome
  let enter :=
    (if supported then [] else ["The " ++ op.kind.keyword ++ " operation is not supported by the schema."]) ++
    (match op.name with
      | some n => if namesBefore.contains n then ["There can be only one operation named " ++ quoted n ++ "."] else []
      | none => []) ++
    (if op.name.isNone && count > 1 then ["This anonymous operation must be the only defined operation."] else []) ++
    repeatedVariables op.variableDefinitions ++
    repeatedDirectives c op.directives
  plain enter ++ variableDefinitionErrors c op.variableDefinitions ++
    directiveErrors c {} (operationLocation op.kind) op.directives ++
    selectionErrors c walkFuel ⟨c.rootType? op.kind, none⟩ op.selections ++
    plain (variableErrors c op)

/-- The spreads of a fragment that close a cycle, walking spreads depth
first from it: `visited` names the fragments walked before, `path` the
spreads on the way here and `onPath` where each fragment on the way
entered the path. Gives the messages and the fragments walked. -/
def cycleErrors (c : Scope) : Nat → List String → List String → List (String × Nat) → Fragment →
    List String × List String
  | 0, visited, _, _, _ => ([], visited)
  | fuel + 1, visited, path, onPath, f =>
    if visited.contains f.name then ([], visited)
    else
      let visited := f.name :: visited
      let spreads := spreadsOf walkFuel [f.selections]
      if spreads.isEmpty then ([], visited)
      else
        let onPath := (f.name, path.length) :: onPath
        spreads.foldl (fun (acc : List String × List String) s =>
          let (errs, visited) := acc
          let path' := path ++ [s]
          match onPath.lookup s with
          | none =>
            match c.fragment? s with
            | some g =>
              let (more, visited) := cycleErrors c fuel visited path' onPath g
              (errs ++ more, visited)
            | none => acc
          | some i =>
            let via := ((path'.drop i).dropLast).map quoted
            (errs ++ ["Cannot spread fragment " ++ quoted s ++ " within itself" ++
              (if via.isEmpty then "." else " via " ++ ", ".intercalate via ++ ".")], visited)) ([], visited)

/-- The messages of a fragment definition; `namesBefore` are the names of
the fragments before it and `cycles` the cycles found from it. -/
def fragmentErrors (c : Scope) (namesBefore cycles : List String) (f : Fragment) : List Problem :=
  let enter :=
    (match c.named? f.typeCondition with
      | some nt =>
        if nt.isObject then []
        else ["Fragment " ++ quoted f.name ++ " cannot condition on non composite type " ++
          quoted f.typeCondition ++ "."]
      | none => []) ++
    (if namesBefore.contains f.name then ["There can be only one fragment named " ++ quoted f.name ++ "."] else []) ++
    cycles ++
    repeatedDirectives c f.directives
  plain (enter ++ unknownTypeErrors c f.typeCondition) ++ directiveErrors c {} "FRAGMENT_DEFINITION" f.directives ++
    selectionErrors c walkFuel ⟨c.composite? f.typeCondition, none⟩ f.selections

/-- The fragments no operation spreads, checked when the walk leaves the
document. -/
def unusedFragments (c : Scope) : List String :=
  let used := c.document.operations.flatMap fun op => (operationFragments c op).map (·.name)
  c.document.fragments.filterMap fun f =>
    if used.contains f.name then none else some ("Fragment " ++ quoted f.name ++ " is never used.")

/-- The messages of a document, in the order of the walk. -/
def documentErrors (c : Scope) : List Problem :=
  let defs := c.document.definitions
  let executable := defs.filterMap fun
    | .typeSystem (some n) => some ("The " ++ quoted n ++ " definition is not executable.")
    | .typeSystem none => some "The schema definition is not executable."
    | _ => none
  let count := c.document.operations.length
  let walk := defs.foldl (fun (acc : List String × List String × List String × List Problem) d =>
    let (ops, frags, visited, errs) := acc
    match d with
    | .operation op => (op.name.toList ++ ops, frags, visited, errs ++ operationErrors c count ops op)
    | .fragment f =>
      let (cycles, visited) := cycleErrors c walkFuel visited [] [] f
      (ops, f.name :: frags, visited, errs ++ fragmentErrors c frags cycles f)
    | .typeSystem _ => acc) ([], [], [], [])
  plain executable ++ walk.2.2.2 ++ plain (unusedFragments c)

end Validation

/-- The messages of the rules a document breaks, in the order found; past
a hundred, the first hundred and a last one that says validation stopped. -/
def validate (s : Schema) (d : Document) : List Problem :=
  let errors := Validation.documentErrors { schema := s, document := d, typeNames := s.typeNames }
  if errors.length > Validation.errorLimit then
    errors.take Validation.errorLimit ++
      [.plain "Too many validation errors, error limit reached. Validation aborted."]
  else errors

end TableGraph.GraphQL
