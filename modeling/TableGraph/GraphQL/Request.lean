import TableGraph.GraphQL.Validate

/-!
# Answering a request

A request is a document, the name of the operation to run and the values of
its variables. `respond` answers it in stages, and the first stage that
fails answers alone:

1. the document is parsed (a syntax error leaves no data);
2. the operation is chosen — the one named, else the first — and a document
   without it is refused outright, with the name asked for (`None` when no
   name was given) instead of a response;
3. the document is validated against the schema;
4. the operation to execute is chosen again, now insisting on a name when
   the document holds several operations;
5. the variables are coerced to their declared types, each variable that
   is missing or invalid yielding an error, at most fifty of them;
6. the operation is executed.
-/

namespace TableGraph.GraphQL

/-- What a request gives: the document text, the name of the operation to
run and the values of the variables. -/
structure Submission where
  query : String
  operationName : Option String
  variableValues : List (String × Value)

/-- The answer to a request: the data (none for null) and the errors. -/
structure Response where
  data : Option Json
  errors : List RequestError

/-- A response without data. -/
def Response.failed (errors : List RequestError) : Response := ⟨none, errors⟩

/-- The operation a request asks for before validation: the one of the
name given, else the first. -/
def Document.requestedOperation? (d : Document) (name : Option String) : Option Operation :=
  match name with
  | some n => d.operations.find? (·.name == some n)
  | none => d.operations.head?

/-- The operation to execute: the last of the name given; without a name,
the only one. -/
def Document.operationToRun (d : Document) (name : Option String) : Except String Operation :=
  match name with
  | some n =>
    match (d.operations.filter (·.name == some n)).getLast? with
    | some op => .ok op
    | none => .error ("Unknown operation named '" ++ n ++ "'.")
  | none =>
    match d.operations with
    | [op] => .ok op
    | [] => .error "Must provide an operation."
    | _ => .error "Must provide operation name if query contains multiple operations."

/-- The most errors that coercing variables reports. -/
def variableErrorLimit : Nat := 50

/-- Coerces the values of an operation's variables: the values given, the
defaults of those not given, and the errors of those missing or invalid. -/
def Schema.coerceVariables (s : Schema) (op : Operation) (inputs : List (String × Value)) :
    List (String × Value) × List RequestError :=
  op.variableDefinitions.foldl (fun (acc : List (String × Value) × List RequestError) d =>
    let (values, errors) := acc
    let fail (message : String) := ⟨"Variable '$" ++ d.name ++ "' has invalid value" ++ message, none,
      some "GraphQLError"⟩
    match Value.lookup? inputs d.name with
    | none =>
      match d.defaultValue with
      | some l =>
        match s.coerceLiteral [] l d.type with
        | some v => (values ++ [(d.name, v)], errors)
        | none => (values, errors)
      | none =>
        if d.type.isNullable then (values, errors)
        else (values, errors ++ [fail (": Expected a value of non-null type '" ++ d.type.render ++
          "' to be provided.")])
    | some v =>
      let (w, faults) := s.coerceInput v d.type []
      let errs : List RequestError := faults.map fun (path, m) =>
        fail ((if path.isEmpty then "" else " at " ++ printPath path) ++ ": " ++ m)
      (values ++ [(d.name, w)], errors ++ errs)) ([], [])

/-- Answers a request with resolvers and a state; a document without the
operation asked for is refused with the name asked for. -/
def respond {σ ω : Type} (s : Schema) (r : Resolvers σ ω) (sub : Submission) (state : σ) :
    Except String (Response × σ) :=
  match Document.parse sub.query with
  | .error message => .ok (.failed [⟨message, none, none⟩], state)
  | .ok doc =>
    match doc.requestedOperation? sub.operationName with
    | none => .error (sub.operationName.getD "None")
    | some _ => .ok <|
      match validate s doc with
      | problem :: more => (.failed ((problem :: more).map fun p => ⟨p.message, none, p.kind⟩), state)
      | [] =>
        match doc.operationToRun sub.operationName with
        | .error message => (.failed [⟨message, none, none⟩], state)
        | .ok op =>
          let (vars, errors) := s.coerceVariables op sub.variableValues
          if errors.length > variableErrorLimit then
            (.failed ((errors.take variableErrorLimit) ++
              [⟨"Too many errors processing variables, error limit reached. Execution aborted.", none, none⟩]),
              state)
          else if !errors.isEmpty then (.failed errors, state)
          else
            let ex := executeOperation ⟨s, doc, vars⟩ r op state
            (⟨ex.data, ex.errors.toList⟩, ex.state)

end TableGraph.GraphQL
