import TableGraph.GraphQL.Syntax
import TableGraph.GraphQL.Lexer

/-!
# Reading documents

`Document.parse` reads a request document by recursive descent over its
tokens. It accepts executable definitions (operations and fragments) and
the definitions of the type system language, which it keeps only by name.
Operations with a keyword, fragments and variable definitions may carry a
description, which is dropped; a description anywhere else is refused.
Selection sets, lists and objects may nest `nestingLimit` levels deep.

The first token that does not fit the grammar ends the reading with
`Syntax Error: Expected …, found ….` or `Syntax Error: Unexpected ….`; a
malformed token ends it when the reading reaches it, with the scanner's
message. Every step below takes a `fuel` argument that bounds the depth of
the descent and the length of its loops; a document of `n` tokens never
needs more than `3 n + 8`, since every few steps consume a token.
-/

namespace TableGraph.GraphQL

/-- A position in the tokens of a document: the current token and those
after it, and the scanner's message for the malformed token that follows
them, if any. -/
structure Cursor where
  tokens : List Token
  failure : Option String
  deriving Repr, Inhabited

namespace Parser

/-- The end token. -/
def endToken : Token := ⟨.eof, none⟩

/-- The current token. -/
def peek (c : Cursor) : Token := c.tokens.head?.getD endToken

/-- The token after the current one. -/
def lookahead (c : Cursor) : Except String Token :=
  match c.tokens with
  | _ :: t :: _ => .ok t
  | _ =>
    match c.failure with
    | some e => .error e
    | none => .ok endToken

/-- Moves past the current token; past the end the end stays current, and
moving onto a malformed token fails with its message. -/
def advance (c : Cursor) : Except String Cursor :=
  match c.tokens with
  | _ :: t :: rest => .ok { c with tokens := t :: rest }
  | _ =>
    match c.failure with
    | some e => .error e
    | none => .ok c

/-- The message for a token found where it does not belong. -/
def unexpected (t : Token) : String := "Unexpected " ++ t.describe ++ "."

/-- Consumes a token of a kind, or fails. -/
def expect (k : TokenKind) (c : Cursor) : Except String (Token × Cursor) :=
  let t := peek c
  if t.kind == k then do pure (t, ← advance c)
  else .error ("Expected " ++ k.describe ++ ", found " ++ t.describe ++ ".")

/-- Consumes a token of a kind if it is current. -/
def expectOptional (k : TokenKind) (c : Cursor) : Except String (Bool × Cursor) :=
  if (peek c).kind == k then do pure (true, ← advance c) else pure (false, c)

/-- Whether the current token is a name with a value. -/
def isKeyword (w : String) (c : Cursor) : Bool :=
  let t := peek c
  t.kind == .name && t.value == some w

/-- Consumes a keyword, or fails. -/
def expectKeyword (w : String) (c : Cursor) : Except String Cursor :=
  if isKeyword w c then advance c
  else .error ("Expected '" ++ w ++ "', found " ++ (peek c).describe ++ ".")

/-- Consumes a keyword if it is current. -/
def expectOptionalKeyword (w : String) (c : Cursor) : Except String (Bool × Cursor) :=
  if isKeyword w c then do pure (true, ← advance c) else pure (false, c)

/-- Reads a name. -/
def parseName (c : Cursor) : Except String (String × Cursor) := do
  let (t, c) ← expect .name c
  pure (t.value.getD "", c)

/-- Reads a variable: `$` and a name. -/
def parseVariable (c : Cursor) : Except String (String × Cursor) := do
  let (_, c) ← expect .dollar c
  parseName c

/-- Whether a description (a string) is current. -/
def peekDescription (c : Cursor) : Bool :=
  (peek c).kind == .string || (peek c).kind == .blockString

/-- Skips a description if one is current. -/
def skipDescription (c : Cursor) : Except String Cursor :=
  if peekDescription c then advance c else pure c

/-- The most selection sets, lists and objects one inside another that a
document may nest. -/
def nestingLimit : Nat := 200

/-- The message for a document that nests past the limit. -/
def tooDeep : String := "Document is nested too deeply. Parsing aborted."

/-- Enters one more level of nesting below `depth` levels, or fails. -/
def enter (depth : Nat) : Except String Nat :=
  if depth < nestingLimit then .ok (depth + 1) else .error tooDeep

mutual

/-- Reads a value standing `depth` levels deep; `isConst` forbids
variables. -/
def parseValue : Nat → Bool → Nat → Cursor → Except String (Literal × Cursor)
  | 0, _, _, _ => .error tooDeep
  | fuel + 1, isConst, depth, c =>
    let t := peek c
    match t.kind with
    | .bracketL => do
      let c ← advance c
      parseListItems fuel isConst (← enter depth) c []
    | .braceL => do
      let c ← advance c
      parseObjectFields fuel isConst (← enter depth) c []
    | .int => do pure (.int (t.value.getD ""), ← advance c)
    | .float => do pure (.float (t.value.getD ""), ← advance c)
    | .string => do pure (.string (t.value.getD "") false, ← advance c)
    | .blockString => do pure (.string (t.value.getD "") true, ← advance c)
    | .name => do
      let c ← advance c
      match t.value.getD "" with
      | "true" => pure (.boolean true, c)
      | "false" => pure (.boolean false, c)
      | "null" => pure (.null, c)
      | n => pure (.enum n, c)
    | .dollar =>
      if isConst then do
        let c ← advance c
        let t2 := peek c
        if t2.kind == .name then
          throw ("Unexpected variable '$" ++ t2.value.getD "" ++ "' in constant value.")
        else throw (unexpected t)
      else do
        let (n, c) ← parseVariable c
        pure (.variable n, c)
    | _ => .error (unexpected t)

/-- Reads the items of a list up to its closing bracket. -/
def parseListItems : Nat → Bool → Nat → Cursor → List Literal → Except String (Literal × Cursor)
  | 0, _, _, _, _ => .error tooDeep
  | fuel + 1, isConst, depth, c, acc => do
    let (closed, c) ← expectOptional .bracketR c
    if closed then pure (.list acc.reverse, c)
    else
      let (v, c) ← parseValue fuel isConst depth c
      parseListItems fuel isConst depth c (v :: acc)

/-- Reads the fields of an object up to its closing brace. -/
def parseObjectFields : Nat → Bool → Nat → Cursor → List (String × Literal) →
    Except String (Literal × Cursor)
  | 0, _, _, _, _ => .error tooDeep
  | fuel + 1, isConst, depth, c, acc => do
    let (closed, c) ← expectOptional .braceR c
    if closed then pure (.object acc.reverse, c)
    else
      let (n, c) ← parseName c
      let (_, c) ← expect .colon c
      let (v, c) ← parseValue fuel isConst depth c
      parseObjectFields fuel isConst depth c ((n, v) :: acc)

end

/-- Reads arguments `name: value` up to the closing parenthesis; the opening
one is consumed and at least one argument must follow it. -/
def parseArgumentList : Nat → Bool → Nat → Cursor → List (String × Literal) →
    Except String (List (String × Literal) × Cursor)
  | 0, _, _, _, _ => .error tooDeep
  | fuel + 1, isConst, depth, c, acc => do
    let (n, c) ← parseName c
    let (_, c) ← expect .colon c
    let (v, c) ← parseValue fuel isConst depth c
    let (closed, c) ← expectOptional .parenR c
    if closed then pure (((n, v) :: acc).reverse, c)
    else parseArgumentList fuel isConst depth c ((n, v) :: acc)

/-- Reads optional arguments in parentheses, `depth` levels deep. -/
def parseArguments (fuel : Nat) (isConst : Bool) (depth : Nat) (c : Cursor) :
    Except String (List (String × Literal) × Cursor) := do
  let (opened, c) ← expectOptional .parenL c
  if opened then parseArgumentList fuel isConst depth c [] else pure ([], c)

/-- Reads the directives that follow, each `@name` with optional arguments,
`depth` levels deep. -/
def parseDirectives : Nat → Bool → Nat → Cursor → List DirectiveUse →
    Except String (List DirectiveUse × Cursor)
  | 0, _, _, _, _ => .error tooDeep
  | fuel + 1, isConst, depth, c, acc =>
    if (peek c).kind == .at then do
      let c ← advance c
      let (n, c) ← parseName c
      let (args, c) ← parseArguments fuel isConst depth c
      parseDirectives fuel isConst depth c (⟨n, args⟩ :: acc)
    else pure (acc.reverse, c)

/-- Reads a type reference: a name, a list type in brackets, either followed
by an optional `!`. -/
def parseTypeRef : Nat → Cursor → Except String (TypeRef × Cursor)
  | 0, _ => .error tooDeep
  | fuel + 1, c => do
    let (isList, c) ← expectOptional .bracketL c
    let (ty, c) ← if isList then do
        let (inner, c) ← parseTypeRef fuel c
        let (_, c) ← expect .bracketR c
        pure (TypeRef.list inner, c)
      else do
        let (n, c) ← parseName c
        pure (TypeRef.named n, c)
    let (bang, c) ← expectOptional .bang c
    pure (if bang then .nonNull ty else ty, c)

/-- Reads the name of a fragment, which may not be `on`. -/
def parseFragmentName (c : Cursor) : Except String (String × Cursor) :=
  if isKeyword "on" c then .error (unexpected (peek c)) else parseName c

mutual

/-- Reads the selections of a set `depth` levels deep up to its closing
brace; the opening brace is consumed and at least one selection must follow
it. -/
def parseSelectionList : Nat → Nat → Cursor → List Selection → Except String (List Selection × Cursor)
  | 0, _, _, _ => .error tooDeep
  | fuel + 1, depth, c, acc => do
    let (s, c) ← parseSelection fuel depth c
    let (closed, c) ← expectOptional .braceR c
    if closed then pure ((s :: acc).reverse, c) else parseSelectionList fuel depth c (s :: acc)

/-- Reads a selection set in braces, which may be empty, inside `depth`
levels. -/
def parseSelectionSet : Nat → Nat → Cursor → Except String (List Selection × Cursor)
  | 0, _, _ => .error tooDeep
  | fuel + 1, depth, c => do
    let (_, c) ← expect .braceL c
    let depth ← enter depth
    let (closed, c) ← expectOptional .braceR c
    if closed then pure ([], c) else parseSelectionList fuel depth c []

/-- Reads a selection of a set `depth` levels deep: a fragment spread, an
inline fragment or a field. -/
def parseSelection : Nat → Nat → Cursor → Except String (Selection × Cursor)
  | 0, _, _ => .error tooDeep
  | fuel + 1, depth, c =>
    if (peek c).kind == .spread then do
      let c ← advance c
      let (hasCondition, c) ← expectOptionalKeyword "on" c
      if !hasCondition && (peek c).kind == .name then
        let (n, c) ← parseFragmentName c
        let (ds, c) ← parseDirectives fuel false depth c []
        pure (.spread n ds, c)
      else
        let (cond, c) ← if hasCondition then do
            let (n, c) ← parseName c
            pure (some n, c)
          else pure (none, c)
        let (ds, c) ← parseDirectives fuel false depth c []
        let (sels, c) ← parseSelectionSet fuel depth c
        pure (.inline cond ds sels, c)
    else do
      let (first, c) ← parseName c
      let (aliased, c) ← expectOptional .colon c
      let (aliasName, name, c) ← if aliased then do
          let (n, c) ← parseName c
          pure (some first, n, c)
        else pure (none, first, c)
      let (args, c) ← parseArguments fuel false depth c
      let (ds, c) ← parseDirectives fuel false depth c []
      if (peek c).kind == .braceL then
        let (sels, c) ← parseSelectionSet fuel depth c
        pure (.field aliasName name args ds (some sels), c)
      else pure (.field aliasName name args ds none, c)

end

/-- Reads variable definitions, each after an optional description, up to
the closing parenthesis; the opening one is consumed and at least one
definition must follow it. -/
def parseVariableList : Nat → Cursor → List VariableDefinition →
    Except String (List VariableDefinition × Cursor)
  | 0, _, _ => .error tooDeep
  | fuel + 1, c, acc => do
    let c ← skipDescription c
    let (n, c) ← parseVariable c
    let (_, c) ← expect .colon c
    let (ty, c) ← parseTypeRef fuel c
    let (hasDefault, c) ← expectOptional .equals c
    let (dv, c) ← if hasDefault then do
        let (v, c) ← parseValue fuel true 0 c
        pure (some v, c)
      else pure (none, c)
    let (ds, c) ← parseDirectives fuel true 0 c []
    let d : VariableDefinition := ⟨n, ty, dv, ds⟩
    let (closed, c) ← expectOptional .parenR c
    if closed then pure ((d :: acc).reverse, c) else parseVariableList fuel c (d :: acc)

/-- Reads an operation, in its short form (a bare selection set) or with
its description, keyword, name, variables and directives. -/
def parseOperation (fuel : Nat) (c : Cursor) : Except String (Operation × Cursor) := do
  if (peek c).kind == .braceL then
    let (sels, c) ← parseSelectionSet fuel 0 c
    pure (⟨.query, none, [], [], sels⟩, c)
  else
    let c ← skipDescription c
    let t := peek c
    let (_, c) ← expect .name c
    let kind ← match t.value.getD "" with
      | "query" => pure OperationKind.query
      | "mutation" => pure .mutation
      | "subscription" => pure .subscription
      | _ => throw (unexpected t)
    let (name, c) ← if (peek c).kind == .name then do
        let (n, c) ← parseName c
        pure (some n, c)
      else pure (none, c)
    let (opened, c) ← expectOptional .parenL c
    let (vars, c) ← if opened then parseVariableList fuel c [] else pure ([], c)
    let (ds, c) ← parseDirectives fuel false 0 c []
    let (sels, c) ← parseSelectionSet fuel 0 c
    pure (⟨kind, name, vars, ds, sels⟩, c)

/-- Reads a fragment definition, after an optional description. -/
def parseFragment (fuel : Nat) (c : Cursor) : Except String (Fragment × Cursor) := do
  let c ← skipDescription c
  let c ← expectKeyword "fragment" c
  let (n, c) ← parseFragmentName c
  let c ← expectKeyword "on" c
  let (cond, c) ← parseName c
  let (ds, c) ← parseDirectives fuel false 0 c []
  let (sels, c) ← parseSelectionSet fuel 0 c
  pure (⟨n, cond, ds, sels⟩, c)

/-! ## The type system language

Definitions of types, directives and schemas are read in full so that their
syntax is checked, and kept only by the name they define.
-/

/-- Reads items separated by a delimiter, which may also lead. -/
def parseDelimited (delimiter : TokenKind) (item : Cursor → Except String (String × Cursor)) :
    Nat → Cursor → Except String Cursor
  | 0, _ => .error tooDeep
  | fuel + 1, c => do
    let (_, c) ← item c
    let (more, c) ← expectOptional delimiter c
    if more then parseDelimited delimiter item fuel c else pure c

/-- Reads a delimited list after an optional leading delimiter. -/
def parseDelimitedList (delimiter : TokenKind) (item : Cursor → Except String (String × Cursor))
    (fuel : Nat) (c : Cursor) : Except String Cursor := do
  let (_, c) ← expectOptional delimiter c
  parseDelimited delimiter item fuel c

/-- Reads an input value definition: description, name, type, default and
directives. -/
def parseInputValueDef (fuel : Nat) (c : Cursor) : Except String Cursor := do
  let c ← skipDescription c
  let (_, c) ← parseName c
  let (_, c) ← expect .colon c
  let (_, c) ← parseTypeRef fuel c
  let (hasDefault, c) ← expectOptional .equals c
  let c ← if hasDefault then do
      let (_, c) ← parseValue fuel true 0 c
      pure c
    else pure c
  let (_, c) ← parseDirectives fuel true 0 c []
  pure c

/-- Reads items up to a closing token; the opening one is consumed and at
least one item must follow it. -/
def parseMany (close : TokenKind) (item : Nat → Cursor → Except String Cursor) : Nat → Cursor → Except String Cursor
  | 0, _ => .error tooDeep
  | fuel + 1, c => do
    let c ← item fuel c
    let (closed, c) ← expectOptional close c
    if closed then pure c else parseMany close item fuel c

/-- Reads optional items between an opening and a closing token. -/
def parseOptionalMany (openTok close : TokenKind) (item : Nat → Cursor → Except String Cursor) (fuel : Nat)
    (c : Cursor) : Except String (Bool × Cursor) := do
  let (opened, c) ← expectOptional openTok c
  if opened then do pure (true, ← parseMany close item fuel c) else pure (false, c)

/-- Reads a field definition. -/
def parseFieldDef (fuel : Nat) (c : Cursor) : Except String Cursor := do
  let c ← skipDescription c
  let (_, c) ← parseName c
  let (_, c) ← parseOptionalMany .parenL .parenR parseInputValueDef fuel c
  let (_, c) ← expect .colon c
  let (_, c) ← parseTypeRef fuel c
  let (_, c) ← parseDirectives fuel true 0 c []
  pure c

/-- Reads an enumeration value definition; `true`, `false` and `null` are
reserved. -/
def parseEnumValueDef (fuel : Nat) (c : Cursor) : Except String Cursor := do
  let c ← skipDescription c
  let t := peek c
  if t.kind == .name && (t.value == some "true" || t.value == some "false" || t.value == some "null") then
    throw (t.describe ++ " is reserved and cannot be used for an enum value.")
  let (_, c) ← parseName c
  let (_, c) ← parseDirectives fuel true 0 c []
  pure c

/-- Reads an operation type definition `query: Name` of a schema. -/
def parseOperationTypeDef (_fuel : Nat) (c : Cursor) : Except String Cursor := do
  let t := peek c
  let (_, c) ← expect .name c
  if !(t.value == some "query" || t.value == some "mutation" || t.value == some "subscription") then
    throw (unexpected t)
  let (_, c) ← expect .colon c
  let (_, c) ← parseName c
  pure c

/-- The locations a directive may be defined for. -/
def directiveLocations : List String :=
  ["QUERY", "MUTATION", "SUBSCRIPTION", "FIELD", "FRAGMENT_DEFINITION", "FRAGMENT_SPREAD",
   "INLINE_FRAGMENT", "VARIABLE_DEFINITION", "SCHEMA", "SCALAR", "OBJECT", "FIELD_DEFINITION",
   "ARGUMENT_DEFINITION", "INTERFACE", "UNION", "ENUM", "ENUM_VALUE", "INPUT_OBJECT",
   "INPUT_FIELD_DEFINITION"]

/-- Reads a directive location. -/
def parseDirectiveLocation (c : Cursor) : Except String (String × Cursor) := do
  let t := peek c
  let (n, c) ← parseName c
  if directiveLocations.contains n then pure (n, c) else throw (unexpected t)

/-- Reads the part of a type definition after its name; `keyword` is the
kind of type, and `isExtension` requires at least one part. -/
def parseTypeBody (keyword : String) (isExtension : Bool) (fuel : Nat) (c : Cursor) : Except String Cursor := do
  let start := peek c
  match keyword with
  | "scalar" =>
    let (ds, c) ← parseDirectives fuel true 0 c []
    if isExtension && ds.isEmpty then throw (unexpected start)
    pure c
  | "type" | "interface" =>
    let (hasInterfaces, c) ← expectOptionalKeyword "implements" c
    let c ← if hasInterfaces then parseDelimitedList .amp parseName fuel c else pure c
    let (ds, c) ← parseDirectives fuel true 0 c []
    let (hasFields, c) ← parseOptionalMany .braceL .braceR parseFieldDef fuel c
    if isExtension && !hasInterfaces && ds.isEmpty && !hasFields then throw (unexpected (peek c))
    pure c
  | "union" =>
    let (ds, c) ← parseDirectives fuel true 0 c []
    let (hasTypes, c) ← expectOptional .equals c
    let c ← if hasTypes then parseDelimitedList .pipe parseName fuel c else pure c
    if isExtension && ds.isEmpty && !hasTypes then throw (unexpected (peek c))
    pure c
  | "enum" =>
    let (ds, c) ← parseDirectives fuel true 0 c []
    let (hasValues, c) ← parseOptionalMany .braceL .braceR parseEnumValueDef fuel c
    if isExtension && ds.isEmpty && !hasValues then throw (unexpected (peek c))
    pure c
  | _ =>
    let (ds, c) ← parseDirectives fuel true 0 c []
    let (hasFields, c) ← parseOptionalMany .braceL .braceR parseInputValueDef fuel c
    if isExtension && ds.isEmpty && !hasFields then throw (unexpected (peek c))
    pure c

/-- The keywords that start a definition of the type system language. -/
def typeKeywords : List String := ["scalar", "type", "interface", "union", "enum", "input"]

/-- Reads a definition of the type system language, after its description. -/
def parseTypeSystem (keyword : String) (fuel : Nat) (c : Cursor) : Except String (Definition × Cursor) := do
  let c ← skipDescription c
  let c ← expectKeyword keyword c
  match keyword with
  | "schema" =>
    let (_, c) ← parseDirectives fuel true 0 c []
    let (_, c) ← expect .braceL c
    let c ← parseMany .braceR parseOperationTypeDef fuel c
    pure (.typeSystem none, c)
  | "directive" =>
    let (_, c) ← expect .at c
    let (n, c) ← parseName c
    let (_, c) ← parseOptionalMany .parenL .parenR parseInputValueDef fuel c
    let (_, c) ← expectOptionalKeyword "repeatable" c
    let c ← expectKeyword "on" c
    let c ← parseDelimitedList .pipe parseDirectiveLocation fuel c
    pure (.typeSystem (some n), c)
  | _ =>
    let (n, c) ← parseName c
    let c ← parseTypeBody keyword false fuel c
    pure (.typeSystem (some n), c)

/-- Reads an extension of the type system: `extend` and a definition, or
`extend directive @name` and the directives it adds (at least one). -/
def parseExtension (fuel : Nat) (c : Cursor) : Except String (Definition × Cursor) := do
  let keywordToken ← lookahead c
  let keyword := keywordToken.value.getD ""
  if keywordToken.kind != .name then throw (unexpected keywordToken)
  if keyword == "directive" then
    let c ← expectKeyword "extend" c
    let c ← expectKeyword "directive" c
    let (_, c) ← expect .at c
    let (n, c) ← parseName c
    let (ds, c) ← parseDirectives fuel true 0 c []
    if ds.isEmpty then throw (unexpected (peek c))
    pure (.typeSystem (some n), c)
  else if keyword == "schema" then
    let c ← expectKeyword "extend" c
    let c ← expectKeyword "schema" c
    let (ds, c) ← parseDirectives fuel true 0 c []
    let (hasTypes, c) ← parseOptionalMany .braceL .braceR parseOperationTypeDef fuel c
    if ds.isEmpty && !hasTypes then throw (unexpected (peek c))
    pure (.typeSystem none, c)
  else if typeKeywords.contains keyword then
    let c ← expectKeyword "extend" c
    let c ← expectKeyword keyword c
    let (n, c) ← parseName c
    let c ← parseTypeBody keyword true fuel c
    pure (.typeSystem (some n), c)
  else throw (unexpected keywordToken)

/-- Reads one definition. -/
def parseDefinition (fuel : Nat) (c : Cursor) : Except String (Definition × Cursor) := do
  if (peek c).kind == .braceL then
    let (o, c) ← parseOperation fuel c
    return (.operation o, c)
  let hasDescription := peekDescription c
  let keywordToken ← if hasDescription then lookahead c else pure (peek c)
  if hasDescription && keywordToken.kind == .braceL then
    throw "Unexpected description, descriptions are not supported on shorthand queries."
  if keywordToken.kind == .name then
    let keyword := keywordToken.value.getD ""
    if keyword == "schema" || keyword == "directive" || typeKeywords.contains keyword then
      return ← parseTypeSystem keyword fuel c
    if keyword == "query" || keyword == "mutation" || keyword == "subscription" then
      let (o, c) ← parseOperation fuel c
      return (.operation o, c)
    if keyword == "fragment" then
      let (f, c) ← parseFragment fuel c
      return (.fragment f, c)
    if hasDescription then
      throw "Unexpected description, only GraphQL definitions support descriptions."
    if keyword == "extend" then
      return ← parseExtension fuel c
  throw (unexpected keywordToken)

/-- Reads definitions until the end of the document. -/
def parseDefinitions : Nat → Cursor → List Definition → Except String (List Definition)
  | 0, _, _ => .error tooDeep
  | fuel + 1, c, acc => do
    let (d, c) ← parseDefinition fuel c
    let (done, c) ← expectOptional .eof c
    if done then pure (d :: acc).reverse else parseDefinitions fuel c (d :: acc)

end Parser

/-- Reads a request document; a failure carries the message of the first
syntax error. -/
def Document.parse (s : String) : Except String Document :=
  let scan := Token.scan s
  let fuel := 3 * scan.tokens.length + 8
  match scan.tokens with
  | [] => .error ("Syntax Error: " ++ scan.failure.getD "Unexpected <EOF>.")
  | _ =>
    match Parser.parseDefinitions fuel ⟨scan.tokens, scan.failure⟩ [] with
    | .ok ds => .ok ⟨ds⟩
    | .error e => .error ("Syntax Error: " ++ e)

end TableGraph.GraphQL
