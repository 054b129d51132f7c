import TableGraph.GraphQL.Schema
import TableGraph.Value.Basic

/-!
# Schema definition language

`Schema.sdl` prints the types a schema defines, in the schema definition
language: every reachable type that is neither a built-in scalar nor an
introspection type, sorted by name, separated by blank lines.

Descriptions are printed as block strings: on the line of the definition
when they are a single short line, otherwise with the text on lines of its
own; a text that would not read back from a block string is quoted instead. Inside a block of fields, arguments or values, a described member other
than the first is set off by a blank line. Arguments are printed on one line
unless one of them is described.
-/

namespace TableGraph.GraphQL

/-- The built-in scalar types. -/
def builtinScalars : List String := ["Int", "Float", "String", "Boolean", "ID"]

/-- Whether a type name is one of the introspection types. -/
def isIntrospectionName (name : String) : Bool := name.startsWith "__"

/-- The escape of a character in a quoted string: the two-character escapes
for backspace, tab, line feed, form feed and carriage return, `\"` and `\\`,
and `\uXXXX` (upper-case hex) for the other control characters. -/
def escapeStringChar (c : Char) : String :=
  let n := c.toNat
  if c == '"' then "\\\""
  else if c == '\\' then "\\\\"
  else if n == 8 then "\\b"
  else if n == 9 then "\\t"
  else if n == 10 then "\\n"
  else if n == 12 then "\\f"
  else if n == 13 then "\\r"
  else if n < 0x20 || (0x7F ≤ n && n ≤ 0x9F) then "\\u" ++ (hexDigits n 4).toUpper
  else String.singleton c

/-- A string in the query language's quotes. -/
def printString (s : String) : String :=
  "\"" ++ String.join (s.toList.map escapeStringChar) ++ "\""

namespace Sdl

/-- Whether a character is a blank inside a line. -/
def isLineBlank (c : Char) : Bool := c == ' ' || c == '\t'

/-- Whether a character ends a line: line feed, carriage return, the
vertical tab and form feed, the file, group and record separators, the next
line control and the line and paragraph separators. -/
def isLineBreak (c : Char) : Bool :=
  let n := c.toNat
  (0x0A ≤ n && n ≤ 0x0D) || (0x1C ≤ n && n ≤ 0x1E) || n == 0x85 || n == 0x2028 || n == 0x2029

/-- The lines of a text, split at each line break (`\r\n` counting as one);
a break at the very end opens no further line, and an empty text has one
empty line. -/
def lines (s : String) : List String :=
  let rec go : List Char → List Char → List String
    | [], cur => if cur.isEmpty then [] else [String.ofList cur.reverse]
    | '\r' :: '\n' :: rest, cur => String.ofList cur.reverse :: go rest []
    | c :: rest, cur =>
      if isLineBreak c then String.ofList cur.reverse :: go rest [] else go rest (c :: cur)
  match go s.toList [] with
  | [] => [""]
  | ls => ls

/-- A text as a block string. It stays on one line when it is a single line
of at most seventy characters that does not end in a quote or backslash;
otherwise the text stands on lines of its own. -/
def blockString (value : String) : String :=
  let tripleQuote := "\"\"\""
  let escaped := value.replace tripleQuote ("\\" ++ tripleQuote)
  let ls := lines escaped
  let isSingleLine := ls.length == 1
  let forceLeadingNewLine := ls.length > 1 &&
    ls.tail.all (fun l => l.isEmpty || isLineBlank l.front)
  let hasTrailingTripleQuotes := escaped.endsWith ("\\" ++ tripleQuote)
  let hasTrailingQuote := value.endsWith "\"" && !hasTrailingTripleQuotes
  let hasTrailingSlash := value.endsWith "\\"
  let forceTrailingNewLine := hasTrailingQuote || hasTrailingSlash
  let multipleLines := !isSingleLine || value.length > 70 || forceTrailingNewLine ||
    forceLeadingNewLine || hasTrailingTripleQuotes
  let skipLeadingNewLine := isSingleLine && !value.isEmpty && isLineBlank value.front
  let before := if (multipleLines && !skipLeadingNewLine) || forceLeadingNewLine then "\n" else ""
  let after := if multipleLines || forceTrailingNewLine then "\n" else ""
  tripleQuote ++ before ++ escaped ++ after ++ tripleQuote

/-- Whether a text reads back unchanged from a block string: it holds no
control character below U+0010 other than tab and line feed, does not start
with a line break or end with an empty line, and its lines after the first
do not all share an indentation. -/
def printableAsBlock (value : String) : Bool :=
  let rec go : List Char → Bool → Bool → Bool → Bool → Bool
    | [], emptyLine, _, commonIndent, seenLine => !emptyLine && !(commonIndent && seenLine)
    | c :: rest, emptyLine, indent, commonIndent, seenLine =>
      if c == '\n' then
        if emptyLine && !seenLine then false else go rest true false commonIndent true
      else if c == ' ' || c == '\t' then go rest emptyLine (indent || emptyLine) commonIndent seenLine
      else if c.toNat ≤ 0x0F then false
      else go rest false indent (commonIndent && indent) seenLine
  value.isEmpty || go value.toList true false true false

/-- A description with its line break, indented; set off by a blank line
when it is not the first in its block. A text that a block string cannot
carry is printed in quotes. -/
def description (d : Option String) (indentation : String) (firstInBlock : Bool) : String :=
  match d with
  | none => ""
  | some text =>
    let prefixText := if !indentation.isEmpty && !firstInBlock then "\n" ++ indentation else indentation
    let printed := if printableAsBlock text then blockString text else printString text
    prefixText ++ printed.replace "\n" ("\n" ++ indentation) ++ "\n"

/-- A block of lines in braces; nothing for no lines. -/
def block (items : List String) : String :=
  if items.isEmpty then "" else " \x7b\n" ++ "\n".intercalate items ++ "\n\x7d"

/-- An input value: its name, type and default. -/
def inputValue (v : InputValue) : String :=
  v.name ++ ": " ++ v.type.render ++
    match v.defaultValue with
    | some d => " = " ++ d
    | none => ""

/-- The arguments of a field. -/
def args (vs : List InputValue) (indentation : String) : String :=
  if vs.isEmpty then ""
  else if vs.all (·.description.isNone) then "(" ++ ", ".intercalate (vs.map inputValue) ++ ")"
  else
    let items := vs.zipIdx.map fun (v, i) =>
      description v.description ("  " ++ indentation) (i == 0) ++ "  " ++ indentation ++ inputValue v
    "(\n" ++ "\n".intercalate items ++ "\n" ++ indentation ++ ")"

/-- A named type's definition. -/
def namedType (t : NamedType) : String :=
  let head := description t.description "" true
  match t.definition with
  | .scalar => head ++ "scalar " ++ t.name
  | .object fs =>
    head ++ "type " ++ t.name ++ block (fs.zipIdx.map fun (f, i) =>
      description f.description "  " (i == 0) ++ "  " ++ f.name ++ args f.args "  " ++ ": " ++
        f.type.render)
  | .inputObject fs =>
    head ++ "input " ++ t.name ++ block (fs.zipIdx.map fun (f, i) =>
      description f.description "  " (i == 0) ++ "  " ++ inputValue f)
  | .enum vs =>
    head ++ "enum " ++ t.name ++ block (vs.zipIdx.map fun (v, i) =>
      description v.description "  " (i == 0) ++ "  " ++ v.name)

end Sdl

/-- The schema definition language text of a schema's own types. -/
def Schema.sdl (s : Schema) : String :=
  let own := s.typeMap.filter fun t => !builtinScalars.contains t.name && !isIntrospectionName t.name
  let sorted := own.mergeSort fun a b => decide (a.name ≤ b.name)
  "\n\n".intercalate (sorted.map Sdl.namedType)

end TableGraph.GraphQL
