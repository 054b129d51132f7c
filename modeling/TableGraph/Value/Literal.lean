import TableGraph.Value.Basic
import TableGraph.Number.Shortest

/-!
# Literal and plain text of values

Diagnostics quote the values they are about in literal form: text in single
quotes (double quotes when the text holds a single quote and no double one),
`None`/`True`/`False`, doubles in shortest form, bytes as `b'…'`, and
containers with `, ` between items. `Value.literal` writes that form.

`Value.text` is the plain text of a value: text is itself, dates and times
are their ISO form (a date-time with a blank between date and time),
decimals and UUIDs their canonical text; everything else is its literal. As
a `String` it shows a lone surrogate as U+FFFD; `Value.asText` keeps it.
-/

namespace TableGraph

/-- The escape of one character inside a text literal quoted by `q`. -/
def escapeTextChar (q : Char) (c : Char) : String :=
  let n := c.toNat
  if c == q || c == '\\' then String.ofList ['\\', c]
  else if c == '\t' then "\\t"
  else if c == '\n' then "\\n"
  else if c == '\r' then "\\r"
  else if n < 0x20 || n == 0x7F then "\\x" ++ hexDigits n 2
  else if n < 0x7F then String.singleton c
  else if !Text.isPrintable c then
    if n ≤ 0xFF then "\\x" ++ hexDigits n 2
    else if n ≤ 0xFFFF then "\\u" ++ hexDigits n 4
    else "\\U" ++ hexDigits n 8
  else String.singleton c

/-- The quote a literal uses: a single quote unless the content holds a
single quote and no double quote. -/
def literalQuote (hasSingle hasDouble : Bool) : Char :=
  if hasSingle && !hasDouble then '"' else '\''

/-- A text in literal form. -/
def textLiteral (s : String) : String :=
  let q := literalQuote (s.toList.contains '\'') (s.toList.contains '"')
  String.singleton q ++ String.join (s.toList.map (escapeTextChar q)) ++ String.singleton q

/-- A text given by its code points in literal form: a lone surrogate is
unprintable and shows as its `\uXXXX` escape. -/
def codesLiteral (codes : List Nat) : String :=
  let q := literalQuote (codes.contains 39) (codes.contains 34)
  let one (n : Nat) : String :=
    if Text.isScalar n then escapeTextChar q (Char.ofNat n) else Text.surrogateEscape n
  String.singleton q ++ String.join (codes.map one) ++ String.singleton q

/-- Bytes in literal form, `b'…'`. -/
def bytesLiteral (bs : List UInt8) : String :=
  let q := literalQuote (bs.contains 39) (bs.contains 34)
  let one (b : UInt8) : String :=
    let n := b.toNat
    if n == q.toNat || n == 92 then String.ofList ['\\', Char.ofNat n]
    else if n == 9 then "\\t"
    else if n == 10 then "\\n"
    else if n == 13 then "\\r"
    else if n < 0x20 || n ≥ 0x7F then "\\x" ++ hexDigits n 2
    else String.singleton (Char.ofNat n)
  "b" ++ String.singleton q ++ String.join (bs.map one) ++ String.singleton q

namespace Value

mutual

/-- The literal form of a value. -/
def literal : Value → String
  | .none => "None"
  | .bool b => if b then "True" else "False"
  | .int n => toString n
  | .float x => Number.floatText x
  | .str s => textLiteral s
  | .strCodes cs => codesLiteral cs
  | .bytes bs => bytesLiteral bs
  | .list xs => "[" ++ ", ".intercalate (literalItems xs) ++ "]"
  | .tuple [x] => "(" ++ literal x ++ ",)"
  | .tuple xs => "(" ++ ", ".intercalate (literalItems xs) ++ ")"
  | .dict es => "\x7b" ++ ", ".intercalate (literalMembers es) ++ "\x7d"
  | .date d => d.literal
  | .time t => t.literal
  | .datetime d => d.literal
  | .decimal d => "Decimal('" ++ d.text ++ "')"
  | .uuid n => "UUID('" ++ uuidText n ++ "')"
  | .member name v => "<" ++ enumClassName ++ "." ++ name ++ ": " ++ literal v ++ ">"
  | .point x y => "namespace(x=" ++ literal x ++ ", y=" ++ literal y ++ ")"

/-- The literal forms of items, to be joined by `, `. -/
def literalItems : List Value → List String
  | [] => []
  | x :: rest => literal x :: literalItems rest

/-- The literal forms `key: value` of object members, to be joined by `, `. -/
def literalMembers : List (String × Value) → List String
  | [] => []
  | (k, v) :: rest => (textLiteral k ++ ": " ++ literal v) :: literalMembers rest

end

/-- The plain text of a value. -/
def text : Value → String
  | .str s => s
  | .strCodes cs => Text.lossyString cs
  | .date d => d.isoText
  | .time t => t.isoText
  | .datetime d => d.date.isoText ++ " " ++ d.time.isoText
  | .decimal d => d.text
  | .uuid n => uuidText n
  | .member name _ => enumClassName ++ "." ++ name
  | v => v.literal

/-- The plain text of a value as a text value, lone surrogates kept. -/
def asText : Value → Value
  | .strCodes cs => .strCodes cs
  | v => .str v.text

/-- The code points of the plain text of a value, lone surrogates kept. -/
def textCodes (v : Value) : List Nat :=
  match v with
  | .strCodes cs => cs
  | _ => Text.codesOf v.text

end Value

end TableGraph
