import TableGraph.Value.Basic

/-!
# JSON documents

A JSON document as a tree whose numbers keep the text they were written
with, so that an integer of any size and the exact digits of a fraction
survive until a reader decides what number they denote. Objects keep their
members in written order, duplicates included; `Json.render` writes a tree
back with chosen separators.

`Json.render` escapes `"`, `\`, the control characters (`\n`, `\r`, `\t`,
`\b`, `\f`, the rest as `\u00XX`), a lone surrogate as `\uXXXX` and, when
`asciiOnly` is set, every character past ASCII as `\uXXXX` (two escapes, a
surrogate pair, above `U+FFFF`).
-/

namespace TableGraph

/-- A JSON document. -/
inductive Json where
  | null
  | bool (b : Bool)
  /-- A number as written: `-?digits[.digits][e±digits]`, or `NaN`,
  `Infinity`, `-Infinity`. -/
  | number (text : String)
  | string (s : String)
  /-- A string that holds a lone surrogate, as its code points; a string of
  Unicode scalar values only is always `string`. -/
  | stringCodes (codes : List Nat)
  | array (items : List Json)
  | object (members : List (String × Json))
  deriving Repr, BEq, Inhabited

namespace Json

/-- Four lower-case hex digits. -/
def hex4 (n : Nat) : String := hexDigits n 4

/-- The escape of one character in a JSON string. -/
def escapeChar (asciiOnly : Bool) (c : Char) : String :=
  let n := c.toNat
  if c == '"' then "\\\""
  else if c == '\\' then "\\\\"
  else if c == '\n' then "\\n"
  else if c == '\r' then "\\r"
  else if c == '\t' then "\\t"
  else if n == 8 then "\\b"
  else if n == 12 then "\\f"
  else if n < 0x20 then "\\u" ++ hex4 n
  else if asciiOnly && n > 0x7E then
    if n ≤ 0xFFFF then "\\u" ++ hex4 n
    else
      let v := n - 0x10000
      "\\u" ++ hex4 (0xD800 + v / 0x400) ++ "\\u" ++ hex4 (0xDC00 + v % 0x400)
  else String.singleton c

/-- A string in JSON form. -/
def quote (asciiOnly : Bool) (s : String) : String :=
  "\"" ++ String.join (s.toList.map (escapeChar asciiOnly)) ++ "\""

/-- A string given by its code points in JSON form: a lone surrogate is
written as its `\uXXXX` escape. -/
def quoteCodes (asciiOnly : Bool) (codes : List Nat) : String :=
  let one (n : Nat) : String :=
    if Text.isScalar n then escapeChar asciiOnly (Char.ofNat n) else Text.surrogateEscape n
  "\"" ++ String.join (codes.map one) ++ "\""

/-- The string given by code points: `string` when they are all scalar
values, `stringCodes` otherwise. -/
def ofCodes (codes : List Nat) : Json :=
  match Text.stringOfCodes? codes with
  | some s => .string s
  | none => .stringCodes codes

mutual

/-- Appends a document to `acc`, with `itemSep` between items and members
and `keySep` between a key and its value. Appending to the text written so
far keeps the cost linear in the length of the result. -/
def writeTo (itemSep keySep : String) (asciiOnly : Bool) (acc : String) : Json → String
  | .null => acc ++ "null"
  | .bool b => acc ++ (if b then "true" else "false")
  | .number t => acc ++ t
  | .string s => acc ++ quote asciiOnly s
  | .stringCodes cs => acc ++ quoteCodes asciiOnly cs
  | .array items => writeItems itemSep keySep asciiOnly (acc ++ "[") true items ++ "]"
  | .object ms => writeMembers itemSep keySep asciiOnly (acc ++ "\x7b") true ms ++ "\x7d"

/-- Appends array items separated by `itemSep`; `first` tells whether no
item has been written yet. -/
def writeItems (itemSep keySep : String) (asciiOnly : Bool) (acc : String) (first : Bool) :
    List Json → String
  | [] => acc
  | j :: rest =>
    writeItems itemSep keySep asciiOnly
      (writeTo itemSep keySep asciiOnly (if first then acc else acc ++ itemSep) j) false rest

/-- Appends object members separated by `itemSep`; `first` tells whether no
member has been written yet. -/
def writeMembers (itemSep keySep : String) (asciiOnly : Bool) (acc : String) (first : Bool) :
    List (String × Json) → String
  | [] => acc
  | (k, v) :: rest =>
    let acc := (if first then acc else acc ++ itemSep) ++ quote asciiOnly k ++ keySep
    writeMembers itemSep keySep asciiOnly (writeTo itemSep keySep asciiOnly acc v) false rest

end

/-- Writes a document with `itemSep` between items and members and `keySep`
between a key and its value. -/
def render (itemSep keySep : String) (asciiOnly : Bool) (j : Json) : String :=
  writeTo itemSep keySep asciiOnly "" j

/-- The compact form: no blanks, characters past ASCII kept. -/
def compact (j : Json) : String := render "," ":" false j

/-- The member of an object under a key (the last one when repeated). -/
def field? (j : Json) (key : String) : Option Json :=
  match j with
  | .object ms => (ms.reverse.find? (·.1 == key)).map (·.2)
  | _ => none

end Json

end TableGraph
