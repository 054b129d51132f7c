import TableGraph.Store.Cell
import TableGraph.Schema.Model
import TableGraph.Value.Json
import TableGraph.Value.Exchange
import TableGraph.Json.Read
import TableGraph.Time.Iso

/-!
# Writing values to cells and reading them back

Each column type writes the values of its rows to cells in its own way, and
reads cells back into values:

* integers, doubles and texts are stored as they are, truth values as one
  and zero;
* a truth value column takes truth values (and the integers zero and one)
  and reads any cell by its truthiness;
* a decimal column stores the nearest double and reads a number back as the
  decimal with two places it rounds to;
* date-times, dates and times are stored as texts with six digits of
  microseconds, and read back from any ISO text;
* a UUID is stored as its 32 hexadecimal digits;
* a JSON column stores the document's text, with a space after commas and
  colons and characters past ASCII escaped; a null written to it is the
  document `null`; a cell that its numeric affinity turned into a number
  reads back as that number;
* binary values are stored as byte strings;
* an enumeration stores texts as they are and reads back only its values;
* a point is stored as `x,y` and a vector as its numbers joined by commas.

The cell is then converted by the column's affinity. Failures carry the kind
and message of the fault a driver reports.
-/

namespace TableGraph.Store

/-- How a column type writes values to cells and reads them back. -/
inductive Codec where
  | plain
  | boolean
  | decimal (scale : Nat)
  | timestamp
  | date
  | time
  | uuid
  | json
  | binary
  | enumeration (values : List String)
  | geometry
  | vector
  deriving Repr, Inhabited

/-- Whether a class name contains a word, ignoring case. -/
def classMentions (className word : String) : Bool :=
  ((Text.asciiLower className).splitOn word).length > 1

namespace Codec

/-- The codec of a declared type. -/
def ofType : SqlType → Codec
  | .decorated _ impl => ofType impl
  | .enumeration _ vs => .enumeration vs
  | .array _ _ => .plain
  | .basic n f =>
    if classMentions n "vector" then .vector
    else if classMentions n "geometry" then .geometry
    else
      match f with
      | some .boolean => .boolean
      | some .decimal => .decimal 2
      | some .timestamp => .timestamp
      | some .date => .date
      | some .time => .time
      | some .uuid => .uuid
      | some .json => .json
      | some .binary => .binary
      | _ => .plain

end Codec

/-- The affinity of a declared type, from the type name storage declares it
under. -/
def affinityOf : SqlType → Affinity
  | .decorated _ impl => affinityOf impl
  | .enumeration _ _ => .text
  | .array _ _ => .numeric
  | .basic n f =>
    if classMentions n "vector" || classMentions n "geometry" then .text
    else
      match f with
      | some .integer | some .bigint => .integer
      | some .text | some .uuid | some .enum => .text
      | some .float => .real
      | some .binary => .blob
      | some _ => .numeric
      | none => Affinity.ofDeclared n

/-- Whether a declared type is written `INTEGER`, which makes a lone primary
key column the row id. -/
def isIntegerType : SqlType → Bool
  | .basic n _ => n == "Integer" || n == "INTEGER"
  | .decorated _ impl => isIntegerType impl
  | _ => false

/-- A type fault. -/
def typeFault (message : String) : Failure := ⟨.badType, message⟩

/-- A value fault. -/
def valueFault (message : String) : Failure := ⟨.badValue, message⟩

/-- A fault a column type meets while it prepares a parameter, as the
statement reports it: the class of the fault, then its message. The faults
met there are all of the language's own classes. -/
def statementFault (f : Failure) : Failure :=
  ⟨.statement, "(builtins." ++ f.kind.name ++ ") " ++ f.message⟩

/-- The fault of a stored enumeration value that is none of the values. -/
def lookupFault (quote : String) (shown : String) (values : List String) : Failure :=
  let names := values.map fun n => if n.length > 11 then String.ofList (n.toList.take 11) ++ ".." else n
  let listed :=
    if values.length ≤ 4 then ", ".intercalate names
    else ", ".intercalate (names.take 3) ++ ", ..., " ++ names.getLastD ""
  ⟨.lookup, quote ++ shown ++ quote ++ " is not among the defined enum values. Enum name: None. " ++
    "Possible values: " ++ listed⟩

/-- The cell a driver binds for a plain value at a parameter position. -/
def plainCell (pos : Nat) : Value → Outcome Cell
  | .none => .ok .null
  | .bool b => .ok (.integer (if b then 1 else 0))
  | .int n =>
    if minInteger ≤ n && n ≤ maxInteger then .ok (.integer n)
    else .error ⟨.overflow, "Python int too large to convert to SQLite INTEGER"⟩
  | .float x => .ok (if x.isNaN then .null else .real x)
  | .str s => .ok (.text s)
  | .bytes bs => .ok (.blob bs)
  | .date d => .ok (.text d.isoText)
  | .datetime d => .ok (.text (d.date.isoText ++ " " ++ d.time.isoText))
  | v => .error ⟨.programming, "Error binding parameter " ++ toString pos ++ ": type '" ++ v.kindName ++
      "' is not supported"⟩

/-- A time of day with six digits of microseconds. -/
def clockText (t : Time.TimeOfDay) : String :=
  Time.two t.hour ++ ":" ++ Time.two t.minute ++ ":" ++ Time.two t.second ++ "." ++ Number.padDigits t.micro 6

/-- The comma-separated text of doubles. -/
def joinFloats (xs : List Value) : Outcome String := do
  let fs ← xs.mapM Value.toFloat
  pure (",".intercalate (fs.map Number.floatText))

namespace Codec

/-- Writes a value to a cell, before the column's affinity applies. A column
type prepares the value first and the driver binds what it prepared; a
fault of the preparation is reported by the statement (`statementFault`),
one of the driver's own as it is. -/
def bind (pos : Nat) : Codec → Value → Outcome Cell
  | .json, .none => .ok (.text "null")
  | _, .none => .ok .null
  | .plain, v => plainCell pos v
  | .boolean, v =>
    match v with
    | .bool b => .ok (.integer (if b then 1 else 0))
    | .int 0 => .ok (.integer 0)
    | .int 1 => .ok (.integer 1)
    | .int n => .error (statementFault (valueFault ("Value " ++ toString n ++ " is not None, True, or False")))
    | .float x =>
      if x == 0 then .ok (.integer 0) else if x == 1 then .ok (.integer 1)
      else .error (statementFault (typeFault ("Not a boolean value: " ++ v.literal)))
    | _ => .error (statementFault (typeFault ("Not a boolean value: " ++ v.literal)))
  | .decimal _, v =>
    match v with
    | .decimal d =>
      if d.isSignaling then .error (statementFault (valueFault "cannot convert signaling NaN to float"))
      else .ok (.real d.toFloat)
    | .int n => .ok (.real (Number.floatOfInt n))
    | .bool b => .ok (.real (if b then 1 else 0))
    | _ => do
      let x ← v.toFloat.mapError statementFault
      plainCell pos (.float x)
  | .timestamp, v =>
    match v with
    | .datetime d => .ok (.text (d.date.isoText ++ " " ++ clockText d.time))
    | .date d => .ok (.text (d.isoText ++ " 00:00:00.000000"))
    | _ => .error (statementFault
        (typeFault "SQLite DateTime type only accepts Python datetime and date objects as input."))
  | .date, v =>
    match v with
    | .date d => .ok (.text d.isoText)
    | .datetime d => .ok (.text d.date.isoText)
    | _ => .error (statementFault (typeFault "SQLite Date type only accepts Python date objects as input."))
  | .time, v =>
    match v with
    | .time t => .ok (.text (clockText t))
    | _ => .error (statementFault (typeFault "SQLite Time type only accepts Python time objects as input."))
  | .uuid, v =>
    match v with
    | .uuid n => .ok (.text (hexDigits n 32))
    | _ => .error (statementFault ⟨.missingAttribute, "'" ++ v.kindName ++ "' object has no attribute 'hex'"⟩)
  | .json, v =>
    match v.toJson? false with
    | .ok j => .ok (.text (Json.render ", " ": " true j))
    | .error reason => .error (statementFault (typeFault reason))
  | .binary, v =>
    match v with
    | .bytes bs => .ok (.blob bs)
    | _ => .error (statementFault
        (typeFault ("memoryview: a bytes-like object is required, not '" ++ v.kindName ++ "'")))
  | .enumeration values, v =>
    match v with
    | .str s => .ok (.text s)
    | .member n inner => if values.contains n then .ok (.text n) else plainCell pos inner
    | _ => .error (statementFault (lookupFault "'" v.text values))
  | .geometry, v =>
    match v with
    | .tuple [x, y] | .list [x, y] | .point x y => do
      let s ← (joinFloats [x, y]).mapError statementFault
      pure (.text s)
    | .dict es => (do
      let x ← Value.entry es "x"
      let y ← Value.entry es "y"
      let s ← joinFloats [x, y]
      pure (Cell.text s)).mapError statementFault
    | _ => .error (statementFault (valueFault ("Invalid geometry value: " ++ v.literal)))
  | .vector, v =>
    match v with
    | .list xs | .tuple xs => do
      let s ← (joinFloats xs).mapError statementFault
      pure (.text s)
    | _ => .error (statementFault (typeFault ("'" ++ v.kindName ++ "' object is not iterable")))

/-- The name of a cell's kind as a driver hands it over. -/
def cellKindName : Cell → String
  | .null => "NoneType"
  | .integer _ => "int"
  | .real _ => "float"
  | .text _ => "str"
  | .blob _ => "bytes"

/-- The doubles of a comma-separated text. -/
def readFloats (s : String) : Outcome (List Value) :=
  (s.splitOn ",").mapM fun part =>
    match Number.readFloat? part with
    | some x => .ok (.float x)
    | none => .error (valueFault ("could not convert string to float: " ++ textLiteral part))

/-- Reads a cell back into a value. -/
def read : Codec → Cell → Outcome Value
  | _, .null => .ok .none
  | .plain, c =>
    match c with
    | .integer n => .ok (.int n)
    | .real x => .ok (.float x)
    | .text s => .ok (.str s)
    | .blob bs => .ok (.bytes bs)
    | .null => .ok .none
  | .boolean, c =>
    match c with
    | .integer n => .ok (.bool (n != 0))
    | .real x => .ok (.bool (x != 0))
    | .text s => .ok (.bool !s.isEmpty)
    | .blob bs => .ok (.bool !bs.isEmpty)
    | .null => .ok .none
  | .decimal scale, c =>
    let ofFloat (x : Float) : Outcome Value :=
      match Number.Decimal.ofText? (Number.fixedText x scale) with
      | some d => .ok (.decimal d)
      | none => .error (valueFault "invalid decimal")
    match c with
    | .integer n => ofFloat (Number.floatOfInt n)
    | .real x => ofFloat x
    | c => .error (typeFault ("must be real number, not " ++ cellKindName c))
  | .timestamp, c =>
    match c with
    | .text s =>
      match Time.readDateTime? s with
      | some d => .ok (.datetime d)
      | none => .error (valueFault ("Invalid isoformat string: " ++ textLiteral s))
    | c => .error (typeFault ("fromisoformat: argument must be str, not " ++ cellKindName c))
  | .date, c =>
    match c with
    | .text s =>
      match Time.readDate? s with
      | some d => .ok (.date d)
      | none => .error (valueFault ("Invalid isoformat string: " ++ textLiteral s))
    | c => .error (typeFault ("fromisoformat: argument must be str, not " ++ cellKindName c))
  | .time, c =>
    match c with
    | .text s =>
      match Time.readTime? s with
      | some t => .ok (.time t)
      | none => .error (valueFault ("Invalid isoformat string: " ++ textLiteral s))
    | c => .error (typeFault ("fromisoformat: argument must be str, not " ++ cellKindName c))
  | .uuid, c =>
    match c with
    | .text s =>
      match readUuid s with
      | .ok n => .ok (.uuid n)
      | .error reason => .error (valueFault reason)
    | c => .error ⟨.missingAttribute, "'" ++ cellKindName c ++ "' object has no attribute 'replace'"⟩
  | .json, c =>
    match c with
    | .text s =>
      match Json.parse? s with
      | some j => .ok (Value.ofJson j)
      | none => .error ⟨.jsonDecode, "Expecting value: line 1 column 1 (char 0)"⟩
    | .blob bs =>
      match String.fromUTF8? (ByteArray.mk bs.toArray) >>= Json.parse? with
      | some j => .ok (Value.ofJson j)
      | none => .error ⟨.jsonDecode, "Expecting value: line 1 column 1 (char 0)"⟩
    | .integer n => .ok (.int n)
    | .real x => .ok (.float x)
    | c => .error (typeFault ("the JSON object must be str, bytes or bytearray, not " ++ cellKindName c))
  | .binary, c =>
    match c with
    | .blob bs => .ok (.bytes bs)
    | .integer n => .bytes <$> (Value.int n).byteString
    | .text _ => .error (typeFault "string argument without an encoding")
    | c => .error (typeFault ("cannot convert '" ++ cellKindName c ++ "' object to bytes"))
  | .enumeration values, c =>
    match c with
    | .text s => if values.contains s then .ok (.str s) else .error (lookupFault "\"" s values)
    | .integer n => .error (lookupFault "\"" (toString n) values)
    | .real x => .error (lookupFault "\"" (Number.floatText x) values)
    | c => .error (lookupFault "\"" ((c.text?).getD "") values)
  | .geometry, c =>
    match c with
    | .text s => do
      let xs ← readFloats s
      match xs with
      | [x, y] => pure (.tuple [x, y])
      | _ => .error (valueFault ("Invalid geometry text: " ++ textLiteral s))
    | c => .error ⟨.missingAttribute, "'" ++ cellKindName c ++ "' object has no attribute 'split'"⟩
  | .vector, c =>
    match c with
    | .text s => if s.isEmpty then .ok (.list []) else .list <$> readFloats s
    | c => .error ⟨.missingAttribute, "'" ++ cellKindName c ++ "' object has no attribute 'split'"⟩

end Codec

end Store

namespace ColumnDecl

open Store

/-- The codec of a column. -/
def codec (c : ColumnDecl) : Codec := Codec.ofType c.type

/-- The affinity of a column. -/
def affinity (c : ColumnDecl) : Affinity := affinityOf c.type

/-- The cell a value is stored as in a column. -/
def storeValue (c : ColumnDecl) (pos : Nat) (v : Value) : Outcome Cell := do
  let cell ← c.codec.bind pos v
  pure (c.affinity.store cell)

/-- The cell a value is compared as with a column. -/
def operandValue (c : ColumnDecl) (pos : Nat) (v : Value) : Outcome Cell := do
  let cell ← c.codec.bind pos v
  pure (c.affinity.operand cell)

/-- The value a stored cell of a column reads back as. -/
def readCell (c : ColumnDecl) (cell : Cell) : Outcome Value := c.codec.read cell

end ColumnDecl

end TableGraph
