import TableGraph.Number.Shortest
import TableGraph.Number.Decimal
import TableGraph.Number.Binary
import TableGraph.Text.Unicode
import TableGraph.Store.RealText

/-!
# Stored cells

A cell holds one of five kinds of value: null, a 64-bit integer, a double,
a text or a byte string. Each column has an *affinity*, read off the words of
its declared type, that converts what is stored into it:

* a column whose declared type contains `INT` has integer affinity; `CHAR`,
  `CLOB` or `TEXT` text affinity; `BLOB` (or no type) none; `REAL`, `FLOA`
  or `DOUB` real affinity; any other type numeric affinity;
* under text affinity numbers are stored as their text;
* under numeric and integer affinity a text that spells a number is stored
  as that number, and a double that is a whole number within 64 bits as an
  integer;
* under real affinity every number is stored as a double; a double that is
  a whole number within 64 bits is kept as that integer and read back as a
  double, so a negative zero comes back as zero.

Cells are ordered null first, then numbers by their exact values, then texts
by their characters, then byte strings by their bytes. Comparisons in
predicates convert a text operand to a number when the column compared has
a numeric affinity, and a number to its text under text affinity.

`like` matches a text against a pattern in which `%` stands for any run of
characters and `_` for one character, letters of the ASCII range matching
regardless of case.
-/

namespace TableGraph.Store

/-- A stored value. -/
inductive Cell where
  | null
  | integer (n : Int)
  | real (x : Float)
  | text (s : String)
  | blob (bs : List UInt8)
  deriving Repr, Inhabited

/-- The conversion a column applies to the values stored into it. -/
inductive Affinity where
  | blob
  | text
  | numeric
  | integer
  | real
  deriving Repr, BEq, DecidableEq, Inhabited

namespace Affinity

/-- The affinity of a declared type, by the words it contains. -/
def ofDeclared (declared : String) : Affinity :=
  let u := String.ofList (declared.toList.map fun c => if Text.isAsciiLower c then Text.chr (c.toNat - 32) else c)
  let has (w : String) : Bool := (u.splitOn w).length > 1
  if has "INT" then .integer
  else if has "CHAR" || has "CLOB" || has "TEXT" then .text
  else if has "BLOB" || u.isEmpty then .blob
  else if has "REAL" || has "FLOA" || has "DOUB" then .real
  else .numeric

/-- Whether an affinity converts texts to numbers. -/
def isNumeric : Affinity → Bool
  | .numeric | .integer | .real => true
  | _ => false

end Affinity

/-- The smallest 64-bit integer. -/
def minInteger : Int := -9223372036854775808

/-- The largest 64-bit integer. -/
def maxInteger : Int := 9223372036854775807

/-- Blanks around a number in a text: space, tab, line feed, vertical tab,
form feed and carriage return. -/
def isSpace (c : Char) : Bool :=
  c == ' ' || c == '\t' || c == '\n' || c == '\x0b' || c == '\x0c' || c == '\r'

/-- A text that spells a number: whether it is a plain integer (no point and
no exponent), its sign, its digits and its power of ten. -/
structure NumericText where
  plainInteger : Bool
  negative : Bool
  digits : Nat
  exponent : Int

/-- Reads the digits at the head of a list of characters. -/
def readDigits (cs : List Char) : List Char × List Char :=
  (cs.takeWhile Text.isAsciiDigit, cs.dropWhile Text.isAsciiDigit)

/-- The value of a list of decimal digits. -/
def digitsValue (ds : List Char) : Nat :=
  ds.foldl (fun acc c => acc * 10 + (c.toNat - 48)) 0

/-- Reads a text as a number: blanks around it, a sign, digits with at most
one point and at least one digit, and an exponent. -/
def readNumericText? (s : String) : Option NumericText :=
  let cs := (s.toList.dropWhile isSpace).reverse.dropWhile isSpace |>.reverse
  let (negative, body) := match cs with
    | '-' :: rest => (true, rest)
    | '+' :: rest => (false, rest)
    | _ => (false, cs)
  let (whole, rest) := readDigits body
  let (frac, rest, point) := match rest with
    | '.' :: more =>
      let (f, r) := readDigits more
      (f, r, true)
    | _ => ([], rest, false)
  if whole.isEmpty && frac.isEmpty then none
  else
    let mantissa := digitsValue (whole ++ frac)
    let scale : Int := -(frac.length : Int)
    match rest with
    | [] => some ⟨!point, negative, mantissa, scale⟩
    | e :: more =>
      if e == 'e' || e == 'E' then
        let (expNeg, expBody) := match more with
          | '-' :: r => (true, r)
          | '+' :: r => (false, r)
          | _ => (false, more)
        let (eds, tail) := readDigits expBody
        if eds.isEmpty || !tail.isEmpty then none
        else
          let ev : Int := digitsValue eds
          some ⟨false, negative, mantissa, scale + (if expNeg then -ev else ev)⟩
      else none

/-- The double nearest to a number read from a text. -/
def NumericText.toFloat (n : NumericText) : Float :=
  (Number.Decimal.finite n.negative n.digits n.exponent).toFloat

/-- The exact integer a number read from a text spells, when it has no
fraction. -/
def NumericText.toInt? (n : NumericText) : Option Int :=
  if n.exponent ≥ 0 then
    let m : Int := n.digits * Int.pow 10 n.exponent.toNat
    some (if n.negative then -m else m)
  else none

/-- A double stored as an integer when it is a whole number strictly inside
the 64-bit range. -/
def integral (x : Float) : Cell :=
  match Number.truncate x with
  | some n =>
    if Number.floatOfInt n == x && minInteger < n && n < maxInteger then .integer n else .real x
  | none => .real x

/-- A text converted to the number it spells, if any: an integer when it
is a plain integer within 64 bits, else a double, which `tryInteger` turns
into an integer when it is whole. -/
def numericOfText (tryInteger : Bool) (s : String) : Cell :=
  match readNumericText? s with
  | none => .text s
  | some n =>
    match (if n.plainInteger then n.toInt? else none) with
    | some i =>
      if minInteger ≤ i && i ≤ maxInteger then .integer i
      else if tryInteger then integral n.toFloat else .real n.toFloat
    | none => if tryInteger then integral n.toFloat else .real n.toFloat

namespace Affinity

/-- Converts a value stored into a column of this affinity. -/
def store : Affinity → Cell → Cell
  | .text, .integer n => .text (toString n)
  | .text, .real x => .text (realText x)
  | .numeric, .text s => numericOfText true s
  | .integer, .text s => numericOfText true s
  | .numeric, .real x => integral x
  | .integer, .real x => integral x
  | .real, .text s =>
    match numericOfText true s with
    | .integer n => .real (Number.floatOfInt n)
    | c => c
  | .real, .integer n => .real (Number.floatOfInt n)
  | .real, .real x =>
    match integral x with
    | .integer n => .real (Number.floatOfInt n)
    | c => c
  | _, c => c

/-- Converts an operand compared with a column of this affinity. -/
def operand : Affinity → Cell → Cell
  | .text, .integer n => .text (toString n)
  | .text, .real x => .text (realText x)
  | a, .text s => if a.isNumeric then numericOfText false s else .text s
  | _, c => c

end Affinity

namespace Cell

/-- Whether a cell is null. -/
def isNull : Cell → Bool
  | .null => true
  | _ => false

/-- The rank of a cell's kind in the order of cells. -/
def rank : Cell → Nat
  | .null => 0
  | .integer _ | .real _ => 1
  | .text _ => 2
  | .blob _ => 3

/-- Compares an integer with a double by their exact values. -/
def compareIntReal (n : Int) (x : Float) : Ordering :=
  match Number.Binary64.ofFloat x with
  | .infinite neg => if neg then .gt else .lt
  | .nan => .gt
  | .finite neg mant exp =>
    let (p, q) := Number.dyadicFraction mant exp
    let rhs : Int := if neg then -(p : Int) else p
    compare (n * q) rhs

/-- Compares two lists of bytes: the first difference decides, then the
length. -/
def compareBytes : List UInt8 → List UInt8 → Ordering
  | [], [] => .eq
  | [], _ :: _ => .lt
  | _ :: _, [] => .gt
  | a :: as, b :: bs => if a < b then .lt else if b < a then .gt else compareBytes as bs

/-- The order of cells: null first, then numbers, texts and byte strings. -/
def order : Cell → Cell → Ordering
  | .null, .null => .eq
  | .integer a, .integer b => compare a b
  | .real a, .real b => if a < b then .lt else if b < a then .gt else .eq
  | .integer a, .real b => compareIntReal a b
  | .real a, .integer b => (compareIntReal b a).swap
  | .text a, .text b => compareBytes a.toUTF8.toList b.toUTF8.toList
  | .blob a, .blob b => compareBytes a b
  | a, b => compare a.rank b.rank

/-- The text of a cell, as string functions see it; none for null. -/
def text? : Cell → Option String
  | .null => none
  | .integer n => some (toString n)
  | .real x => some (realText x)
  | .text s => some s
  | .blob bs =>
    match String.fromUTF8? (ByteArray.mk bs.toArray) with
    | some s => some s
    | none => some (String.ofList (bs.map fun b => Char.ofNat b.toNat))

/-- Whether two cells are equal as keys. -/
def sameKey (a b : Cell) : Bool := order a b == .eq

end Cell

/-- A character folded to lower case when it is an ASCII letter. -/
def foldAscii (c : Char) : Char := if Text.isAsciiUpper c then Text.chr (c.toNat + 32) else c

/-- The suffixes of a list, longest first, the empty one last. -/
def suffixes {α : Type} : List α → List (List α)
  | [] => [[]]
  | x :: xs => (x :: xs) :: suffixes xs

/-- Whether a text matches a pattern: `%` matches any run of characters,
`_` any one character, and other characters themselves, ASCII letters
regardless of case. -/
def likeMatch : List Char → List Char → Bool
  | [], s => s.isEmpty
  | '%' :: p, s => (suffixes s).any (likeMatch p)
  | '_' :: p, s =>
    match s with
    | [] => false
    | _ :: rest => likeMatch p rest
  | c :: p, s =>
    match s with
    | [] => false
    | d :: rest => foldAscii c == foldAscii d && likeMatch p rest
termination_by p => p.length

end TableGraph.Store
