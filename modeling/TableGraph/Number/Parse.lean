import TableGraph.Number.Decimal

/-!
# Reading numbers from text

The readers of integer and floating-point literals that values given as text
go through. Both ignore blanks around the text, accept digits of any script,
and allow single `_` between two digits for grouping.

* `readInt?` reads `[+-]digits` in base ten, refusing a numeral of more
  than `intDigitLimit` digits (the bound on integer-text conversion that
  guards against quadratic work).
* `readHexInt?` reads `[+-]` then an optional `0x` and hexadecimal digits,
  where `_` may also follow the prefix.
* `readFloat?` reads `[+-]` followed by `inf`, `infinity`, `nan` (any case)
  or digits with an optional point and exponent, and rounds the value to the
  nearest double.
-/

namespace TableGraph.Number

/-- Removes grouping underscores: each `_` must stand between two digits. -/
def ungroup? : List Char → Option (List Char)
  | [] => some []
  | [c] => if c == '_' then none else some [c]
  | c :: '_' :: d :: rest =>
    if Text.isAsciiDigit c && Text.isAsciiDigit d then
      (ungroup? (d :: rest)).map (c :: ·)
    else none
  | c :: rest => if c == '_' then none else (ungroup? rest).map (c :: ·)

/-- The most digits an integer numeral may have. -/
def intDigitLimit : Nat := 4300

/-- The refusal of an integer numeral of `count` digits, past the limit. -/
def digitLimitMessage (count : Nat) : String :=
  "Exceeds the limit (" ++ toString intDigitLimit ++ " digits) for integer string conversion: value has " ++
    toString count ++ " digits; use sys.set_int_max_str_digits() to increase the limit"

/-- Reads a base-ten integer literal. -/
def readInt? (s : String) : Option Int :=
  let cs := Decimal.asciiDigits (Text.trimBlank s.toList)
  let (neg, body) := Decimal.splitSign cs
  match ungroup? body with
  | none => none
  | some ds =>
    if ds.length > intDigitLimit then none
    else (Decimal.readDigits? ds).map fun n => if neg then -(n : Int) else n

/-- The value of a hexadecimal digit (ASCII letters, digits of any script). -/
def hexDigitValue? (c : Char) : Option Nat :=
  if 'a' ≤ c && c ≤ 'f' then some (c.toNat - 'a'.toNat + 10)
  else if 'A' ≤ c && c ≤ 'F' then some (c.toNat - 'A'.toNat + 10)
  else Text.digitValue? c

/-- Hexadecimal digits with single `_` between two digits; at least one digit. -/
def readHexDigits? (cs : List Char) : Option Nat :=
  let ok := cs.length > 0 && cs.head? != some '_' && cs.getLast? != some '_' &&
    !(cs.zip (cs.drop 1)).any (fun (a, b) => a == '_' && b == '_')
  if !ok then none
  else
    (cs.filter (· != '_')).foldl (fun acc c => do
      let n ← acc
      let d ← hexDigitValue? c
      pure (n * 16 + d)) (some 0)

/-- Reads a base-sixteen integer literal. -/
def readHexInt? (s : String) : Option Int :=
  let (neg, body) := Decimal.splitSign (Text.trimBlank s.toList)
  let digits := match body with
    | '0' :: x :: '_' :: rest => if x == 'x' || x == 'X' then rest else body
    | '0' :: x :: rest => if x == 'x' || x == 'X' then rest else body
    | _ => body
  (readHexDigits? digits).map fun n => if neg then -(n : Int) else n

/-- Reads a floating-point literal and rounds it to the nearest double. -/
def readFloat? (s : String) : Option Float :=
  let cs := Decimal.asciiDigits (Text.trimBlank s.toList)
  let (neg, body) := Decimal.splitSign cs
  let word := String.ofList (body.map fun c => if Text.isAsciiUpper c then Text.chr (c.toNat + 32) else c)
  if word == "inf" || word == "infinity" then some (floatOfFields neg 2047 0)
  else if word == "nan" then some (floatOfFields neg 2047 (Nat.pow 2 51))
  else
    match ungroup? body with
    | none => none
    | some ds =>
      if ds.any (fun c => c == '_') then none
      else (Decimal.readBody? ds).map fun (c, e) => (Decimal.finite neg c e).toFloat

end TableGraph.Number
