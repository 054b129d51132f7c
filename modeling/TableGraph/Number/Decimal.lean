import TableGraph.Number.Binary
import TableGraph.Text.Unicode

/-!
# Decimal numbers

An exact decimal number is a sign, a coefficient and a power of ten, with
the special values NaN and the two infinities. Numbers keep the exponent
they were written with, so `1.50` and `1.5` are equal in value and differ in
text.

* `Decimal.read` reads the standard numeric-string syntax: a sign, digits
  with an optional point, an optional exponent, or `Infinity`/`Inf`, or
  `NaN`/`sNaN` with optional payload digits (any case). Blanks around the
  text and `_` anywhere in it are ignored, and digits of any script count.
  The reading is exact, so a number whose exponent lies outside the widest
  range a decimal can hold is refused as out of range rather than rounded.
* `Decimal.text` writes the scientific-string form: positional while the
  exponent is at most zero and the adjusted exponent at least `-6`,
  otherwise one digit, a point, the rest and `E±n`.
* `Decimal.mul` multiplies in the default context: 28 significant digits, a
  tie going to the even digit, adjusted exponents from `-999999` to
  `999999`. A product beyond that range overflows, one below it loses
  digits down to the exponent `-1000026`, and a signaling NaN operand or
  infinity times zero is an invalid operation.
* `Decimal.fixed` rounds to a number of places (half to even) and writes the
  result positionally.
-/

namespace TableGraph.Number

/-- An exact decimal number or one of the special values. -/
inductive Decimal where
  /-- `±coeff·10^exp`; the sign is kept also on zero. -/
  | finite (neg : Bool) (coeff : Nat) (exp : Int)
  | infinite (neg : Bool)
  /-- Not a number, quiet or signaling, with the diagnostic digits it
  carries (zero for none). -/
  | nan (neg : Bool) (signaling : Bool) (payload : Nat)
  deriving Repr, BEq, Inhabited

/-- Why a text is not read as a decimal. -/
inductive DecimalFault where
  /-- The text breaks the numeric-string syntax. -/
  | malformed
  /-- The text denotes a number outside the exponent range of exact reading. -/
  | range
  deriving Repr, BEq, DecidableEq, Inhabited

/-- The conditions of decimal arithmetic that stop a computation. -/
inductive DecimalSignal where
  /-- A signaling NaN operand, or infinity times zero. -/
  | invalidOperation
  /-- A result whose adjusted exponent exceeds the largest one. -/
  | overflow
  deriving Repr, BEq, DecidableEq, Inhabited

namespace Decimal

/-- The decimal digits of a natural number. A large number is written by
halves, `n = hi·10^k + lo` with `lo` padded to `k` digits, so that its
digits cost a few large divisions instead of one per digit. -/
def digitsOf (n : Nat) : List Char :=
  if n < Nat.pow 10 64 then (toString n).toList
  else
    let k := (n.log2 * 1233 / 4096 + 1) / 2
    if split : 1 < Nat.pow 10 k ∧ Nat.pow 10 k ≤ n then
      let lo := digitsOf (n % Nat.pow 10 k)
      digitsOf (n / Nat.pow 10 k) ++ List.replicate (k - lo.length) '0' ++ lo
    else (toString n).toList
termination_by n
decreasing_by
  · exact Nat.lt_of_lt_of_le (Nat.mod_lt _ (Nat.lt_trans Nat.zero_lt_one split.1)) split.2
  · exact Nat.div_lt_self (Nat.lt_of_lt_of_le (Nat.lt_trans Nat.zero_lt_one split.1) split.2) split.1

/-- The number a run of ASCII digits spells. A long run is read by halves,
`value (hi ++ lo) = value hi · 10^|lo| + value lo`, so that it costs a few
large multiplications instead of one per digit. -/
def digitsValue (cs : List Char) : Nat :=
  if cs.length ≤ 64 then cs.foldl (fun n c => 10 * n + (c.toNat - '0'.toNat)) 0
  else
    let k := cs.length / 2
    digitsValue (cs.take k) * Nat.pow 10 (cs.length - k) + digitsValue (cs.drop k)
termination_by cs.length
decreasing_by
  all_goals simp only [List.length_take, List.length_drop]; omega

/-- Reads a run of ASCII digits as a number; `none` if the run is empty or
holds another character. -/
def readDigits? (cs : List Char) : Option Nat :=
  if cs.isEmpty || !cs.all Text.isAsciiDigit then none
  else some (digitsValue cs)

/-- Replaces digits of any script by ASCII digits; other characters stay. -/
def asciiDigits (cs : List Char) : List Char :=
  cs.map fun c => match Text.digitValue? c with
    | some d => Text.chr ('0'.toNat + d)
    | none => c

/-- Splits a leading sign off. -/
def splitSign (cs : List Char) : Bool × List Char :=
  match cs with
  | '-' :: rest => (true, rest)
  | '+' :: rest => (false, rest)
  | _ => (false, cs)

/-- Reads an exponent part `[+-]digits`. -/
def readExponent? (cs : List Char) : Option Int :=
  let (neg, ds) := splitSign cs
  (readDigits? ds).map fun n => if neg then -(n : Int) else n

/-- Reads the unsigned body of a finite number: digits with an optional
point, then an optional exponent. -/
def readBody? (cs : List Char) : Option (Nat × Int) :=
  let (mantissa, expPart) := match cs.findIdx? (fun c => c == 'e' || c == 'E') with
    | some i => (cs.take i, some (cs.drop (i + 1)))
    | none => (cs, none)
  let exp? : Option Int := match expPart with
    | some e => readExponent? e
    | none => some 0
  match exp? with
  | none => none
  | some e =>
    let (whole, frac) := match mantissa.findIdx? (· == '.') with
      | some i => (mantissa.take i, mantissa.drop (i + 1))
      | none => (mantissa, [])
    let hasPoint := mantissa.contains '.'
    if whole.isEmpty && frac.isEmpty then none
    else if !(whole ++ frac).all Text.isAsciiDigit then none
    else if hasPoint && frac.contains '.' then none
    else
      match readDigits? (whole ++ frac) with
      | some n => some (n, e - frac.length)
      | none => none

/-- The largest adjusted exponent of an exactly read decimal. -/
def widestExponent : Int := 999999999999999999

/-- The smallest exponent of an exactly read decimal: the smallest adjusted
exponent less the widest precision, plus one. -/
def tiniestExponent : Int := -1999999999999999997

/-- An exactly read finite number lies within the exponent range. -/
def fitsExactly (coeff : Nat) (exp : Int) : Bool :=
  exp + (digitsOf coeff).length - 1 ≤ widestExponent && tiniestExponent ≤ exp

/-- Reads a decimal from text: blanks around it and every `_` are ignored. -/
def read (s : String) : Except DecimalFault Decimal :=
  let cs := asciiDigits ((Text.trimBlank s.toList).filter (· != '_'))
  let (neg, body) := splitSign cs
  let word := String.ofList (body.map fun c => if Text.isAsciiUpper c then Text.chr (c.toNat + 32) else c)
  let nan (signaling : Bool) (rest : List Char) : Except DecimalFault Decimal :=
    if rest.isEmpty then .ok (.nan neg signaling 0)
    else match readDigits? rest with
      | some p => .ok (.nan neg signaling p)
      | none => .error .malformed
  if word == "inf" || word == "infinity" then .ok (.infinite neg)
  else if word.startsWith "nan" then nan false (body.drop 3)
  else if word.startsWith "snan" then nan true (body.drop 4)
  else
    match readBody? body with
    | some (c, e) => if fitsExactly c e then .ok (.finite neg c e) else .error .range
    | none => .error .malformed

/-- Reads a decimal from text, `none` when it is not one. -/
def ofText? (s : String) : Option Decimal :=
  match read s with
  | .ok d => some d
  | .error _ => none

/-- The exact value of an integer. -/
def ofInt (n : Int) : Decimal := .finite (n < 0) n.natAbs 0

/-- The scientific-string form. -/
def text : Decimal → String
  | .nan neg signaling payload =>
    (if neg then "-" else "") ++ (if signaling then "sNaN" else "NaN") ++
      (if payload == 0 then "" else toString payload)
  | .infinite neg => (if neg then "-" else "") ++ "Infinity"
  | .finite neg coeff exp =>
    let sign := if neg then "-" else ""
    let ds := digitsOf coeff
    let len : Int := ds.length
    let adjusted := exp + len - 1
    if exp ≤ 0 && adjusted ≥ -6 then
      if exp == 0 then sign ++ String.ofList ds
      else if len > -exp then
        let cut := (len + exp).toNat
        sign ++ String.ofList (ds.take cut) ++ "." ++ String.ofList (ds.drop cut)
      else
        sign ++ "0." ++ String.ofList (List.replicate (-exp - len).toNat '0') ++ String.ofList ds
    else
      let body := match ds with
        | [] => "0"
        | [c] => String.singleton c
        | c :: rest => String.singleton c ++ "." ++ String.ofList rest
      sign ++ body ++ "E" ++ (if adjusted ≥ 0 then "+" else "-") ++ toString adjusted.natAbs

/-- Rounds a coefficient to at most `prec` digits, a tie going to the even
digit; returns the new coefficient and how many digits were dropped. -/
def roundCoeff (coeff prec : Nat) : Nat × Nat :=
  let len := (digitsOf coeff).length
  if len ≤ prec then (coeff, 0)
  else
    let drop := len - prec
    let r := roundHalfEven coeff (Nat.pow 10 drop)
    -- rounding up may carry into one more digit
    if (digitsOf r).length > prec then (r / 10, drop + 1) else (r, drop)

/-- The significant digits of the default context. -/
def precision : Nat := 28

/-- The largest adjusted exponent of the default context. -/
def largestExponent : Int := 999999

/-- The smallest adjusted exponent of a normal number in the default context. -/
def smallestExponent : Int := -999999

/-- The smallest exponent of the default context: that of a number with one
digit less than the precision below the smallest adjusted exponent. -/
def tinyExponent : Int := smallestExponent - (precision - 1)

/-- The adjusted exponent of `coeff·10^exp`: the exponent of its leading digit. -/
def adjusted (coeff : Nat) (exp : Int) : Int := exp + (digitsOf coeff).length - 1

/-- Fits a finite result into the default context: a result beyond the
largest adjusted exponent overflows (a zero is clamped instead), a result
below the smallest one keeps only the digits down to the tiny exponent, and
the coefficient is rounded to the precision. -/
def finish (neg : Bool) (coeff : Nat) (exp : Int) : Except DecimalSignal Decimal :=
  if adjusted coeff exp > largestExponent then
    if coeff == 0 then .ok (.finite neg 0 largestExponent) else .error .overflow
  else if adjusted coeff exp < smallestExponent && exp < tinyExponent then
    if coeff == 0 then .ok (.finite neg 0 tinyExponent)
    else .ok (.finite neg (roundHalfEven coeff (Nat.pow 10 (tinyExponent - exp).toNat)) tinyExponent)
  else
    let (c, dropped) := roundCoeff coeff precision
    if adjusted c (exp + dropped) > largestExponent then .error .overflow
    else .ok (.finite neg c (exp + dropped))

/-- A NaN as a result: its payload is dropped when it has more digits than
the precision allows. -/
def quietResult (neg : Bool) (payload : Nat) : Decimal :=
  .nan neg false (if (digitsOf payload).length > precision then 0 else payload)

/-- The product in the default context. -/
def mul : Decimal → Decimal → Except DecimalSignal Decimal
  | .nan _ true _, _ => .error .invalidOperation
  | _, .nan _ true _ => .error .invalidOperation
  | .nan n _ p, _ => .ok (quietResult n p)
  | _, .nan n _ p => .ok (quietResult n p)
  | .infinite a, .infinite b => .ok (.infinite (a != b))
  | .infinite a, .finite b c _ => if c == 0 then .error .invalidOperation else .ok (.infinite (a != b))
  | .finite a c _, .infinite b => if c == 0 then .error .invalidOperation else .ok (.infinite (a != b))
  | .finite a c e, .finite b d f => finish (a != b) (c * d) (e + f)

/-- Rounds to `places` digits after the point (half to even) and writes the
result positionally, keeping the sign of a negative value that rounds to
zero. The special values keep their scientific-string form.

The digits of the value scaled by `10^places` are the coefficient's digits
followed by zeros when no digit is lost; otherwise the rounded quotient,
which is zero outright when every digit of the coefficient lies below the
last kept place. -/
def fixed (d : Decimal) (places : Nat) : String :=
  match d with
  | .finite neg coeff exp =>
    let target : Int := -(places : Int)
    let len := (digitsOf coeff).length
    let scaled : List Char :=
      if coeff == 0 then ['0']
      else if exp ≥ target then digitsOf coeff ++ List.replicate (exp - target).toNat '0'
      else if (target - exp).toNat > len then ['0']
      else digitsOf (roundHalfEven coeff (Nat.pow 10 (target - exp).toNat))
    let padded := List.replicate (places + 1 - scaled.length) '0' ++ scaled
    let cut := padded.length - places
    (if neg then "-" else "") ++ String.ofList (padded.take cut) ++
      (if places == 0 then "" else "." ++ String.ofList (padded.drop cut))
  | _ => text d

/-- The number of decimal digits a number needs before its point, so that
`10^(magnitude-1) ≤ |v| < 10^magnitude` for a non-zero value. -/
def magnitude (coeff : Nat) (exp : Int) : Int := ((digitsOf coeff).length : Int) + exp

/-- The double nearest to a decimal. Values far outside the range of doubles
become infinite or zero without computing their powers of ten. -/
def toFloat : Decimal → Float
  | .nan neg _ _ => floatOfFields neg 2047 (Nat.pow 2 51)
  | .infinite neg => floatOfFields neg 2047 0
  | .finite neg coeff exp =>
    if coeff == 0 then floatOfFields neg 0 0
    else if magnitude coeff exp > 310 then floatOfFields neg 2047 0
    else if magnitude coeff exp < -330 then floatOfFields neg 0 0
    else if exp ≥ 0 then nearest neg (coeff * Nat.pow 10 exp.toNat) 1
    else nearest neg coeff (Nat.pow 10 (-exp).toNat)

/-- Drops the fraction of a finite decimal, rounding toward zero. -/
def truncate? : Decimal → Option Int
  | .finite neg coeff exp =>
    let n : Nat := if exp ≥ 0 then coeff * Nat.pow 10 exp.toNat else coeff / Nat.pow 10 (-exp).toNat
    some (if neg then -(n : Int) else n)
  | _ => none

/-- A decimal is a signaling NaN. -/
def isSignaling : Decimal → Bool
  | .nan _ signaling _ => signaling
  | _ => false

/-- A decimal is finite. -/
def isFinite : Decimal → Bool
  | .finite .. => true
  | _ => false

end Decimal

end TableGraph.Number
