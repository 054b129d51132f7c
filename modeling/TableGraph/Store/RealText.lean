import TableGraph.Number.Extended

/-!
# The text of a stored double

When the store turns a double into text (to keep it in a text column, or to
match it against a pattern) it prints fifteen significant digits in the
general format, computing in extended precision:

1. the magnitude is brought into `[1, 10)` by dividing by a power of ten
   built up from `10^100`, `10^10` and `10` (and multiplying by `10^8` and
   `10` when it is below one), counting the decimal exponent;
2. half a unit of the fifteenth digit is added, and a result that reaches
   ten is scaled back by `0.1`;
3. the value is written positionally when the exponent lies in `[-4, 14]`
   and as `d.ddd…e±XX` otherwise, each digit taken as the integer part of the
   running value, which is then replaced by ten times its fraction;
4. trailing zeros after the point are dropped, keeping one digit after it.

Each step rounds to the extended format, so the digits are those of that
computation and not always those of the exact value: dividing by the inexact
`10^100` can lower a fifteenth digit that exact rounding would raise.
Infinities print as `Inf` and `-Inf`; a negative zero prints as `0.0`.
-/

namespace TableGraph.Store

open Number

namespace RealText

/-- The significant digits printed less one: digits after the first. -/
def places : Nat := 14

/-- At most this many digits are taken from the running value; later ones
print as `0`. -/
def digitLimit : Nat := 26

/-- The exponent past which the value counts as infinite. -/
def exponentLimit : Int := 350

/-- Steps allowed to each scaling loop; far more than any double needs. -/
def loopFuel : Nat := 400

/-- Half a unit of the fifteenth significant digit: the double product
`5e-05 · 1e-10`. -/
def rounder : Extended :=
  let a := Extended.double 5 100000
  let b := Extended.double 1 10000000000
  Extended.roundRatio 53 (a.mant * b.mant) 1 (a.exp + b.exp)

/-- Grows `scale` by `step` while the value is at least `step·scale` and the
exponent has not passed the limit, adding `gain` to the exponent each time. -/
def growScale (value step : Extended) (gain : Int) : Nat → Extended → Int → Extended × Int
  | 0, scale, e => (scale, e)
  | fuel + 1, scale, e =>
    if (step.mul scale).le value && e ≤ exponentLimit then
      growScale value step gain fuel (scale.mul step) (e + gain)
    else (scale, e)

/-- Multiplies the value by `factor` while it is below `bound`, subtracting
`loss` from the exponent each time. -/
def raise (bound factor : Extended) (loss : Int) : Nat → Extended → Int → Extended × Int
  | 0, v, e => (v, e)
  | fuel + 1, v, e =>
    if v.lt bound then raise bound factor loss fuel (v.mul factor) (e - loss) else (v, e)

/-- Brings a positive value into `[1, 10)`: the scaled value and its decimal
exponent. -/
def normalize (value : Extended) : Extended × Int :=
  let one := Extended.ofNat 1
  let (scale, e) := growScale value (Extended.double (Nat.pow 10 100) 1) 100 loopFuel one 0
  let (scale, e) := growScale value (Extended.ofNat (Nat.pow 10 10)) 10 loopFuel scale e
  let (scale, e) := growScale value (Extended.ofNat 10) 1 loopFuel scale e
  let v := value.div scale
  let (v, e) := raise (Extended.double 1 100000000) (Extended.ofNat 100000000) 8 loopFuel v e
  raise one (Extended.ofNat 10) 1 loopFuel v e

/-- Takes `count` digits from the running value, each its integer part, the
value then becoming ten times its fraction; `budget` digits at most come
from the value, the rest are `0`. -/
def takeDigits : Nat → Extended → Nat → List Char × Extended × Nat
  | 0, v, budget => ([], v, budget)
  | count + 1, v, budget =>
    if budget == 0 then
      let (ds, v', b') := takeDigits count v budget
      ('0' :: ds, v', b')
    else
      let d := v.floor
      let next := (v.sub (Extended.ofNat d)).mul (Extended.ofNat 10)
      let (ds, v', b') := takeDigits count next (budget - 1)
      (Char.ofNat ('0'.toNat + d) :: ds, v', b')

/-- Drops trailing zeros after the point, keeping one digit after it. -/
def trimZeros (cs : List Char) : List Char :=
  let kept := (cs.reverse.dropWhile (· == '0')).reverse
  if kept.getLast? == some '.' then kept ++ ['0'] else kept

/-- The exponent suffix: `e`, its sign, and two or three digits. -/
def exponentText (e : Int) : String :=
  let n := e.natAbs
  "e" ++ (if e < 0 then "-" else "+") ++ (if n ≥ 100 then toString (n / 100) else "") ++
    toString (n % 100 / 10) ++ toString (n % 10)

/-- The digits of a magnitude whose value (in `[1, 10)` unless zero) and
decimal exponent are given, rounder already added. -/
def layout (v : Extended) (e : Int) : String :=
  if e < -4 || e > places then
    let (lead, v, budget) := takeDigits 1 v digitLimit
    let (rest, _, _) := takeDigits places v budget
    String.ofList (trimZeros (lead ++ ['.'] ++ rest)) ++ exponentText e
  else
    let precision := (places - e).toNat
    if e < 0 then
      let zeros := min (e.natAbs - 1) precision
      let (rest, _, _) := takeDigits (precision - zeros) v digitLimit
      String.ofList (trimZeros (['0', '.'] ++ List.replicate zeros '0' ++ rest))
    else
      let (lead, v, budget) := takeDigits (e.toNat + 1) v digitLimit
      let (rest, _, _) := takeDigits precision v budget
      String.ofList (trimZeros (lead ++ ['.'] ++ rest))

end RealText

open RealText in
/-- The text the store gives a double. -/
def realText (x : Float) : String :=
  match Binary64.ofFloat x with
  | .nan => "NaN"
  | .infinite neg => if neg then "-Inf" else "Inf"
  | .finite neg mant exp =>
    let sign := if neg && mant != 0 then "-" else ""
    let (v, e) := if mant == 0 then (Extended.ofNat 0, 0) else normalize (Extended.ofBinary mant exp)
    let v := v.add rounder
    let (v, e) := if (Extended.ofNat 10).le v then (v.mul (Extended.double 1 10), e + 1) else (v, e)
    sign ++ layout v e

end TableGraph.Store
