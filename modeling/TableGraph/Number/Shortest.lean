import TableGraph.Number.Binary

/-!
# Shortest decimal digits of a double

The text of a double is its shortest decimal form: the fewest significant
digits whose value reads back as the same double, and of the candidates with
that many digits the one nearest to the double (an exact tie goes to the even
last digit).

`shortestDigits` finds them by testing, for 1, 2, … 17 digits, the two
neighbours of the double on the decimal grid of that many digits: a double
reads back from every real in its rounding interval, whose ends belong to it
exactly when the mantissa is even. The answer is the digits `d` and the power
`e` with value `d·10^e` and no trailing zero in `d`.

`FloatLayout` holds the decisions of one written form: where positional
notation gives way to an exponent, and how the exponent is written.
`FloatLayout.render` lays the digits out.
-/

namespace TableGraph.Number

/-- Exact comparison of the fractions `a/b` and `c/d` (`b, d > 0`): is `a/b`
at most `c/d`? -/
def fracLe (a b c d : Nat) : Bool := a * d ≤ c * b

/-- Exact comparison of the fractions `a/b` and `c/d` (`b, d > 0`): is `a/b`
below `c/d`? -/
def fracLt (a b c d : Nat) : Bool := a * d < c * b

/-- The fraction `n·10^s` as a numerator and a denominator. -/
def decimalFraction (n : Nat) (s : Int) : Nat × Nat :=
  if s ≥ 0 then (n * Nat.pow 10 s.toNat, 1) else (n, Nat.pow 10 (-s).toNat)

/-- The power of ten below a positive fraction: the `k` with
`10^k ≤ p/q < 10^(k+1)`. -/
def floorLog10 (p q : Nat) : Int :=
  let guess : Int := ((toString p).length : Int) - ((toString q).length : Int)
  let below (k : Int) : Bool :=
    let (a, b) := decimalFraction 1 k
    fracLe a b p q
  if below (guess + 1) then guess + 1
  else if below guess then guess else guess - 1

/-- Strips trailing zeros from digits `n` with power `e`. -/
def stripZeros (n : Nat) (e : Int) (fuel : Nat) : Nat × Int :=
  match fuel with
  | 0 => (n, e)
  | fuel + 1 => if n != 0 && n % 10 == 0 then stripZeros (n / 10) (e + 1) fuel else (n, e)

/-- The shortest digits of a positive finite double `mant·2^exp`, as `(d, e)`
with value `d·10^e`. -/
def shortestDigits (mant : Nat) (exp : Int) : Nat × Int :=
  let (p, q) := dyadicFraction mant exp
  -- the rounding interval, as fractions over a common denominator `4q`
  let lowerGap : Nat := if mant == Nat.pow 2 52 && exp > -1074 then 1 else 2
  -- one unit in the last place is `unit/q`
  let unit : Nat := if exp ≥ 0 then Nat.pow 2 exp.toNat else 1
  let loN := 4 * p - lowerGap * unit
  let hiN := 4 * p + 2 * unit
  let den := 4 * q
  let inclusive := mant % 2 == 0
  let inside (n : Nat) (s : Int) : Bool :=
    let (a, b) := decimalFraction n s
    let aboveLow := if inclusive then fracLe loN den a b else fracLt loN den a b
    let belowHigh := if inclusive then fracLe a b hiN den else fracLt a b hiN den
    aboveLow && belowHigh
  let top := floorLog10 p q
  let rec search (k : Nat) (fuel : Nat) : Nat × Int :=
    match fuel with
    | 0 => (p / q, 0)
    | fuel + 1 =>
      let s : Int := top - (k : Int) + 1
      -- the neighbours of p/q on the grid of step 10^s
      let (gn, gd) := decimalFraction 1 s
      let num := p * gd
      let dd := q * gn
      let below := num / dd
      let exact := num % dd == 0
      let above := if exact then below else below + 1
      let okBelow := inside below s
      let okAbove := inside above s
      if okBelow && okAbove then
        if exact then (below, s)
        else
          -- the nearer of the two; an exact tie goes to the even one
          let twice := 2 * (num % dd)
          if twice < dd then (below, s)
          else if twice > dd then (above, s)
          else if below % 2 == 0 then (below, s) else (above, s)
      else if okBelow then (below, s)
      else if okAbove then (above, s)
      else search (k + 1) fuel
  let (d, e) := search 1 17
  stripZeros d e 400

/-- The decisions of one written form of a double. -/
structure FloatLayout where
  /-- Positional notation is used when the point sits after this many digits
  or fewer (the value is below `10^maxPoint`)… -/
  maxPoint : Int
  /-- …and after more than this many (the value is at least `10^minPoint`). -/
  minPoint : Int
  /-- Least number of digits of the exponent. -/
  exponentWidth : Nat
  /-- A whole number in positional notation gets `.0`. -/
  pointZero : Bool
  /-- Text of a NaN. -/
  nanText : String
  /-- Text of positive infinity. -/
  infText : String

/-- Lays out the shortest digits of a double under a layout. -/
def FloatLayout.render (layout : FloatLayout) (x : Float) : String :=
  match Binary64.ofFloat x with
  | .nan => layout.nanText
  | .infinite neg => (if neg then "-" else "") ++ layout.infText
  | .finite neg mant exp =>
    let sign := if neg then "-" else ""
    if mant == 0 then sign ++ (if layout.pointZero then "0.0" else "0")
    else
      let (d, e) := shortestDigits mant exp
      let digits := toString d
      let n : Int := digits.length
      -- the value is 0.digits × 10^point
      let point := n + e
      if layout.minPoint < point && point ≤ layout.maxPoint then
        if point ≤ 0 then
          sign ++ "0." ++ String.ofList (List.replicate (-point).toNat '0') ++ digits
        else if point ≥ n then
          sign ++ digits ++ String.ofList (List.replicate (point - n).toNat '0') ++
            (if layout.pointZero then ".0" else "")
        else
          sign ++ String.ofList (digits.toList.take point.toNat) ++ "." ++
            String.ofList (digits.toList.drop point.toNat)
      else
        let mantissa := match digits.toList with
          | [] => ""
          | [c] => String.singleton c
          | c :: rest => String.singleton c ++ "." ++ String.ofList rest
        let power := point - 1
        let expSign := if power < 0 then "-" else "+"
        sign ++ mantissa ++ "e" ++ expSign ++ padDigits power.natAbs layout.exponentWidth

/-- The written form of doubles in value texts and data: positional from
`1e-4` up to below `1e16`, otherwise an exponent of at least two digits with
its sign; whole numbers keep `.0`. -/
def FloatLayout.standard : FloatLayout :=
  { maxPoint := 16, minPoint := -4, exponentWidth := 2, pointZero := true,
    nanText := "nan", infText := "inf" }

/-- The text of a double in the standard layout. -/
def floatText (x : Float) : String := FloatLayout.standard.render x

end TableGraph.Number
