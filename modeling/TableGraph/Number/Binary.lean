/-!
# Binary64 values as exact numbers

A double is read once into its exact value: a sign, an integer mantissa and
a power of two. Everything the library does with doubles beyond their own
arithmetic — truncating to an integer, printing a fixed number of places,
choosing the nearest double to a decimal or to a large integer — is then
exact integer arithmetic on that view, so the results round exactly as the
IEEE rules say and not as a chain of machine operations happens to.

* `Binary64.ofFloat` is the view: `.finite s m q` stands for `±m·2^q`.
* `nearest` is the double closest to a positive fraction, a tie going to the
  even mantissa; values past the largest double become infinite.
* `truncate` drops the fraction of a finite double.
* `fixedText` prints a double with a fixed number of places, the exact value
  rounded half to even.
-/

namespace TableGraph.Number

/-- The exact content of a double. -/
inductive Binary64 where
  /-- `±mant·2^exp`; `neg` is the sign bit, so a negative zero is kept. -/
  | finite (neg : Bool) (mant : Nat) (exp : Int)
  | infinite (neg : Bool)
  | nan
  deriving Repr, BEq

namespace Binary64

/-- Reads the bits of a double. -/
def ofFloat (x : Float) : Binary64 :=
  let b : Nat := x.toBits.toNat
  let neg : Bool := b / Nat.pow 2 63 % 2 == 1
  let e : Nat := b / Nat.pow 2 52 % 2048
  let f : Nat := b % Nat.pow 2 52
  if e == 2047 then (if f == 0 then .infinite neg else .nan)
  else if e == 0 then .finite neg f (-1074)
  else .finite neg (f + Nat.pow 2 52) ((e : Int) - 1075)

end Binary64

/-- The magnitude `mant·2^exp` as a fraction `num/den`. -/
def dyadicFraction (mant : Nat) (exp : Int) : Nat × Nat :=
  if exp ≥ 0 then (mant * Nat.pow 2 exp.toNat, 1) else (mant, Nat.pow 2 (-exp).toNat)

/-- Rounds the quotient `p/q` to an integer, a tie going to the even one. -/
def roundHalfEven (p q : Nat) : Nat :=
  let m := p / q
  let r := p % q
  if 2 * r > q || (2 * r == q && m % 2 == 1) then m + 1 else m

/-- The power of two below a positive fraction: the `k` with
`2^k ≤ p/q < 2^(k+1)`. -/
def floorLog2 (p q : Nat) : Int :=
  let guess : Int := (Nat.log2 p : Int) - (Nat.log2 q : Int)
  -- the guess is exact or one too high
  let fits (k : Int) : Bool :=
    if k ≥ 0 then q * Nat.pow 2 k.toNat ≤ p else q ≤ p * Nat.pow 2 (-k).toNat
  if fits guess then guess else guess - 1

/-- Builds a double from its sign, biased exponent field and fraction field. -/
def floatOfFields (neg : Bool) (e f : Nat) : Float :=
  Float.ofBits (UInt64.ofNat ((if neg then Nat.pow 2 63 else 0) + e * Nat.pow 2 52 + f))

/-- The double nearest to `p/q` (`q > 0`), negated when `neg`; a tie goes to
the even mantissa and a value too large for any double becomes infinite. -/
def nearest (neg : Bool) (p q : Nat) : Float :=
  if p == 0 || q == 0 then floatOfFields neg 0 0
  else
    let k0 := floorLog2 p q - 52
    let k := if k0 < -1074 then -1074 else k0
    let (num, den) := if k ≥ 0 then (p, q * Nat.pow 2 k.toNat) else (p * Nat.pow 2 (-k).toNat, q)
    let m := roundHalfEven num den
    let (m, k) := if m == Nat.pow 2 53 then (Nat.pow 2 52, k + 1) else (m, k)
    if k > 971 then floatOfFields neg 2047 0
    else if m < Nat.pow 2 52 then floatOfFields neg 0 m
    else floatOfFields neg (k + 1075).toNat (m - Nat.pow 2 52)

/-- The double nearest to an integer. -/
def floatOfInt (n : Int) : Float := nearest (n < 0) n.natAbs 1

/-- Drops the fraction of a finite double, rounding toward zero; `none` for
an infinity or a NaN. -/
def truncate (x : Float) : Option Int :=
  match Binary64.ofFloat x with
  | .finite neg mant exp =>
    let (p, q) := dyadicFraction mant exp
    let n : Int := (p / q : Nat)
    some (if neg then -n else n)
  | _ => none

/-- Digits of a natural number, most significant first, at least `width`
of them (padded with zeros in front). -/
def padDigits (n width : Nat) : String :=
  let s := toString n
  String.ofList (List.replicate (width - s.length) '0') ++ s

/-- A double printed with `places` digits after the point: the exact value
rounded half to even, the sign kept also when the rounded value is zero;
`nan`, `inf` and `-inf` for the values that have no digits. -/
def fixedText (x : Float) (places : Nat) : String :=
  match Binary64.ofFloat x with
  | .nan => "nan"
  | .infinite neg => if neg then "-inf" else "inf"
  | .finite neg mant exp =>
    let (p, q) := dyadicFraction mant exp
    let scaled := roundHalfEven (p * Nat.pow 10 places) q
    let whole := scaled / Nat.pow 10 places
    let frac := scaled % Nat.pow 10 places
    let body := if places == 0 then toString whole
      else toString whole ++ "." ++ padDigits frac places
    (if neg then "-" else "") ++ body

end TableGraph.Number
