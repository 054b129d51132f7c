import TableGraph.Number.Binary

/-!
# Extended-precision arithmetic

The store prints doubles with a routine that computes in the 80-bit extended
format: a 64-bit significand, every operation rounded to the nearest value
with a tie going to the even significand. Its output depends on those
roundings (dividing by an inexact power of ten can move the fifteenth digit),
so this module reproduces them exactly.

An `Extended` is a non-negative dyadic number `mant·2^exp`. Every operation
computes the exact result and then rounds it to `significandBits` bits, the
way the hardware does; the exponent range of the format is far wider than
anything the printing routine meets, so it is not bounded here. Double
constants of the routine enter through `Extended.double`, which rounds a
fraction to 53 bits.
-/

namespace TableGraph.Number

/-- A non-negative number `mant·2^exp`. -/
structure Extended where
  mant : Nat
  exp : Int
  deriving Repr, BEq, Inhabited

namespace Extended

/-- The significand width of the extended format. -/
def significandBits : Nat := 64

/-- The value `(p/q)·2^shift` rounded to `bits` significant bits, a tie going
to the even significand. -/
def roundRatio (bits : Nat) (p q : Nat) (shift : Int) : Extended :=
  if p == 0 || q == 0 then ⟨0, 0⟩
  else
    let k := floorLog2 p q - (bits - 1 : Nat)
    let (num, den) := if k ≥ 0 then (p, q * Nat.pow 2 k.toNat) else (p * Nat.pow 2 (-k).toNat, q)
    let m := roundHalfEven num den
    if m == Nat.pow 2 bits then ⟨Nat.pow 2 (bits - 1), k + 1 + shift⟩ else ⟨m, k + shift⟩

/-- The exact value `m·2^e` rounded to the extended format. -/
def round (m : Nat) (e : Int) : Extended := roundRatio significandBits m 1 e

/-- The double nearest to `p/q`, as an extended value (exact). -/
def double (p q : Nat) : Extended := roundRatio 53 p q 0

/-- The exact value of a natural number, rounded to the extended format. -/
def ofNat (n : Nat) : Extended := round n 0

/-- The two significands scaled to a common exponent, and that exponent. -/
def align (a b : Extended) : Nat × Nat × Int :=
  let e := min a.exp b.exp
  (a.mant * Nat.pow 2 (a.exp - e).toNat, b.mant * Nat.pow 2 (b.exp - e).toNat, e)

/-- The rounded product. -/
def mul (a b : Extended) : Extended := round (a.mant * b.mant) (a.exp + b.exp)

/-- The rounded quotient; zero when the divisor is zero. -/
def div (a b : Extended) : Extended := roundRatio significandBits a.mant b.mant (a.exp - b.exp)

/-- The rounded sum. -/
def add (a b : Extended) : Extended :=
  let (x, y, e) := align a b
  round (x + y) e

/-- The rounded difference, zero when `b` exceeds `a`. -/
def sub (a b : Extended) : Extended :=
  let (x, y, e) := align a b
  round (x - y) e

/-- `a ≤ b`. -/
def le (a b : Extended) : Bool :=
  let (x, y, _) := align a b
  x ≤ y

/-- `a < b`. -/
def lt (a b : Extended) : Bool :=
  let (x, y, _) := align a b
  x < y

/-- The integer part. -/
def floor (a : Extended) : Nat :=
  if a.exp ≥ 0 then a.mant * Nat.pow 2 a.exp.toNat else a.mant / Nat.pow 2 (-a.exp).toNat

/-- The exact value of a finite double's magnitude. -/
def ofBinary (mant : Nat) (exp : Int) : Extended := ⟨mant, exp⟩

end Extended

end TableGraph.Number
