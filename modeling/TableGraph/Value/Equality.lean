import TableGraph.Value.Basic
import TableGraph.Failure

/-!
# Equality of values as their classes decide it

`Value.equals a b` answers whether `a == b` holds the way the classes of
the two values decide it, which is not the shape of the values:

* Truth values, integers, doubles and decimals compare as the numbers they
  denote, exactly (`1`, `1.0`, `true` and the decimal `1.00` are equal; the
  double `0.1` is not the decimal `0.1`). A NaN equals nothing, and a
  signaling decimal NaN compared with a number is an invalid operation.
* Texts compare by code points, bytes byte by byte, lists and tuples item by
  item after their lengths (a list never equals a tuple), objects as
  mappings after their sizes: each key of the left one must be in the right
  one with an equal value, in the left one's order. The walk stops at the
  first difference, so a failing comparison after it is never made.
* Dates compare by their fields. Date-times and times with an offset
  compare as instants when both have one, by their fields when neither has
  one, and are unequal when only one has one; a time's offset counts in
  whole seconds only. A date is never a date-time.
* UUIDs compare by their numbers; null equals null. A member of an
  enumeration and a record with fields `x` and `y` compare by identity, so a
  value built afresh equals neither.
-/

namespace TableGraph

namespace Number.Decimal

/-- A coefficient and exponent with the trailing zeros of the coefficient
moved into the exponent. -/
def stripZeros (coeff : Nat) (exp : Int) : Nat × Int :=
  if coeff ≠ 0 ∧ coeff % 10 = 0 then stripZeros (coeff / 10) (exp + 1) else (coeff, exp)
termination_by coeff
decreasing_by omega

/-- Whether two decimals denote the same number: a signaling NaN is an
invalid operation, a quiet one equals nothing, and zeros of either sign
are equal. -/
def sameNumber : Decimal → Decimal → Except DecimalSignal Bool
  | .nan _ true _, _ | _, .nan _ true _ => .error .invalidOperation
  | .nan _ _ _, _ | _, .nan _ _ _ => .ok false
  | .infinite n₁, .infinite n₂ => .ok (n₁ == n₂)
  | .finite n₁ c₁ e₁, .finite n₂ c₂ e₂ =>
    .ok ((c₁ == 0 && c₂ == 0) || (n₁ == n₂ && stripZeros c₁ e₁ == stripZeros c₂ e₂))
  | _, _ => .ok false

end Number.Decimal

namespace Value

/-- A number as the decimal it denotes exactly: truth values, integers,
doubles (`m·2^e` is `m·5^-e·10^e` for a negative `e`) and decimals. -/
def exactDecimal? : Value → Option Number.Decimal
  | .bool b => some (.finite false (if b then 1 else 0) 0)
  | .int n => some (.finite (n < 0) n.natAbs 0)
  | .float x =>
    some <| match Number.Binary64.ofFloat x with
      | .finite neg mant exp =>
        if 0 ≤ exp then .finite neg (mant * Nat.pow 2 exp.toNat) 0 else .finite neg (mant * Nat.pow 5 (-exp).toNat) exp
      | .infinite neg => .infinite neg
      | .nan => .nan false false 0
  | .decimal d => some d
  | _ => .none

/-- A time of day in microseconds since midnight. -/
def microsOfDay (t : Time.TimeOfDay) : Int :=
  ((t.hour * 3600 + t.minute * 60 + t.second) * 1000000 + t.micro : Nat)

/-- Two times of day compared: by their fields when their offsets agree,
as instants of whole seconds (offsets rounded down to a second) when both
have different ones, unequal when one has none. -/
def sameTime (a b : Time.TimeOfDay) : Bool :=
  if a.offset == b.offset then a == b
  else match a.offset, b.offset with
    | some o₁, some o₂ =>
      let seconds (t : Time.TimeOfDay) (o : Int) : Int := (t.hour * 3600 + t.minute * 60 + t.second : Nat) - o / 1000000
      seconds a o₁ == seconds b o₂ && a.micro == b.micro
    | _, _ => false

/-- Two date-times compared: by their fields when their offsets agree, as
exact instants when both have different ones, unequal when one has none. -/
def sameDateTime (a b : Time.DateTime) : Bool :=
  if a.time.offset == b.time.offset then a == b
  else match a.time.offset, b.time.offset with
    | some o₁, some o₂ =>
      let instant (d : Time.DateTime) (o : Int) : Int :=
        (d.date.ordinal : Int) * 86400000000 + microsOfDay d.time - o
      instant a o₁ == instant b o₂
    | _, _ => false

/-- Equality of values that hold no other values. -/
def equalsScalar (a b : Value) : Outcome Bool :=
  match a.exactDecimal?, b.exactDecimal? with
  | some x, some y =>
    match Number.Decimal.sameNumber x y with
    | .ok same => .ok same
    | .error signal => .error (Failure.decimalSignal signal)
  | _, _ =>
    match a, b with
    | .none, .none => .ok true
    | .str s, .str t => .ok (s == t)
    | .strCodes s, .strCodes t => .ok (s == t)
    | .bytes s, .bytes t => .ok (s == t)
    | .date d, .date e => .ok (d == e)
    | .time s, .time t => .ok (sameTime s t)
    | .datetime s, .datetime t => .ok (sameDateTime s t)
    | .uuid m, .uuid n => .ok (m == n)
    | _, _ => .ok false

mutual

/-- Whether `a == b` holds as the classes of the values decide it; a
comparison that the classes refuse fails. -/
def equals : Value → Value → Outcome Bool
  | .list xs, .list ys => if xs.length == ys.length then equalsItems xs ys else .ok false
  | .tuple xs, .tuple ys => if xs.length == ys.length then equalsItems xs ys else .ok false
  | .dict es, .dict fs => if es.length == fs.length then equalsEntries es fs else .ok false
  | a, b => equalsScalar a b

/-- Items compared in order up to the first unequal pair. -/
def equalsItems : List Value → List Value → Outcome Bool
  | x :: xs, y :: ys => do
    if ← equals x y then equalsItems xs ys else pure false
  | _, _ => .ok true

/-- The entries of an object looked up in another one, in order up to the
first key missing there or the first unequal value. -/
def equalsEntries : List (String × Value) → List (String × Value) → Outcome Bool
  | [], _ => .ok true
  | (k, a) :: rest, fs =>
    match lookup? fs k with
    | .none => .ok false
    | .some b => do
      if ← equals a b then equalsEntries rest fs else pure false

end

end Value

end TableGraph
