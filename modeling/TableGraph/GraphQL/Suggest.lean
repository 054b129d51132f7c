import TableGraph.Text.Unicode

/-!
# Suggestions for misspelt names

When a query names a field, argument or value that does not exist, the
message suggests the existing names that are close to it. Closeness is the
optimal string alignment distance between the lower-cased names (insertions,
deletions, substitutions and transpositions of neighbours each count one),
except that names equal up to case are at distance one. A name is close when
its distance is at most `⌊0.4 · n⌋ + 1` for an input of length `n`.

Suggestions are ordered by distance and then in natural order, in which
runs of digits compare by their numeric value. At most five are shown.
-/

namespace TableGraph.GraphQL

namespace Suggest

/-- One row of the distance table: the distances from a prefix of the longer
name to every prefix of the shorter one. -/
def nextRow (i : Nat) (ai aPrev : Option Char) (b : List Char) (up up2 : List Nat) : List Nat :=
  let rec go : Nat → List Char → Option Char → List Nat → List Nat
    | _, [], _, acc => acc.reverse
    | j, bj :: rest, bPrev, acc =>
      let cost := if ai == some bj then 0 else 1
      let left := acc.head?.getD 0
      let cell := min (min (up.getD j 0 + 1) (left + 1)) (up.getD (j - 1) 0 + cost)
      let cell :=
        if i > 1 && j > 1 && ai == bPrev && aPrev == some bj then min cell (up2.getD (j - 2) 0 + 1)
        else cell
      go (j + 1) rest (some bj) (cell :: acc)
  go 1 b none [i]

/-- The rows after the first, from row `i` on; none once every cell of a row
exceeds the threshold. -/
def rows (threshold : Nat) (b : List Char) : Nat → Option Char → List Char → List Nat → List Nat → Option (List Nat)
  | _, _, [], up, _ => some up
  | i, aPrev, ai :: rest, up, up2 =>
    let row := nextRow i (some ai) aPrev b up up2
    if row.foldl min i > threshold then none
    else rows threshold b (i + 1) (some ai) rest row up

/-- The distance between an input and an option, if it is at most the
threshold. -/
def distance (input option : String) (threshold : Nat) : Option Nat :=
  if input == option then some 0
  else
    let inputLower := Text.lower input
    let optionLower := Text.lower option
    if inputLower == optionLower then some 1
    else
      let (a, b) :=
        if optionLower.length < inputLower.length then (inputLower.toList, optionLower.toList)
        else (optionLower.toList, inputLower.toList)
      if a.length - b.length > threshold then none
      else
        match rows threshold b 1 none a (List.range (b.length + 1)) [] with
        | none => none
        | some last =>
          let d := last.getD b.length 0
          if d ≤ threshold then some d else none

/-- A part of a name in natural order: a run of digits or of other
characters. -/
inductive Part where
  | text (s : String)
  | number (n : Nat) (s : String)
  deriving Repr, BEq

/-- Splits a name into runs of digits and of other characters, starting
with a (possibly empty) run of other characters. -/
def parts (s : String) : List Part :=
  let rec go : List Char → List Char → Bool → List Part
    | [], cur, inDigits =>
      let t := String.ofList cur.reverse
      [if inDigits then .number (t.toNat?.getD 0) t else .text t]
    | c :: rest, cur, inDigits =>
      if Text.isAsciiDigit c == inDigits then go rest (c :: cur) inDigits
      else
        let t := String.ofList cur.reverse
        (if inDigits then .number (t.toNat?.getD 0) t else .text t) :: go rest [c] (!inDigits)
  go s.toList [] false

/-- Whether one part comes before another. -/
def Part.lt : Part → Part → Bool
  | .text a, .text b => decide (a < b)
  | .number n s, .number m t => n < m || (n == m && decide (s < t))
  | .text _, .number _ _ => false
  | .number _ _, .text _ => true

/-- Whether one name comes before another in natural order. -/
def naturalLt : List Part → List Part → Bool
  | [], [] => false
  | [], _ :: _ => true
  | _ :: _, [] => false
  | p :: ps, q :: qs => p.lt q || (p == q && naturalLt ps qs)

end Suggest

/-- The options close to an input, nearest first. -/
def suggestionList (input : String) (options : List String) : List String :=
  let threshold := input.length * 2 / 5 + 1
  let scored := options.filterMap fun o => (Suggest.distance input o threshold).map (o, ·)
  let sorted := scored.mergeSort fun (a, d) (b, e) =>
    d < e || (d == e && !Suggest.naturalLt (Suggest.parts b) (Suggest.parts a))
  sorted.map (·.1)

/-- The sentence that offers suggestions, empty when there are none: at most
five names in quotes, the last joined by `or`. -/
def didYouMean (suggestions : List String) (subject : Option String) : String :=
  match suggestions.take 5 with
  | [] => ""
  | shown =>
    let quoted := shown.map fun s => "'" ++ s ++ "'"
    let lead := " Did you mean " ++ (match subject with | some s => s ++ " " | none => "")
    match quoted with
    | [a] => lead ++ a ++ "?"
    | [a, b] => lead ++ a ++ " or " ++ b ++ "?"
    | _ => lead ++ ", ".intercalate quoted.dropLast ++ ", or " ++ quoted.getLastD "" ++ "?"

end TableGraph.GraphQL
