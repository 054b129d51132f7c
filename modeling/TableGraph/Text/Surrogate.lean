import TableGraph.Text.Unicode

/-!
# Texts that hold lone surrogates

A text the library receives is a sequence of code points, and one of them may
be a surrogate (`U+D800 … U+DFFF`) standing alone, not as half of a pair: a
decoder of `\uXXXX` escapes lets such a code point through. A `String` holds
Unicode scalar values only, so a text with a lone surrogate is kept as its
list of code points instead, and every text of scalar values stays a
`String`.

The text rules of the library (case maps, name conversions, the JSON
grammar) treat a lone surrogate like any character that is uncased, not
case-ignorable, unprintable, no blank, no digit and no ASCII letter, and a
private-use character is exactly such a character. `throughStandIns` runs a
`String` function on a text with lone surrogates: each distinct lone
surrogate is replaced by a private-use character the text does not hold, the
function runs, and those characters turn back into their surrogates. This is
exact for functions that make no private-use character of their own, which
case maps and inserted ASCII never do.
-/

namespace TableGraph.Text

/-- Whether a code point is a surrogate. -/
def isSurrogate (n : Nat) : Bool := 0xD800 ≤ n && n ≤ 0xDFFF

/-- Whether a code point is a Unicode scalar value. -/
def isScalar (n : Nat) : Bool := n < 0x110000 && !isSurrogate n

/-- The code points of a string. -/
def codesOf (s : String) : List Nat := s.toList.map Char.toNat

/-- The string of code points that are all scalar values. -/
def stringOfCodes? (codes : List Nat) : Option String :=
  if codes.all isScalar then some (String.ofList (codes.map Char.ofNat)) else none

/-- The character of a code point, U+FFFD for one that is no scalar value. -/
def charOfCode (n : Nat) : Char := if isScalar n then Char.ofNat n else Char.ofNat 0xFFFD

/-- A text as a string, each lone surrogate shown as U+FFFD. -/
def lossyString (codes : List Nat) : String := String.ofList (codes.map charOfCode)

/-- Whether a code point is a private-use character. -/
def isPrivateUse (n : Nat) : Bool :=
  (0xE000 ≤ n && n ≤ 0xF8FF) || (0xF0000 ≤ n && n ≤ 0xFFFFD) || (0x100000 ≤ n && n ≤ 0x10FFFD)

/-- The private-use characters a surrogate may be stood for by, in order:
more than there are surrogates. -/
def standInCandidates : List Nat :=
  List.range' 0xE000 0x1900 ++ List.range' 0xF0000 0xFFFE ++ List.range' 0x100000 0xFFFE

/-- The distinct lone surrogates of a text, each paired with a private-use
character the text does not hold. -/
def standIns (codes : List Nat) : List (Nat × Nat) :=
  let lone := (codes.filter isSurrogate).eraseDups
  let taken := codes.filter isPrivateUse
  lone.zip ((standInCandidates.filter fun n => !taken.contains n).take lone.length)

/-- A text with its lone surrogates replaced by their stand-ins. -/
def substitute (table : List (Nat × Nat)) (codes : List Nat) : String :=
  String.ofList (codes.map fun n => charOfCode ((table.lookup n).getD n))

/-- The code points of a string with the stand-ins turned back into the
surrogates they stand for. -/
def restore (table : List (Nat × Nat)) (s : String) : List Nat :=
  s.toList.map fun c =>
    match table.find? (·.2 == c.toNat) with
    | some (n, _) => n
    | none => c.toNat

/-- A string function applied to a text that may hold lone surrogates. -/
def throughStandIns (f : String → String) (codes : List Nat) : List Nat :=
  let table := standIns codes
  restore table (f (substitute table codes))

/-- A text test applied to a text that may hold lone surrogates. -/
def testThroughStandIns (p : String → Bool) (codes : List Nat) : Bool :=
  p (substitute (standIns codes) codes)

/-- The escape of a surrogate in a literal: `\u` and four lower-case hex
digits. -/
def surrogateEscape (n : Nat) : String :=
  let ds := Nat.toDigits 16 n
  "\\u" ++ String.ofList (List.replicate (4 - ds.length) '0' ++ ds)

/-- Why UTF-8 cannot encode a text: the first run of lone surrogates, by
code point positions, as the encoder reports it; none for a text of scalar
values. -/
def utf8Refusal? (codes : List Nat) : Option String :=
  match codes.findIdx? isSurrogate with
  | none => none
  | some start =>
    let run := ((codes.drop start).takeWhile isSurrogate).length
    let reason := ": surrogates not allowed"
    if run == 1 then
      some ("'utf-8' codec can't encode character '" ++ surrogateEscape (codes.getD start 0) ++
        "' in position " ++ toString start ++ reason)
    else
      some ("'utf-8' codec can't encode characters in position " ++ toString start ++ "-" ++
        toString (start + run - 1) ++ reason)

end TableGraph.Text
