import TableGraph.Text.CaseTable
import TableGraph.Text.Printable

/-!
# Character classes and case maps

The text rules of the library are stated over Unicode, not over ASCII:
names are lower-cased and capitalised, numbers are read from text that may
carry blanks and digits of any script, and values are stripped of blanks
before they are parsed. This module holds the classes and maps those rules
need; the tables behind them are in `CaseTable` and `Printable`.

* `isBlank` is the class of characters that separate words (category `Zs`
  and the bidirectional classes `WS`, `B`, `S`).
* `digitValue?` reads a decimal digit of any script (category `Nd`): every
  such script puts its ten digits on consecutive code points.
* `upperChars`, `lowerChars` and `titleChars` are the full case maps of
  Unicode 14.0: one character may map to several (`ß` upper-cases to `SS`).
* `lower` also follows the final-sigma rule: a capital sigma that ends a word
  (a cased character before it, none after it, looking through
  case-ignorable characters) becomes `ς`.
* `isPrintable` is the class of characters a text literal shows as
  themselves.
-/

namespace TableGraph.Text

/-- Blank characters: the separators that stripping removes. -/
def isBlank (c : Char) : Bool :=
  let n := c.toNat
  (0x09 ≤ n && n ≤ 0x0D) || (0x1C ≤ n && n ≤ 0x20) || n == 0x85 || n == 0xA0 ||
  n == 0x1680 || (0x2000 ≤ n && n ≤ 0x200A) || n == 0x2028 || n == 0x2029 ||
  n == 0x202F || n == 0x205F || n == 0x3000

/-- Code points of the digit zero of every script with decimal digits. -/
def digitZeros : List Nat :=
  [0x0030, 0x0660, 0x06F0, 0x07C0, 0x0966, 0x09E6, 0x0A66, 0x0AE6, 0x0B66,
   0x0BE6, 0x0C66, 0x0CE6, 0x0D66, 0x0DE6, 0x0E50, 0x0ED0, 0x0F20, 0x1040,
   0x1090, 0x17E0, 0x1810, 0x1946, 0x19D0, 0x1A80, 0x1A90, 0x1B50, 0x1BB0,
   0x1C40, 0x1C50, 0xA620, 0xA8D0, 0xA900, 0xA9D0, 0xA9F0, 0xAA50, 0xABF0,
   0xFF10, 0x104A0, 0x10D30, 0x11066, 0x110F0, 0x11136, 0x111D0, 0x112F0,
   0x11450, 0x114D0, 0x11650, 0x116C0, 0x11730, 0x118E0, 0x11950, 0x11C50,
   0x11D50, 0x11DA0, 0x16A60, 0x16AC0, 0x16B50, 0x1D7CE, 0x1D7D8, 0x1D7E2,
   0x1D7EC, 0x1D7F6, 0x1E140, 0x1E2F0, 0x1E950, 0x1FBF0]

/-- The value of a decimal digit of any script, or `none`. -/
def digitValue? (c : Char) : Option Nat :=
  let n := c.toNat
  match digitZeros.find? (fun z => z ≤ n && n < z + 10) with
  | some z => some (n - z)
  | none => none

/-- An ASCII decimal digit. -/
def isAsciiDigit (c : Char) : Bool := '0' ≤ c && c ≤ '9'

/-- An ASCII letter. -/
def isAsciiAlpha (c : Char) : Bool := ('a' ≤ c && c ≤ 'z') || ('A' ≤ c && c ≤ 'Z')

/-- An ASCII capital letter. -/
def isAsciiUpper (c : Char) : Bool := 'A' ≤ c && c ≤ 'Z'

/-- An ASCII small letter. -/
def isAsciiLower (c : Char) : Bool := 'a' ≤ c && c ≤ 'z'

/-- The character with code point `n` (or NUL when `n` is no scalar value). -/
def chr (n : Nat) : Char := Char.ofNat n

/-- `n` lies in the closed range `[lo, hi]`. -/
def inBlock (n lo hi : Nat) : Bool := lo ≤ n && n ≤ hi

/-- `n` is a member of a case run. -/
def CaseRun.covers (r : CaseRun) (n : Nat) : Bool :=
  r.first ≤ n && n ≤ r.last && (n - r.first) % r.step == 0

/-- The image of a code point under the simple map of a list of runs. -/
def runImage (runs : List CaseRun) (n : Nat) : Nat :=
  match runs.find? (·.covers n) with
  | some r => (n + r.shift).toNat
  | none => n

/-- The full map of one character: its special entry, else its run image. -/
def caseMap (special : List (Nat × List Nat)) (runs : List CaseRun) (c : Char) : List Char :=
  match special.find? (·.1 == c.toNat) with
  | some (_, ms) => ms.map chr
  | none => [chr (runImage runs c.toNat)]

/-- `n` lies in one of a list of closed ranges. -/
def inRanges (rs : List (Nat × Nat)) (n : Nat) : Bool :=
  rs.any fun (lo, hi) => lo ≤ n && n ≤ hi

/-- Full upper-case map of one character. -/
def upperChars (c : Char) : List Char := caseMap upperSpecial upperRuns c

/-- Full lower-case map of one character. -/
def lowerChars (c : Char) : List Char := caseMap lowerSpecial lowerRuns c

/-- Title case of one character: the upper case, except for the characters
whose title form differs (`ß` titles as `Ss`, `ǆ` as `ǅ`). -/
def titleChars (c : Char) : List Char :=
  match titleSpecial.find? (·.1 == c.toNat) with
  | some (_, ms) => ms.map chr
  | none => upperChars c

/-- A cased character: a capital, small or title-case letter. -/
def isCased (c : Char) : Bool := inRanges casedRanges c.toNat

/-- A character that case rules look through: marks, modifiers and
word-internal punctuation such as the apostrophe. -/
def isCaseIgnorable (c : Char) : Bool := inRanges caseIgnorableRanges c.toNat

/-- A character a text literal writes as itself. -/
def isPrintable (c : Char) : Bool := inRanges printableRanges c.toNat

/-- The capital sigma `Σ`. -/
def capitalSigma : Char := chr 0x03A3

/-- A capital sigma between `before` (nearest character first) and `after`
ends a word: looking through case-ignorable characters, a cased character
precedes it and none follows. -/
def endsWord (before after : List Char) : Bool :=
  (match before.dropWhile isCaseIgnorable with
   | c :: _ => isCased c
   | [] => false) &&
  (match after.dropWhile isCaseIgnorable with
   | c :: _ => !isCased c
   | [] => true)

/-- Lower-cases the characters `rest` that follow `before` (nearest first):
a capital sigma that ends a word becomes the final sigma `ς`, any other
the small sigma `σ`. -/
def lowerAfter : List Char → List Char → List Char
  | _, [] => []
  | before, c :: rest =>
    (if c == capitalSigma then [chr (if endsWord before rest then 0x03C2 else 0x03C3)]
     else lowerChars c) ++ lowerAfter (c :: before) rest

/-- Upper-cases every character of a text with the full map. -/
def upper (s : String) : String := String.ofList (s.toList.flatMap upperChars)

/-- Lower-cases every character of a text with the full map and the
final-sigma rule. -/
def lower (s : String) : String := String.ofList (lowerAfter [] s.toList)

/-- A text in sentence case: the first character titled, the rest
lower-cased, sigmas judged within the whole text. -/
def sentenceCase (s : String) : String :=
  match s.toList with
  | [] => ""
  | c :: rest => String.ofList (titleChars c ++ lowerAfter [c] rest)

/-- Lower-cases ASCII letters only, leaving every other character alone. -/
def asciiLower (s : String) : String :=
  String.ofList (s.toList.map fun c => if isAsciiUpper c then chr (c.toNat + 32) else c)

/-- Drops blank characters from both ends of a list of characters. -/
def trimBlank (cs : List Char) : List Char :=
  ((cs.dropWhile isBlank).reverse.dropWhile isBlank).reverse

/-- Drops blank characters from both ends of a text. -/
def strip (s : String) : String := String.ofList (trimBlank s.toList)

end TableGraph.Text
