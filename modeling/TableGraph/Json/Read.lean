import TableGraph.Json.Basic
import TableGraph.Number.Parse

/-!
# Reading JSON text

`Json.parse?` reads one JSON document with blanks (space, tab, line feed,
carriage return) around it and nothing else. Besides the standard grammar it
takes the words `NaN`, `Infinity` and `-Infinity` as numbers. Strings refuse
raw control characters; `\uXXXX` escapes join surrogate pairs, and a
surrogate left alone is kept (the string is then `stringCodes`; an object
key shows it as U+FFFD). A number is the longest prefix of the
form `-?(0|[1-9][0-9]*)(.[0-9]+)?([eE][+-]?[0-9]+)?`; whatever follows it
must fit the grammar on its own. An integer (a number without fraction and
exponent) of more than `Number.intDigitLimit` digits is refused.

Reading is by recursive descent with a budget of steps taken from the length
of the text, which every document fits. `Json.read` also bounds how deeply
arrays and objects may nest, and says whether a refused text broke the
grammar or nested too deeply.
-/

namespace TableGraph.Json

/-- JSON blanks. -/
def isJsonBlank (c : Char) : Bool := c == ' ' || c == '\t' || c == '\n' || c == '\r'

/-- Drops leading blanks. -/
def skipBlank (cs : List Char) : List Char := cs.dropWhile isJsonBlank

/-- The value of a hex digit. -/
def hexValue? (c : Char) : Option Nat :=
  if '0' ≤ c && c ≤ '9' then some (c.toNat - '0'.toNat)
  else if 'a' ≤ c && c ≤ 'f' then some (c.toNat - 'a'.toNat + 10)
  else if 'A' ≤ c && c ≤ 'F' then some (c.toNat - 'A'.toNat + 10)
  else none

/-- Four hex digits as a number. -/
def hex4Value? (a b c d : Char) : Option Nat := do
  let a ← hexValue? a
  let b ← hexValue? b
  let c ← hexValue? c
  let d ← hexValue? d
  pure (((a * 16 + b) * 16 + c) * 16 + d)

/-- The code point a raw character of the text stands for: the surrogate a
stand-in replaces (see `Text.standIns`), else its own. -/
def rawCode (table : List (Nat × Nat)) (c : Char) : Nat :=
  match table.find? (·.2 == c.toNat) with
  | some (n, _) => n
  | none => c.toNat

/-- Reads the rest of a string after its opening quote; `acc` holds the code
points read so far, last first. An escaped surrogate that is not the first
half of an escaped pair is kept alone. -/
def readStringBody (table : List (Nat × Nat)) : List Char → List Nat → Option (List Nat × List Char)
  | [], _ => none
  | '"' :: rest, acc => some (acc.reverse, rest)
  | '\\' :: 'u' :: a :: b :: c :: d :: rest, acc =>
    match hex4Value? a b c d with
    | none => none
    | some hi =>
      if 0xD800 ≤ hi && hi ≤ 0xDBFF then
        match _hr : rest with
        | '\\' :: 'u' :: e :: f :: g :: h :: more =>
          match hex4Value? e f g h with
          | some lo =>
            if 0xDC00 ≤ lo && lo ≤ 0xDFFF then
              readStringBody table more ((0x10000 + (hi - 0xD800) * 0x400 + (lo - 0xDC00)) :: acc)
            else readStringBody table rest (hi :: acc)
          | none => none
        | _ => readStringBody table rest (hi :: acc)
      else readStringBody table rest (hi :: acc)
  | '\\' :: e :: rest, acc =>
    let c? : Option Char := match e with
      | '"' => some '"'
      | '\\' => some '\\'
      | '/' => some '/'
      | 'b' => some (Char.ofNat 8)
      | 'f' => some (Char.ofNat 12)
      | 'n' => some '\n'
      | 'r' => some '\r'
      | 't' => some '\t'
      | _ => none
    match c? with
    | some c => readStringBody table rest (c.toNat :: acc)
    | none => none
  | c :: rest, acc => if c.toNat < 0x20 then none else readStringBody table rest (rawCode table c :: acc)
  termination_by cs => cs.length
  decreasing_by
    all_goals (try simp_wf)
    all_goals (try simp_all)
    all_goals omega

/-- ASCII digits at the front of a list. -/
def leadingDigits (cs : List Char) : List Char := cs.takeWhile Text.isAsciiDigit

/-- Reads the longest number prefix; returns its text and the rest. -/
def readNumber? (cs : List Char) : Option (String × List Char) :=
  let (sign, body) := match cs with
    | '-' :: r => (['-'], r)
    | _ => ([], cs)
  let intPart := match body with
    | '0' :: _ => ['0']
    | _ => leadingDigits body
  if intPart.isEmpty then none
  else
    let rest := body.drop intPart.length
    let (frac, rest) := match rest with
      | '.' :: r =>
        let ds := leadingDigits r
        if ds.isEmpty then ([], rest) else ('.' :: ds, r.drop ds.length)
      | _ => ([], rest)
    let (expo, rest) := match rest with
      | e :: r =>
        if e == 'e' || e == 'E' then
          let (s, r2) := match r with
            | '+' :: r2 => (['+'], r2)
            | '-' :: r2 => (['-'], r2)
            | _ => ([], r)
          let ds := leadingDigits r2
          if ds.isEmpty then ([], rest) else (e :: s ++ ds, r2.drop ds.length)
        else ([], rest)
      | [] => ([], [])
    if frac.isEmpty && expo.isEmpty && intPart.length > Number.intDigitLimit then none
    else some (String.ofList (sign ++ intPart ++ frac ++ expo), rest)

/-- Why a text is not read as a JSON document. -/
inductive ReadFailure where
  /-- The text does not follow the grammar. -/
  | malformed
  /-- An array (or, when the flag is false, an object) opens deeper than the
  reader may descend. -/
  | tooDeep (isArray : Bool)
  deriving Repr, BEq, Inhabited

/-- The outcome of one reading step: the value read and the rest of the
text, or why reading stopped. -/
abbrev Reading := Except ReadFailure (Json × List Char)

/-- A step that can only fail on the grammar. -/
def Reading.ofOption : Option (Json × List Char) → Reading
  | some r => .ok r
  | none => .error .malformed

mutual

/-- Reads one value after skipping blanks; `depth` is how many more arrays
and objects may open. -/
def readValue (table : List (Nat × Nat)) : Nat → Nat → List Char → Reading
  | 0, _, _ => .error .malformed
  | fuel + 1, depth, cs =>
    match skipBlank cs with
    | '"' :: rest => Reading.ofOption ((readStringBody table rest []).map fun (s, r) => (Json.ofCodes s, r))
    | '{' :: rest =>
      match depth with
      | 0 => .error (.tooDeep false)
      | d + 1 => readObject table fuel d rest
    | '[' :: rest =>
      match depth with
      | 0 => .error (.tooDeep true)
      | d + 1 => readArray table fuel d rest
    | 'n' :: 'u' :: 'l' :: 'l' :: rest => .ok (.null, rest)
    | 't' :: 'r' :: 'u' :: 'e' :: rest => .ok (.bool true, rest)
    | 'f' :: 'a' :: 'l' :: 's' :: 'e' :: rest => .ok (.bool false, rest)
    | cs' =>
      match readNumber? cs' with
      | some (t, rest) => .ok (.number t, rest)
      | none =>
        match cs' with
        | 'N' :: 'a' :: 'N' :: rest => .ok (.number "NaN", rest)
        | 'I' :: 'n' :: 'f' :: 'i' :: 'n' :: 'i' :: 't' :: 'y' :: rest => .ok (.number "Infinity", rest)
        | '-' :: 'I' :: 'n' :: 'f' :: 'i' :: 'n' :: 'i' :: 't' :: 'y' :: rest =>
          .ok (.number "-Infinity", rest)
        | _ => .error .malformed

/-- Reads the items of an array after its `[`. -/
def readArray (table : List (Nat × Nat)) : Nat → Nat → List Char → Reading
  | 0, _, _ => .error .malformed
  | fuel + 1, depth, cs =>
    match skipBlank cs with
    | ']' :: rest => .ok (.array [], rest)
    | _ => readItems table fuel depth cs []

/-- Reads items separated by commas up to the closing `]`. -/
def readItems (table : List (Nat × Nat)) : Nat → Nat → List Char → List Json → Reading
  | 0, _, _, _ => .error .malformed
  | fuel + 1, depth, cs, acc =>
    match readValue table fuel depth cs with
    | .error e => .error e
    | .ok (v, rest) =>
      match skipBlank rest with
      | ']' :: rest => .ok (.array (v :: acc).reverse, rest)
      | ',' :: rest => readItems table fuel depth rest (v :: acc)
      | _ => .error .malformed

/-- Reads the members of an object after its `{`. -/
def readObject (table : List (Nat × Nat)) : Nat → Nat → List Char → Reading
  | 0, _, _ => .error .malformed
  | fuel + 1, depth, cs =>
    match skipBlank cs with
    | '}' :: rest => .ok (.object [], rest)
    | _ => readMembers table fuel depth cs []

/-- Reads `"key": value` members separated by commas up to the closing `}`. -/
def readMembers (table : List (Nat × Nat)) : Nat → Nat → List Char → List (String × Json) → Reading
  | 0, _, _, _ => .error .malformed
  | fuel + 1, depth, cs, acc =>
    match skipBlank cs with
    | '"' :: rest =>
      match readStringBody table rest [] with
      | none => .error .malformed
      | some (k, rest) =>
        let k := Text.lossyString k
        match skipBlank rest with
        | ':' :: rest =>
          match readValue table fuel depth rest with
          | .error e => .error e
          | .ok (v, rest) =>
            match skipBlank rest with
            | '}' :: rest => .ok (.object ((k, v) :: acc).reverse, rest)
            | ',' :: rest => readMembers table fuel depth rest ((k, v) :: acc)
            | _ => .error .malformed
        | _ => .error .malformed
    | _ => .error .malformed

end

/-- Reads a text, with the stand-ins of `table` in place of its lone
surrogates, as one JSON document in which arrays and objects nest at most
`depth` deep. Reading goes from left to right, so a text that breaks the
grammar before it nests too deep is malformed, and one that nests too deep
first is refused for its depth. -/
def readWith (table : List (Nat × Nat)) (depth : Nat) (s : String) : Except ReadFailure Json :=
  let cs := s.toList
  match readValue table (2 * cs.length + 2) depth cs with
  | .ok (j, rest) => if (skipBlank rest).isEmpty then .ok j else .error .malformed
  | .error e => .error e

/-- Reads a whole text as one JSON document in which arrays and objects nest
at most `depth` deep. -/
def read (depth : Nat) (s : String) : Except ReadFailure Json := readWith [] depth s

/-- Reads a text given by its code points, which may hold lone surrogates.
Outside strings a lone surrogate breaks the grammar as any other character
does; inside one it is kept, as a raw control character would not be. -/
def readCodes (depth : Nat) (codes : List Nat) : Except ReadFailure Json :=
  let table := Text.standIns codes
  readWith table depth (Text.substitute table codes)

/-- Reads a whole text as one JSON document. Nesting needs a character per
level, so the length of the text bounds it and only the grammar can refuse. -/
def parse? (s : String) : Option Json :=
  match read s.length s with
  | .ok j => some j
  | .error _ => none

end TableGraph.Json
