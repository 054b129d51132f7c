import TableGraph.Text.Unicode
import TableGraph.Value.Basic

/-!
# Tokens of the query language

`Token.scan` splits a document into its tokens: punctuators, names, numbers
and strings. Blanks, commas, line breaks, a byte order mark and comments
separate tokens and are dropped. Scanning stops at the first malformed
token; the tokens before it are kept with the message for it, because a
parser reports that message only when it reaches the token.

Strings are read with their escapes (`\n`, `é`, `\u{1F600}`, and
surrogate pairs written as two escapes). Block strings lose the indentation
their lines share and their blank first and last lines.
-/

namespace TableGraph.GraphQL

/-- The kinds of tokens. -/
inductive TokenKind where
  | bang | dollar | amp | parenL | parenR | spread | colon | equals | at | bracketL | bracketR
  | braceL | pipe | braceR | name | int | float | string | blockString | eof
  deriving Repr, BEq, DecidableEq, Inhabited

/-- How messages name a kind of token: a punctuator in quotes, the end as
`<EOF>`, the others by their kind. -/
def TokenKind.describe : TokenKind → String
  | .bang => "'!'" | .dollar => "'$'" | .amp => "'&'" | .parenL => "'('" | .parenR => "')'"
  | .spread => "'...'" | .colon => "':'" | .equals => "'='" | .at => "'@'"
  | .bracketL => "'['" | .bracketR => "']'" | .braceL => "'\x7b'" | .pipe => "'|'"
  | .braceR => "'\x7d'" | .name => "Name" | .int => "Int" | .float => "Float"
  | .string => "String" | .blockString => "BlockString" | .eof => "<EOF>"

/-- A token: its kind and, for names, numbers and strings, its value. -/
structure Token where
  kind : TokenKind
  value : Option String := none
  deriving Repr, BEq, Inhabited

/-- How messages name a token: its kind, then its value in quotes. -/
def Token.describe (t : Token) : String :=
  t.kind.describe ++
    match t.value with
    | some v => " '" ++ v ++ "'"
    | none => ""

/-- The tokens of a document up to the first malformed one, and the message
for that one if there is one. -/
structure Scan where
  tokens : List Token
  failure : Option String
  deriving Repr, Inhabited

namespace Lexer

/-- The punctuator a character stands for on its own. -/
def punctuator? : Char → Option TokenKind
  | '!' => some .bang | '$' => some .dollar | '&' => some .amp | '(' => some .parenL
  | ')' => some .parenR | ':' => some .colon | '=' => some .equals | '@' => some .at
  | '[' => some .bracketL | ']' => some .bracketR | '\x7b' => some .braceL | '|' => some .pipe
  | '\x7d' => some .braceR | _ => none

/-- Whether a character may start a name. -/
def isNameStart (c : Char) : Bool := c == '_' || Text.isAsciiAlpha c

/-- Whether a character may continue a name. -/
def isNameContinue (c : Char) : Bool := isNameStart c || Text.isAsciiDigit c

/-- How messages show the character at a point: printable ASCII in quotes,
anything else as `U+XXXX`, and the end as `<EOF>`. -/
def describeAt : List Char → String
  | [] => "<EOF>"
  | c :: _ =>
    if 0x20 ≤ c.toNat && c.toNat ≤ 0x7E then
      if c == '"' then "'\"'" else "'" ++ String.singleton c ++ "'"
    else "U+" ++ (hexDigits c.toNat 4).toUpper

/-- The value of a hexadecimal digit. -/
def hexValue? (c : Char) : Option Nat :=
  if Text.isAsciiDigit c then some (c.toNat - '0'.toNat)
  else if 'a' ≤ c && c ≤ 'f' then some (c.toNat - 'a'.toNat + 10)
  else if 'A' ≤ c && c ≤ 'F' then some (c.toNat - 'A'.toNat + 10)
  else none

/-- The value of four hexadecimal digits. -/
def hex4? (a b c d : Char) : Option Nat := do
  pure ((← hexValue? a) * 4096 + (← hexValue? b) * 256 + (← hexValue? c) * 16 + (← hexValue? d))

/-- Whether a number is a Unicode scalar value. -/
def isScalar (n : Nat) : Bool := n ≤ 0xD7FF || (0xE000 ≤ n && n ≤ 0x10FFFF)

/-- Reads a name; the first character is already known to start one. -/
def readName (cs : List Char) : Token × List Char :=
  (⟨.name, some (String.ofList (cs.takeWhile isNameContinue))⟩, cs.dropWhile isNameContinue)

/-- Reads one or more digits, failing when the first character is none. -/
def readDigits (cs : List Char) : Except String (List Char × List Char) :=
  match cs with
  | c :: _ =>
    if Text.isAsciiDigit c then .ok (cs.takeWhile Text.isAsciiDigit, cs.dropWhile Text.isAsciiDigit)
    else .error ("Invalid number, expected digit but got: " ++ describeAt cs ++ ".")
  | [] => .error ("Invalid number, expected digit but got: " ++ describeAt cs ++ ".")

/-- Reads an exponent's sign and digits, after the `e`. -/
def readExponent (cs : List Char) : Except String (List Char × List Char) :=
  match cs with
  | '+' :: rest => do let (ds, r) ← readDigits rest; pure ('+' :: ds, r)
  | '-' :: rest => do let (ds, r) ← readDigits rest; pure ('-' :: ds, r)
  | _ => readDigits cs

/-- Reads a number: an optional minus, an integer part without leading
zeros, then an optional fraction and exponent. A number may not be followed
directly by a point or a name. -/
def readNumber (cs : List Char) : Except String (Token × List Char) := do
  let (sign, afterSign) := match cs with
    | '-' :: rest => (['-'], rest)
    | _ => ([], cs)
  let (whole, afterWhole) ← match afterSign with
    | '0' :: rest =>
      match rest with
      | d :: _ =>
        if Text.isAsciiDigit d then
          .error ("Invalid number, unexpected digit after 0: " ++ describeAt rest ++ ".")
        else .ok (['0'], rest)
      | [] => .ok (['0'], rest)
    | _ => readDigits afterSign
  let (fraction, afterFraction) ← match afterWhole with
    | '.' :: rest => do let (ds, r) ← readDigits rest; pure ('.' :: ds, r)
    | _ => pure ([], afterWhole)
  let (exponent, afterExponent) ← match afterFraction with
    | 'e' :: rest => do let (ds, r) ← readExponent rest; pure ('e' :: ds, r)
    | 'E' :: rest => do let (ds, r) ← readExponent rest; pure ('E' :: ds, r)
    | _ => pure ([], afterFraction)
  match afterExponent with
  | c :: _ =>
    if c == '.' || isNameStart c then
      throw ("Invalid number, expected digit but got: " ++ describeAt afterExponent ++ ".")
  | [] => pure ()
  let kind := if fraction.isEmpty && exponent.isEmpty then TokenKind.int else .float
  pure (⟨kind, some (String.ofList (sign ++ whole ++ fraction ++ exponent))⟩, afterExponent)

/-- Reads the hex digits of a `\u{...}` escape; `window` holds what follows
the brace, up to the longest escape allowed, and `seen` what was read of it. -/
def readBraced (start : List Char) : List Char → Nat → List Char → Except String (Char × List Char)
  | [], _, seen => .error ("Invalid Unicode escape sequence: '" ++ String.ofList (start ++ seen.reverse) ++ "'.")
  | c :: rest, point, seen =>
    if c == '\x7d' then
      if seen.isEmpty || !isScalar point then
        .error ("Invalid Unicode escape sequence: '" ++ String.ofList (start ++ (c :: seen).reverse) ++ "'.")
      else .ok (Char.ofNat point, rest)
    else
      match hexValue? c with
      | some v => readBraced start rest (point * 16 + v) (c :: seen)
      | none => .error ("Invalid Unicode escape sequence: '" ++ String.ofList (start ++ (c :: seen).reverse) ++ "'.")

/-- Reads an escape after its backslash, giving the character it stands for
and the rest of the input. -/
def readEscape (cs : List Char) : Except String (Char × List Char) :=
  match cs with
  | 'u' :: '\x7b' :: rest =>
    -- an escape is at most twelve characters long, backslash included
    let window := rest.take 9
    match readBraced ['\\', 'u', '\x7b'] window 0 [] with
    | .ok (c, _) =>
      let used := (window.takeWhile (· != '\x7d')).length + 1
      .ok (c, rest.drop used)
    | .error e => .error e
  | 'u' :: a :: b :: c :: d :: rest =>
    let invalid := "Invalid Unicode escape sequence: '\\u" ++ String.ofList [a, b, c, d] ++ "'."
    match hex4? a b c d with
    | some n =>
      if isScalar n then .ok (Char.ofNat n, rest)
      else if 0xD800 ≤ n && n ≤ 0xDBFF then
        match rest with
        | '\\' :: 'u' :: e :: f :: g :: h :: rest' =>
          match hex4? e f g h with
          | some m =>
            if 0xDC00 ≤ m && m ≤ 0xDFFF then
              .ok (Char.ofNat (0x10000 + (n - 0xD800) * 0x400 + (m - 0xDC00)), rest')
            else .error invalid
          | none => .error invalid
        | _ => .error invalid
      else .error invalid
    | none => .error invalid
  | 'u' :: rest => .error ("Invalid Unicode escape sequence: '\\u" ++ String.ofList rest ++ "'.")
  | '"' :: rest => .ok ('"', rest)
  | '\\' :: rest => .ok ('\\', rest)
  | '/' :: rest => .ok ('/', rest)
  | 'b' :: rest => .ok (Char.ofNat 8, rest)
  | 'f' :: rest => .ok (Char.ofNat 12, rest)
  | 'n' :: rest => .ok ('\n', rest)
  | 'r' :: rest => .ok ('\r', rest)
  | 't' :: rest => .ok ('\t', rest)
  | c :: _ => .error ("Invalid character escape sequence: '\\" ++ String.singleton c ++ "'.")
  | [] => .error "Invalid character escape sequence: '\\'."

/-- Reads the body of a quoted string after its opening quote; `acc` holds
the characters read, last first. -/
def readString : List Char → List Char → Except String (Token × List Char)
  | [], _ => .error "Unterminated string."
  | '"' :: rest, acc => .ok (⟨.string, some (String.ofList acc.reverse)⟩, rest)
  | '\n' :: _, _ => .error "Unterminated string."
  | '\r' :: _, _ => .error "Unterminated string."
  | '\\' :: rest, acc =>
    match readEscape rest with
    | .ok (c, rest') =>
      if rest'.length < rest.length then readString rest' (c :: acc) else .error "Unterminated string."
    | .error e => .error e
  | c :: rest, acc => readString rest (c :: acc)
termination_by cs => cs.length

/-- The number of blanks a line starts with. -/
def indentOf (line : List Char) : Nat := (line.takeWhile (fun c => c == ' ' || c == '\t')).length

/-- The lines of a block string without the indentation shared by all lines
but the first and without leading and trailing blank lines. -/
def dedent (lines : List (List Char)) : List (List Char) :=
  let indexed := lines.zipIdx
  let nonBlank := indexed.filter fun (l, _) => indentOf l != l.length
  let common := (nonBlank.filter (·.2 != 0)).foldl (fun m (l, _) => min m (indentOf l)) lines.length.succ
  let common := if (nonBlank.filter (·.2 != 0)).isEmpty then 0 else common
  let first := match nonBlank.head? with
    | some (_, i) => i
    | none => 0
  let last := match nonBlank.getLast? with
    | some (_, i) => i + 1
    | none => 0
  let stripped := indexed.map fun (l, i) => if i == 0 then l else l.drop common
  (stripped.drop first).take (last - first)

/-- Reads the body of a block string after its opening quotes; `line` holds
the current line, last character first, and `lines` the finished lines. -/
def readBlock : List Char → List Char → List (List Char) → Except String (Token × List Char)
  | [], _, _ => .error "Unterminated string."
  | '"' :: '"' :: '"' :: rest, line, lines =>
    let all := (line.reverse :: lines).reverse
    .ok (⟨.blockString, some ("\n".intercalate ((dedent all).map String.ofList))⟩, rest)
  | '\\' :: '"' :: '"' :: '"' :: rest, line, lines => readBlock rest ('"' :: '"' :: '"' :: line) lines
  | '\r' :: '\n' :: rest, line, lines => readBlock rest [] (line.reverse :: lines)
  | '\n' :: rest, line, lines => readBlock rest [] (line.reverse :: lines)
  | '\r' :: rest, line, lines => readBlock rest [] (line.reverse :: lines)
  | c :: rest, line, lines => readBlock rest (c :: line) lines

/-- Reads the next token, after dropping what separates tokens. -/
def next : List Char → Except String (Token × List Char)
  | [] => .ok (⟨.eof, none⟩, [])
  | c :: rest =>
    if c == ' ' || c == '\t' || c == ',' || c == '\n' || c == '\r' || c.toNat == 0xFEFF then next rest
    else if c == '#' then next (rest.dropWhile (fun d => d != '\n' && d != '\r'))
    else
      match punctuator? c with
      | some k => .ok (⟨k, none⟩, rest)
      | none =>
        if isNameStart c then .ok (readName (c :: rest))
        else if Text.isAsciiDigit c || c == '-' then readNumber (c :: rest)
        else if c == '"' then
          match rest with
          | '"' :: '"' :: body => readBlock body [] []
          | _ => readString rest []
        else if c == '.' then
          match rest with
          | '.' :: '.' :: rest' => .ok (⟨.spread, none⟩, rest')
          | '.' :: _ => .error "Unexpected '..', did you mean '...'?"
          | d :: _ =>
            if Text.isAsciiDigit d then
              .error ("Invalid number, expected digit before '.', did you mean '0." ++
                String.ofList (rest.takeWhile Text.isAsciiDigit) ++ "'?")
            else .error ("Unexpected character: " ++ describeAt (c :: rest) ++ ".")
          | [] => .error ("Unexpected character: " ++ describeAt (c :: rest) ++ ".")
        else if c == '\'' then
          .error "Unexpected single quote character ('), did you mean to use a double quote (\")?"
        else .error ("Unexpected character: " ++ describeAt (c :: rest) ++ ".")
termination_by cs => cs.length
decreasing_by
  all_goals simp only [List.length_cons]
  all_goals first
    | omega
    | exact Nat.lt_succ_of_le (List.dropWhile_suffix _).length_le

/-- Scans tokens until the end or the first malformed token; `fuel` bounds
the number of tokens, and one more than the number of characters suffices,
since every token but the end consumes a character. -/
def scanFrom : Nat → List Char → List Token → Scan
  | 0, _, acc => ⟨(⟨.eof, none⟩ :: acc).reverse, none⟩
  | fuel + 1, cs, acc =>
    match next cs with
    | .error e => ⟨acc.reverse, some e⟩
    | .ok (t, rest) =>
      if t.kind == .eof then ⟨(t :: acc).reverse, none⟩ else scanFrom fuel rest (t :: acc)

end Lexer

/-- The tokens of a document, ending with the end token, or up to the first
malformed token with the message for it. -/
def Token.scan (s : String) : Scan := Lexer.scanFrom (s.length + 1) s.toList []

end TableGraph.GraphQL
