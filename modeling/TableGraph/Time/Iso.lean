import TableGraph.Time.Calendar
import TableGraph.Text.Surrogate

/-!
# Reading ISO 8601 dates and times

The readers take the extended and basic ISO forms over the UTF-8 bytes of
the text, a byte past the end reading as NUL:

* dates `YYYY-MM-DD`, `YYYYMMDD` and week dates `YYYY-Www[-D]`,
  `YYYYWww[D]` (a missing weekday is Monday);
* times `HH[:MM[:SS[.f…]]]` or the same without colons, at most six
  fraction digits counted (more are skipped), then `Z` or `±HH[:MM…]`;
* date-times: a date, one separator character of any value, a time. Where
  the separator stands is read off the shape of the date (byte 10 for
  `YYYY-MM-DD`, 8 for `YYYYMMDD`, and so on), its width off its first byte,
  and texts shorter than seven characters are refused. A text holding a
  lone surrogate is read only when it stands at code point 7, 8 or 10,
  where it counts as the separator `T`.

A reader answers `none` when the text does not have the form or a field is
out of range. These rules, the quirks of the form included (a date text of
length 7, 8 or 10 is read from its start without checking what follows the
day), are what the value readers of the API accept.
-/

namespace TableGraph.Time

/-- A text as bytes with the position being read. -/
structure Cursor where
  bytes : Array UInt8
  pos : Nat

namespace Cursor

/-- The byte at an offset from the position, NUL past the end. -/
def peekAt (c : Cursor) (k : Nat) : UInt8 := c.bytes.getD (c.pos + k) 0

/-- The byte at the position. -/
def peek (c : Cursor) : UInt8 := c.peekAt 0

/-- Moves by `k` bytes. -/
def advance (c : Cursor) (k : Nat) : Cursor := { c with pos := c.pos + k }

end Cursor

/-- An ASCII digit byte. -/
def isDigitByte (b : UInt8) : Bool := 48 ≤ b && b ≤ 57

/-- Reads exactly `n` ASCII digits at the cursor. -/
def readFixedDigits (c : Cursor) (n : Nat) : Option (Nat × Cursor) :=
  let rec go (k acc : Nat) (fuel : Nat) : Option Nat :=
    match fuel with
    | 0 => some acc
    | fuel + 1 =>
      let b := c.peekAt k
      if isDigitByte b then go (k + 1) (10 * acc + (b.toNat - 48)) fuel else none
  (go 0 0 n).map fun v => (v, c.advance n)

/-- Reads a date field by field; the result is the year, month and day as
written (or the converted week date) and where reading stopped. The `limit`
is the length of the date part, used only to tell whether a week date has a
weekday. -/
def readDateFields (c : Cursor) (limit : Nat) : Option (Nat × Nat × Nat) := do
  let (year, c) ← readFixedDigits c 4
  let sep := c.peek == 45
  let c := if sep then c.advance 1 else c
  if c.peek == 87 then
    let c := c.advance 1
    let (week, c) ← readFixedDigits c 2
    let (day, _) ← if c.pos < limit then
        if sep && c.peek != 45 then none
        else
          let c := if sep then c.advance 1 else c
          readFixedDigits c 1
      else some (1, c)
    let d ← ofIsoWeek? year week day
    pure (d.year, d.month, d.day)
  else
    let (month, c) ← readFixedDigits c 2
    if sep && c.peek != 45 then none
    let c := if sep then c.advance 1 else c
    let (day, _) ← readFixedDigits c 2
    pure (year, month, day)

/-- Clock fields read so far and whether text remains after them. -/
structure ClockFields where
  hour : Nat
  minute : Nat
  second : Nat
  micro : Nat
  /-- Something other than the end of the text follows the fields. -/
  more : Bool

/-- What follows a two-digit clock field. -/
inductive FieldEnd where
  /-- The field ends the part; `more` when the byte after it is not NUL. -/
  | done (more : Bool)
  /-- Another field starts at the position. -/
  | next (pos : Nat)
  /-- A fraction starts at the position. -/
  | fraction (pos : Nat)
  /-- A separator that breaks the form. -/
  | broken

/-- Classifies the byte after a field: the part ends when that byte reaches
`stop`, a colon continues a colon-separated form, a point or comma starts the
fraction, and in the form without colons the next field starts at once. -/
def fieldEnd (c : Cursor) (stop : Nat) (colons : Bool) : FieldEnd :=
  let b := c.peek
  let p := c.pos + 1
  if p ≥ stop then .done (b != 0)
  else if colons && b == 58 then .next p
  else if b == 46 || b == 44 then .fraction p
  else if !colons then .next c.pos
  else .broken

/-- Reads the fraction of a second at a position: as many digits as remain
before `stop`, at most six, scaled to microseconds; further digits are
skipped. -/
def readFraction (bytes : Array UInt8) (p stop h m s : Nat) : Option ClockFields := do
  let remains := stop - p
  let take := if remains ≥ 6 then 6 else remains
  let (digits, c) ← readFixedDigits ⟨bytes, p⟩ take
  let rest := (List.range (bytes.size - c.pos)).map (fun k => c.peekAt k)
  let c := c.advance (rest.takeWhile isDigitByte).length
  pure ⟨h, m, s, digits * Nat.pow 10 (6 - take), c.peek != 0⟩

/-- Reads `HH[:MM[:SS]]` (colons all or none, as the byte after the hour
says) and an optional fraction, up to the byte position `stop`. -/
def readClock (c : Cursor) (stop : Nat) : Option ClockFields := do
  let (h, c) ← readFixedDigits c 2
  let colons := c.peek == 58
  match fieldEnd c stop colons with
  | .done more => pure ⟨h, 0, 0, 0, more⟩
  | .broken => none
  | .fraction p => readFraction c.bytes p stop h 0 0
  | .next p =>
    let (m, c) ← readFixedDigits ⟨c.bytes, p⟩ 2
    match fieldEnd c stop colons with
    | .done more => pure ⟨h, m, 0, 0, more⟩
    | .broken => none
    | .fraction p => readFraction c.bytes p stop h m 0
    | .next p =>
      let (s, c) ← readFixedDigits ⟨c.bytes, p⟩ 2
      match fieldEnd c stop colons with
      | .done more => pure ⟨h, m, s, 0, more⟩
      | .broken => none
      | .fraction p => readFraction c.bytes p stop h m s
      | .next p => readFraction c.bytes p stop h m s

/-- Reads a time text from the cursor to the end: clock fields, then
nothing, `Z`, or a signed offset. -/
def readTimePart (c : Cursor) : Option TimeOfDay := do
  let stop := c.bytes.size
  let zoneAt := ((List.range (stop - c.pos)).map (· + c.pos)).find?
    (fun k => let b := c.bytes.getD k 0; b == 90 || b == 43 || b == 45)
  -- the scan looks at the first byte even when the text is empty
  let zoneAt := zoneAt.getD (if stop > c.pos then stop else c.pos + 1)
  let clock ← readClock c zoneAt
  if zoneAt ≥ stop then
    if clock.more then none
    else
      let t : TimeOfDay := ⟨clock.hour, clock.minute, clock.second, clock.micro, none⟩
      if t.isValid then some t else none
  else
    let signByte := c.bytes.getD zoneAt 0
    let offset ← if signByte == 90 then
        if c.bytes.getD (zoneAt + 1) 0 != 0 then none else some (0 : Int)
      else do
        let z ← readClock { c with pos := zoneAt + 1 } stop
        if z.more then none
        let secs : Int := z.hour * 3600 + z.minute * 60 + z.second
        -- an offset of zero whole seconds is UTC, whatever its fraction
        let total : Int := if secs == 0 then 0 else secs * 1000000 + z.micro
        some (if signByte == 45 then -total else total)
    let t : TimeOfDay := ⟨clock.hour, clock.minute, clock.second, clock.micro, some offset⟩
    if t.isValid then some t else none

/-- The UTF-8 bytes of a text. -/
def textBytes (s : String) : Array UInt8 := s.toUTF8.toList.toArray

/-- Reads a date: the text must be 7, 8 or 10 bytes long. -/
def readDate? (s : String) : Option Date := do
  let bytes := textBytes s
  let n := bytes.size
  if !(n == 7 || n == 8 || n == 10) then none
  let (y, m, d) ← readDateFields ⟨bytes, 0⟩ n
  let date : Date := ⟨y, m, d⟩
  if date.isValid then some date else none

/-- Reads a time of day, with an optional leading `T`. -/
def readTime? (s : String) : Option TimeOfDay :=
  let bytes := textBytes s
  let start := if bytes.getD 0 0 == 84 then 1 else 0
  readTimePart ⟨bytes, start⟩

/-- Where the separator between date and time stands, from the shape of the
date part; `none` when the shape is impossible. -/
def separatorPosition (bytes : Array UInt8) : Option Nat :=
  let n := bytes.size
  let at_ (k : Nat) := bytes.getD k 0
  if n == 7 then some 7
  else if at_ 4 == 45 then
    if at_ 5 == 87 then
      if n < 8 then none
      else if n > 8 && at_ 8 == 45 then
        if n == 9 then none
        else if n > 10 && isDigitByte (at_ 10) then some 8
        else some 10
      else some 8
    else some 10
  else if at_ 4 == 87 then
    let run := ((List.range (n - 7)).map (fun k => at_ (7 + k))).takeWhile isDigitByte
    let idx := 7 + run.length
    if idx < 9 then some idx
    else if idx % 2 == 0 then some 7 else some 8
  else some 8

/-- The number of bytes of the UTF-8 character whose first byte is `b`. -/
def charWidth (b : UInt8) : Nat :=
  if b < 0x80 then 1
  else if b &&& 0xF0 == 0xE0 then 3
  else if b &&& 0xF0 == 0xF0 then 4
  else 2

/-- Reads a date-time: at least seven characters, a date, and optionally a
separator character (of any width) and a time. -/
def readDateTime? (s : String) : Option DateTime := do
  if s.length < 7 then none
  let bytes := textBytes s
  let sepAt ← separatorPosition bytes
  let (y, m, d) ← readDateFields ⟨bytes, 0⟩ sepAt
  let time ← if bytes.size > sepAt then readTimePart ⟨bytes, sepAt + charWidth (bytes.getD sepAt 0)⟩
    else some ⟨0, 0, 0, 0, none⟩
  let date : Date := ⟨y, m, d⟩
  if date.isValid then some ⟨date, time⟩ else none

/-- Reads a date-time from a text that may hold lone surrogates. Only the
separator may be one: the first of the code points 7, 8 and 10 that is a
lone surrogate reads as `T`, and a text holding any other is invalid, as is
one of fewer than seven code points. -/
def readDateTimeCodes? (codes : List Nat) : Option DateTime :=
  if codes.length < 7 then none
  else
    let separator := [7, 8, 10].find? fun i =>
      match codes[i]? with
      | some n => Text.isSurrogate n
      | none => false
    let codes := match separator with
      | some i => codes.set i 'T'.toNat
      | none => codes
    (Text.stringOfCodes? codes).bind readDateTime?

end TableGraph.Time
