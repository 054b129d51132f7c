import Mathlib
import TableGraph.Proofs.NumberTexts
import TableGraph.Value.Json

/-!
# Compact JSON texts read back

`Json.render "," ":" true` writes a document with no blanks and every
character past ASCII escaped; `Json.read` takes such a text back to the
document it was written from, provided its numbers are integers the reader
admits and its arrays and objects nest no deeper than the reader may go
(`Json.Plain`). On the side of values, `Value.JsonPlain` names the values
that come back as themselves from their document: null, truth values,
integers, text, and lists and mappings (with distinct keys) of such values.

The reading is followed character by character: one escape of a string at a
time (`readStringBody_escapeChar`), one item or member at a time
(`readItems_text`, `readMembers_text`), and by induction on `Json.Plain` for
a whole document (`readValue_text`). The written text itself is given as a
list of characters (`Json.text`), equal to what `Json.writeTo` appends.
-/

namespace TableGraph

namespace Text

/-- The code point of a character lies below `0x110000` and outside the
surrogates. -/
theorem toNat_scalar (c : Char) : c.toNat < 0x110000 ∧ ¬(0xD800 ≤ c.toNat ∧ c.toNat ≤ 0xDFFF) := by
  have hsurrogate := Char.toNat_not_surrogate c
  have hbound : c.toNat < 0x110000 := by
    have := c.valid
    rw [← Char.toNat_val]
    grind [UInt32.lt_iff_toNat_lt]
  simp only [Char.minSurrogate, Char.maxSurrogate] at hsurrogate
  exact ⟨hbound, hsurrogate⟩

/-- The code point of a character is a Unicode scalar value. -/
theorem isScalar_toNat (c : Char) : isScalar c.toNat = true := by
  have hc := toNat_scalar c
  simp [isScalar, isSurrogate]
  omega

/-- The code points of a string make up that string again. -/
theorem stringOfCodes?_toNat (s : String) : stringOfCodes? (s.toList.map Char.toNat) = some s := by
  have hid : Char.ofNat ∘ Char.toNat = id := funext Char.ofNat_toNat
  simp [stringOfCodes?, isScalar_toNat, hid]

/-- A character's code point shows as the character. -/
theorem charOfCode_toNat (c : Char) : charOfCode c.toNat = c := by
  simp [charOfCode, isScalar_toNat]

/-- The code points of a string, shown with U+FFFD for lone surrogates, are
that string: it has none. -/
theorem lossyString_toNat (s : String) : lossyString (s.toList.map Char.toNat) = s := by
  have hid : charOfCode ∘ Char.toNat = id := funext charOfCode_toNat
  simp [lossyString, hid]

/-- An ASCII digit is one of the ten digit characters. -/
theorem eq_digitChar_of_isAsciiDigit {c : Char} (h : isAsciiDigit c = true) :
    ∃ d < 10, c = Nat.digitChar d := by
  rw [isAsciiDigit_eq_isDigit, Char.isDigit_iff_toNat] at h
  simp only [Char.reduceToNat] at h
  refine ⟨c.toNat - 48, by omega, Char.toNat_inj.mp ?_⟩
  rw [Nat.toNat_digitChar_of_lt_ten (by omega)]
  omega

end Text

namespace Json

/-- The code points of a string read as that string. -/
theorem ofCodes_toNat (s : String) : ofCodes (s.toList.map Char.toNat) = .string s := by
  simp [ofCodes, Text.stringOfCodes?_toNat]

/-! ### Hex escapes -/

/-- The reader sees the value of a lower-case hex digit. -/
theorem hexValue?_digitChar {d : Nat} (hd : d < 16) : hexValue? (Nat.digitChar d) = some d := by
  interval_cases d <;> rfl

/-- Four hex digits read in the reader's way have the value of hex digits
read from the left. -/
theorem hex4Value?_digitChar {a b c d : Nat} (ha : a < 16) (hb : b < 16) (hc : c < 16)
    (hd : d < 16) :
    hex4Value? (Nat.digitChar a) (Nat.digitChar b) (Nat.digitChar c) (Nat.digitChar d) =
      some (Number.hexValue
        [Nat.digitChar a, Nat.digitChar b, Nat.digitChar c, Nat.digitChar d]) := by
  simp [hex4Value?, hexValue?_digitChar, ha, hb, hc, hd, Number.hexValue,
    (Number.digitChar_hex ha).1, (Number.digitChar_hex hb).1, (Number.digitChar_hex hc).1,
    (Number.digitChar_hex hd).1]

/-- The four hex digits of a number below `16^4` read back as it. -/
theorem hex4_toList {n : Nat} (hn : n < 65536) :
    ∃ a b c d, (hex4 n).toList = [a, b, c, d] ∧ hex4Value? a b c d = some n := by
  have hlen : (Nat.toDigits 16 n).length ≤ 4 := Nat.toDigits_length 16 n 4 (by norm_num) hn
  -- the padded digits are four characters, each a hex digit
  set L := List.replicate (4 - (Nat.toDigits 16 n).length) '0' ++ Nat.toDigits 16 n with hL
  have htext : (hex4 n).toList = L := by simp [hex4, hexDigits, hL]
  have hfour : L.length = 4 := by simp [hL]; omega
  have hdigit : ∀ x ∈ L, ∃ e < 16, x = Nat.digitChar e := by
    intro x hx
    rcases List.mem_append.mp hx with h | h
    · exact ⟨0, by norm_num, (List.eq_of_mem_replicate h).trans (by decide)⟩
    · exact Number.digitChar_of_mem_toDigits (by norm_num) h
  obtain ⟨a, b, c, d, hfourL⟩ := List.length_eq_four.mp hfour
  obtain ⟨ea, ha, rfl⟩ := hdigit a (by simp [hfourL])
  obtain ⟨eb, hb, rfl⟩ := hdigit b (by simp [hfourL])
  obtain ⟨ec, hc, rfl⟩ := hdigit c (by simp [hfourL])
  obtain ⟨ed, hd, rfl⟩ := hdigit d (by simp [hfourL])
  refine ⟨_, _, _, _, htext.trans hfourL, ?_⟩
  rw [hex4Value?_digitChar ha hb hc hd, ← hfourL, hL, Number.hexValue_zeros]

/-! ### Strings -/

/-- A `\uXXXX` escape of a code point that opens no surrogate pair is read
as that code point. -/
theorem readStringBody_hex4 {n : Nat} (hn : n < 65536) (hhi : ¬(0xD800 ≤ n ∧ n ≤ 0xDBFF))
    (more : List Char) (acc : List Nat) :
    readStringBody [] (("\\u" ++ hex4 n).toList ++ more) acc =
      readStringBody [] more (n :: acc) := by
  obtain ⟨a, b, c, d, htext, hval⟩ := hex4_toList hn
  simp only [String.toList_append, htext]
  simp [readStringBody, hval, hhi]

/-- Two escapes of a surrogate pair are read as the one code point past
`U+FFFF` they stand for. -/
theorem readStringBody_pair {n : Nat} (hlo : 0x10000 ≤ n) (hhi : n < 0x110000)
    (more : List Char) (acc : List Nat) :
    readStringBody []
        (("\\u" ++ hex4 (0xD800 + (n - 0x10000) / 0x400) ++ "\\u" ++
          hex4 (0xDC00 + (n - 0x10000) % 0x400)).toList ++ more) acc =
      readStringBody [] more (n :: acc) := by
  obtain ⟨a, b, c, d, hhigh, hvhigh⟩ := hex4_toList (n := 0xD800 + (n - 0x10000) / 0x400) (by omega)
  obtain ⟨e, f, g, h, hlow, hvlow⟩ := hex4_toList (n := 0xDC00 + (n - 0x10000) % 0x400) (by omega)
  have hhalf : 0xD800 ≤ 0xD800 + (n - 0x10000) / 0x400 ∧
      0xD800 + (n - 0x10000) / 0x400 ≤ 0xDBFF := by omega
  have hlowhalf : 0xDC00 ≤ 0xDC00 + (n - 0x10000) % 0x400 ∧
      0xDC00 + (n - 0x10000) % 0x400 ≤ 0xDFFF := by omega
  have hcode : 0x10000 + (n - 0x10000) / 0x400 * 0x400 + (n - 0x10000) % 0x400 = n := by omega
  simp only [String.toList_append, hhigh, hlow]
  simp [readStringBody, hvhigh, hvlow, hhalf, hlowhalf, hcode]

/-- Each character reads back from its escape, as its code point. -/
theorem readStringBody_escapeChar (c : Char) (more : List Char) (acc : List Nat) :
    readStringBody [] ((escapeChar true c).toList ++ more) acc =
      readStringBody [] more (c.toNat :: acc) := by
  have hscalar := Text.toNat_scalar c
  dsimp only [escapeChar]
  split_ifs with hquote hback hnl hcr htab hb hf hctl hwide hbmp
  all_goals simp only [beq_iff_eq] at *
  · subst hquote; simp [readStringBody]
  · subst hback; simp [readStringBody]
  · subst hnl; simp [readStringBody]
  · subst hcr; simp [readStringBody]
  · subst htab; simp [readStringBody]
  · simp [readStringBody, hb]
  · simp [readStringBody, hf]
  · exact readStringBody_hex4 (by omega) (by omega) more acc
  · exact readStringBody_hex4 (by omega) (by omega) more acc
  · exact readStringBody_pair (by omega) hscalar.1 more acc
  · simp [readStringBody, rawCode, hback, hctl]

/-- Escaped characters followed by the closing quote read as their code
points. -/
theorem readStringBody_escaped (cs more : List Char) (acc : List Nat) :
    readStringBody [] (cs.flatMap (fun c => (escapeChar true c).toList) ++ '"' :: more) acc =
      some (acc.reverse ++ cs.map Char.toNat, more) := by
  -- one escape at a time, the code points read so far growing in `acc`
  induction cs generalizing acc with
  | nil => simp [readStringBody]
  | cons c cs ih =>
    rw [List.flatMap_cons, List.append_assoc, readStringBody_escapeChar, ih]
    simp

/-- A quoted string is its escaped characters between quotes. -/
theorem quote_toList (s : String) :
    (quote true s).toList =
      '"' :: s.toList.flatMap (fun c => (escapeChar true c).toList) ++ ['"'] := by
  simp [quote, String.toList_join, List.flatMap, Function.comp_def]

/-- A quoted string and what follows it: the opening quote, then the rest,
which reads as the string's code points up to what follows. -/
theorem readStringBody_quote (s : String) (more : List Char) :
    ∃ body, (quote true s).toList ++ more = '"' :: body ∧
      readStringBody [] body [] = some (s.toList.map Char.toNat, more) := by
  refine ⟨s.toList.flatMap (fun c => (escapeChar true c).toList) ++ '"' :: more,
    by simp [quote_toList], ?_⟩
  simpa using readStringBody_escaped s.toList more []

/-! ### The compact text -/

mutual

/-- The characters `Json.render "," ":" true` writes for a document. -/
def text : Json → List Char
  | .null => "null".toList
  | .bool b => (if b then "true" else "false").toList
  | .number t => t.toList
  | .string s => (quote true s).toList
  | .stringCodes cs => (quoteCodes true cs).toList
  | .array items => '[' :: itemsText true items ++ [']']
  | .object ms => '\x7b' :: membersText true ms ++ ['\x7d']

/-- The characters of array items, a comma before each but the first. -/
def itemsText (first : Bool) : List Json → List Char
  | [] => []
  | j :: rest => (if first then [] else [',']) ++ text j ++ itemsText false rest

/-- The characters of object members, a comma before each but the first. -/
def membersText (first : Bool) : List (String × Json) → List Char
  | [] => []
  | (k, v) :: rest =>
    (if first then [] else [',']) ++ (quote true k).toList ++ ':' :: text v ++
      membersText false rest

end

mutual

/-- Writing a document appends its characters. -/
theorem writeTo_toList (acc : String) :
    ∀ j : Json, (writeTo "," ":" true acc j).toList = acc.toList ++ text j
  | .null => by simp [writeTo, text]
  | .bool b => by cases b <;> simp [writeTo, text]
  | .number t => by simp [writeTo, text]
  | .string s => by simp [writeTo, text]
  | .stringCodes cs => by simp [writeTo, text]
  | .array items => by simp [writeTo, text, writeItems_toList]
  | .object ms => by simp [writeTo, text, writeMembers_toList]

/-- Writing array items appends their characters. -/
theorem writeItems_toList (acc : String) (first : Bool) :
    ∀ items : List Json,
      (writeItems "," ":" true acc first items).toList = acc.toList ++ itemsText first items
  | [] => by simp [writeItems, itemsText]
  | j :: rest => by
    cases first <;> simp [writeItems, itemsText, writeTo_toList, writeItems_toList]

/-- Writing object members appends their characters. -/
theorem writeMembers_toList (acc : String) (first : Bool) :
    ∀ ms : List (String × Json),
      (writeMembers "," ":" true acc first ms).toList = acc.toList ++ membersText first ms
  | [] => by simp [writeMembers, membersText]
  | (k, v) :: rest => by
    cases first <;> simp [writeMembers, membersText, writeTo_toList, writeMembers_toList]

end

/-- The compact text of a document is its characters. -/
theorem render_toList (j : Json) : (render "," ":" true j).toList = text j := by
  simp [render, writeTo_toList]

/-! ### Integers -/

/-- What may follow a value in a compact text: nothing, or the comma or the
closing bracket of the array or object around it. -/
def closes : List Char → Bool
  | [] => true
  | c :: _ => c == ',' || c == ']' || c == '\x7d'

/-- The decimal digits of a positive number start with no zero. -/
theorem toDigits_head_ne_zero {m : Nat} (hm : 0 < m) :
    ∃ d ds, Nat.toDigits 10 m = d :: ds ∧ d ≠ '0' := by
  induction m using Nat.strong_induction_on with
  | _ m ih =>
    rw [Nat.toDigits_eq_if (by norm_num)]
    split
    · next hlt => exact ⟨_, _, rfl, by interval_cases m <;> decide⟩
    · next hge =>
      obtain ⟨d, ds, hds, hd⟩ := ih (m / 10) (by omega) (by omega)
      exact ⟨d, ds ++ _, by rw [hds, List.cons_append], hd⟩

/-- The character after a value is no part of a number. -/
theorem closes_cons {c : Char} {r : List Char} (h : closes (c :: r) = true) :
    Text.isAsciiDigit c = false ∧ c ≠ '.' ∧ c ≠ 'e' ∧ c ≠ 'E' := by
  simp only [closes, Bool.or_eq_true, beq_iff_eq] at h
  rcases h with (rfl | rfl) | rfl <;> decide

/-- Digits up to the end of the number are its leading digits. -/
theorem leadingDigits_append {ds rest : List Char} (hds : ∀ c ∈ ds, Text.isAsciiDigit c = true)
    (hrest : closes rest = true) : leadingDigits (ds ++ rest) = ds := by
  rw [leadingDigits, List.takeWhile_append_of_pos hds]
  cases rest with
  | nil => simp
  | cons c r => simp [(closes_cons hrest).1]

/-- An integer's digits, with or without a minus, are read as one number
up to what closes it. -/
theorem readNumber?_digits {sign ds rest : List Char} (hsign : sign = [] ∨ sign = ['-'])
    (hds : ∀ c ∈ ds, Text.isAsciiDigit c = true) (hne : ds ≠ [])
    (hzero : ∀ r, ds = '0' :: r → r = []) (hlen : ds.length ≤ Number.intDigitLimit)
    (hrest : closes rest = true) :
    readNumber? (sign ++ ds ++ rest) = some (String.ofList (sign ++ ds), rest) := by
  obtain ⟨d, ds, rfl⟩ := List.exists_cons_of_ne_nil hne
  have hd : d ≠ '-' := Number.Decimal.ne_of_isAsciiDigit (hds d (by simp)) (by decide)
  have hlead : leadingDigits (d :: (ds ++ rest)) = d :: ds := leadingDigits_append hds hrest
  have hlen' : ds.length < Number.intDigitLimit := by simp at hlen; omega
  have hlimit : Number.intDigitLimit ≠ 0 := by decide
  -- a leading zero is read alone, and is then the whole number
  by_cases hd0 : d = '0'
  · subst hd0
    obtain rfl := hzero ds rfl
    cases rest with
    | nil => rcases hsign with rfl | rfl <;> simp [readNumber?, hlimit]
    | cons c r =>
      obtain ⟨-, hpoint, he, hE⟩ := closes_cons hrest
      rcases hsign with rfl | rfl <;> simp [readNumber?, hpoint, he, hE, hlimit]
  · cases rest with
    | nil =>
      rw [List.append_nil] at hlead
      rcases hsign with rfl | rfl <;> simp [readNumber?, hd, hd0, hlead, hlen']
    | cons c r =>
      obtain ⟨-, hpoint, he, hE⟩ := closes_cons hrest
      rcases hsign with rfl | rfl <;> simp [readNumber?, hd, hd0, hlead, hlen', hpoint, he, hE]

/-- An integer of at most `intDigitLimit` digits is read as its own text. -/
theorem readNumber?_intText {k : Int}
    (hk : (Nat.toDigits 10 k.natAbs).length ≤ Number.intDigitLimit)
    {rest : List Char} (hrest : closes rest = true) :
    readNumber? ((toString k).toList ++ rest) = some (toString k, rest) := by
  have hzero : ∀ r, Nat.toDigits 10 k.natAbs = '0' :: r → r = [] := by
    intro r hr
    rcases Nat.eq_zero_or_pos k.natAbs with h0 | hpos
    · rw [h0] at hr
      simpa using hr.symm
    · obtain ⟨d, ds, hds, hd⟩ := toDigits_head_ne_zero hpos
      rw [hds, List.cons.injEq] at hr
      exact absurd hr.1 hd
  rw [Number.intText_toList,
    readNumber?_digits (by split <;> simp) (fun c hc => Text.isAsciiDigit_of_mem_toDigits hc)
    Nat.toDigits_ne_nil hzero hk hrest, ← Number.intText_toList, String.ofList_toList]

/-- The text of an integer is not empty. -/
theorem intText_ne_nil (k : Int) : (toString k).toList ≠ [] := by
  rw [Number.intText_toList]
  simp [Nat.toDigits_ne_nil]

/-- What holds of the minus and of the ten digits holds of every character
of an integer's text. -/
theorem intText_chars {p : Char → Prop} (hminus : p '-') (hdigit : ∀ d < 10, p (Nat.digitChar d))
    {k : Int} {c : Char} (h : c ∈ (toString k).toList) : p c := by
  rw [Number.intText_toList, List.mem_append] at h
  rcases h with h | h
  · split at h <;> simp_all
  · obtain ⟨d, hd, rfl⟩ := Text.eq_digitChar_of_isAsciiDigit (Text.isAsciiDigit_of_mem_toDigits h)
    exact hdigit d hd

/-! ### Steps of the reader -/

/-- A compact text has no blank to skip. -/
theorem skipBlank_cons {c : Char} (cs : List Char) (h : isJsonBlank c = false) :
    skipBlank (c :: cs) = c :: cs := by
  simp [skipBlank, h]

/-- An integer of at most `intDigitLimit` digits reads back from its text. -/
theorem readValue_intText {k : Int} (hk : (Nat.toDigits 10 k.natAbs).length ≤ Number.intDigitLimit)
    {fuel depth : Nat} {rest : List Char} (hfuel : 0 < fuel) (hrest : closes rest = true) :
    readValue [] fuel depth ((toString k).toList ++ rest) = .ok (.number (toString k), rest) := by
  obtain ⟨f, rfl⟩ := Nat.exists_eq_add_one_of_ne_zero hfuel.ne'
  have hnum := readNumber?_intText hk hrest
  obtain ⟨c, r, hcr⟩ := List.exists_cons_of_ne_nil (intText_ne_nil k)
  -- the first character opens no string, array, object or word
  have hopen : isJsonBlank c = false ∧ c ≠ '"' ∧ c ≠ '\x7b' ∧ c ≠ '[' ∧ c ≠ 'n' ∧ c ≠ 't' ∧
      c ≠ 'f' :=
    intText_chars (p := fun c => isJsonBlank c = false ∧ c ≠ '"' ∧ c ≠ '\x7b' ∧ c ≠ '[' ∧ c ≠ 'n' ∧
      c ≠ 't' ∧ c ≠ 'f') (by decide) (by decide) (by rw [hcr]; simp)
  rw [hcr, List.cons_append] at hnum ⊢
  simp [readValue, skipBlank_cons _ hopen.1, hnum, hopen]

/-- An opening bracket, with depth to spare, starts an array. -/
theorem readValue_bracket (f d : Nat) (cs : List Char) :
    readValue [] (f + 1) (d + 1) ('[' :: cs) = readArray [] f d cs := by
  simp [readValue, skipBlank_cons, isJsonBlank]

/-- An opening brace, with depth to spare, starts an object. -/
theorem readValue_brace (f d : Nat) (cs : List Char) :
    readValue [] (f + 1) (d + 1) ('\x7b' :: cs) = readObject [] f d cs := by
  simp [readValue, skipBlank_cons, isJsonBlank]

/-- A closing bracket right away ends an empty array. -/
theorem readArray_close (f d : Nat) (rest : List Char) :
    readArray [] (f + 1) d (']' :: rest) = .ok (.array [], rest) := by
  simp [readArray, skipBlank_cons, isJsonBlank]

/-- A closing brace right away ends an empty object. -/
theorem readObject_close (f d : Nat) (rest : List Char) :
    readObject [] (f + 1) d ('\x7d' :: rest) = .ok (.object [], rest) := by
  simp [readObject, skipBlank_cons, isJsonBlank]

/-- Anything else after the opening bracket is read as items. -/
theorem readArray_items {cs : List Char}
    (hcs : ∃ c r, cs = c :: r ∧ isJsonBlank c = false ∧ c ≠ ']') (f d : Nat) :
    readArray [] (f + 1) d cs = readItems [] f d cs [] := by
  obtain ⟨c, r, rfl, hc, hclose⟩ := hcs
  simp [readArray, skipBlank_cons _ hc, hclose]

/-- Anything else after the opening brace is read as members. -/
theorem readObject_members {cs : List Char}
    (hcs : ∃ c r, cs = c :: r ∧ isJsonBlank c = false ∧ c ≠ '\x7d') (f d : Nat) :
    readObject [] (f + 1) d cs = readMembers [] f d cs [] := by
  obtain ⟨c, r, rfl, hc, hclose⟩ := hcs
  simp [readObject, skipBlank_cons _ hc, hclose]

/-! ### Documents read back -/

/-- Documents that read back from their compact text when arrays and
objects may nest `n` deep: their numbers are integers the reader admits and
their strings hold no lone surrogate. -/
inductive Plain : Nat → Json → Prop
  | null {n : Nat} : Plain n .null
  | bool {n : Nat} (b : Bool) : Plain n (.bool b)
  | int {n : Nat} {k : Int} :
      (Nat.toDigits 10 k.natAbs).length ≤ Number.intDigitLimit → Plain n (.number (toString k))
  | string {n : Nat} (s : String) : Plain n (.string s)
  | array {n : Nat} {items : List Json} : (∀ j ∈ items, Plain n j) → Plain (n + 1) (.array items)
  | object {n : Nat} {ms : List (String × Json)} :
      (∀ m ∈ ms, Plain n m.2) → Plain (n + 1) (.object ms)

/-- The first character of a plain document's text is no blank and closes
no array or object. -/
theorem text_cons {n : Nat} {j : Json} (hj : Plain n j) :
    ∃ c r, text j = c :: r ∧ isJsonBlank c = false ∧ c ≠ ']' ∧ c ≠ '\x7d' := by
  cases hj with
  | null => exact ⟨'n', ['u', 'l', 'l'], by simp [text], by decide, by decide, by decide⟩
  | bool b =>
    cases b
    · exact ⟨'f', ['a', 'l', 's', 'e'], by simp [text], by decide, by decide, by decide⟩
    · exact ⟨'t', ['r', 'u', 'e'], by simp [text], by decide, by decide, by decide⟩
  | @int _ k _ =>
    obtain ⟨c, r, hcr⟩ := List.exists_cons_of_ne_nil (intText_ne_nil k)
    exact ⟨c, r, hcr, intText_chars (p := fun c => isJsonBlank c = false ∧ c ≠ ']' ∧ c ≠ '\x7d')
      (by decide) (by decide) (by rw [hcr]; simp)⟩
  | string s =>
    exact ⟨'"', _, by rw [text, quote_toList, List.cons_append], by decide, by decide, by decide⟩
  | array _ => exact ⟨'[', _, by rw [text, List.cons_append], by decide, by decide, by decide⟩
  | object _ => exact ⟨'\x7b', _, by rw [text, List.cons_append], by decide, by decide, by decide⟩

/-- The first of several items has no comma before it. -/
theorem itemsText_true_cons (j : Json) (rest : List Json) :
    itemsText true (j :: rest) = text j ++ itemsText false rest := by
  simp [itemsText]

/-- Every later item has a comma before it. -/
theorem itemsText_false_cons (j : Json) (rest : List Json) :
    itemsText false (j :: rest) = ',' :: itemsText true (j :: rest) := by
  simp [itemsText]

/-- The first of several members has no comma before it. -/
theorem membersText_true_cons (k : String) (v : Json) (rest : List (String × Json)) :
    membersText true ((k, v) :: rest) =
      (quote true k).toList ++ ':' :: text v ++ membersText false rest := by
  simp [membersText]

/-- Every later member has a comma before it. -/
theorem membersText_false_cons (m : String × Json) (rest : List (String × Json)) :
    membersText false (m :: rest) = ',' :: membersText true (m :: rest) := by
  simp [membersText]

section Reading

variable {d : Nat}

/-- Items that each read back, written one after another, read back as the
array they close. -/
theorem readItems_text {items : List Json}
    (hread : ∀ j ∈ items, ∀ fuel rest, 2 * (text j).length ≤ fuel → closes rest = true →
      readValue [] fuel d (text j ++ rest) = .ok (j, rest))
    (hne : items ≠ []) (fuel : Nat) (rest : List Char) (acc : List Json)
    (hfuel : 2 * (itemsText true items).length + 2 ≤ fuel) :
    readItems [] fuel d (itemsText true items ++ ']' :: rest) acc =
      .ok (.array (acc.reverse ++ items), rest) := by
  -- one item at a time; the items read so far wait in `acc`, last first
  induction items generalizing acc fuel with
  | nil => exact absurd rfl hne
  | cons j tail ih =>
    obtain ⟨g, rfl⟩ : ∃ g, fuel = g + 1 := ⟨fuel - 1, by omega⟩
    rw [itemsText_true_cons] at hfuel ⊢
    cases tail with
    | nil =>
      have hval := hread j (by simp) g (']' :: rest) (by simp [itemsText] at hfuel; omega) rfl
      simp [readItems, itemsText, hval, skipBlank_cons, isJsonBlank]
    | cons j' tail' =>
      rw [itemsText_false_cons] at hfuel ⊢
      have hval := hread j (by simp) g (',' :: (itemsText true (j' :: tail') ++ ']' :: rest))
        (by simp at hfuel; omega) rfl
      have htail := ih (fun x hx => hread x (by simp [hx])) (by simp) g (j :: acc)
        (by simp at hfuel; omega)
      simp [readItems, hval, skipBlank_cons, isJsonBlank, htail]

/-- Members whose values each read back, written one after another, read
back as the object they close. -/
theorem readMembers_text {ms : List (String × Json)}
    (hread : ∀ m ∈ ms, ∀ fuel rest, 2 * (text m.2).length ≤ fuel → closes rest = true →
      readValue [] fuel d (text m.2 ++ rest) = .ok (m.2, rest))
    (hne : ms ≠ []) (fuel : Nat) (rest : List Char) (acc : List (String × Json))
    (hfuel : 2 * (membersText true ms).length + 2 ≤ fuel) :
    readMembers [] fuel d (membersText true ms ++ '\x7d' :: rest) acc =
      .ok (.object (acc.reverse ++ ms), rest) := by
  -- one member at a time; the members read so far wait in `acc`, last first
  induction ms generalizing acc fuel with
  | nil => exact absurd rfl hne
  | cons m tail ih =>
    obtain ⟨k, v⟩ := m
    obtain ⟨g, rfl⟩ : ∃ g, fuel = g + 1 := ⟨fuel - 1, by omega⟩
    rw [membersText_true_cons] at hfuel ⊢
    cases tail with
    | nil =>
      have hval := hread (k, v) (by simp) g ('\x7d' :: rest)
        (show 2 * (text v).length ≤ g by simp [membersText] at hfuel; omega) rfl
      obtain ⟨body, hbody, hkey⟩ := readStringBody_quote k (':' :: (text v ++ '\x7d' :: rest))
      simp only [membersText, List.append_nil, List.append_assoc, List.cons_append, hbody]
      simp [readMembers, hkey, hval, skipBlank_cons, isJsonBlank, Text.lossyString_toNat]
    | cons m' tail' =>
      rw [membersText_false_cons] at hfuel ⊢
      have hval := hread (k, v) (by simp) g
        (',' :: (membersText true (m' :: tail') ++ '\x7d' :: rest))
        (show 2 * (text v).length ≤ g by simp at hfuel; omega) rfl
      have htail := ih (fun x hx => hread x (by simp [hx])) (by simp) g ((k, v) :: acc)
        (by simp at hfuel; omega)
      obtain ⟨body, hbody, hkey⟩ := readStringBody_quote k
        (':' :: (text v ++ ',' :: (membersText true (m' :: tail') ++ '\x7d' :: rest)))
      simp only [List.append_assoc, List.cons_append, hbody]
      simp [readMembers, hkey, hval, skipBlank_cons, isJsonBlank, Text.lossyString_toNat, htail]

end Reading

/-- A plain document reads back from its compact text, up to what closes it,
when the reader may descend as deep as the document nests and has at least
two steps for each character. -/
theorem readValue_text {n : Nat} {j : Json} (hj : Plain n j) :
    ∀ depth fuel (rest : List Char), n ≤ depth → 2 * (text j).length ≤ fuel →
      closes rest = true → readValue [] fuel depth (text j ++ rest) = .ok (j, rest) := by
  induction hj with
  | null =>
    intro depth fuel rest _ hfuel _
    obtain ⟨f, rfl⟩ : ∃ f, fuel = f + 1 := ⟨fuel - 1, by simp [text] at hfuel; omega⟩
    simp [readValue, text, skipBlank_cons, isJsonBlank]
  | bool b =>
    intro depth fuel rest _ hfuel _
    obtain ⟨f, rfl⟩ : ∃ f, fuel = f + 1 := ⟨fuel - 1, by cases b <;> simp [text] at hfuel <;> omega⟩
    cases b <;> simp [readValue, text, skipBlank_cons, isJsonBlank]
  | int hk =>
    intro depth fuel rest _ hfuel hrest
    obtain ⟨c, r, hcr⟩ := List.exists_cons_of_ne_nil (intText_ne_nil _)
    rw [text, hcr, List.length_cons] at hfuel
    exact readValue_intText hk (by omega) hrest
  | string s =>
    intro depth fuel rest _ hfuel _
    obtain ⟨f, rfl⟩ : ∃ f, fuel = f + 1 := ⟨fuel - 1, by simp [text, quote_toList] at hfuel; omega⟩
    obtain ⟨body, hbody, hread⟩ := readStringBody_quote s rest
    simp [readValue, text, hbody, skipBlank_cons, isJsonBlank, hread, Reading.ofOption,
      ofCodes_toNat]
  | @array n items hitems ih =>
    intro depth fuel rest hdepth hfuel _
    obtain ⟨d, rfl⟩ : ∃ d, depth = d + 1 := ⟨depth - 1, by omega⟩
    obtain ⟨f, rfl⟩ : ∃ f, fuel = f + 2 := ⟨fuel - 2, by simp [text] at hfuel; omega⟩
    have hlen : 2 * (itemsText true items).length + 2 ≤ f := by simp [text] at hfuel; omega
    simp only [text, List.cons_append, List.append_assoc]
    rw [readValue_bracket]
    cases items with
    | nil => simp [itemsText, readArray_close]
    | cons j tail =>
      -- the first item's first character neither closes the array nor is a blank
      obtain ⟨c, r, hcr, hc, hclose, -⟩ := text_cons (hitems j (by simp))
      rw [readArray_items ⟨c, r ++ itemsText false tail ++ ']' :: rest,
        by rw [itemsText_true_cons, hcr]; simp, hc, hclose⟩]
      have hitemsRead := readItems_text (fun x hx fuel rest => ih x hx d fuel rest (by omega))
        (List.cons_ne_nil j tail) f rest [] hlen
      simpa using hitemsRead
  | @object n ms hms ih =>
    intro depth fuel rest hdepth hfuel _
    obtain ⟨d, rfl⟩ : ∃ d, depth = d + 1 := ⟨depth - 1, by omega⟩
    obtain ⟨f, rfl⟩ : ∃ f, fuel = f + 2 := ⟨fuel - 2, by simp [text] at hfuel; omega⟩
    have hlen : 2 * (membersText true ms).length + 2 ≤ f := by simp [text] at hfuel; omega
    simp only [text, List.cons_append, List.append_assoc]
    rw [readValue_brace]
    cases ms with
    | nil => simp [membersText, readObject_close]
    | cons m tail =>
      -- the first member opens with the quote of its key
      obtain ⟨k, v⟩ := m
      obtain ⟨body, hbody, -⟩ := readStringBody_quote k
        (':' :: (text v ++ membersText false tail ++ '\x7d' :: rest))
      rw [readObject_members ⟨'"', body, by rw [membersText_true_cons, ← hbody]; simp,
        by decide, by decide⟩]
      have hmembersRead := readMembers_text (fun x hx fuel rest => ih x hx d fuel rest (by omega))
        (List.cons_ne_nil (k, v) tail) f rest [] hlen
      simpa using hmembersRead

/-- The compact text of a plain document reads back as that document when
the reader may descend as deep as the document nests. -/
theorem read_render {n depth : Nat} {j : Json} (hj : Plain n j) (hn : n ≤ depth) :
    read depth (render "," ":" true j) = .ok j := by
  have hval := readValue_text hj depth (2 * (text j).length + 2) [] hn (by omega) rfl
  rw [List.append_nil] at hval
  simp [read, readWith, render_toList, hval, skipBlank]

end Json

namespace Value

/-- Values that come back as themselves from their JSON document, lists and
mappings nested at most `n` deep: null, truth values, integers the reader
admits, text, lists of such values and mappings of them with distinct keys. -/
inductive JsonPlain : Nat → Value → Prop
  | none {n : Nat} : JsonPlain n .none
  | bool {n : Nat} (b : Bool) : JsonPlain n (.bool b)
  | int {n : Nat} {k : Int} :
      (Nat.toDigits 10 k.natAbs).length ≤ Number.intDigitLimit → JsonPlain n (.int k)
  | str {n : Nat} (s : String) : JsonPlain n (.str s)
  | list {n : Nat} {xs : List Value} : (∀ x ∈ xs, JsonPlain n x) → JsonPlain (n + 1) (.list xs)
  | dict {n : Nat} {es : List (String × Value)} :
      (es.map Prod.fst).Nodup → (∀ e ∈ es, JsonPlain n e.2) → JsonPlain (n + 1) (.dict es)

/-- Neighbours in a list without repeats differ. -/
theorem zip_tail_ne {keys : List String} (h : keys.Nodup) :
    ∀ p ∈ keys.zip keys.tail, p.1 ≠ p.2 := by
  induction keys with
  | nil => simp
  | cons x rest ih =>
    cases rest with
    | nil => simp
    | cons y rest =>
      intro p hp
      rw [List.tail_cons, List.zip_cons_cons, List.mem_cons] at hp
      rcases hp with rfl | hp
      · exact fun hxy => (List.nodup_cons.mp h).1 (List.mem_cons.mpr (Or.inl hxy))
      · exact ih (List.nodup_cons.mp h).2 p hp

/-- Keys without repeats are found distinct. -/
theorem allDistinct_of_nodup {keys : List String} (h : keys.Nodup) : allDistinct keys = true := by
  have hsorted : (keys.mergeSort fun a b => !decide (b < a)).Nodup :=
    (List.mergeSort_perm keys _).symm.nodup_iff.mp h
  simp only [allDistinct, List.all_eq_true]
  intro p hp
  simpa using zip_tail_ne hsorted p hp

/-- Entries with distinct keys are their own mapping. -/
theorem mappingOf_of_nodup {α : Type} {entries : List (String × α)}
    (h : (entries.map Prod.fst).Nodup) : mappingOf entries = entries := by
  simp [mappingOf, allDistinct_of_nodup h]

/-- An integer's JSON text reads as that integer. -/
theorem ofJsonNumber_intText {k : Int}
    (hk : (Nat.toDigits 10 k.natAbs).length ≤ Number.intDigitLimit) :
    ofJsonNumber (toString k) = .int k := by
  -- no character of the text marks a double
  have hmarks : (toString k).toList.any
      (fun c => c == '.' || c == 'e' || c == 'E' || c == 'N' || c == 'I') = false := by
    rw [List.any_eq_false]
    intro c hc
    exact Json.intText_chars
      (p := fun c => ¬(c == '.' || c == 'e' || c == 'E' || c == 'N' || c == 'I') = true)
      (by decide) (by decide) hc
  rw [ofJsonNumber, hmarks, Number.readInt?_toString hk]
  simp

/-- List items that each write a plain document coming back as the item
write plain documents coming back as the items. -/
theorem itemsToJson?_plain {n : Nat} {xs : List Value}
    (h : ∀ x ∈ xs, ∃ j, x.toJson? true = .ok j ∧ Json.Plain n j ∧ ofJson j = x) :
    ∃ js, itemsToJson? true xs = .ok js ∧ (∀ j ∈ js, Json.Plain n j) ∧ ofJsonItems js = xs := by
  induction xs with
  | nil => exact ⟨[], by simp [itemsToJson?], by simp, by simp [ofJsonItems]⟩
  | cons x rest ih =>
    obtain ⟨j, hj, hplain, hback⟩ := h x (by simp)
    obtain ⟨js, hjs, hplains, hbacks⟩ := ih (fun y hy => h y (by simp [hy]))
    refine ⟨j :: js, by rw [itemsToJson?, hj, hjs]; rfl, ?_, by simp [ofJsonItems, hback, hbacks]⟩
    intro i hi
    rcases List.mem_cons.mp hi with rfl | hi
    · exact hplain
    · exact hplains i hi

/-- Mapping entries whose values each write a plain document coming back as
the value write plain members coming back as the entries. -/
theorem membersToJson?_plain {n : Nat} {es : List (String × Value)}
    (h : ∀ e ∈ es, ∃ j, e.2.toJson? true = .ok j ∧ Json.Plain n j ∧ ofJson j = e.2) :
    ∃ ms, membersToJson? true es = .ok ms ∧ (∀ m ∈ ms, Json.Plain n m.2) ∧
      ofJsonMembers ms = es := by
  induction es with
  | nil => exact ⟨[], by simp [membersToJson?], by simp, by simp [ofJsonMembers]⟩
  | cons e rest ih =>
    obtain ⟨k, x⟩ := e
    obtain ⟨j, hj, hplain, hback⟩ := h (k, x) (by simp)
    obtain ⟨ms, hms, hplains, hbacks⟩ := ih (fun y hy => h y (by simp [hy]))
    refine ⟨(k, j) :: ms, by rw [membersToJson?, show toJson? true x = .ok j from hj, hms]; rfl, ?_,
      by simp [ofJsonMembers, hback, hbacks]⟩
    intro m hm
    rcases List.mem_cons.mp hm with rfl | hm
    · exact hplain
    · exact hplains m hm

/-- A plain value writes a plain document that is taken as the value again. -/
theorem toJson?_plain {n : Nat} {v : Value} (hv : JsonPlain n v) :
    ∃ j, v.toJson? true = .ok j ∧ Json.Plain n j ∧ ofJson j = v := by
  induction hv with
  | none => exact ⟨.null, by simp [toJson?], .null, by simp [ofJson]⟩
  | bool b => exact ⟨.bool b, by simp [toJson?], .bool b, by simp [ofJson]⟩
  | @int _ k hk =>
    refine ⟨.number (toString k), by rw [toJson?], .int hk, ?_⟩
    rw [ofJson, ofJsonNumber_intText hk]
  | str s => exact ⟨.string s, by simp [toJson?], .string s, by simp [ofJson]⟩
  | list _ ih =>
    obtain ⟨js, hjs, hplain, hback⟩ := itemsToJson?_plain ih
    exact ⟨.array js, by rw [toJson?, hjs]; rfl, .array hplain, by simp [ofJson, hback]⟩
  | dict hkeys _ ih =>
    obtain ⟨ms, hms, hplain, hback⟩ := membersToJson?_plain ih
    exact ⟨.object ms, by rw [toJson?, hms]; rfl, .object hplain,
      by simp [ofJson, hback, mappingOf_of_nodup hkeys]⟩

/-- A plain value comes back unchanged through its compact JSON text: the
document it writes is read back from the text and taken as the value, when
the reader may descend as deep as the value nests. -/
theorem json_round_trip {n depth : Nat} {v : Value} (hv : JsonPlain n v) (hn : n ≤ depth) :
    ∃ j, v.toJson? true = .ok j ∧ Json.read depth (Json.render "," ":" true j) = .ok j ∧
      ofJson j = v := by
  obtain ⟨j, hj, hplain, hback⟩ := toJson?_plain hv
  exact ⟨j, hj, Json.read_render hplain hn, hback⟩

end Value

end TableGraph
