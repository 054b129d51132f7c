import Mathlib
import TableGraph.Proofs.NumberTexts
import TableGraph.Time.Iso

/-!
# ISO texts of dates and times read back

Dates and times travel to the API as their ISO text and come back through
the ISO readers, which work on the UTF-8 bytes of the text with a cursor.
The texts written are ASCII, so their bytes are their characters; each
reader step is proved once against "the bytes left at the cursor start with
this piece", and a whole text is read by chaining the steps.

A date and a time of day come back as they were, with one exception that the
reader takes from the platform: an offset of no whole second (a fraction of a
second east or west of UTC) reads as UTC itself. `TimeOfDay.settled` is that
normal form.

Main results:

* `Time.readDate?_isoText` — a valid date reads back from its ISO text;
* `Time.readTime?_isoText` — a valid time of day reads back from its ISO
  text in its settled form;
* `Time.readDateTime?_isoText` — a valid date-time reads back from its ISO
  text, its time settled.
-/

namespace TableGraph

/-- A byte array lists the bytes of its data. -/
theorem ByteArray.toList_eq_data (b : ByteArray) : b.toList = b.data.toList := by
  -- the loop has read the bytes before `i`, last first, into `r`
  have loop : ∀ n i r, b.size - i ≤ n →
      ByteArray.toList.loop b i r = r.reverse ++ b.data.toList.drop i := by
    intro n
    induction n with
    | zero =>
      intro i r h
      have hnil : b.data.toList.drop i = [] :=
        List.drop_eq_nil_of_le (by simp only [Array.length_toList, ByteArray.size_data]; omega)
      rw [ByteArray.toList.loop.eq_1, if_neg (by omega), hnil, List.append_nil]
    | succ n ih =>
      intro i r h
      by_cases hi : i < b.size
      · have hlen : i < b.data.toList.length := by
          simpa only [Array.length_toList, ByteArray.size_data] using hi
        have hget : b.get! i = b.data.toList[i] := by
          simp only [ByteArray.get!]
          exact getElem!_pos b.data i (by simpa using hi)
        rw [ByteArray.toList.loop.eq_1, if_pos hi, ih (i + 1) _ (by omega),
          List.drop_eq_getElem_cons hlen, hget]
        simp
      · have hnil : b.data.toList.drop i = [] :=
          List.drop_eq_nil_of_le (by simp only [Array.length_toList, ByteArray.size_data]; omega)
        rw [ByteArray.toList.loop.eq_1, if_neg hi, hnil, List.append_nil]
  simpa [ByteArray.toList] using loop b.size 0 [] (by omega)

namespace Time

/-! ### The bytes of an ASCII text -/

/-- The bytes of ASCII characters. -/
def asciiBytes (cs : List Char) : List UInt8 := cs.map Char.toUInt8

@[simp] theorem asciiBytes_nil : asciiBytes [] = [] := rfl

@[simp] theorem asciiBytes_cons (c : Char) (cs : List Char) :
    asciiBytes (c :: cs) = c.toUInt8 :: asciiBytes cs := rfl

@[simp] theorem asciiBytes_append (cs ds : List Char) :
    asciiBytes (cs ++ ds) = asciiBytes cs ++ asciiBytes ds := List.map_append

@[simp] theorem length_asciiBytes (cs : List Char) : (asciiBytes cs).length = cs.length :=
  List.length_map _

/-- The UTF-8 bytes of an ASCII text are its characters' bytes. -/
theorem textBytes_ascii {s : String} (h : ∀ c ∈ s.toList, c.toNat < 128) :
    textBytes s = (asciiBytes s.toList).toArray := by
  have hchars : ∀ c ∈ s.toList, String.utf8EncodeChar c = [c.toUInt8] := by
    intro c hc
    have hsize : c.utf8Size = 1 := by
      rw [Char.utf8Size_eq_one_iff, UInt32.le_iff_toNat_le]
      exact Nat.le_of_lt_succ (h c hc)
    rw [String.utf8EncodeChar_eq_singleton hsize, Char.toUInt8_val]
  rw [textBytes, String.toUTF8_eq_toByteArray, ← String.utf8Encode_toList, List.utf8Encode,
    ByteArray.toList_eq_data, List.toList_data_toByteArray, List.flatMap_congr hchars]
  exact congrArg List.toArray (List.flatMap_pure_eq_map Char.toUInt8 s.toList)

/-- The byte of an ASCII character has the character's code. -/
theorem toNat_toUInt8 {c : Char} (h : c.toNat < 256) : c.toUInt8.toNat = c.toNat := by
  simp only [← Char.toUInt8_val, UInt32.toNat_toUInt8, Char.toNat] at h ⊢
  omega

/-- An ASCII digit's byte is a digit byte. -/
theorem isDigitByte_toUInt8 {c : Char} (h : Text.isAsciiDigit c = true) :
    isDigitByte c.toUInt8 = true := by
  simp only [Text.isAsciiDigit, Bool.and_eq_true, decide_eq_true_eq] at h
  have h0 : 48 ≤ c.toNat := h.1
  have h9 : c.toNat ≤ 57 := h.2
  have hb := toNat_toUInt8 (c := c) (by omega)
  simp only [isDigitByte, Bool.and_eq_true, decide_eq_true_eq, UInt8.le_iff_toNat_le, hb]
  exact ⟨h0, h9⟩

/-! ### Reading at a cursor -/

/-- What is left of the text after a piece read from its front. -/
theorem drop_after {L P R : List UInt8} {pos : Nat} (h : L.drop pos = P ++ R) :
    L.drop (pos + P.length) = R := by
  rw [← List.drop_drop, h, List.drop_left]

/-- A text with bytes left after a position ends that many bytes past it. -/
theorem length_of_drop {L P : List UInt8} {pos : Nat} (h : L.drop pos = P) (hP : P ≠ []) :
    L.length = pos + P.length := by
  have hlen := congrArg List.length h
  have hpos : 0 < P.length := List.length_pos_iff.mpr hP
  rw [List.length_drop] at hlen
  omega

/-- The byte `k` places past a cursor is the first byte of what is left
there. -/
theorem peekAt_of_drop {L R : List UInt8} {pos k : Nat} {b : UInt8} (h : L.drop (pos + k) = b :: R) :
    (⟨L.toArray, pos⟩ : Cursor).peekAt k = b := by
  have hget : L[pos + k]? = some b := by
    rw [← Nat.add_zero (pos + k), ← List.getElem?_drop, h]
    rfl
  simp [Cursor.peekAt, Array.getD_eq_getD_getElem?, hget]

/-- Past the end of the text a cursor reads NUL. -/
theorem peekAt_of_drop_nil {L : List UInt8} {pos k : Nat} (h : L.drop (pos + k) = []) :
    (⟨L.toArray, pos⟩ : Cursor).peekAt k = 0 := by
  have hget : L[pos + k]? = none := by
    rw [← Nat.add_zero (pos + k), ← List.getElem?_drop, h]
    rfl
  simp [Cursor.peekAt, Array.getD_eq_getD_getElem?, hget]

/-- The byte at a cursor is the first byte left there. -/
theorem peek_of_drop {L R : List UInt8} {pos : Nat} {b : UInt8} (h : L.drop pos = b :: R) :
    (⟨L.toArray, pos⟩ : Cursor).peek = b :=
  peekAt_of_drop h

/-- The byte at a cursor is the first byte left there, NUL at the end. -/
theorem peek_eq_head {L R : List UInt8} {pos : Nat} (h : L.drop pos = R) :
    (⟨L.toArray, pos⟩ : Cursor).peek = R.head?.getD 0 := by
  cases R with
  | nil => exact peekAt_of_drop_nil (by simpa using h)
  | cons b R => exact peek_of_drop h

/-- A digit byte is no byte that is not one. -/
theorem ne_of_isDigitByte {b x : UInt8} (hb : isDigitByte b = true) (hx : isDigitByte x = false) :
    b ≠ x := by
  rintro rfl
  simp [hx] at hb

/-- At a cursor where digits are left, the byte is a digit byte. -/
theorem isDigitByte_peek {L R : List UInt8} {pos : Nat} {ds : List Char} (hne : ds ≠ [])
    (hd : ∀ c ∈ ds, Text.isAsciiDigit c = true) (h : L.drop pos = asciiBytes ds ++ R) :
    isDigitByte (⟨L.toArray, pos⟩ : Cursor).peek = true := by
  obtain ⟨c, cs, rfl⟩ := List.exists_cons_of_ne_nil hne
  rw [asciiBytes_cons, List.cons_append] at h
  rw [peek_of_drop h]
  exact isDigitByte_toUInt8 (hd c (by simp))

/-- Fixed digits read one by one: the digits left at the cursor, read after a
value already read, shift it by their count. -/
theorem readFixedDigits_go {L R : List UInt8} {pos : Nat} :
    ∀ {ds : List Char} {k acc : Nat}, (∀ c ∈ ds, Text.isAsciiDigit c = true) →
      L.drop (pos + k) = asciiBytes ds ++ R →
      readFixedDigits.go ⟨L.toArray, pos⟩ k acc ds.length = some (Nat.ofDigitChars 10 ds acc)
  | [], _, _, _, _ => rfl
  | d :: ds, k, acc, hd, h => by
    have hdigit : Text.isAsciiDigit d = true := hd d (by simp)
    have hpeek : (⟨L.toArray, pos⟩ : Cursor).peekAt k = d.toUInt8 := by
      rw [asciiBytes_cons, List.cons_append] at h
      exact peekAt_of_drop h
    have hnext : L.drop (pos + (k + 1)) = asciiBytes ds ++ R := by
      rw [← Nat.add_assoc]
      exact drop_after (P := [d.toUInt8]) (by simpa using h)
    have hvalue : d.toUInt8.toNat - 48 = d.toNat - '0'.toNat := by
      rw [toNat_toUInt8 (by simp only [Text.isAsciiDigit, Bool.and_eq_true,
        decide_eq_true_eq] at hdigit; have : d.toNat ≤ 57 := hdigit.2; omega)]
      rfl
    rw [List.length_cons, readFixedDigits.go, hpeek, if_pos (isDigitByte_toUInt8 hdigit), hvalue,
      readFixedDigits_go (fun c hc => hd c (List.mem_cons_of_mem _ hc)) hnext,
      Nat.ofDigitChars_cons]

/-- Fixed digits at the cursor read as their value, the cursor past them. -/
theorem readFixedDigits_of_drop {L R : List UInt8} {pos : Nat} {ds : List Char}
    (hd : ∀ c ∈ ds, Text.isAsciiDigit c = true) (h : L.drop pos = asciiBytes ds ++ R) :
    readFixedDigits ⟨L.toArray, pos⟩ ds.length =
      some (Nat.ofDigitChars 10 ds 0, ⟨L.toArray, pos + ds.length⟩) := by
  rw [readFixedDigits, readFixedDigits_go hd (by simpa using h)]
  rfl

/-! ### Padded numbers -/

theorem padDigits_toList (n w : Nat) :
    (Number.padDigits n w).toList =
      List.replicate (w - (Nat.toDigits 10 n).length) '0' ++ Nat.toDigits 10 n := by
  simp [Number.padDigits, Nat.repr_eq_ofList_toDigits]

theorem length_padDigits {n w : Nat} (hw : 0 < w) (hn : n < 10 ^ w) :
    (Number.padDigits n w).toList.length = w := by
  have hlen := (Nat.length_toDigits_le_iff (b := 10) (by norm_num) hw).mpr hn
  rw [padDigits_toList, List.length_append, List.length_replicate]
  omega

theorem isAsciiDigit_of_mem_padDigits {n w : Nat} {c : Char} (h : c ∈ (Number.padDigits n w).toList) :
    Text.isAsciiDigit c = true := by
  rw [padDigits_toList] at h
  rcases List.mem_append.mp h with h | h
  · rw [List.eq_of_mem_replicate h]
    decide
  · rw [Text.isAsciiDigit_eq_isDigit]
    exact Nat.isDigit_of_mem_toDigits (by norm_num) (by norm_num) h

theorem ofDigitChars_padDigits (n w : Nat) : Nat.ofDigitChars 10 (Number.padDigits n w).toList 0 = n := by
  rw [padDigits_toList, Nat.ofDigitChars_append, Nat.ofDigitChars_replicate_zero, Nat.mul_zero,
    Nat.ofDigitChars_ten_toDigits]

/-- A number written in `w` padded digits reads back at the cursor, which
moves past them. -/
theorem readFixedDigits_padDigits {L R : List UInt8} {pos n w : Nat} (hw : 0 < w) (hn : n < 10 ^ w)
    (h : L.drop pos = asciiBytes (Number.padDigits n w).toList ++ R) :
    readFixedDigits ⟨L.toArray, pos⟩ w = some (n, ⟨L.toArray, pos + w⟩) ∧ L.drop (pos + w) = R := by
  have hlen := length_padDigits hw hn
  have hread := readFixedDigits_of_drop (fun c hc => isAsciiDigit_of_mem_padDigits hc) h
  rw [hlen, ofDigitChars_padDigits] at hread
  refine ⟨hread, ?_⟩
  have := drop_after h
  rwa [length_asciiBytes, hlen] at this

theorem padDigits_ne_nil {n w : Nat} (hw : 0 < w) (hn : n < 10 ^ w) :
    (Number.padDigits n w).toList ≠ [] :=
  List.ne_nil_of_length_pos (by rw [length_padDigits hw hn]; exact hw)

/-! ### The characters of ISO texts -/

/-- The characters ISO texts are written in: digits, separators and signs. -/
def isIsoChar (c : Char) : Bool :=
  Text.isAsciiDigit c || c == ':' || c == '.' || c == '+' || c == '-' || c == 'T'

theorem toNat_lt_of_isIsoChar {c : Char} (h : isIsoChar c = true) : c.toNat < 128 := by
  simp only [isIsoChar, Bool.or_eq_true, beq_iff_eq] at h
  rcases h with ((((h | rfl) | rfl) | rfl) | rfl) | rfl
  · simp only [Text.isAsciiDigit, Bool.and_eq_true, decide_eq_true_eq] at h
    have : c.toNat ≤ 57 := h.2
    omega
  all_goals decide

theorem isBlank_of_isIsoChar {c : Char} (h : isIsoChar c = true) : Text.isBlank c = false := by
  simp only [isIsoChar, Bool.or_eq_true, beq_iff_eq] at h
  rcases h with ((((h | rfl) | rfl) | rfl) | rfl) | rfl
  · exact Text.isBlank_of_isAsciiDigit h
  all_goals decide

theorem isIsoChar_of_clock {c : Char} (h : Text.isAsciiDigit c = true ∨ c = ':' ∨ c = '.') :
    isIsoChar c = true := by
  rcases h with h | rfl | rfl
  · simp [isIsoChar, h]
  all_goals decide

/-! ### Dates -/

theorem daysInMonth_le (y m : Nat) : daysInMonth y m ≤ 31 := by
  unfold daysInMonth
  split <;> (try split) <;> omega

/-- The characters of a date's ISO text. -/
theorem Date.isoText_toList (d : Date) :
    d.isoText.toList = (Number.padDigits d.year 4).toList ++
      '-' :: ((two d.month).toList ++ '-' :: (two d.day).toList) := by
  simp [Date.isoText]

/-- A valid date's ISO text at the front of the bytes reads as its fields. -/
theorem readDateFields_isoText {d : Date} (hd : d.isValid = true) (R : List UInt8) (limit : Nat) :
    readDateFields ⟨(asciiBytes d.isoText.toList ++ R).toArray, 0⟩ limit =
      some (d.year, d.month, d.day) := by
  simp only [Date.isValid, Bool.and_eq_true, decide_eq_true_eq] at hd
  obtain ⟨⟨⟨⟨⟨hy1, hy⟩, hm1⟩, hm⟩, hd1⟩, hdd⟩ := hd
  have hday : d.day < 100 := by
    have := daysInMonth_le d.year d.month
    omega
  set L := asciiBytes d.isoText.toList ++ R with hL
  have h0 : L.drop 0 = asciiBytes (Number.padDigits d.year 4).toList ++
      (45 :: asciiBytes (two d.month).toList ++ 45 :: asciiBytes (two d.day).toList ++ R) := by
    simp [hL, Date.isoText_toList]
    rfl
  have hpad : ∀ {n w}, 0 < w → ∀ c ∈ (Number.padDigits n w).toList, Text.isAsciiDigit c = true :=
    fun _ c hc => isAsciiDigit_of_mem_padDigits hc
  obtain ⟨hyear, h4⟩ := readFixedDigits_padDigits (by norm_num) (by omega) h0
  have hsep : (⟨L.toArray, 0 + 4⟩ : Cursor).peek = 45 := peek_of_drop (by simpa using h4)
  have h5 : L.drop (0 + 4 + 1) = asciiBytes (two d.month).toList ++
      (45 :: asciiBytes (two d.day).toList ++ R) := by
    simpa using drop_after (P := [45]) (by simpa using h4)
  have hweek : (⟨L.toArray, 0 + 4 + 1⟩ : Cursor).peek ≠ 87 :=
    ne_of_isDigitByte (isDigitByte_peek (padDigits_ne_nil (by norm_num) (by omega)) (hpad (by norm_num)) h5)
      (by decide)
  obtain ⟨hmonth, h7⟩ := readFixedDigits_padDigits (by norm_num) (by omega) h5
  have hsep' : (⟨L.toArray, 0 + 4 + 1 + 2⟩ : Cursor).peek = 45 := peek_of_drop (by simpa using h7)
  have h8 : L.drop (0 + 4 + 1 + 2 + 1) = asciiBytes (two d.day).toList ++ R := by
    simpa using drop_after (P := [45]) (by simpa using h7)
  obtain ⟨hdayRead, -⟩ := readFixedDigits_padDigits (by norm_num) (by omega) h8
  simp [readDateFields, hyear, hsep, Cursor.advance, hweek, hmonth, hsep', hdayRead]

theorem Date.mem_isoText {d : Date} {c : Char} (hc : c ∈ d.isoText.toList) :
    Text.isAsciiDigit c = true ∨ c = '-' := by
  rw [Date.isoText_toList] at hc
  simp only [List.mem_append, List.mem_cons] at hc
  rcases hc with hc | rfl | hc | rfl | hc
  all_goals first
    | exact .inr rfl
    | exact .inl (isAsciiDigit_of_mem_padDigits hc)

theorem Date.isIsoChar_isoText (d : Date) : ∀ c ∈ d.isoText.toList, isIsoChar c = true := by
  intro c hc
  rcases Date.mem_isoText hc with h | rfl
  · exact isIsoChar_of_clock (.inl h)
  · decide

/-- A valid date's ISO text has ten characters. -/
theorem Date.length_isoText {d : Date} (hd : d.isValid = true) : d.isoText.toList.length = 10 := by
  simp only [Date.isValid, Bool.and_eq_true, decide_eq_true_eq] at hd
  have hday : d.day < 100 := by
    have := daysInMonth_le d.year d.month
    omega
  rw [Date.isoText_toList]
  simp only [List.length_append, List.length_cons, two,
    length_padDigits (n := d.year) (w := 4) (by norm_num) (by omega),
    length_padDigits (n := d.month) (w := 2) (by norm_num) (by omega),
    length_padDigits (n := d.day) (w := 2) (by norm_num) hday]

/-- A valid date reads back from its ISO text. -/
theorem readDate?_isoText {d : Date} (hd : d.isValid = true) : readDate? d.isoText = some d := by
  have hbytes : textBytes d.isoText = (asciiBytes d.isoText.toList ++ []).toArray := by
    rw [List.append_nil,
      textBytes_ascii (fun c hc => toNat_lt_of_isIsoChar (Date.isIsoChar_isoText d c hc))]
  simp only [readDate?, hbytes, readDateFields_isoText hd]
  simp [hd, Date.length_isoText hd]

/-! ### Clock fields -/

@[simp] theorem colon_toUInt8 : (':' : Char).toUInt8 = 58 := rfl

@[simp] theorem point_toUInt8 : ('.' : Char).toUInt8 = 46 := rfl

@[simp] theorem plus_toUInt8 : ('+' : Char).toUInt8 = 43 := rfl

@[simp] theorem minus_toUInt8 : ('-' : Char).toUInt8 = 45 := rfl

/-- Two digits and the separator after them: the value, the separator at the
cursor past the digits, and what is left after the separator. -/
theorem readTwo {L R : List UInt8} {pos n : Nat} {b : UInt8} (hn : n < 100)
    (hL : L.drop pos = asciiBytes (two n).toList ++ b :: R) :
    readFixedDigits ⟨L.toArray, pos⟩ 2 = some (n, ⟨L.toArray, pos + 2⟩) ∧
      (⟨L.toArray, pos + 2⟩ : Cursor).peek = b ∧ L.drop (pos + 2 + 1) = R := by
  obtain ⟨hread, hrest⟩ := readFixedDigits_padDigits (n := n) (w := 2) (by norm_num) hn hL
  exact ⟨hread, peek_of_drop hrest, drop_after (P := [b]) (by simpa using hrest)⟩

/-- A field ends where the part does. -/
theorem fieldEnd_done (c : Cursor) (stop : Nat) (colons : Bool) (h : stop ≤ c.pos + 1) :
    fieldEnd c stop colons = .done (c.peek != 0) := by
  simp [fieldEnd, h]

/-- A colon before the end of the part starts the next field. -/
theorem fieldEnd_next {c : Cursor} (stop : Nat) (h : c.pos + 1 < stop) (hb : c.peek = 58) :
    fieldEnd c stop true = .next (c.pos + 1) := by
  simp [fieldEnd, Nat.not_le.mpr h, hb]

/-- A point before the end of the part starts the fraction. -/
theorem fieldEnd_fraction {c : Cursor} (stop : Nat) (h : c.pos + 1 < stop) (hb : c.peek = 46) :
    fieldEnd c stop true = .fraction (c.pos + 1) := by
  simp [fieldEnd, Nat.not_le.mpr h, hb]

/-- Six fraction digits up to the end of the part read as microseconds; a
byte that is no digit follows them. -/
theorem readFraction_six {L R : List UInt8} {p us h m s : Nat} (hus : us < 10 ^ 6)
    (hL : L.drop p = asciiBytes (Number.padDigits us 6).toList ++ R)
    (hR : ∀ b ∈ R.head?, isDigitByte b = false) :
    readFraction L.toArray p (p + 6) h m s = some ⟨h, m, s, us, R.head?.getD 0 != 0⟩ := by
  obtain ⟨hread, hrest⟩ := readFixedDigits_padDigits (by norm_num) hus hL
  -- nothing is skipped past the six digits
  have hskip : ((List.range (L.length - (p + 6))).map
      (fun k => (⟨L.toArray, p + 6⟩ : Cursor).peekAt k)).takeWhile isDigitByte = [] := by
    cases R with
    | nil =>
      have hlen : L.length ≤ p + 6 := by
        have := congrArg List.length hrest
        simp only [List.length_drop, List.length_nil] at this
        omega
      simp [Nat.sub_eq_zero_of_le hlen]
    | cons b R =>
      have hlen : p + 6 < L.length := by
        have := congrArg List.length hrest
        simp only [List.length_drop, List.length_cons] at this
        omega
      obtain ⟨n, hn⟩ : ∃ n, L.length - (p + 6) = n + 1 := ⟨L.length - (p + 6) - 1, by omega⟩
      rw [hn, List.range_succ_eq_map, List.map_cons, List.takeWhile_cons,
        peekAt_of_drop (k := 0) (by simpa using hrest), if_neg (by simp [hR b rfl])]
  simp [readFraction, hread, hskip, peek_eq_head hrest, Cursor.advance]

/-- `HH:MM` up to the end of the part. -/
theorem readClock_minutes {L R : List UInt8} {pos h m : Nat} (hh : h < 100) (hm : m < 100)
    (hL : L.drop pos = asciiBytes ((two h).toList ++ ':' :: (two m).toList) ++ R) :
    readClock ⟨L.toArray, pos⟩ (pos + 5) = some ⟨h, m, 0, 0, R.head?.getD 0 != 0⟩ := by
  simp only [asciiBytes_append, asciiBytes_cons, List.append_assoc, List.cons_append,
    colon_toUInt8] at hL
  obtain ⟨hhour, hcolon, h3⟩ := readTwo hh hL
  obtain ⟨hmin, h5⟩ := readFixedDigits_padDigits (n := m) (w := 2) (by norm_num) hm h3
  have hnext := fieldEnd_next (pos + 5) (by dsimp only; omega)
    hcolon
  have hend := fieldEnd_done ⟨L.toArray, pos + 2 + 1 + 2⟩ (pos + 5) true
    (by dsimp only; omega)
  simp [readClock, hhour, hcolon, hnext, hmin, hend, peek_eq_head h5]

/-- `HH:MM:SS` up to the end of the part. -/
theorem readClock_seconds {L R : List UInt8} {pos h m s : Nat} (hh : h < 100) (hm : m < 100)
    (hs : s < 100)
    (hL : L.drop pos = asciiBytes ((two h).toList ++ ':' :: (two m).toList ++ ':' :: (two s).toList) ++ R) :
    readClock ⟨L.toArray, pos⟩ (pos + 8) = some ⟨h, m, s, 0, R.head?.getD 0 != 0⟩ := by
  simp only [asciiBytes_append, asciiBytes_cons, List.append_assoc, List.cons_append,
    colon_toUInt8] at hL
  obtain ⟨hhour, hcolon, h3⟩ := readTwo hh hL
  obtain ⟨hmin, hcolon', h6⟩ := readTwo hm h3
  obtain ⟨hsec, h8⟩ := readFixedDigits_padDigits (n := s) (w := 2) (by norm_num) hs h6
  have hnext := fieldEnd_next (pos + 8) (by dsimp only; omega)
    hcolon
  have hnext' := fieldEnd_next (pos + 8)
    (by dsimp only; omega) hcolon'
  have hend := fieldEnd_done ⟨L.toArray, pos + 2 + 1 + 2 + 1 + 2⟩ (pos + 8) true (by dsimp only; omega)
  simp [readClock, hhour, hcolon, hnext, hmin, hnext', hsec, hend, peek_eq_head h8]

/-- `HH:MM:SS.ffffff` up to the end of the part, when no digit follows it. -/
theorem readClock_micros {L R : List UInt8} {pos h m s us : Nat} (hh : h < 100) (hm : m < 100)
    (hs : s < 100) (hus : us < 10 ^ 6)
    (hL : L.drop pos = asciiBytes ((two h).toList ++ ':' :: (two m).toList ++ ':' :: (two s).toList ++
      '.' :: (Number.padDigits us 6).toList) ++ R)
    (hR : ∀ b ∈ R.head?, isDigitByte b = false) :
    readClock ⟨L.toArray, pos⟩ (pos + 15) = some ⟨h, m, s, us, R.head?.getD 0 != 0⟩ := by
  simp only [asciiBytes_append, asciiBytes_cons, List.append_assoc, List.cons_append,
    colon_toUInt8, point_toUInt8] at hL
  obtain ⟨hhour, hcolon, h3⟩ := readTwo hh hL
  obtain ⟨hmin, hcolon', h6⟩ := readTwo hm h3
  obtain ⟨hsec, hpoint, h9⟩ := readTwo hs h6
  have hnext := fieldEnd_next (pos + 15) (by dsimp only; omega)
    hcolon
  have hnext' := fieldEnd_next (pos + 15)
    (by dsimp only; omega) hcolon'
  have hfrac := fieldEnd_fraction (pos + 15)
    (by dsimp only; omega) hpoint
  have hmicro := readFraction_six (h := h) (m := m) (s := s) hus h9 hR
  rw [show pos + 2 + 1 + 2 + 1 + 2 + 1 + 6 = pos + 15 by omega] at hmicro
  simp [readClock, hhour, hcolon, hnext, hmin, hnext', hsec, hfrac, hmicro]

theorem length_two {n : Nat} (hn : n < 100) : (two n).toList.length = 2 :=
  length_padDigits (by norm_num) hn

/-! ### The zone of a time text -/

/-- The bytes that start a zone: `Z`, `+` and `-`. -/
def isZoneByte (b : UInt8) : Bool := b == 90 || b == 43 || b == 45

theorem isZoneByte_of_isDigitByte {b : UInt8} (h : isDigitByte b = true) : isZoneByte b = false := by
  simp only [isZoneByte, Bool.or_eq_false_iff, beq_eq_false_iff_ne]
  refine ⟨⟨?_, ?_⟩, ?_⟩ <;> (rintro rfl; revert h; decide)

/-- The byte at a position is that of what is left of the text there. -/
theorem getD_of_drop {L S : List UInt8} {pos : Nat} (h : L.drop pos = S) (i : Nat) :
    L.toArray.getD (i + pos) 0 = S[i]?.getD 0 := by
  rw [← h, List.getElem?_drop, Nat.add_comm]
  simp [Array.getD_eq_getD_getElem?]

/-- The scan for a zone finds none among bytes that start none. -/
theorem zoneScan_prefix {L P S : List UInt8} {pos : Nat} (hL : L.drop pos = P ++ S)
    (hP : ∀ b ∈ P, isZoneByte b = false) :
    ((List.range P.length).map (· + pos)).find? (fun k => isZoneByte (L.toArray.getD k 0)) =
      none := by
  rw [List.find?_eq_none]
  intro k hk
  obtain ⟨i, hi, rfl⟩ := List.mem_map.mp hk
  have hi : i < P.length := List.mem_range.mp hi
  rw [getD_of_drop hL, List.getElem?_append_left hi, List.getElem?_eq_getElem hi]
  simp [hP _ (List.getElem_mem hi)]

/-- A text with no zone byte left has no zone. -/
theorem zoneScan_none {L P : List UInt8} {pos : Nat} (hL : L.drop pos = P)
    (hP : ∀ b ∈ P, isZoneByte b = false) :
    ((List.range (L.length - pos)).map (· + pos)).find? (fun k => isZoneByte (L.toArray.getD k 0)) =
      none := by
  have hlen : L.length - pos = P.length := by rw [← hL, List.length_drop]
  rw [hlen]
  exact zoneScan_prefix (S := []) (by rw [List.append_nil]; exact hL) hP

/-- The zone starts at the first zone byte. -/
theorem zoneScan_some {L P R : List UInt8} {pos : Nat} {b : UInt8} (hL : L.drop pos = P ++ b :: R)
    (hP : ∀ x ∈ P, isZoneByte x = false) (hb : isZoneByte b = true) :
    ((List.range (L.length - pos)).map (· + pos)).find? (fun k => isZoneByte (L.toArray.getD k 0)) =
      some (pos + P.length) := by
  have hlen : L.length - pos = P.length + (R.length + 1) := by
    have := congrArg List.length hL
    simp only [List.length_drop, List.length_append, List.length_cons] at this
    omega
  have hat : L.toArray.getD (P.length + pos) 0 = b := by
    rw [getD_of_drop hL, List.getElem?_append_right (Nat.le_refl _), Nat.sub_self]
    rfl
  rw [hlen, List.range_add, List.map_append, List.find?_append, zoneScan_prefix hL hP,
    Option.none_or, List.range_succ_eq_map, List.map_cons, List.map_cons, List.find?_cons,
    Nat.add_zero, hat, hb]
  exact congrArg some (Nat.add_comm _ _)

/-! ### The clock of a time text -/

/-- The clock of a time's ISO text: `HH:MM:SS`, then `.ffffff` when the
microseconds are not zero. -/
def clockChars (h m s us : Nat) : List Char :=
  (two h).toList ++ ':' :: (two m).toList ++ ':' :: (two s).toList ++
    (if us != 0 then '.' :: (Number.padDigits us 6).toList else [])

theorem mem_clockChars {h m s us : Nat} {c : Char} (hc : c ∈ clockChars h m s us) :
    Text.isAsciiDigit c = true ∨ c = ':' ∨ c = '.' := by
  simp only [clockChars, List.mem_append, List.mem_cons] at hc
  rcases hc with ((hc | rfl | hc) | rfl | hc) | hc
  · exact .inl (isAsciiDigit_of_mem_padDigits hc)
  · exact .inr (.inl rfl)
  · exact .inl (isAsciiDigit_of_mem_padDigits hc)
  · exact .inr (.inl rfl)
  · exact .inl (isAsciiDigit_of_mem_padDigits hc)
  · split at hc
    · rcases List.mem_cons.mp hc with rfl | hc
      · exact .inr (.inr rfl)
      · exact .inl (isAsciiDigit_of_mem_padDigits hc)
    · simp at hc

/-- The clock starts no zone. -/
theorem isZoneByte_clockChars {h m s us : Nat} :
    ∀ b ∈ asciiBytes (clockChars h m s us), isZoneByte b = false := by
  intro b hb
  obtain ⟨c, hc, rfl⟩ := List.mem_map.mp hb
  rcases mem_clockChars hc with hc | rfl | rfl
  · exact isZoneByte_of_isDigitByte (isDigitByte_toUInt8 hc)
  · decide
  · decide

/-- The clock of a time in range reads as its fields, whatever follows
that is no digit. -/
theorem readClock_clockChars {L R : List UInt8} {pos h m s us : Nat} (hh : h < 100) (hm : m < 100)
    (hs : s < 100) (hus : us < 10 ^ 6) (hL : L.drop pos = asciiBytes (clockChars h m s us) ++ R)
    (hR : ∀ b ∈ R.head?, isDigitByte b = false) :
    readClock ⟨L.toArray, pos⟩ (pos + (clockChars h m s us).length) =
      some ⟨h, m, s, us, R.head?.getD 0 != 0⟩ := by
  by_cases h0 : us = 0
  · subst h0
    have hlen : (clockChars h m s 0).length = 8 := by
      simp [clockChars, length_two hh, length_two hm, length_two hs]
    rw [hlen]
    exact readClock_seconds hh hm hs (by simpa [clockChars] using hL)
  · have hlen : (clockChars h m s us).length = 15 := by
      simp [clockChars, h0, length_two hh, length_two hm, length_two hs,
        length_padDigits (n := us) (w := 6) (by norm_num) hus]
    rw [hlen]
    exact readClock_micros hh hm hs hus (by simpa [clockChars, h0] using hL) hR

/-! ### Offsets -/

/-- The clock of an offset's text after its sign, for the offset's size in
microseconds: hours and minutes, then seconds and microseconds as far as
they are not zero. -/
def offsetClock (a : Nat) : List Char :=
  (two (a / 1000000 / 3600)).toList ++ ':' :: (two (a / 1000000 / 60 % 60)).toList ++
    (if a % 1000000 != 0 then
      ':' :: (two (a / 1000000 % 60)).toList ++ '.' :: (Number.padDigits (a % 1000000) 6).toList
    else if a / 1000000 % 60 != 0 then ':' :: (two (a / 1000000 % 60)).toList
    else [])

theorem offsetText_toList (o : Int) :
    (offsetText o).toList = (if o < 0 then '-' else '+') :: offsetClock o.natAbs := by
  unfold offsetText offsetClock
  by_cases hneg : o < 0 <;> by_cases hus : o.natAbs % 1000000 = 0 <;>
    by_cases hsec : o.natAbs / 1000000 % 60 = 0 <;> simp [hneg, hus, hsec]

theorem mem_offsetClock {a : Nat} {c : Char} (hc : c ∈ offsetClock a) :
    Text.isAsciiDigit c = true ∨ c = ':' ∨ c = '.' := by
  simp only [offsetClock, List.mem_append, List.mem_cons] at hc
  rcases hc with (hc | rfl | hc) | hc
  · exact .inl (isAsciiDigit_of_mem_padDigits hc)
  · exact .inr (.inl rfl)
  · exact .inl (isAsciiDigit_of_mem_padDigits hc)
  · split at hc
    · simp only [List.mem_append, List.mem_cons] at hc
      rcases hc with (rfl | hc) | rfl | hc
      · exact .inr (.inl rfl)
      · exact .inl (isAsciiDigit_of_mem_padDigits hc)
      · exact .inr (.inr rfl)
      · exact .inl (isAsciiDigit_of_mem_padDigits hc)
    · split at hc
      · rcases List.mem_cons.mp hc with rfl | hc
        · exact .inr (.inl rfl)
        · exact .inl (isAsciiDigit_of_mem_padDigits hc)
      · simp at hc

/-- The clock of an offset less than a day reads as its hours, minutes,
seconds and microseconds, to the end of the text. -/
theorem readClock_offsetClock {L : List UInt8} {pos a : Nat} (ha : a < 86400000000)
    (hL : L.drop pos = asciiBytes (offsetClock a)) :
    readClock ⟨L.toArray, pos⟩ L.length =
      some ⟨a / 1000000 / 3600, a / 1000000 / 60 % 60, a / 1000000 % 60, a % 1000000, false⟩ := by
  have hH : a / 1000000 / 3600 < 100 := by omega
  have hM : a / 1000000 / 60 % 60 < 100 := by omega
  have hS : a / 1000000 % 60 < 100 := by omega
  unfold offsetClock at hL
  by_cases hus : a % 1000000 = 0
  · by_cases hsec : a / 1000000 % 60 = 0
    · simp only [hus, hsec, bne_self_eq_false, Bool.false_eq_true, ↓reduceIte, List.append_nil] at hL
      have hlen : L.length = pos + 5 := by
        rw [length_of_drop hL (by simp)]
        simp [length_two hH, length_two hM]
      rw [hlen, readClock_minutes hH hM (R := []) (by simpa using hL)]
      simp [hus, hsec]
    · simp only [hus, bne_self_eq_false, Bool.false_eq_true, ↓reduceIte, hsec, bne_iff_ne, ne_eq,
        not_false_eq_true] at hL
      have hlen : L.length = pos + 8 := by
        rw [length_of_drop hL (by simp)]
        simp [length_two hH, length_two hM, length_two hS]
      rw [hlen, readClock_seconds hH hM hS (R := []) (by simpa using hL)]
      simp [hus]
  · simp only [hus, bne_iff_ne, ne_eq, not_false_eq_true, ↓reduceIte] at hL
    have hlen : L.length = pos + 15 := by
      rw [length_of_drop hL (by simp)]
      simp [length_two hH, length_two hM, length_two hS,
        length_padDigits (n := a % 1000000) (w := 6) (by norm_num) (by omega)]
    rw [hlen, readClock_micros hH hM hS (show a % 1000000 < 10 ^ 6 by omega) (R := []) (by simpa using hL)
      (by simp)]
    rfl

/-! ### Times of day -/

/-- An offset as the reader gives it back: an offset of no whole second is
UTC. -/
def settleOffset (o : Int) : Int := if o.natAbs < 1000000 then 0 else o

/-- A time of day with its offset settled, as it reads back from its text. -/
def TimeOfDay.settled (t : TimeOfDay) : TimeOfDay := { t with offset := t.offset.map settleOffset }

theorem validOffset_settleOffset {o : Int} (ho : validOffset o = true) :
    validOffset (settleOffset o) = true := by
  unfold settleOffset
  split
  · rfl
  · exact ho

theorem TimeOfDay.isValid_settled {t : TimeOfDay} (ht : t.isValid = true) : t.settled.isValid = true := by
  obtain ⟨h, m, s, us, _ | o⟩ := t
  · exact ht
  · simp only [TimeOfDay.settled, Option.map_some, TimeOfDay.isValid, Bool.and_eq_true] at ht ⊢
    exact ⟨ht.1, validOffset_settleOffset ht.2⟩

/-- The offset the reader rebuilds from the whole seconds and the
microseconds of an offset's size, and from its sign, is the settled offset. -/
theorem settleOffset_rebuilt (o : Int) :
    (if o < 0 then -(if |o| / 1000000 = 0 then 0 else |o| / 1000000 * 1000000 + |o| % 1000000)
      else if |o| / 1000000 = 0 then 0 else |o| / 1000000 * 1000000 + |o| % 1000000) =
      settleOffset o := by
  have habs : (o.natAbs : Int) = |o| := Int.natCast_natAbs o
  unfold settleOffset
  by_cases hneg : o < 0 <;> by_cases hsmall : |o| / 1000000 = 0 <;> simp only [hneg, hsmall, if_true,
    if_false] <;> split_ifs <;> omega

theorem TimeOfDay.isoText_toList_none (h m s us : Nat) :
    (⟨h, m, s, us, none⟩ : TimeOfDay).isoText.toList = clockChars h m s us := by
  by_cases hus : us = 0 <;> simp [TimeOfDay.isoText, clockChars, hus]

theorem TimeOfDay.isoText_toList_some (h m s us : Nat) (o : Int) :
    (⟨h, m, s, us, some o⟩ : TimeOfDay).isoText.toList =
      clockChars h m s us ++ (if o < 0 then '-' else '+') :: offsetClock o.natAbs := by
  rw [← offsetText_toList]
  by_cases hus : us = 0 <;> simp [TimeOfDay.isoText, clockChars, hus]

theorem TimeOfDay.isIsoChar_isoText (t : TimeOfDay) : ∀ c ∈ t.isoText.toList, isIsoChar c = true := by
  intro c hc
  obtain ⟨h, m, s, us, _ | o⟩ := t
  · rw [TimeOfDay.isoText_toList_none] at hc
    exact isIsoChar_of_clock (mem_clockChars hc)
  · rw [TimeOfDay.isoText_toList_some] at hc
    rcases List.mem_append.mp hc with hc | hc
    · exact isIsoChar_of_clock (mem_clockChars hc)
    · rcases List.mem_cons.mp hc with rfl | hc
      · split <;> decide
      · exact isIsoChar_of_clock (mem_offsetClock hc)

/-- A valid time of day's text, at the end of the bytes, reads as the time
with its offset settled. -/
theorem readTimePart_isoText {L : List UInt8} {pos : Nat} {t : TimeOfDay} (ht : t.isValid = true)
    (hL : L.drop pos = asciiBytes t.isoText.toList) :
    readTimePart ⟨L.toArray, pos⟩ = some t.settled := by
  obtain ⟨h, m, s, us, offset⟩ := t
  have hv := ht
  simp only [TimeOfDay.isValid, Bool.and_eq_true, decide_eq_true_eq] at hv
  obtain ⟨⟨⟨⟨hh, hm⟩, hs⟩, hus⟩, hoff⟩ := hv
  cases offset with
  | none =>
    rw [TimeOfDay.isoText_toList_none] at hL
    have hscan := zoneScan_none hL isZoneByte_clockChars
    have hlen := length_of_drop hL (by simp [clockChars])
    rw [length_asciiBytes] at hlen
    have hread := readClock_clockChars (h := h) (m := m) (s := s) (R := [])
      (by omega) (by omega) (by omega) (show us < 10 ^ 6 by omega) (by simpa using hL) (by simp)
    simp only [isZoneByte] at hscan
    simp only [readTimePart, List.size_toArray, hscan, Option.getD_none]
    rw [if_pos (by simp [hlen, clockChars]), hlen, hread]
    simp [ht, TimeOfDay.settled]
  | some o =>
    have ho : o.natAbs < 86400000000 := by
      simp only [validOffset, Bool.and_eq_true, decide_eq_true_eq] at hoff
      omega
    obtain ⟨b, hb, hsign, hutc, hzone, hdigit⟩ : ∃ b : UInt8,
        (if o < 0 then '-' else '+').toUInt8 = b ∧ (b == 45) = decide (o < 0) ∧ (b == 90) = false ∧
          isZoneByte b = true ∧ isDigitByte b = false := by
      by_cases hneg : o < 0 <;> simp [hneg] <;> decide
    rw [TimeOfDay.isoText_toList_some, asciiBytes_append, asciiBytes_cons, hb] at hL
    have hscan := zoneScan_some hL isZoneByte_clockChars hzone
    have hread := readClock_clockChars (h := h) (m := m) (s := s)
      (R := b :: asciiBytes (offsetClock o.natAbs)) (by omega) (by omega) (by omega)
      (show us < 10 ^ 6 by omega) hL
      (by simpa using hdigit)
    have hat : L.toArray.getD (pos + (clockChars h m s us).length) 0 = b := by
      rw [Nat.add_comm, ← length_asciiBytes, getD_of_drop hL, List.getElem?_append_right le_rfl,
        Nat.sub_self]
      rfl
    have hrest : L.drop (pos + (clockChars h m s us).length + 1) = asciiBytes (offsetClock o.natAbs) := by
      have := drop_after (P := asciiBytes (clockChars h m s us) ++ [b]) (by simpa using hL)
      simpa [Nat.add_assoc] using this
    have hoffRead := readClock_offsetClock ho hrest
    have hlt : pos + (clockChars h m s us).length < L.length := by
      have := length_of_drop hL (by simp)
      simp only [List.length_append, length_asciiBytes, List.length_cons] at this
      omega
    simp only [isZoneByte] at hscan
    rw [length_asciiBytes] at hscan
    simp only [readTimePart, List.size_toArray, hscan, Option.getD_some]
    rw [hread]
    simp only [if_neg (Nat.not_le.mpr hlt), hat, hoffRead]
    simp [hutc, hsign]
    -- hours, minutes and seconds make up the whole seconds again
    have hsecs : ∀ x : Int, 0 ≤ x →
        x / 1000000 / 3600 * 3600 + x / 1000000 / 60 % 60 * 60 + x / 1000000 % 60 = x / 1000000 := by
      intro x hx
      omega
    rw [hsecs |o| (abs_nonneg o), settleOffset_rebuilt]
    exact ⟨TimeOfDay.isValid_settled ht, rfl⟩

/-- A time's text starts with the hour's two digits. -/
theorem TimeOfDay.isoText_toList_hour (t : TimeOfDay) :
    ∃ rest, t.isoText.toList = (two t.hour).toList ++ rest := by
  have hprefix : (two t.hour).toList <+: t.isoText.toList := by
    simp only [TimeOfDay.isoText, String.toList_append, List.append_assoc]
    exact List.prefix_append _ _
  obtain ⟨rest, hrest⟩ := hprefix
  exact ⟨rest, hrest.symm⟩

/-- A valid time of day reads back from its ISO text, its offset settled. -/
theorem readTime?_isoText {t : TimeOfDay} (ht : t.isValid = true) :
    readTime? t.isoText = some t.settled := by
  have hhour : t.hour < 100 := by
    simp only [TimeOfDay.isValid, Bool.and_eq_true, decide_eq_true_eq] at ht
    omega
  obtain ⟨rest, hrest⟩ := TimeOfDay.isoText_toList_hour t
  have hL : (asciiBytes t.isoText.toList).drop 0 = asciiBytes (two t.hour).toList ++ asciiBytes rest := by
    rw [List.drop_zero, hrest, asciiBytes_append]
  -- the text starts with a digit, not with the `T` the reader skips
  have hfirst := isDigitByte_peek (padDigits_ne_nil (by norm_num) hhour) (fun c hc => isAsciiDigit_of_mem_padDigits hc) hL
  have hstart : ((asciiBytes t.isoText.toList).toArray.getD 0 0 == 84) = false := by
    simpa [Cursor.peek, Cursor.peekAt] using ne_of_isDigitByte hfirst (by decide)
  simp only [readTime?, textBytes_ascii (fun c hc => toNat_lt_of_isIsoChar
    (TimeOfDay.isIsoChar_isoText t c hc)), hstart, Bool.false_eq_true, ↓reduceIte]
  exact readTimePart_isoText ht List.drop_zero

/-! ### Date-times -/

/-- A date-time with its time's offset settled. -/
def DateTime.settled (d : DateTime) : DateTime := ⟨d.date, d.time.settled⟩

theorem DateTime.isoText_toList (d : DateTime) :
    d.isoText.toList = d.date.isoText.toList ++ 'T' :: d.time.isoText.toList := by
  simp [DateTime.isoText]

theorem DateTime.isIsoChar_isoText (d : DateTime) : ∀ c ∈ d.isoText.toList, isIsoChar c = true := by
  intro c hc
  rw [DateTime.isoText_toList] at hc
  rcases List.mem_append.mp hc with hc | hc
  · exact Date.isIsoChar_isoText _ c hc
  · rcases List.mem_cons.mp hc with rfl | hc
    · decide
    · exact TimeOfDay.isIsoChar_isoText _ c hc

/-- A valid date's text, whatever follows it, puts the separator at byte 10:
a dash at byte 4 and a digit at byte 5 mark the extended calendar form. -/
theorem separatorPosition_isoText {d : Date} (hd : d.isValid = true) (R : List UInt8) :
    separatorPosition (asciiBytes d.isoText.toList ++ R).toArray = some 10 := by
  have hv := hd
  simp only [Date.isValid, Bool.and_eq_true, decide_eq_true_eq] at hv
  have hy : d.year < 10 ^ 4 := by omega
  have hm : d.month < 100 := by omega
  set L := asciiBytes d.isoText.toList ++ R with hLdef
  have h4 : L.drop (0 + 4) = 45 :: (asciiBytes (two d.month).toList ++
      (45 :: asciiBytes (two d.day).toList ++ R)) := by
    refine (readFixedDigits_padDigits (L := L) (by norm_num) hy ?_).2
    simp [hLdef, Date.isoText_toList]
  have h5 : L.drop (0 + 4 + 1) = asciiBytes (two d.month).toList ++
      (45 :: asciiBytes (two d.day).toList ++ R) :=
    drop_after (P := [45]) (by simpa using h4)
  have hat4 : L.toArray.getD 4 0 = 45 := by simpa using getD_of_drop h4 0
  have hat5 : isDigitByte (L.toArray.getD 5 0) = true := by
    simpa [Cursor.peek, Cursor.peekAt] using
      isDigitByte_peek (padDigits_ne_nil (by norm_num) hm) (fun c hc => isAsciiDigit_of_mem_padDigits hc) h5
  have h87 : L[5]?.getD 0 ≠ 87 := by
    simpa [Array.getD_eq_getD_getElem?] using ne_of_isDigitByte hat5 (by decide)
  have hsize : L.length ≠ 7 := by
    simp [hLdef, Date.length_isoText hd]
    omega
  simp [separatorPosition, hsize, hat4, h87]

/-- A valid date-time reads back from its ISO text, its offset settled. -/
theorem readDateTime?_isoText {d : DateTime} (hd : d.date.isValid = true)
    (ht : d.time.isValid = true) : readDateTime? d.isoText = some d.settled := by
  have hdlen := Date.length_isoText hd
  set R := asciiBytes d.time.isoText.toList with hR
  set L := asciiBytes d.date.isoText.toList ++ 84 :: R with hL
  have hbytes : textBytes d.isoText = L.toArray := by
    rw [textBytes_ascii (fun c hc => toNat_lt_of_isIsoChar (DateTime.isIsoChar_isoText d c hc)),
      DateTime.isoText_toList]
    simp [hL, hR]
    rfl
  have hlength : ¬d.isoText.length < 7 := by
    rw [← String.length_toList, DateTime.isoText_toList]
    simp [hdlen]
    omega
  -- the time starts past the one-byte separator `T` at byte 10
  have hdatelen : (asciiBytes d.date.isoText.toList).length = 10 := by simp [hdlen]
  have hsize : 10 < L.length := by simp [hL, hdlen]
  have hat : L[10] = 84 := by
    simp only [hL, List.getElem_append_right (Nat.le_of_eq hdatelen), hdatelen, Nat.sub_self,
      List.getElem_cons_zero]
  have hdrop : L.drop (10 + charWidth 84) = R := by
    rw [hL, show 10 + charWidth 84 = 10 + 1 by decide, ← hdatelen, ← List.drop_drop, List.drop_left,
      List.drop_one, List.tail_cons]
  have hsep : separatorPosition L.toArray = some 10 := separatorPosition_isoText hd _
  have hfields : readDateFields ⟨L.toArray, 0⟩ 10 = some (d.date.year, d.date.month, d.date.day) :=
    readDateFields_isoText hd _ 10
  simp only [readDateTime?, hlength, hbytes, hsep]
  simp [hfields, hsize, hat, readTimePart_isoText ht hdrop, hd, DateTime.settled]

end Time

end TableGraph
