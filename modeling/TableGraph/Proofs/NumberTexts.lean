import Mathlib
import TableGraph.Value.Exchange

/-!
# Numbers that read back from their own text

Big integers, decimals and UUIDs travel to the API as text and come back
through the readers of their kind. Each reader takes more than the writer
ever writes (blanks, digits of other scripts, grouping underscores, braces
and prefixes around a UUID), so the round trip rests on the writer's text
avoiding all of it: the texts below are made of ASCII digits, points,
exponent marks and signs only.

Decimal digits are written and read by halves (`Decimal.digitsOf`,
`Decimal.digitsValue`) so that long numbers cost a few large divisions; both
are first shown to be the plain digit-by-digit functions, and everything
after is about those.

Main results:

* `Number.Decimal.digitsOf_eq_toDigits` — the digits written by halves are
  the plain decimal digits;
* `Number.Decimal.digitsValue_eq` — digits read by halves have their plain
  value;
* `Number.readInt?_toString` — the decimal text of an integer of at most
  `intDigitLimit` digits reads back as that integer;
* `Number.Decimal.ofText?_text` — a finite decimal within the exponent range
  of exact reading reads back from its scientific-string form, with its
  sign, its exponent and its trailing zeros;
* `readUuid_uuidText` — a 128-bit number reads back from its UUID text.
-/

namespace TableGraph

namespace Text

/-- ASCII digits are no blanks. -/
theorem isBlank_of_isAsciiDigit {c : Char} (h : isAsciiDigit c = true) : isBlank c = false := by
  simp only [isAsciiDigit, Bool.and_eq_true, decide_eq_true_eq] at h
  obtain ⟨h0, h9⟩ := h
  have h0' : 48 ≤ c.toNat := h0
  have h9' : c.toNat ≤ 57 := h9
  simp only [isBlank, Bool.or_eq_false_iff, Bool.and_eq_false_iff, decide_eq_false_iff_not,
    beq_eq_false_iff_ne]
  omega

/-- Trimming a predicate from both ends keeps a list none of whose members
satisfies it. -/
theorem trim_eq_self {p : Char → Bool} {cs : List Char} (h : ∀ c ∈ cs, p c = false) :
    ((cs.dropWhile p).reverse.dropWhile p).reverse = cs := by
  have hkeep : ∀ l : List Char, (∀ c ∈ l, p c = false) → l.dropWhile p = l := by
    intro l hl
    cases l with
    | nil => rfl
    | cons c l => simp [List.dropWhile, hl c (by simp)]
  rw [hkeep cs h, hkeep cs.reverse (by simpa using h), List.reverse_reverse]

theorem trimBlank_eq_self {cs : List Char} (h : ∀ c ∈ cs, isBlank c = false) :
    trimBlank cs = cs :=
  trim_eq_self h

/-- An ASCII digit is the digit of its own script. -/
theorem digitValue?_of_isAsciiDigit {c : Char} (h : isAsciiDigit c = true) :
    digitValue? c = some (c.toNat - '0'.toNat) := by
  simp only [isAsciiDigit, Bool.and_eq_true, decide_eq_true_eq] at h
  obtain ⟨h0, h9⟩ := h
  have h0' : 48 ≤ c.toNat := h0
  have h9' : c.toNat ≤ 57 := h9
  have h58 : c.toNat < 58 := by omega
  simp [digitValue?, digitZeros, h0', h58]

/-- ASCII digits are what `Char.isDigit` calls digits. -/
theorem isAsciiDigit_eq_isDigit (c : Char) : isAsciiDigit c = c.isDigit := rfl

/-- The decimal digits of a number are ASCII digits. -/
theorem isAsciiDigit_of_mem_toDigits {m : Nat} {c : Char} (h : c ∈ Nat.toDigits 10 m) :
    isAsciiDigit c = true := by
  rw [isAsciiDigit_eq_isDigit]
  exact Nat.isDigit_of_mem_toDigits (by norm_num) (by norm_num) h

end Text

namespace Number

namespace Decimal

/-! ### Digits -/

/-- Reading digits after a value already read shifts that value by as many
places as there are digits. -/
theorem ofDigitChars_init (cs : List Char) (init : Nat) :
    Nat.ofDigitChars 10 cs init = 10 ^ cs.length * init + Nat.ofDigitChars 10 cs 0 := by
  induction cs generalizing init with
  | nil => simp [Nat.ofDigitChars_nil]
  | cons c cs ih =>
    simp only [Nat.ofDigitChars_cons]
    rw [ih (10 * init + _), ih (10 * 0 + _), List.length_cons, pow_succ]
    ring

/-- Digits read by halves have their plain value. -/
theorem digitsValue_eq (cs : List Char) : digitsValue cs = Nat.ofDigitChars 10 cs 0 := by
  fun_induction digitsValue cs with
  | case1 cs hshort => rfl
  | case2 cs hlong k ihTake ihDrop =>
    rw [ihTake, ihDrop, Nat.pow_eq]
    conv_rhs => rw [← List.take_append_drop k cs, Nat.ofDigitChars_append, ofDigitChars_init]
    simp only [List.length_drop]
    ring

/-- The digits of `hi·10^k + lo`, with `0 < k` and `lo` below `10^k`: those of
`hi`, then those of `lo` padded with zeros to `k` places. -/
theorem toDigits_shift {hi : Nat} (hhi : 0 < hi) {k lo : Nat} (hk : 0 < k) (hlo : lo < 10 ^ k) :
    Nat.toDigits 10 (hi * 10 ^ k + lo) =
      Nat.toDigits 10 hi ++ List.replicate (k - (Nat.toDigits 10 lo).length) '0' ++
        Nat.toDigits 10 lo := by
  obtain ⟨j, rfl⟩ : ∃ j, k = j + 1 := ⟨k - 1, by omega⟩
  induction j generalizing lo with
  | zero =>
    have hlo' : lo < 10 := by simpa using hlo
    rw [pow_one, Nat.mul_comm, ← Nat.toDigits_append_toDigits (by norm_num) hhi hlo',
      Nat.toDigits_of_lt_base hlo']
    simp
  | succ j ih =>
    -- the last digit of `lo` is the last digit of the whole number
    have hsplit : hi * 10 ^ (j + 2) + lo = 10 * (hi * 10 ^ (j + 1) + lo / 10) + lo % 10 := by
      have := Nat.div_add_mod lo 10
      rw [pow_succ]
      linarith
    have hpos : 0 < hi * 10 ^ (j + 1) + lo / 10 := by positivity
    have hhigh : lo / 10 < 10 ^ (j + 1) := by
      rw [pow_succ] at hlo
      omega
    rw [hsplit, ← Nat.toDigits_append_toDigits (by norm_num) hpos (Nat.mod_lt _ (by norm_num)),
      ih (Nat.succ_pos j) hhigh, Nat.toDigits_of_lt_base (Nat.mod_lt _ (by norm_num))]
    rcases Nat.lt_or_ge lo 10 with hsmall | hbig
    · -- a one-digit `lo`: the zero that `lo / 10` writes is one more padding zero
      rw [Nat.div_eq_of_lt hsmall, Nat.mod_eq_of_lt hsmall, Nat.toDigits_zero,
        Nat.toDigits_of_lt_base hsmall]
      simp [List.replicate_succ']
    · rw [Nat.toDigits_of_base_le (by norm_num) hbig]
      have hlen : j + 1 + 1 - (Nat.toDigits 10 (lo / 10) ++ [(lo % 10).digitChar]).length =
          j + 1 - (Nat.toDigits 10 (lo / 10)).length := by
        simp only [List.length_append, List.length_singleton]
        omega
      rw [hlen]
      simp only [List.append_assoc]

/-- The digits written by halves are the plain decimal digits. -/
theorem digitsOf_eq_toDigits (n : Nat) : digitsOf n = Nat.toDigits 10 n := by
  fun_induction digitsOf n with
  | case1 n hsmall => rw [Nat.toString_eq_ofList_toDigits, String.toList_ofList]
  | case2 n hbig k split lo ihLo ihHi =>
    obtain ⟨hk, hle⟩ := split
    simp only [Nat.pow_eq] at hk hle ihLo ihHi ⊢
    have hkpos : 0 < k := Nat.pos_of_ne_zero fun h => by simp [h] at hk
    simp only [lo, Nat.pow_eq, ihLo, ihHi]
    conv_rhs => rw [← Nat.div_add_mod n (10 ^ k), Nat.mul_comm (10 ^ k)]
    rw [toDigits_shift (Nat.div_pos hle (by positivity)) hkpos (Nat.mod_lt _ (by positivity))]
  | case3 n hbig k split =>
    rw [Nat.toString_eq_ofList_toDigits, String.toList_ofList]

theorem digitsOf_ne_nil (n : Nat) : digitsOf n ≠ [] := by
  rw [digitsOf_eq_toDigits]
  exact Nat.toDigits_ne_nil

theorem isAsciiDigit_of_mem_digitsOf {n : Nat} {c : Char} (h : c ∈ digitsOf n) :
    Text.isAsciiDigit c = true := by
  rw [digitsOf_eq_toDigits] at h
  rw [Text.isAsciiDigit_eq_isDigit]
  exact Nat.isDigit_of_mem_toDigits (by norm_num) (by norm_num) h

theorem ofDigitChars_digitsOf (n : Nat) : Nat.ofDigitChars 10 (digitsOf n) 0 = n := by
  rw [digitsOf_eq_toDigits, Nat.ofDigitChars_ten_toDigits]

/-- Replacing digits of other scripts leaves ASCII digits and non-digits alone. -/
theorem asciiDigits_eq_self {cs : List Char}
    (h : ∀ c ∈ cs, Text.isAsciiDigit c = true ∨ Text.digitValue? c = none) :
    asciiDigits cs = cs := by
  conv_rhs => rw [← List.map_id cs]
  refine List.map_congr_left fun c hc => ?_
  rcases h c hc with hd | hn
  · have h0 : '0'.toNat ≤ c.toNat := by
      simp only [Text.isAsciiDigit, Bool.and_eq_true, decide_eq_true_eq] at hd
      exact hd.1
    simp only [Text.digitValue?_of_isAsciiDigit hd, Text.chr, id]
    rw [Nat.add_sub_cancel' h0, Char.ofNat_toNat]
  · simp [hn]

/-- A sign is split off only when the text starts with one. -/
theorem splitSign_of_digit {c : Char} {cs : List Char} (h : Text.isAsciiDigit c = true) :
    splitSign (c :: cs) = (false, c :: cs) := by
  have hm : c ≠ '-' := by rintro rfl; simp [Text.isAsciiDigit] at h
  have hp : c ≠ '+' := by rintro rfl; simp [Text.isAsciiDigit] at h
  simp [splitSign, hm, hp]

/-- A run of ASCII digits reads as its plain value. -/
theorem readDigits?_eq {cs : List Char} (hne : cs ≠ [])
    (hd : ∀ c ∈ cs, Text.isAsciiDigit c = true) :
    readDigits? cs = some (Nat.ofDigitChars 10 cs 0) := by
  have hempty : cs.isEmpty = false := List.isEmpty_eq_false_iff.mpr hne
  simp [readDigits?, hempty, List.all_eq_true.mpr hd, digitsValue_eq]

/-- The decimal digits of a number read back as that number. -/
theorem readDigits?_toDigits (m : Nat) : readDigits? (Nat.toDigits 10 m) = some m := by
  rw [readDigits?_eq Nat.toDigits_ne_nil, Nat.ofDigitChars_ten_toDigits]
  intro c hc
  rw [Text.isAsciiDigit_eq_isDigit]
  exact Nat.isDigit_of_mem_toDigits (by norm_num) (by norm_num) hc

/-! ### The scientific-string form -/

/-- An ASCII digit is none of the marks a numeral is read by. -/
theorem ne_of_isAsciiDigit {c d : Char} (hc : Text.isAsciiDigit c = true)
    (hd : Text.isAsciiDigit d = false) : c ≠ d := by
  rintro rfl
  simp [hd] at hc

/-- Digits with neither point nor exponent read as a whole number. -/
theorem readBody?_digits {ds : List Char} (hne : ds ≠ [])
    (hd : ∀ c ∈ ds, Text.isAsciiDigit c = true) :
    readBody? ds = some (Nat.ofDigitChars 10 ds 0, 0) := by
  have hexp : ds.findIdx? (fun c => c == 'e' || c == 'E') = none := by
    rw [List.findIdx?_eq_none_iff]
    intro c hc
    simp [ne_of_isAsciiDigit (hd c hc) (d := 'e') (by decide),
      ne_of_isAsciiDigit (hd c hc) (d := 'E') (by decide)]
  have hpoint : ∀ c ∈ ds, c ≠ '.' := fun c hc => ne_of_isAsciiDigit (hd c hc) (by decide)
  have hfind : ds.findIdx? (· == '.') = none := by
    rw [List.findIdx?_eq_none_iff]
    intro c hc
    simp [hpoint c hc]
  have hcontains : '.' ∉ ds := fun h => hpoint '.' h rfl
  simp [readBody?, hexp, hfind, hcontains, List.isEmpty_eq_false_iff.mpr hne,
    List.all_eq_true.mpr hd, readDigits?_eq hne hd]

/-- Digits, a point and digits read as the digits' value, the exponent
lowered by the digits after the point. -/
theorem readBody?_point {w f : List Char} (hw : w ≠ [])
    (hwd : ∀ c ∈ w, Text.isAsciiDigit c = true) (hfd : ∀ c ∈ f, Text.isAsciiDigit c = true) :
    readBody? (w ++ '.' :: f) = some (Nat.ofDigitChars 10 (w ++ f) 0, -(f.length : Int)) := by
  have hd : ∀ c ∈ w ++ f, Text.isAsciiDigit c = true := by
    intro c hc
    rcases List.mem_append.mp hc with hc | hc
    · exact hwd c hc
    · exact hfd c hc
  have hexp : (w ++ '.' :: f).findIdx? (fun c => c == 'e' || c == 'E') = none := by
    rw [List.findIdx?_eq_none_iff]
    intro c hc
    rcases List.mem_append.mp hc with hc | hc
    · simp [ne_of_isAsciiDigit (hwd c hc) (d := 'e') (by decide),
        ne_of_isAsciiDigit (hwd c hc) (d := 'E') (by decide)]
    · rcases List.mem_cons.mp hc with rfl | hc
      · decide
      · simp [ne_of_isAsciiDigit (hfd c hc) (d := 'e') (by decide),
          ne_of_isAsciiDigit (hfd c hc) (d := 'E') (by decide)]
  have hwpoint : ∀ c ∈ w, c ≠ '.' := fun c hc => ne_of_isAsciiDigit (hwd c hc) (by decide)
  have hfpoint : ∀ c ∈ f, c ≠ '.' := fun c hc => ne_of_isAsciiDigit (hfd c hc) (by decide)
  have hfind : (w ++ '.' :: f).findIdx? (· == '.') = some w.length := by
    have hw' : w.findIdx? (· == '.') = none := by
      rw [List.findIdx?_eq_none_iff]
      intro c hc
      simp [hwpoint c hc]
    simp [List.findIdx?_append, List.findIdx?_cons, hw']
  have hfcontains : '.' ∉ f := fun h => hfpoint '.' h rfl
  simp [readBody?, hexp, hfind, hfcontains, List.isEmpty_eq_false_iff.mpr hw,
    List.all_eq_true.mpr hd, readDigits?_eq (by simp [hw]) hd]

/-- An exponent after a mantissa adds to the mantissa's own exponent. -/
theorem readBody?_exponent {m e : List Char} (hm : ∀ c ∈ m, c ≠ 'e' ∧ c ≠ 'E') :
    readBody? (m ++ 'E' :: e) =
      (readExponent? e).bind fun x => (readBody? m).map fun p => (p.1, x + p.2) := by
  have hm' : m.findIdx? (fun c => c == 'e' || c == 'E') = none := by
    rw [List.findIdx?_eq_none_iff]
    intro c hc
    simp [(hm c hc).1, (hm c hc).2]
  have hfind : (m ++ 'E' :: e).findIdx? (fun c => c == 'e' || c == 'E') = some m.length := by
    simp [List.findIdx?_append, List.findIdx?_cons, hm']
  have htake : (m ++ 'E' :: e).take m.length = m := List.take_left' rfl
  have hdrop : (m ++ 'E' :: e).drop (m.length + 1) = e := by
    rw [← List.singleton_append, ← List.append_assoc]
    exact List.drop_left' (by simp)
  cases hx : readExponent? e with
  | none => simp [readBody?, hfind, hx, htake, hdrop]
  | some x =>
    cases hp : m.findIdx? (· == '.') <;>
      simp only [readBody?, hfind, hm', hx, htake, hdrop, hp, Option.bind_some] <;>
      split_ifs <;> (try rfl) <;> split <;> simp_all [Int.sub_eq_add_neg]

/-- The exponent part as the scientific-string form writes it. -/
theorem readExponent?_signed (a : Int) :
    readExponent? ((if a ≥ 0 then '+' else '-') :: Nat.toDigits 10 a.natAbs) = some a := by
  by_cases ha : a ≥ 0
  · simp [readExponent?, splitSign, ha, readDigits?_toDigits]
  · simp [readExponent?, splitSign, ha, readDigits?_toDigits, abs_of_neg (lt_of_not_ge ha)]

/-- A word that starts with a digit is no name of a special value. -/
theorem word_of_digit {d : Char} (hd : Text.isAsciiDigit d = true) (l : List Char) :
    (String.ofList (d :: l) == "inf" || String.ofList (d :: l) == "infinity") = false ∧
      (String.ofList (d :: l)).startsWith "nan" = false ∧
      (String.ofList (d :: l)).startsWith "snan" = false := by
  have hi : d ≠ 'i' := ne_of_isAsciiDigit hd (by decide)
  have hn : d ≠ 'n' := ne_of_isAsciiDigit hd (by decide)
  have hs : d ≠ 's' := ne_of_isAsciiDigit hd (by decide)
  refine ⟨?_, ?_, ?_⟩
  · simp only [Bool.or_eq_false_iff, beq_eq_false_iff_ne]
    constructor
    · intro h
      have hl := congrArg String.toList h
      rw [String.toList_ofList, show ("inf" : String).toList = ['i', 'n', 'f'] from rfl] at hl
      exact hi (List.cons.inj hl).1
    · intro h
      have hl := congrArg String.toList h
      rw [String.toList_ofList,
        show ("infinity" : String).toList = ['i', 'n', 'f', 'i', 'n', 'i', 't', 'y'] from rfl] at hl
      exact hi (List.cons.inj hl).1
  · rw [String.startsWith_string_eq_false_iff]
    simp [Ne.symm hn]
  · rw [String.startsWith_string_eq_false_iff]
    simp [Ne.symm hs]

/-- A text made of an optional minus and a body of digits and marks that
starts with a digit reads as the finite decimal its body spells, when that
decimal is within the range of exact reading. -/
theorem ofText?_signed {s : String} {neg : Bool} {body : List Char} {coeff : Nat} {exp : Int}
    (hs : s.toList = (if neg then ['-'] else []) ++ body)
    (hchars : ∀ c ∈ body, Text.isAsciiDigit c = true ∨ c ∈ ['.', 'E', '+', '-'])
    (hhead : ∃ d rest, body = d :: rest ∧ Text.isAsciiDigit d = true)
    (hbody : readBody? body = some (coeff, exp)) (hfits : fitsExactly coeff exp = true) :
    ofText? (Text.strip s) = some (.finite neg coeff exp) := by
  obtain ⟨d, rest, rfl, hd⟩ := hhead
  -- no character is blank, an underscore or a digit of another script
  have hplain : ∀ c ∈ (if neg then ['-'] else []) ++ d :: rest,
      Text.isBlank c = false ∧ c ≠ '_' ∧
        (Text.isAsciiDigit c = true ∨ Text.digitValue? c = none) := by
    have hmarks : ∀ c ∈ ['.', 'E', '+', '-'],
        Text.isBlank c = false ∧ c ≠ '_' ∧ Text.digitValue? c = none := by
      intro c hc
      simp only [List.mem_cons, List.not_mem_nil, or_false] at hc
      rcases hc with rfl | rfl | rfl | rfl <;> decide
    intro c hc
    have hc' : Text.isAsciiDigit c = true ∨ c ∈ ['.', 'E', '+', '-'] := by
      rcases List.mem_append.mp hc with hc | hc
      · cases neg
        · simp at hc
        · simp only [if_true, List.mem_singleton] at hc
          exact Or.inr (by simp [hc])
      · exact hchars c hc
    rcases hc' with hdig | hmark
    · exact ⟨Text.isBlank_of_isAsciiDigit hdig, ne_of_isAsciiDigit hdig (by decide), Or.inl hdig⟩
    · obtain ⟨hb, hu, hv⟩ := hmarks c hmark
      exact ⟨hb, hu, Or.inr hv⟩
  have hcs : asciiDigits ((Text.trimBlank (Text.strip s).toList).filter (· != '_')) =
      (if neg then ['-'] else []) ++ d :: rest := by
    have htrim := Text.trimBlank_eq_self fun c hc => (hplain c hc).1
    rw [Text.strip, String.toList_ofList, hs, htrim, htrim,
      List.filter_eq_self.mpr fun c hc => by simpa using (hplain c hc).2.1,
      asciiDigits_eq_self fun c hc => (hplain c hc).2.2]
  have hsign : splitSign ((if neg then ['-'] else []) ++ d :: rest) = (neg, d :: rest) := by
    cases neg
    · exact splitSign_of_digit hd
    · rfl
  have hupper : Text.isAsciiUpper d = false := by
    simp only [Text.isAsciiDigit, Bool.and_eq_true, decide_eq_true_eq] at hd
    simp only [Text.isAsciiUpper, Bool.and_eq_false_iff, decide_eq_false_iff_not]
    left
    intro h
    exact absurd (Char.le_trans h hd.2) (by decide)
  obtain ⟨hinf, hnan, hsnan⟩ := word_of_digit hd
    (rest.map fun c => if Text.isAsciiUpper c then Text.chr (c.toNat + 32) else c)
  simp only [ofText?, read, hcs, hsign, List.map_cons, hupper, Bool.false_eq_true, if_false,
    hinf, hnan, hsnan, hbody, hfits, if_true]

/-- The scientific-string form of a finite decimal: an optional minus, then
a body of digits and marks that starts with a digit and reads back as the
coefficient and the exponent. -/
theorem text_finite (neg : Bool) (coeff : Nat) (exp : Int) :
    ∃ body, (finite neg coeff exp).text.toList = (if neg then ['-'] else []) ++ body ∧
      (∀ c ∈ body, Text.isAsciiDigit c = true ∨ c ∈ ['.', 'E', '+', '-']) ∧
      (∃ d rest, body = d :: rest ∧ Text.isAsciiDigit d = true) ∧
      readBody? body = some (coeff, exp) := by
  have hne := digitsOf_ne_nil coeff
  have hdig : ∀ c ∈ digitsOf coeff, Text.isAsciiDigit c = true :=
    fun c hc => isAsciiDigit_of_mem_digitsOf hc
  have hval := ofDigitChars_digitsOf coeff
  obtain ⟨d, rest, hds⟩ := List.exists_cons_of_ne_nil hne
  have hd : Text.isAsciiDigit d = true := hdig d (by simp [hds])
  have hsign : (if neg then "-" else "").toList = if neg then ['-'] else [] := by
    cases neg <;> rfl
  simp only [text]
  by_cases hfixed : (decide (exp ≤ 0) && decide (exp + ((digitsOf coeff).length : Int) - 1 ≥ -6)) = true
  · rw [if_pos hfixed]
    simp only [Bool.and_eq_true, decide_eq_true_eq] at hfixed
    by_cases hzero : (exp == 0) = true
    · -- exponent zero: the digits alone
      rw [if_pos hzero]
      have he : exp = 0 := by simpa using hzero
      refine ⟨digitsOf coeff, by simp [hsign], fun c hc => Or.inl (hdig c hc),
        ⟨d, rest, hds, hd⟩, ?_⟩
      rw [readBody?_digits hne hdig, hval, he]
    rw [if_neg hzero]
    have he : exp ≠ 0 := by simpa using hzero
    set len := (digitsOf coeff).length with hlen
    by_cases hlong : (len : Int) > -exp
    · -- the point inside the digits
      rw [if_pos hlong]
      set cut := ((len : Int) + exp).toNat with hcut
      have hcut' : (cut : Int) = len + exp := Int.toNat_of_nonneg (by omega)
      have hw : (digitsOf coeff).take cut ≠ [] := by
        simp only [ne_eq, List.take_eq_nil_iff, not_or]
        exact ⟨by omega, hne⟩
      refine ⟨(digitsOf coeff).take cut ++ '.' :: (digitsOf coeff).drop cut, by simp [hsign],
        fun c hc => ?_, ?_, ?_⟩
      · rcases List.mem_append.mp hc with hc | hc
        · exact Or.inl (hdig c (List.mem_of_mem_take hc))
        · rcases List.mem_cons.mp hc with rfl | hc
          · exact Or.inr (by simp)
          · exact Or.inl (hdig c (List.mem_of_mem_drop hc))
      · obtain ⟨d', rest', hw'⟩ := List.exists_cons_of_ne_nil hw
        have hd' : Text.isAsciiDigit d' = true := hdig d' (List.mem_of_mem_take (by rw [hw']; simp))
        exact ⟨d', rest' ++ '.' :: (digitsOf coeff).drop cut, by rw [hw', List.cons_append], hd'⟩
      · rw [readBody?_point hw (fun c hc => hdig c (List.mem_of_mem_take hc))
          (fun c hc => hdig c (List.mem_of_mem_drop hc)), List.take_append_drop, hval,
          List.length_drop]
        congr 2
        omega
    · -- a zero, the point, zeros, then the digits
      rw [if_neg hlong]
      set zeros := (-exp - (len : Int)).toNat with hzeros
      have hzeros' : (zeros : Int) = -exp - len := Int.toNat_of_nonneg (by omega)
      refine ⟨['0'] ++ '.' :: (List.replicate zeros '0' ++ digitsOf coeff), by simp [hsign],
        fun c hc => ?_, ⟨'0', _, rfl, by decide⟩, ?_⟩
      · simp only [List.singleton_append, List.mem_cons, List.mem_append, List.mem_replicate] at hc
        rcases hc with rfl | rfl | ⟨-, rfl⟩ | hc
        · exact Or.inl (by decide)
        · exact Or.inr (by simp)
        · exact Or.inl (by decide)
        · exact Or.inl (hdig c hc)
      · have hzd : ∀ c ∈ List.replicate zeros '0' ++ digitsOf coeff, Text.isAsciiDigit c = true := by
          intro c hc
          rcases List.mem_append.mp hc with hc | hc
          · rw [List.eq_of_mem_replicate hc]
            decide
          · exact hdig c hc
        rw [readBody?_point (by simp) (fun c hc => by rw [List.mem_singleton.mp hc]; decide) hzd]
        have hvalue : Nat.ofDigitChars 10 (['0'] ++ (List.replicate zeros '0' ++ digitsOf coeff)) 0 =
            coeff := by
          rw [← List.append_assoc, List.singleton_append, ← List.replicate_succ, Nat.ofDigitChars_append,
            Nat.ofDigitChars_replicate_zero, Nat.mul_zero, hval]
        rw [hvalue, List.length_append, List.length_replicate]
        congr 2
        omega
  rw [if_neg hfixed]
  · -- one digit, the rest after a point, and the adjusted exponent
    set adjusted := exp + ((digitsOf coeff).length : Int) - 1 with hadjusted
    have hexpo : (if adjusted ≥ 0 then "+" else "-").toList = [if adjusted ≥ 0 then '+' else '-'] := by
      split_ifs <;> rfl
    have hexpChars : ∀ c ∈ 'E' :: (if adjusted ≥ 0 then '+' else '-') :: Nat.toDigits 10 adjusted.natAbs,
        Text.isAsciiDigit c = true ∨ c ∈ ['.', 'E', '+', '-'] := by
      intro c hc
      simp only [List.mem_cons] at hc
      rcases hc with rfl | rfl | hc
      · exact Or.inr (by simp)
      · exact Or.inr (by split_ifs <;> simp)
      · rw [Text.isAsciiDigit_eq_isDigit]
        exact Or.inl (Nat.isDigit_of_mem_toDigits (by norm_num) (by norm_num) hc)
    have hd_e : d ≠ 'e' ∧ d ≠ 'E' :=
      ⟨ne_of_isAsciiDigit hd (by decide), ne_of_isAsciiDigit hd (by decide)⟩
    rw [hds] at hval hdig hadjusted ⊢
    cases rest with
    | nil =>
      refine ⟨[d] ++ 'E' :: (if adjusted ≥ 0 then '+' else '-') :: Nat.toDigits 10 adjusted.natAbs,
        by simp [hsign, hexpo], fun c hc => ?_, ⟨d, _, rfl, hd⟩, ?_⟩
      · rcases List.mem_append.mp hc with hc | hc
        · exact Or.inl (hdig c hc)
        · exact hexpChars c hc
      · rw [readBody?_exponent (by simpa using hd_e), readExponent?_signed,
          readBody?_digits (by simp) hdig, hval]
        simp only [Option.bind_some, Option.map_some, add_zero, hadjusted, List.length_singleton]
        congr 2
        omega
    | cons r rs =>
      have hmant : ∀ c ∈ [d] ++ '.' :: r :: rs, c ≠ 'e' ∧ c ≠ 'E' := by
        intro c hc
        rcases List.mem_append.mp hc with hc | hc
        · rw [List.mem_singleton.mp hc]
          exact hd_e
        · rcases List.mem_cons.mp hc with rfl | hc
          · decide
          · have hc' := hdig c (List.mem_cons_of_mem _ hc)
            exact ⟨ne_of_isAsciiDigit hc' (by decide), ne_of_isAsciiDigit hc' (by decide)⟩
      refine ⟨([d] ++ '.' :: r :: rs) ++ 'E' :: (if adjusted ≥ 0 then '+' else '-') ::
          Nat.toDigits 10 adjusted.natAbs, by simp [hsign, hexpo], fun c hc => ?_,
        ⟨d, _, rfl, hd⟩, ?_⟩
      · rcases List.mem_append.mp hc with hc | hc
        · rcases List.mem_append.mp hc with hc | hc
          · exact Or.inl (hdig c (by simp [List.mem_singleton.mp hc]))
          · rcases List.mem_cons.mp hc with rfl | hc
            · exact Or.inr (by simp)
            · exact Or.inl (hdig c (List.mem_cons_of_mem _ hc))
        · exact hexpChars c hc
      · rw [readBody?_exponent hmant, readExponent?_signed,
          readBody?_point (by simp) (by simpa using hd) (fun c hc => hdig c (List.mem_cons_of_mem _ hc)),
          List.singleton_append, hval]
        simp only [Option.bind_some, Option.map_some, hadjusted, List.length_cons]
        congr 2
        omega

/-- A finite decimal within the exponent range of exact reading reads back
from its scientific-string form, blanks stripped: its sign, its exponent and
its trailing zeros are all kept. -/
theorem ofText?_text {neg : Bool} {coeff : Nat} {exp : Int} (hfits : fitsExactly coeff exp = true) :
    ofText? (Text.strip (finite neg coeff exp).text) = some (.finite neg coeff exp) := by
  obtain ⟨body, htext, hchars, hhead, hbody⟩ := text_finite neg coeff exp
  exact ofText?_signed htext hchars hhead hbody hfits

end Decimal

/-- Text without underscores has nothing to ungroup. -/
theorem ungroup?_of_forall_ne {cs : List Char} (h : ∀ c ∈ cs, c ≠ '_') : ungroup? cs = some cs := by
  induction cs with
  | nil => rfl
  | cons c rest ih =>
    have hc : c ≠ '_' := h c (by simp)
    have hrest := ih (fun x hx => h x (by simp [hx]))
    rcases rest with _ | ⟨x, rest⟩
    · simp [ungroup?, hc]
    · have hx : x ≠ '_' := h x (by simp)
      rw [ungroup?.eq_def]
      -- of the four shapes only the last applies, as `x` is no underscore
      split <;> simp_all

/-- The text of an integer: a minus for a negative one, then the digits of
its magnitude. -/
theorem intText_toList (k : Int) :
    (toString k).toList = (if k < 0 then ['-'] else []) ++ Nat.toDigits 10 k.natAbs := by
  cases k with
  | ofNat m =>
    show (Nat.repr m).toList = _
    rw [← Nat.toString_eq_repr, Nat.toString_eq_ofList_toDigits, String.toList_ofList]
    simp
  | negSucc m =>
    show ("-" ++ Nat.repr (m + 1)).toList = _
    rw [← Nat.toString_eq_repr, Nat.toString_eq_ofList_toDigits, String.toList_append]
    simp

/-- The decimal text of an integer of at most `intDigitLimit` digits reads
back as that integer. -/
theorem readInt?_toString {n : Int} (h : (Nat.toDigits 10 n.natAbs).length ≤ intDigitLimit) :
    readInt? (toString n) = some n := by
  -- the digits of the magnitude hold no underscore
  have noUnderscore : ∀ m : Nat, ∀ c ∈ Nat.toDigits 10 m, c ≠ '_' := fun m c hc hu =>
    Nat.underscore_not_in_toDigits (hu ▸ hc)
  cases n with
  | ofNat m =>
    have hm : (Nat.toDigits 10 m).length ≤ intDigitLimit := h
    obtain ⟨d, ds, hds⟩ := List.exists_cons_of_ne_nil (Nat.toDigits_ne_nil (b := 10) (n := m))
    have hd : Text.isAsciiDigit d = true :=
      Text.isAsciiDigit_of_mem_toDigits (m := m) (by simp [hds])
    have htext : (toString (Int.ofNat m)).toList = Nat.toDigits 10 m := by
      rw [intText_toList]
      simp
    simp only [readInt?, htext]
    rw [Text.trimBlank_eq_self fun c hc =>
        Text.isBlank_of_isAsciiDigit (Text.isAsciiDigit_of_mem_toDigits hc),
      Decimal.asciiDigits_eq_self fun c hc => Or.inl (Text.isAsciiDigit_of_mem_toDigits hc), hds,
      Decimal.splitSign_of_digit hd, ← hds, ungroup?_of_forall_ne (noUnderscore m)]
    simp [Nat.not_lt.mpr hm, Decimal.readDigits?_toDigits]
  | negSucc m =>
    have hm : (Nat.toDigits 10 (m + 1)).length ≤ intDigitLimit := h
    have htext : (toString (Int.negSucc m)).toList = '-' :: Nat.toDigits 10 (m + 1) := by
      rw [intText_toList]
      simp
    have hblank : ∀ c ∈ '-' :: Nat.toDigits 10 (m + 1), Text.isBlank c = false := by
      intro c hc
      rcases List.mem_cons.mp hc with rfl | hc
      · decide
      · exact Text.isBlank_of_isAsciiDigit (Text.isAsciiDigit_of_mem_toDigits hc)
    have hascii : ∀ c ∈ '-' :: Nat.toDigits 10 (m + 1),
        Text.isAsciiDigit c = true ∨ Text.digitValue? c = none := by
      intro c hc
      rcases List.mem_cons.mp hc with rfl | hc
      · exact Or.inr (by decide)
      · exact Or.inl (Text.isAsciiDigit_of_mem_toDigits hc)
    simp only [readInt?, htext]
    rw [Text.trimBlank_eq_self hblank, Decimal.asciiDigits_eq_self hascii]
    simp only [Decimal.splitSign, ungroup?_of_forall_ne (noUnderscore (m + 1))]
    simp [Nat.not_lt.mpr hm, Decimal.readDigits?_toDigits, Int.negSucc_eq]

/-! ### Hexadecimal digits -/

/-- What the readers of hexadecimal text see in a lower-case hex digit. -/
theorem digitChar_hex {d : Nat} (hd : d < 16) :
    hexDigitValue? (Nat.digitChar d) = some d ∧ Nat.digitChar d ≠ '-' ∧ Nat.digitChar d ≠ 'u' ∧
      Nat.digitChar d ≠ '{' ∧ Nat.digitChar d ≠ '}' ∧ Nat.digitChar d ≠ '_' ∧
      Nat.digitChar d ≠ 'x' ∧ Nat.digitChar d ≠ 'X' ∧ Nat.digitChar d ≠ '+' ∧
      Text.isBlank (Nat.digitChar d) = false := by
  interval_cases d <;> decide

/-- The digits of a number in a base are digit characters below the base. -/
theorem digitChar_of_mem_toDigits {b : Nat} (hb : 1 < b) {n : Nat} {c : Char}
    (h : c ∈ Nat.toDigits b n) : ∃ d < b, c = Nat.digitChar d := by
  induction n using Nat.strong_induction_on with
  | _ n ih =>
    rw [Nat.toDigits_eq_if hb] at h
    split at h
    · next hlt => exact ⟨n, hlt, List.eq_of_mem_singleton h⟩
    · next hge =>
      rcases List.mem_append.mp h with h | h
      · exact ih (n / b) (Nat.div_lt_self (by omega) hb) h
      · exact ⟨n % b, Nat.mod_lt _ (by omega), List.eq_of_mem_singleton h⟩

/-- The value of hex digits read from the left. -/
def hexValue (cs : List Char) : Nat :=
  cs.foldl (fun v c => v * 16 + (hexDigitValue? c).getD 0) 0

/-- The hex digits of a number, read after a value already read, shift that
value by as many places as there are digits. -/
theorem foldl_hexValue_toDigits (n a : Nat) :
    (Nat.toDigits 16 n).foldl (fun v c => v * 16 + (hexDigitValue? c).getD 0) a =
      a * 16 ^ (Nat.toDigits 16 n).length + n := by
  induction n using Nat.strong_induction_on generalizing a with
  | _ n ih =>
    rw [Nat.toDigits_eq_if (by norm_num)]
    split
    · next hlt => simp [(digitChar_hex hlt).1]
    · next hge =>
      rw [List.foldl_append, ih (n / 16) (by omega) a, List.foldl_cons, List.foldl_nil,
        (digitChar_hex (Nat.mod_lt n (by norm_num))).1, Option.getD_some, List.length_append,
        List.length_singleton, pow_succ]
      linarith [Nat.div_add_mod n 16]

/-- Leading zeros add nothing to the value of hex digits. -/
theorem hexValue_zeros (k n : Nat) : hexValue (List.replicate k '0' ++ Nat.toDigits 16 n) = n := by
  have hzero : hexDigitValue? '0' = some 0 := by decide
  have hzeros : ∀ a, (List.replicate k '0').foldl
      (fun v c => v * 16 + (hexDigitValue? c).getD 0) a = a * 16 ^ k := by
    induction k with
    | zero => simp
    | succ k ih =>
      intro a
      rw [List.replicate_succ, List.foldl_cons, ih, hzero, Option.getD_some, pow_succ]
      ring
  rw [hexValue, List.foldl_append, hzeros, foldl_hexValue_toDigits]
  simp

/-- Hex digits, read after a value already read, fold in the option monad as
their values do. -/
theorem foldl_hexStep {cs : List Char} (hhex : ∀ c ∈ cs, ∃ d < 16, c = Nat.digitChar d) (a : Nat) :
    cs.foldl (fun acc c => do
      let n ← acc
      let d ← hexDigitValue? c
      pure (n * 16 + d)) (some a) =
      some (cs.foldl (fun v c => v * 16 + (hexDigitValue? c).getD 0) a) := by
  induction cs generalizing a with
  | nil => rfl
  | cons c cs ih =>
    obtain ⟨d, hd, rfl⟩ := hhex c (by simp)
    simp only [List.foldl_cons, (digitChar_hex hd).1, Option.getD_some]
    exact ih (fun c hc => hhex c (by simp [hc])) _

/-- Hex digits without underscores read as their value. -/
theorem readHexDigits?_of_hex {cs : List Char} (hne : cs ≠ [])
    (hhex : ∀ c ∈ cs, ∃ d < 16, c = Nat.digitChar d) : readHexDigits? cs = some (hexValue cs) := by
  have hnu : ∀ c ∈ cs, c ≠ '_' := by
    intro c hc
    obtain ⟨d, hd, rfl⟩ := hhex c hc
    exact (digitChar_hex hd).2.2.2.2.2.1
  have hfilter : cs.filter (· != '_') = cs := List.filter_eq_self.mpr fun c hc => by simpa using hnu c hc
  have hhead : cs.head? ≠ some '_' := fun h => hnu _ (List.mem_of_head? h) rfl
  have hlast : cs.getLast? ≠ some '_' := fun h => hnu _ (List.mem_of_getLast? h) rfl
  have hpairs : ∀ p ∈ cs.zip cs.tail, p.1 ≠ '_' := fun p hp => hnu _ (List.of_mem_zip hp).1
  simp only [readHexDigits?, hfilter, foldl_hexStep hhex, hexValue]
  simp [List.length_pos_iff.mpr hne, hhead, hlast]
  intro hmem
  exact hpairs _ hmem rfl

/-- Hex digits that start with no sign and no `0x` read as their value. -/
theorem readHexInt?_of_hex {cs : List Char} (hne : cs ≠ [])
    (hhex : ∀ c ∈ cs, ∃ d < 16, c = Nat.digitChar d) :
    readHexInt? (String.ofList cs) = some (hexValue cs : Int) := by
  have hblank : ∀ c ∈ cs, Text.isBlank c = false := by
    intro c hc
    obtain ⟨d, hd, rfl⟩ := hhex c hc
    exact (digitChar_hex hd).2.2.2.2.2.2.2.2.2
  obtain ⟨c, rest, rfl⟩ := List.exists_cons_of_ne_nil hne
  obtain ⟨d, hd, rfl⟩ := hhex c (by simp)
  have hsign : Decimal.splitSign (Nat.digitChar d :: rest) = (false, Nat.digitChar d :: rest) := by
    have hm : Nat.digitChar d ≠ '-' := (digitChar_hex hd).2.1
    have hp : Nat.digitChar d ≠ '+' := (digitChar_hex hd).2.2.2.2.2.2.2.2.1
    simp [Decimal.splitSign, hm, hp]
  -- no `0x` prefix: `x` is no hex digit
  have hnox : ∀ x ∈ Nat.digitChar d :: rest, (x == 'x' || x == 'X') = false := by
    intro x hx
    obtain ⟨e, he, rfl⟩ := hhex x hx
    simp [(digitChar_hex he).2.2.2.2.2.2.1, (digitChar_hex he).2.2.2.2.2.2.2.1]
  have hread := readHexDigits?_of_hex hne hhex
  simp only [readHexInt?, String.toList_ofList, Text.trimBlank_eq_self hblank, hsign,
    Bool.false_eq_true, ↓reduceIte]
  -- whichever shape the digits start with, no `0x` is taken off
  split
  · next x rest' hcs =>
    rw [if_neg (by simp [hnox x (by simp [hcs])]), hread]
    rfl
  · next _ x rest' _ hcs =>
    rw [if_neg (by simp [hnox x (by simp [hcs])]), hread]
    rfl
  · rw [hread]
    rfl

end Number

/-! ### UUIDs -/

/-- Taking out a pattern changes nothing when its first character never
occurs. -/
theorem eraseAll_of_not_mem {p : Char} {ps cs : List Char} (h : p ∉ cs) :
    eraseAll (p :: ps) cs = cs := by
  induction cs with
  | nil => rw [eraseAll]
  | cons c cs ih =>
    have hc : p ≠ c := fun hpc => h (hpc ▸ List.mem_cons_self)
    rw [eraseAll, dif_neg (by simp [List.isPrefixOf, hc]),
      ih fun hm => h (List.mem_cons_of_mem _ hm)]

/-- Digits laid out in the groups of a UUID text: 8, 4, 4, 4 and the rest,
joined by dashes. -/
def uuidGroups (h : List Char) : List Char :=
  h.take 8 ++ '-' :: ((h.drop 8).take 4 ++ '-' :: ((h.drop 12).take 4 ++ '-' ::
    ((h.drop 16).take 4 ++ '-' :: h.drop 20)))

theorem uuidText_toList (n : Nat) : (uuidText n).toList = uuidGroups (hexDigits n 32).toList := by
  simp [uuidText, uuidGroups]

/-- A character of grouped digits is a dash or one of the digits. -/
theorem mem_uuidGroups {h : List Char} {c : Char} (hc : c ∈ uuidGroups h) : c = '-' ∨ c ∈ h := by
  simp only [uuidGroups, List.mem_append, List.mem_cons] at hc
  rcases hc with hc | hc | hc | hc | hc | hc | hc | hc | hc
  · exact Or.inr (List.mem_of_mem_take hc)
  · exact Or.inl hc
  · exact Or.inr (List.mem_of_mem_drop (List.mem_of_mem_take hc))
  · exact Or.inl hc
  · exact Or.inr (List.mem_of_mem_drop (List.mem_of_mem_take hc))
  · exact Or.inl hc
  · exact Or.inr (List.mem_of_mem_drop (List.mem_of_mem_take hc))
  · exact Or.inl hc
  · exact Or.inr (List.mem_of_mem_drop hc)

/-- Dropping the dashes of grouped digits gives the digits back. -/
theorem filter_uuidGroups {h : List Char} (hdash : ∀ c ∈ h, c ≠ '-') :
    (uuidGroups h).filter (· != '-') = h := by
  have hkeep : ∀ l : List Char, (∀ c ∈ l, c ∈ h) → l.filter (· != '-') = l := fun l hl =>
    List.filter_eq_self.mpr fun c hc => by simpa using hdash c (hl c hc)
  have hgroups : h.take 8 ++ ((h.drop 8).take 4 ++ ((h.drop 12).take 4 ++
      ((h.drop 16).take 4 ++ h.drop 20))) = h := by
    rw [show h.drop 20 = (h.drop 16).drop 4 by simp [List.drop_drop], List.take_append_drop,
      show h.drop 16 = (h.drop 12).drop 4 by simp [List.drop_drop], List.take_append_drop,
      show h.drop 12 = (h.drop 8).drop 4 by simp [List.drop_drop], List.take_append_drop,
      List.take_append_drop]
  simp only [uuidGroups, List.filter_append, List.filter_cons, bne_self_eq_false,
    Bool.false_eq_true, if_false]
  rw [hkeep _ fun c hc => List.mem_of_mem_take hc,
    hkeep _ fun c hc => List.mem_of_mem_drop (List.mem_of_mem_take hc),
    hkeep _ fun c hc => List.mem_of_mem_drop (List.mem_of_mem_take hc),
    hkeep _ fun c hc => List.mem_of_mem_drop (List.mem_of_mem_take hc),
    hkeep _ fun c hc => List.mem_of_mem_drop hc, hgroups]

/-- The digits of a text laid out in UUID groups, when none of them is a
dash, a brace or the `u` that starts a prefix. -/
theorem uuidHex_of_groups {s : String} {h : List Char} (hs : s.toList = uuidGroups h)
    (hplain : ∀ c ∈ h, c ≠ '-' ∧ c ≠ 'u' ∧ c ≠ '{' ∧ c ≠ '}') : uuidHex s = h := by
  have hnou : 'u' ∉ s.toList := by
    rw [hs]
    intro hu
    rcases mem_uuidGroups hu with h' | h'
    · exact absurd h' (by decide)
    · exact (hplain 'u' h').2.1 rfl
  have hbraces : ∀ c ∈ s.toList, (c == '{' || c == '}') = false := by
    rw [hs]
    intro c hc
    rcases mem_uuidGroups hc with rfl | hc
    · decide
    · simp [(hplain c hc).2.2.1, (hplain c hc).2.2.2]
  rw [uuidHex, show ("urn:" : String).toList = ['u', 'r', 'n', ':'] from rfl,
    show ("uuid:" : String).toList = ['u', 'u', 'i', 'd', ':'] from rfl,
    eraseAll_of_not_mem hnou, eraseAll_of_not_mem hnou, Text.trim_eq_self hbraces, hs,
    filter_uuidGroups fun c hc => (hplain c hc).1]

/-- A number below `2^128` reads back from its UUID text. -/
theorem readUuid_uuidText {n : Nat} (hn : n < 2 ^ 128) : readUuid (uuidText n) = .ok n := by
  have hdigits : (hexDigits n 32).toList =
      List.replicate (32 - (Nat.toDigits 16 n).length) '0' ++ Nat.toDigits 16 n := by
    simp [hexDigits]
  have hlen : (hexDigits n 32).toList.length = 32 := by
    have hshort : (Nat.toDigits 16 n).length ≤ 32 :=
      (Nat.length_toDigits_le_iff (by norm_num) (by norm_num)).mpr (by norm_num; exact hn)
    rw [hdigits, List.length_append, List.length_replicate]
    omega
  have hhex : ∀ c ∈ (hexDigits n 32).toList, ∃ d < 16, c = Nat.digitChar d := by
    intro c hc
    rw [hdigits] at hc
    rcases List.mem_append.mp hc with hc | hc
    · exact ⟨0, by norm_num, List.eq_of_mem_replicate hc⟩
    · exact Number.digitChar_of_mem_toDigits (by norm_num) hc
  have hplain : ∀ c ∈ (hexDigits n 32).toList, c ≠ '-' ∧ c ≠ 'u' ∧ c ≠ '{' ∧ c ≠ '}' := by
    intro c hc
    obtain ⟨d, hd, rfl⟩ := hhex c hc
    obtain ⟨-, hdash, hu, hopen, hclose, -⟩ := Number.digitChar_hex hd
    exact ⟨hdash, hu, hopen, hclose⟩
  have hne : (hexDigits n 32).toList ≠ [] := by
    intro h0
    simp [h0] at hlen
  rw [readUuid, uuidHex_of_groups (uuidText_toList n) hplain, readUuidHex, if_neg (by simp [hlen]),
    Number.readHexInt?_of_hex hne hhex, hdigits, Number.hexValue_zeros]
  simp

end TableGraph
