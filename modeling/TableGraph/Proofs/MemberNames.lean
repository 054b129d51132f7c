import Mathlib
import TableGraph.Proofs.OutputValues

/-!
# The member names of stored enumeration values

An enumeration column offers each stored value under a member name
(`enumMemberName`): the value itself when the API can carry it as a name,
else `Option<i>` after its place `i`. Reading a value back from the API
(`Remap.readEnum`) takes a stored value as it is, and looks any other text up
among the member names.

The names are neither always fit to be enumeration values nor always apart.
The test for a name lets a final line break through, and knows nothing of the
words `true`, `false` and `null` or of the two underscores that introspection
keeps, so such values are offered under names no enumeration value may have
(`Text.enumMemberName_legal_iff`). A kept value that reads `Option<i>` takes
the name of the value in place `i` when that one is replaced
(`memberNames_nodup_iff`), and reading the shared name back then gives the
kept value, not the replaced one (`readEnum_memberNames_iff`).

## Main results

* `Text.enumMemberName_legal_iff` — when a member name can name an
  enumeration value.
* `memberNames_nodup_iff` — when the member names of distinct values are
  distinct.
* `readEnum_memberNames_iff` — every member name reads back as its value
  exactly when the names are distinct.
* `enumTypeOf_members` — with names apart, the generated enumeration has one
  member per value, under its member name.
* `enum_member_names` — all of it for the conversions of a column.
-/

namespace TableGraph

namespace Text

/-- Text that reads as a name: a letter or underscore, then letters, digits
and underscores. -/
def isNameText : List Char → Bool
  | [] => false
  | c :: rest => isNameStart c && rest.all isNameChar

/-- The words the query language keeps for values of its own. -/
def reservedValueNames : List String := ["true", "false", "null"]

/-- A text that can name an enumeration value of the query language: a name
in full, none of the reserved words, and not starting with the two
underscores that introspection keeps. -/
def isEnumValueName (s : String) : Bool :=
  isNameText s.toList && !reservedValueNames.contains s && s.toList.take 2 != ['_', '_']

/-- A name ends in no line break. -/
theorem getLast?_of_isNameText {cs : List Char} (h : isNameText cs = true) :
    cs.getLast? ≠ some '\n' := by
  intro hlast
  have hmem : '\n' ∈ cs := List.mem_of_getLast? hlast
  match cs, h with
  | c :: rest, h =>
    simp only [isNameText, Bool.and_eq_true, List.all_eq_true] at h
    rcases List.mem_cons.mp hmem with heq | hrest
    · rw [← heq] at h
      exact absurd h.1 (by decide)
    · exact absurd (h.2 _ hrest) (by decide)

/-- Without a final line break, a text is an API name exactly when it reads
as a name. -/
theorem isApiName_eq {s : String} (h : s.toList.getLast? ≠ some '\n') : isApiName s = isNameText s.toList := by
  have hbody : (s.toList.getLast? == some '\n') = false := by simpa using h
  unfold isApiName
  simp only [hbody, Bool.false_eq_true, if_false]
  cases s.toList <;> rfl

/-- An enumeration value name is an API name without a final line break,
none of the reserved words, and not starting with two underscores. -/
theorem isEnumValueName_iff (s : String) :
    isEnumValueName s = true ↔ isApiName s = true ∧ s.toList.getLast? ≠ some '\n' ∧
      s ∉ reservedValueNames ∧ s.toList.take 2 ≠ ['_', '_'] := by
  unfold isEnumValueName
  simp only [Bool.and_eq_true, Bool.not_eq_true', bne_iff_ne, ne_eq]
  constructor
  · rintro ⟨⟨hname, hres⟩, hund⟩
    have hlast := getLast?_of_isNameText hname
    exact ⟨(isApiName_eq hlast).trans hname, hlast, by simpa using hres, hund⟩
  · rintro ⟨hapi, hlast, hres, hund⟩
    exact ⟨⟨(isApiName_eq hlast) ▸ hapi, by simpa using hres⟩, hund⟩

/-- The text of `Option<i>`. -/
theorem optionName_toList (i : Nat) :
    ("Option" ++ toString i).toList = ['O', 'p', 't', 'i', 'o', 'n'] ++ Nat.toDigits 10 i := by
  show ("Option" ++ Nat.repr i).toList = _
  rw [← Nat.toString_eq_repr, Nat.toString_eq_ofList_toDigits, String.toList_append]
  simp

theorem isNameText_option (i : Nat) : isNameText ("Option" ++ toString i).toList = true := by
  have hdigits : ∀ d ∈ Nat.toDigits 10 i, isNameChar d = true := fun d hd => by
    have hdig : isAsciiDigit d = true := by
      rw [isAsciiDigit_eq_isDigit]
      exact Nat.isDigit_of_mem_toDigits (by norm_num) (by norm_num) hd
    simp [isNameChar, hdig]
  rw [optionName_toList]
  show isNameText ('O' :: (['p', 't', 'i', 'o', 'n'] ++ Nat.toDigits 10 i)) = true
  simp only [isNameText, List.all_append, Bool.and_eq_true]
  exact ⟨by decide, by decide, List.all_eq_true.mpr hdigits⟩

theorem isApiName_option (i : Nat) : isApiName ("Option" ++ toString i) = true := by
  rw [isApiName_eq (getLast?_of_isNameText (isNameText_option i))]
  exact isNameText_option i

/-- `Option<i>` can name an enumeration value. -/
theorem isEnumValueName_option (i : Nat) : isEnumValueName ("Option" ++ toString i) = true := by
  -- the name starts with `O`, as no reserved word does
  have hhead : ("Option" ++ toString i).toList.head? = some 'O' := by
    rw [optionName_toList]
    rfl
  have hres : ("Option" ++ toString i) ∉ reservedValueNames := by
    simp only [reservedValueNames, List.mem_cons, List.not_mem_nil, or_false]
    rintro (h | h | h) <;> rw [h] at hhead <;> simp at hhead
  have hund : ("Option" ++ toString i).toList.take 2 ≠ ['_', '_'] := by
    rw [optionName_toList]
    simp
  exact (isEnumValueName_iff _).mpr ⟨isApiName_option i, getLast?_of_isNameText (isNameText_option i),
    hres, hund⟩

theorem option_name_inj {i j : Nat} (h : "Option" ++ toString i = "Option" ++ toString j) : i = j :=
  Nat.repr_inj.mp ((String.append_right_inj _).mp h)

@[simp] theorem enumMemberName_kept {v : String} (h : isApiName v = true) (i : Nat) :
    enumMemberName v i = v := by
  simp [enumMemberName, h]

@[simp] theorem enumMemberName_replaced {v : String} (h : isApiName v = false) (i : Nat) :
    enumMemberName v i = "Option" ++ toString i := by
  simp [enumMemberName, h]

/-- A member name can name an enumeration value unless the value is kept as
its own name and ends in a line break, is a reserved word, or starts with
two underscores. -/
theorem enumMemberName_legal_iff (v : String) (i : Nat) :
    isEnumValueName (enumMemberName v i) = true ↔
      (isApiName v = true → v.toList.getLast? ≠ some '\n' ∧ v ∉ reservedValueNames ∧
        v.toList.take 2 ≠ ['_', '_']) := by
  cases hv : isApiName v with
  | true => simp only [enumMemberName_kept hv, isEnumValueName_iff, hv, true_and, forall_const]
  | false => simp only [enumMemberName_replaced hv, isEnumValueName_option, Bool.false_eq_true, false_implies]

end Text

/-! ## Distinct member names -/

/-- The member names of stored values, in order. -/
def memberNames (values : List String) : List String :=
  values.zipIdx.map fun p => enumMemberName p.1 p.2

theorem zipIdx_nodup (l : List String) : l.zipIdx.Nodup :=
  List.Nodup.of_map Prod.snd (by rw [List.zipIdx_map_snd]; exact List.nodup_range' ..)

theorem zipIdx_value_inj {l : List String} {s t : String} {i : Nat} (hs : (s, i) ∈ l.zipIdx)
    (ht : (t, i) ∈ l.zipIdx) : s = t := by
  rw [List.mk_mem_zipIdx_iff_getElem?] at hs ht
  exact Option.some.inj (hs.symm.trans ht)

theorem zipIdx_index_inj {l : List String} (hl : l.Nodup) {s : String} {i j : Nat}
    (hi : (s, i) ∈ l.zipIdx) (hj : (s, j) ∈ l.zipIdx) : i = j := by
  rw [List.mk_mem_zipIdx_iff_getElem?] at hi hj
  obtain ⟨hi', rfl⟩ := List.getElem?_eq_some_iff.mp hi
  obtain ⟨hj', heq⟩ := List.getElem?_eq_some_iff.mp hj
  exact (hl.getElem_inj_iff).mp heq.symm

theorem mem_of_mem_zipIdx {l : List String} {s : String} {i : Nat} (h : (s, i) ∈ l.zipIdx) : s ∈ l := by
  rw [List.mk_mem_zipIdx_iff_getElem?] at h
  exact List.mem_of_getElem? h

theorem exists_mem_zipIdx {l : List String} {s : String} (h : s ∈ l) : ∃ i, (s, i) ∈ l.zipIdx := by
  obtain ⟨i, hi⟩ := List.mem_iff_getElem?.mp h
  exact ⟨i, List.mk_mem_zipIdx_iff_getElem?.mpr hi⟩

/-- Distinct member names tell their places apart. -/
theorem memberName_inj {l : List String} (hnames : (memberNames l).Nodup) {p q : String × Nat}
    (hp : p ∈ l.zipIdx) (hq : q ∈ l.zipIdx) (h : enumMemberName p.1 p.2 = enumMemberName q.1 q.2) :
    p = q :=
  (List.nodup_map_iff_inj_on (zipIdx_nodup l)).mp hnames p hp q hq h

/-- The member names of distinct values are distinct exactly when no value
kept as its own name reads `Option<i>` for a value `i` that is replaced. -/
theorem memberNames_nodup_iff {l : List String} (hl : l.Nodup) :
    (memberNames l).Nodup ↔ ∀ p ∈ l.zipIdx, Text.isApiName p.1 = false → "Option" ++ toString p.2 ∉ l := by
  constructor
  · rintro hnames ⟨s, i⟩ hp hs hmem
    dsimp only at hs hmem
    obtain ⟨j, hj⟩ := exists_mem_zipIdx hmem
    -- the value kept as `Option<i>` shares its name with the value in place `i`
    have hsame : enumMemberName s i = enumMemberName ("Option" ++ toString i) j := by
      rw [enumMemberName, enumMemberName, Text.enumMemberName_replaced hs,
        Text.enumMemberName_kept (Text.isApiName_option i)]
    have hpq := memberName_inj hnames hp hj hsame
    simp only [Prod.mk.injEq] at hpq
    rw [hpq.1, Text.isApiName_option] at hs
    exact Bool.noConfusion hs
  · intro hfree
    refine (List.nodup_map_iff_inj_on (zipIdx_nodup l)).mpr ?_
    rintro ⟨s, i⟩ hp ⟨t, j⟩ hq heq
    simp only [enumMemberName] at heq
    -- split on which of the two values are kept as their own names
    cases hs : Text.isApiName s <;> cases ht : Text.isApiName t <;>
      simp only [Text.enumMemberName_kept, Text.enumMemberName_replaced, hs, ht] at heq
    · obtain rfl := Text.option_name_inj heq
      rw [zipIdx_value_inj hp hq]
    · exact absurd (heq ▸ mem_of_mem_zipIdx hq) (hfree _ hp hs)
    · exact absurd (heq ▸ mem_of_mem_zipIdx hp) (hfree _ hq ht)
    · subst heq
      rw [zipIdx_index_inj hl hp hq]

/-! ## Reading member names back -/

namespace Remap

@[simp] theorem str_beq_str (a b : String) : (Value.str a == Value.str b) = (a == b) := rfl

/-- A stored value is read back as itself. -/
theorem readEnum_stored {c : Column} {n : String} (hn : n ∈ c.enumList) :
    readEnum c (.str n) = .ok (.str n) := by
  have hany : c.enumList.any (fun s => Value.str n == .str s) = true :=
    List.any_eq_true.mpr ⟨n, hn, by simp⟩
  simp only [readEnum, hany, Bool.or_true, if_true]

/-- Any other text is read as the value of the first place whose member name
it is. -/
theorem readEnum_found {c : Column} {n s : String} {i : Nat} (hn : n ∉ c.enumList)
    (hfind : c.enumList.zipIdx.find? (fun p => Value.str (Text.enumMemberName p.1 p.2) == .str n) = some (s, i)) :
    readEnum c (.str n) = .ok (.str s) := by
  have hne : c.enumList.isEmpty = false :=
    List.isEmpty_eq_false_iff_exists_mem.mpr ⟨s, mem_of_mem_zipIdx (List.mem_of_find?_eq_some hfind)⟩
  have hany : c.enumList.any (fun s => Value.str n == .str s) = false := by
    rw [List.any_eq_false]
    intro t ht h
    simp only [str_beq_str, beq_iff_eq] at h
    exact hn (h ▸ ht)
  simp only [readEnum, hne, hany, Bool.or_false, Bool.false_eq_true, if_false]
  rw [hfind]

end Remap

/-- With distinct member names, each reads back as its value. -/
theorem readEnum_memberName {c : Column} (hnames : (memberNames c.enumList).Nodup) {s : String} {i : Nat}
    (hp : (s, i) ∈ c.enumList.zipIdx) : Remap.readEnum c (.str (enumMemberName s i)) = .ok (.str s) := by
  cases hs : Text.isApiName s with
  | true =>
    rw [enumMemberName, Text.enumMemberName_kept hs]
    exact Remap.readEnum_stored (mem_of_mem_zipIdx hp)
  | false =>
    have hname : enumMemberName s i = "Option" ++ toString i := Text.enumMemberName_replaced hs i
    rw [hname]
    -- `Option<i>` is no stored value: it would be kept, with the name of place `i`
    have hn : "Option" ++ toString i ∉ c.enumList := by
      intro hmem
      obtain ⟨j, hj⟩ := exists_mem_zipIdx hmem
      have hsame : enumMemberName s i = enumMemberName ("Option" ++ toString i) j := by
        rw [hname, enumMemberName, Text.enumMemberName_kept (Text.isApiName_option i)]
      have hpq := memberName_inj hnames hp hj hsame
      simp only [Prod.mk.injEq] at hpq
      rw [hpq.1, Text.isApiName_option] at hs
      exact Bool.noConfusion hs
    -- the first place with that name is place `i`
    obtain ⟨q, hq⟩ : ∃ q, c.enumList.zipIdx.find?
        (fun p => Value.str (Text.enumMemberName p.1 p.2) == .str ("Option" ++ toString i)) = some q := by
      apply Option.isSome_iff_exists.mp
      rw [List.find?_isSome]
      refine ⟨(s, i), hp, ?_⟩
      simp only [Remap.str_beq_str, beq_iff_eq]
      exact hname
    have hqname : enumMemberName q.1 q.2 = enumMemberName s i := by
      have hfound := List.find?_some hq
      simp only [Remap.str_beq_str, beq_iff_eq] at hfound
      rw [hname]
      exact hfound
    have hqs : q = (s, i) := memberName_inj hnames (List.mem_of_find?_eq_some hq) hp hqname
    rw [hqs] at hq
    exact Remap.readEnum_found hn hq

/-- The member names of distinct values all read back as their values exactly
when they are distinct. -/
theorem readEnum_memberNames_iff {c : Column} (hl : c.enumList.Nodup) :
    (memberNames c.enumList).Nodup ↔
      ∀ p ∈ c.enumList.zipIdx, Remap.readEnum c (.str (enumMemberName p.1 p.2)) = .ok (.str p.1) := by
  refine ⟨fun hnames p hp => readEnum_memberName hnames hp, fun hread => ?_⟩
  by_contra hdup
  obtain ⟨⟨s, i⟩, hp, hs, hmem⟩ : ∃ p ∈ c.enumList.zipIdx, Text.isApiName p.1 = false ∧
      "Option" ++ toString p.2 ∈ c.enumList := by
    simpa using (not_congr (memberNames_nodup_iff hl)).mp hdup
  -- the name of place `i` is a stored value, so it reads back as that value
  have hback := hread (s, i) hp
  have hname : enumMemberName s i = "Option" ++ toString i := by
    simp [enumMemberName, Text.enumMemberName, hs]
  rw [hname, Remap.readEnum_stored hmem] at hback
  have hsi : "Option" ++ toString i = s := by simpa using hback
  rw [← hsi, Text.isApiName_option] at hs
  exact Bool.noConfusion hs

/-! ## The generated enumeration -/

namespace EnumClass

/-- Plain names with values new to the class each become a member with their
value. -/
theorem foldlM_define_fresh {cls : String} :
    ∀ (entries : List (String × String)) (d : Draft), d.ignored = [] →
      (∀ p ∈ entries, isPlain cls p.1 = true) → ((d.members ++ entries).map (·.2)).Nodup →
      ∃ d', entries.foldlM (fun d (p : String × String) => d.define cls p.1 p.2) d = .ok d' ∧
        d'.members = d.members ++ entries
  | [], d, _, _, _ => ⟨d, rfl, by simp⟩
  | (n, v) :: rest, d, hig, hplain, hvalues => by
    have hn : isPlain cls n = true := hplain (n, v) (by simp)
    have hfresh : d.members.any (·.2 == v) = false := by
      have hv : v ∉ d.members.map (·.2) := by
        simp only [List.map_append, List.map_cons] at hvalues
        exact fun hv => (List.nodup_append.mp hvalues).2.2 _ hv _ (by simp) rfl
      rw [List.any_eq_false]
      intro q hq h
      exact hv (List.mem_map.mpr ⟨q, hq, by simpa using h⟩)
    obtain ⟨d', hfold, hmembers⟩ := foldlM_define_fresh rest
      { d with names := d.names ++ [n], members := d.members ++ [(n, v)] } hig
      (fun p hp => hplain p (by simp [hp])) (by simpa using hvalues)
    refine ⟨d', ?_, by simp [hmembers]⟩
    rw [List.foldlM_cons, Draft.define_plain hn hig, hfresh]
    exact hfold

/-- A class of plain names with distinct values, when it is made, has them as
its members in order. -/
theorem members_eq {cls : String} {entries ms : List (String × String)}
    (hplain : ∀ p ∈ entries, isPlain cls p.1 = true) (hvalues : (entries.map (·.2)).Nodup)
    (h : members cls entries = .ok ms) : ms = entries := by
  obtain ⟨d, hfold, hmembers⟩ := foldlM_define_fresh entries {} rfl hplain (by simpa using hvalues)
  simp only [members, hfold, bind, Except.bind] at h
  rw [Draft.finish_ok h, hmembers]
  rfl

end EnumClass

/-- With member names apart, the enumeration generated for a column of
distinct values has one member per value, under its member name. -/
theorem enumTypeOf_members {c : Column} (hc : c.MembersApart) (hl : c.enumList.Nodup) {e : EnumType}
    (h : enumTypeOf c = .ok e) : e.members = c.enumList.zipIdx.map fun p => (enumMemberName p.1 p.2, p.1) := by
  have hentries : c.enumList.zipIdx.foldl
      (fun ms (p : String × Nat) => addMember ms (enumMemberName p.1 p.2) p.1) [] =
      c.enumList.zipIdx.map fun p => (enumMemberName p.1 p.2, p.1) := by
    simpa using foldl_addMember enumMemberName hc.1 [] (by simp)
  change (EnumClass.members (enumTypeName c) (c.enumList.zipIdx.foldl
      (fun ms (p : String × Nat) => addMember ms (enumMemberName p.1 p.2) p.1) []) >>= fun ms =>
        pure { name := enumTypeName c, values := c.enumList, members := ms }) = .ok e at h
  rw [hentries] at h
  cases hms : EnumClass.members (enumTypeName c) (c.enumList.zipIdx.map fun p => (enumMemberName p.1 p.2, p.1)) with
  | error f => simp [hms, bind, Except.bind] at h
  | ok ms =>
    simp only [hms, bind, Except.bind, pure, Except.pure, Except.ok.injEq] at h
    subst h
    have hplain : ∀ q ∈ c.enumList.zipIdx.map (fun p => (enumMemberName p.1 p.2, p.1)),
        EnumClass.isPlain (enumTypeName c) q.1 = true := by
      simp only [List.mem_map]
      rintro q ⟨p, hp, rfl⟩
      exact hc.2 p hp
    have hvalues : ((c.enumList.zipIdx.map fun p => (enumMemberName p.1 p.2, p.1)).map (·.2)).Nodup := by
      simpa [List.map_map, Function.comp_def] using (List.zipIdx_map_fst 0 c.enumList).symm ▸ hl
    exact EnumClass.members_eq hplain hvalues hms

/-! ## The conversions of an enumeration column -/

namespace Registry

variable {r : Registry} {c : Column}

/-- With nothing registered, an enumeration column reads a text from the API
as `Remap.readEnum` does. -/
theorem fromWire_enum_str (hfrom : r.fromWireConversions = []) (hc : c.convertsByTag = true)
    (htag : c.tag = "enum" ∨ c.tag = "text") (hne : c.enumList ≠ []) (n : String) :
    r.fromWire (.str n) c = Remap.readEnum c (.str n) := by
  have hempty : c.enumList.isEmpty = false := List.isEmpty_eq_false_iff.mpr hne
  rw [fromWire, fromWireAt.eq_def]
  rcases htag with htag | htag <;> simp [chooseFrom_builtin hfrom hc htag (by decide), hempty]

end Registry

/-- Of the stored values `V` of an enumeration column, all distinct, with
nothing registered: each member name can name an enumeration value unless
the value is kept as its own name and ends in a line break, is a reserved
word or starts with two underscores; the member names are distinct exactly
when no value kept as its own name reads `Option<i>` for a replaced value
`i`, and exactly when every member name reads back from the API as its
value; every value is written to the API as itself; and with names apart the
generated enumeration has each value as the member of its name. -/
theorem enum_member_names {r : Registry} (hto : r.toWireConversions = []) (hfrom : r.fromWireConversions = [])
    {c : Column} (hc : c.convertsByTag = true) (htag : c.tag = "enum" ∨ c.tag = "text")
    (hl : c.enumList.Nodup) :
    (∀ p ∈ c.enumList.zipIdx, Text.isEnumValueName (enumMemberName p.1 p.2) = true ↔
        (Text.isApiName p.1 = true → p.1.toList.getLast? ≠ some '\n' ∧ p.1 ∉ Text.reservedValueNames ∧
          p.1.toList.take 2 ≠ ['_', '_'])) ∧
      ((memberNames c.enumList).Nodup ↔
        ∀ p ∈ c.enumList.zipIdx, Text.isApiName p.1 = false → "Option" ++ toString p.2 ∉ c.enumList) ∧
      ((memberNames c.enumList).Nodup ↔
        ∀ p ∈ c.enumList.zipIdx, r.fromWire (.str (enumMemberName p.1 p.2)) c = .ok (.str p.1)) ∧
      (∀ s ∈ c.enumList, r.toWire (.str s) c = .ok (.str s)) ∧
      (c.MembersApart → ∀ e, enumTypeOf c = .ok e →
        ∀ p ∈ c.enumList.zipIdx, (enumMemberName p.1 p.2, p.1) ∈ e.members) := by
  -- on a column with values, reading a text back from the API is `readEnum`
  have hread : ∀ p ∈ c.enumList.zipIdx,
      r.fromWire (.str (enumMemberName p.1 p.2)) c = Remap.readEnum c (.str (enumMemberName p.1 p.2)) :=
    fun p hp => Registry.fromWire_enum_str hfrom hc htag (List.ne_nil_of_mem (mem_of_mem_zipIdx hp)) _
  refine ⟨fun p _ => Text.enumMemberName_legal_iff p.1 p.2, memberNames_nodup_iff hl, ?_, ?_, ?_⟩
  · rw [readEnum_memberNames_iff hl]
    exact forall₂_congr fun p hp => by rw [hread p hp]
  · intro s hs
    exact (Registry.trip_enumValue hto hfrom hc conversionDepth htag (v := .str s) rfl hs).1
  · intro hapart e he p hp
    rw [enumTypeOf_members hapart hl he]
    exact List.mem_map.mpr ⟨p, hp, rfl⟩

/-- The kinds of a gadget: two plain names, a text with a blank and a text
starting with a digit. -/
def gadgetKindColumn : Column :=
  { name := "kind", table := "gadgets", tag := "enum", columnType := "Enum",
    enumValues := some ["draft", "in review", "2nd", "_x"] }

theorem gadget_kind_member_names :
    gadgetKindColumn.convertsByTag = true ∧ gadgetKindColumn.enumList.Nodup ∧
      (∀ p ∈ gadgetKindColumn.enumList.zipIdx, Text.isEnumValueName (enumMemberName p.1 p.2) = true ↔
        (Text.isApiName p.1 = true → p.1.toList.getLast? ≠ some '\n' ∧ p.1 ∉ Text.reservedValueNames ∧
          p.1.toList.take 2 ≠ ['_', '_'])) ∧
      ((memberNames gadgetKindColumn.enumList).Nodup ↔
        ∀ p ∈ gadgetKindColumn.enumList.zipIdx, Text.isApiName p.1 = false →
          "Option" ++ toString p.2 ∉ gadgetKindColumn.enumList) ∧
      ((memberNames gadgetKindColumn.enumList).Nodup ↔
        ∀ p ∈ gadgetKindColumn.enumList.zipIdx,
          ({} : Registry).fromWire (.str (enumMemberName p.1 p.2)) gadgetKindColumn = .ok (.str p.1)) ∧
      (∀ s ∈ gadgetKindColumn.enumList, ({} : Registry).toWire (.str s) gadgetKindColumn = .ok (.str s)) ∧
      (gadgetKindColumn.MembersApart → ∀ e, enumTypeOf gadgetKindColumn = .ok e →
        ∀ p ∈ gadgetKindColumn.enumList.zipIdx, (enumMemberName p.1 p.2, p.1) ∈ e.members) :=
  ⟨by decide, by decide, enum_member_names rfl rfl (by decide) (.inl rfl) (by decide)⟩

end TableGraph
