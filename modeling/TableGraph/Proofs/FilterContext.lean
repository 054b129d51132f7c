import Mathlib
import TableGraph.Proofs.FilterMeaning

/-!
# Filters in context

A filter can stand inside another: as an item of an `AND` or `OR` list, or
as the operand of `NOT`, beside any other members. This module asks when two
filters can replace one another there.

Selecting the same rows is not enough, for two reasons the compiler keeps on
purpose:

* a level that adds nothing is left out under `AND` and `NOT` but counts as
  TRUE inside `OR`, so `{}` and `{OR: [{}]}` both select every row, yet
  `{NOT: {}}` selects every row and `{NOT: {OR: [{}]}}` none;
* predicates are read in three-valued logic, so two filters that are never
  TRUE can still differ under `NOT`, one being UNKNOWN where the other is
  FALSE.

What is enough is to read alike on a row: both add nothing, or both add
predicates with the same three-valued truth there (or both are refused).

## Main results

* `Filter.level_frame_agree`: one frame keeps two levels that read alike on
  a row reading alike there; `Filter.level_plug_agree` carries it through any
  number of frames.
* `Filter.compile_context_congr`: filters that read alike on a row compile
  to predicates with the same truth there in every context; and De Morgan's
  law `{NOT: {OR: [F, G]}} = {AND: [{NOT: F}, {NOT: G}]}` holds when `F` and
  `G` each add something.
* `Filter.same_rows_not_congruent`: selecting the same rows in every state
  is not kept by `NOT`, and De Morgan's law fails when `F` adds nothing.
-/

namespace TableGraph

open Store Outcome

namespace Value

/-- The member a key sets: its value replaced when it has the key. -/
def setMember (k : String) (v : Value) (e : String × Value) : String × Value :=
  if e.1 == k then (e.1, v) else e

@[simp] theorem setMember_fst (k : String) (v : Value) (e : String × Value) :
    (setMember k v e).1 = e.1 := by
  unfold setMember
  split <;> rfl

theorem setKey_eq (es : List (String × Value)) (k : String) (v : Value) :
    setKey es k v = if es.any (·.1 == k) then es.map (setMember k v) else es ++ [(k, v)] := rfl

/-- After a key is set it holds the new value, and every other key its old
one. -/
theorem lookup?_setKey (es : List (String × Value)) (k k' : String) (v : Value) :
    lookup? (setKey es k v) k' = if k' = k then some v else lookup? es k' := by
  rw [setKey_eq]
  split
  · rename_i hany
    have hp : ((·.1 == k') ∘ setMember k v) = (·.1 == k') := by
      funext e
      simp
    simp only [lookup?, List.find?_map, hp, Option.map_map]
    cases hfind : es.find? (·.1 == k') with
    | none =>
      by_cases h : k' = k
      · -- the key is present, so a search for it finds something
        subst h
        obtain ⟨e, he, hek⟩ := List.any_eq_true.mp hany
        exact absurd hek (List.find?_eq_none.mp hfind e he)
      · simp [h]
    | some e =>
      have hk : e.1 = k' := by simpa using List.find?_some hfind
      by_cases h : k' = k <;> simp [setMember, hk, h]
  · rename_i hany
    by_cases h : k' = k
    · subst h
      have hnone : es.find? (·.1 == k') = Option.none := by
        rw [List.find?_eq_none]
        intro e he hek
        exact hany (List.any_eq_true.mpr ⟨e, he, hek⟩)
      simp [lookup?, List.find?_append, hnone]
    · simp [lookup?, List.find?_append, Ne.symm h, h]

theorem setKey_isEmpty (es : List (String × Value)) (k : String) (v : Value) :
    (setKey es k v).isEmpty = false := by
  rw [setKey_eq]
  split
  · rename_i hany
    obtain ⟨e, he, -⟩ := List.any_eq_true.mp hany
    simpa using List.ne_nil_of_mem he
  · simp

/-- Setting a key keeps the members whose keys a predicate keeps, when it
drops the key set. -/
theorem filter_setKey {p : String → Bool} {k : String} (hk : p k = false)
    (es : List (String × Value)) (v : Value) :
    (setKey es k v).filter (p ·.1) = es.filter (p ·.1) := by
  rw [setKey_eq]
  split
  · have hp : ((p ·.1) ∘ setMember k v) = (p ·.1) := by
      funext e
      simp
    rw [List.filter_map, hp, List.map_congr_left, List.map_id]
    intro e he
    have hke : e.1 ≠ k := by
      rintro hek
      simp [hek, hk] at he
    simp [setMember, hke]
  · simp [hk]

end Value

namespace Store.Truth

/-- De Morgan's law in three-valued logic. -/
theorem neg_disj (a b : Truth) : neg (disj a b) = conj (neg a) (neg b) := by
  rcases a with _ | _ | _ <;> rcases b with _ | _ | _ <;> rfl

end Store.Truth

namespace Filter

/-- One frame around a hole in a filter: an item of an `AND` list or of an
`OR` list, between other items, or the operand of `NOT`; in each case beside
the other members of its level, which keep their places. -/
inductive Frame where
  | andItem (entries : List (String × Value)) (before after : List Value)
  | orItem (entries : List (String × Value)) (before after : List Value)
  | notOperand (entries : List (String × Value))

/-- A frame with its hole filled. -/
def Frame.plug : Frame → Value → Value
  | .andItem es xs ys, v => .dict (Value.setKey es "AND" (.list (xs ++ v :: ys)))
  | .orItem es xs ys, v => .dict (Value.setKey es "OR" (.list (xs ++ v :: ys)))
  | .notOperand es, v => .dict (Value.setKey es "NOT" v)

/-- A filter with a hole at any depth, its frames from the outermost in,
with the hole filled. -/
def plug (frames : List Frame) (v : Value) : Value := frames.foldr Frame.plug v

/-- Two compiled levels read alike on a row: both add nothing, or both add
predicates with the same three-valued truth there. -/
def SameAt (env : RowEnv) (p q : Option Predicate) : Prop :=
  p.map (·.eval env) = q.map (·.eval env)

/-- Two lists of predicates with the same truths on a row, in order. -/
def SameParts (env : RowEnv) (ps qs : List Predicate) : Prop :=
  ps.map (·.eval env) = qs.map (·.eval env)

section Congruence

variable {reg : Registry} {t : Table} {env : RowEnv}

theorem forall₂_sameAt_iff {ps qs : List (Option Predicate)} :
    List.Forall₂ (SameAt env) ps qs ↔
      ps.map (Option.map (·.eval env)) = qs.map (Option.map (·.eval env)) := by
  rw [← List.forall₂_eq_eq_eq, List.forall₂_map_left_iff, List.forall₂_map_right_iff]
  rfl

/-- The conjunction of parts with the same truths reads alike. -/
theorem sameAt_conjunctionOf {ps qs : List Predicate} (h : SameParts env ps qs) :
    SameAt env (conjunctionOf ps) (conjunctionOf qs) := by
  have hempty : ps.isEmpty = qs.isEmpty := by
    rw [← List.isEmpty_map (f := (·.eval env)), h, List.isEmpty_map]
  unfold SameAt
  rw [eval_conjunctionOf, eval_conjunctionOf, hempty]
  unfold SameParts at h
  rw [h]

/-- A level that is not truthy adds nothing. -/
theorem level_of_truthy_false {v : Value} (h : v.truthy = false) : level reg t v = .ok none := by
  cases v with
  | dict es =>
    have hes : es = [] := by simpa [Value.truthy] using h
    subst hes
    rw [level.eq_1]
    rfl
  | _ =>
    rw [level_not_dict reg t (by simp)]
    simp [h]

/-! ### The three combinator members -/

section Parts

variable {α : Type} {sub : Value → Outcome (Option α)} {es es' : List (String × Value)}

theorem andPart_congr (h : Value.lookup? es "AND" = Value.lookup? es' "AND") :
    andPart sub es = andPart sub es' := by
  unfold andPart
  rw [h]

theorem orPart_congr {top : α} {disj : List α → α}
    (h : Value.lookup? es "OR" = Value.lookup? es' "OR") :
    orPart sub top disj es = orPart sub top disj es' := by
  unfold orPart
  rw [h]

theorem notPart_congr {neg : α → α} (h : Value.lookup? es "NOT" = Value.lookup? es' "NOT") :
    notPart sub neg es = notPart sub neg es' := by
  unfold notPart
  rw [h]

theorem andPart_of_none (h : Value.lookup? es "AND" = none) : andPart sub es = pure [] := by
  simp [andPart, h]

theorem orPart_of_none {top : α} {disj : List α → α} (h : Value.lookup? es "OR" = none) :
    orPart sub top disj es = pure [] := by
  simp [orPart, h]

theorem notPart_of_none {neg : α → α} (h : Value.lookup? es "NOT" = none) :
    notPart sub neg es = pure [] := by
  simp [notPart, h]

/-- An `AND` list with items: the items that add something. -/
theorem andPart_list (items : List Value) (hA : Value.lookup? es "AND" = some (.list items))
    (hne : items ≠ []) : andPart sub es = (·.reduceOption) <$> items.mapM sub := by
  simp [andPart, hA, Value.truthy, hne, Value.asItems]

/-- An `OR` list with items: their disjunction, `top` for one that adds
nothing. -/
theorem orPart_list {top : α} {disj : List α → α} (items : List Value)
    (hO : Value.lookup? es "OR" = some (.list items)) (hne : items ≠ []) :
    orPart sub top disj es = (fun ps => [disj (ps.map (·.getD top))]) <$> items.mapM sub := by
  simp [orPart, hO, Value.truthy, hne, Value.asItems]

end Parts

/-- The operand of `NOT` adds its negation when it adds something; an
operand that is not truthy adds nothing either way. -/
theorem notPart_eq {es : List (String × Value)} (item : Value)
    (hN : Value.lookup? es "NOT" = some item) :
    notPart (level reg t) Predicate.negate es =
      (fun p? => (p?.map Predicate.negate).toList) <$> level reg t item := by
  cases htruthy : item.truthy
  · simp [notPart, hN, htruthy, level_of_truthy_false htruthy]
  · simp [notPart, hN, htruthy]

/-! ### Carrying a reading through the parts -/

theorem sameParts_refl (ps : List Predicate) : SameParts env ps ps := rfl

theorem sameParts_reduceOption {ps qs : List (Option Predicate)}
    (h : List.Forall₂ (SameAt env) ps qs) : SameParts env ps.reduceOption qs.reduceOption := by
  unfold SameParts
  rw [← List.reduceOption_map, ← List.reduceOption_map, forall₂_sameAt_iff.mp h]

theorem eval_getD_true (p? : Option Predicate) :
    (p?.getD (.const true)).eval env = (p?.map (·.eval env)).getD (some true) := by
  cases p? <;> rfl

theorem sameParts_disj {ps qs : List (Option Predicate)} (h : List.Forall₂ (SameAt env) ps qs) :
    SameParts env [Predicate.disj (ps.map (·.getD (.const true)))]
      [Predicate.disj (qs.map (·.getD (.const true)))] := by
  -- a part that adds nothing counts as TRUE on both sides
  have hcomp : ∀ rs : List (Option Predicate),
      (rs.map (·.getD (.const true))).map (·.eval env) =
        (rs.map (Option.map (·.eval env))).map (Option.getD · (some true)) := by
    intro rs
    simp only [List.map_map]
    exact List.map_congr_left fun p? _ => eval_getD_true p?
  simp only [SameParts, List.map_cons, List.map_nil, Predicate.eval_disj]
  rw [hcomp ps, hcomp qs, forall₂_sameAt_iff.mp h]

theorem sameParts_negate {p? q? : Option Predicate} (h : SameAt env p? q?) :
    SameParts env (p?.map Predicate.negate).toList (q?.map Predicate.negate).toList := by
  cases p? <;> cases q? <;> simp_all [SameAt, SameParts, Predicate.eval_negate]

/-- The items of a list with one item in two forms that read alike. -/
theorem forall₂_hole {xs ys : List Value} {F G : Value}
    (h : Agree (SameAt env) (level reg t F) (level reg t G)) :
    List.Forall₂ (fun x y => Agree (SameAt env) (level reg t x) (level reg t y))
      (xs ++ F :: ys) (xs ++ G :: ys) := by
  have hrefl : ∀ zs : List Value,
      List.Forall₂ (fun x y => Agree (SameAt env) (level reg t x) (level reg t y)) zs zs :=
    fun zs => List.forall₂_same.mpr fun z _ => agree_refl (R := SameAt env) (fun _ => rfl) _
  exact List.rel_append (hrefl xs) (.cons h (hrefl ys))

/-! ### One frame, then any number -/

/-- Two levels that are not empty, with the same column members and with
combinator members that add parts with the same truths, read alike. -/
theorem level_dict_agree {es es' : List (String × Value)} (hne : es.isEmpty = false)
    (hne' : es'.isEmpty = false)
    (hcols : es.foldlM (columnMember reg t) [] = es'.foldlM (columnMember reg t) [])
    (hand : Agree (SameParts env) (andPart (level reg t) es) (andPart (level reg t) es'))
    (hor : Agree (SameParts env) (orPart (level reg t) (.const true) Predicate.disj es)
      (orPart (level reg t) (.const true) Predicate.disj es'))
    (hnot : Agree (SameParts env) (notPart (level reg t) Predicate.negate es)
      (notPart (level reg t) Predicate.negate es')) :
    Agree (SameAt env) (level reg t (.dict es)) (level reg t (.dict es')) := by
  rw [level_dict reg t hne, level_dict reg t hne', hcols]
  refine (agree_refl (R := Eq) (fun _ => rfl) _).bind fun cs cs' (hcs : cs = cs') => ?_
  subst hcs
  refine hand.bind fun a a' ha => hor.bind fun o o' ho => hnot.bind fun n n' hn => ?_
  apply sameAt_conjunctionOf
  unfold SameParts at ha ho hn ⊢
  simp only [List.map_append, ha, ho, hn]

/-- The column members of a level do not see a combinator member. -/
theorem foldlM_columnMember_filter (es : List (String × Value)) (acc : List Predicate) :
    es.foldlM (columnMember reg t) acc =
      (es.filter (!isCombinator ·.1)).foldlM (columnMember reg t) acc := by
  induction es generalizing acc with
  | nil => rfl
  | cons e es ih =>
    obtain ⟨key, v⟩ := e
    cases hkey : isCombinator key
    · simp only [List.foldlM_cons, List.filter_cons, hkey, Bool.not_false, if_true]
      exact congrArg (_ >>= ·) (funext fun acc' => ih acc')
    · simp only [List.foldlM_cons, List.filter_cons, hkey, Bool.not_true, Bool.false_eq_true,
        if_false, columnMember_skip (Or.inl hkey)]
      exact ih acc

/-- Setting a combinator member leaves the column members as they were. -/
theorem columns_setKey {k : String} (hk : isCombinator k = true) (es : List (String × Value))
    (v : Value) :
    (Value.setKey es k v).foldlM (columnMember reg t) [] = es.foldlM (columnMember reg t) [] := by
  rw [foldlM_columnMember_filter, foldlM_columnMember_filter es,
    Value.filter_setKey (p := (!isCombinator ·)) (by simp [hk])]

/-- A part that a frame does not touch reads alike in both forms. -/
theorem agree_sameParts_refl (x : Outcome (List Predicate)) : Agree (SameParts env) x x :=
  agree_refl sameParts_refl x

/-- One frame keeps two levels that read alike on a row reading alike
there: the frame's own combinator member adds parts with the same truths,
and the other members are the same in both. -/
theorem level_frame_agree (fr : Frame) {F G : Value}
    (h : Agree (SameAt env) (level reg t F) (level reg t G)) :
    Agree (SameAt env) (level reg t (fr.plug F)) (level reg t (fr.plug G)) := by
  have hne := Value.setKey_isEmpty
  cases fr with
  | andItem es xs ys =>
    have hlook := fun v k => Value.lookup?_setKey es "AND" k (.list (xs ++ v :: ys))
    refine level_dict_agree (hne ..) (hne ..) ((columns_setKey rfl ..).trans
      (columns_setKey rfl ..).symm) ?_ ?_ ?_
    · rw [andPart_list (xs ++ F :: ys) (by simp [hlook]) (by simp),
        andPart_list (xs ++ G :: ys) (by simp [hlook]) (by simp)]
      exact (mapM_agree (forall₂_hole h)).map fun _ _ => sameParts_reduceOption
    · rw [orPart_congr ((hlook F "OR").trans (hlook G "OR").symm)]
      exact agree_sameParts_refl _
    · rw [notPart_congr ((hlook F "NOT").trans (hlook G "NOT").symm)]
      exact agree_sameParts_refl _
  | orItem es xs ys =>
    have hlook := fun v k => Value.lookup?_setKey es "OR" k (.list (xs ++ v :: ys))
    refine level_dict_agree (hne ..) (hne ..) ((columns_setKey rfl ..).trans
      (columns_setKey rfl ..).symm) ?_ ?_ ?_
    · rw [andPart_congr ((hlook F "AND").trans (hlook G "AND").symm)]
      exact agree_sameParts_refl _
    · rw [orPart_list (xs ++ F :: ys) (by simp [hlook]) (by simp),
        orPart_list (xs ++ G :: ys) (by simp [hlook]) (by simp)]
      exact (mapM_agree (forall₂_hole h)).map fun _ _ => sameParts_disj
    · rw [notPart_congr ((hlook F "NOT").trans (hlook G "NOT").symm)]
      exact agree_sameParts_refl _
  | notOperand es =>
    have hlook := fun v k => Value.lookup?_setKey es "NOT" k v
    refine level_dict_agree (hne ..) (hne ..) ((columns_setKey rfl ..).trans
      (columns_setKey rfl ..).symm) ?_ ?_ ?_
    · rw [andPart_congr ((hlook F "AND").trans (hlook G "AND").symm)]
      exact agree_sameParts_refl _
    · rw [orPart_congr ((hlook F "OR").trans (hlook G "OR").symm)]
      exact agree_sameParts_refl _
    · rw [notPart_eq F (by simp [hlook]), notPart_eq G (by simp [hlook])]
      exact h.map fun _ _ => sameParts_negate

/-- Any number of frames keep two levels that read alike on a row reading
alike there. -/
theorem level_plug_agree (frames : List Frame) {F G : Value}
    (h : Agree (SameAt env) (level reg t F) (level reg t G)) :
    Agree (SameAt env) (level reg t (plug frames F)) (level reg t (plug frames G)) := by
  induction frames with
  | nil => exact h
  | cons fr frames ih => exact level_frame_agree fr ih

/-- A compiled filter reads as its level, TRUE when the level adds
nothing. -/
theorem compile_agree_of_level {F G : Value} (h : Agree (SameAt env) (level reg t F) (level reg t G)) :
    Agree (fun p q => p.eval env = q.eval env) (compile reg t F) (compile reg t G) := by
  unfold compile
  refine h.bind fun p? q? hpq => agree_pure ?_
  rw [eval_getD_true, eval_getD_true]
  exact congrArg (Option.getD · (some true)) hpq

/-! ### De Morgan's law -/

/-- A level holding only `NOT` adds the negation of its operand, if any. -/
theorem level_not_only (v : Value) :
    level reg t (.dict [("NOT", v)]) = Option.map Predicate.negate <$> level reg t v := by
  rw [level_dict reg t rfl, andPart_of_none (by simp [Value.lookup?]),
    orPart_of_none (by simp [Value.lookup?]), notPart_eq v (by simp [Value.lookup?])]
  cases level reg t v with
  | error e => rfl
  | ok p? => cases p? <;> rfl

/-- A level holding only an `OR` list adds the disjunction of its items. -/
theorem level_or_only (items : List Value) (hne : items ≠ []) :
    level reg t (.dict [("OR", .list items)]) =
      (fun ps => some (Predicate.disj (ps.map (·.getD (.const true))))) <$>
        items.mapM (level reg t) := by
  rw [level_dict reg t rfl, andPart_of_none (by simp [Value.lookup?]),
    notPart_of_none (by simp [Value.lookup?]), orPart_list items (by simp [Value.lookup?]) hne]
  cases items.mapM (level reg t) <;> rfl

/-- A level holding only an `AND` list adds the conjunction of the items that
add something. -/
theorem level_and_only (items : List Value) (hne : items ≠ []) :
    level reg t (.dict [("AND", .list items)]) =
      (fun ps => conjunctionOf ps.reduceOption) <$> items.mapM (level reg t) := by
  rw [level_dict reg t rfl, orPart_of_none (by simp [Value.lookup?]),
    notPart_of_none (by simp [Value.lookup?]), andPart_list items (by simp [Value.lookup?]) hne]
  cases items.mapM (level reg t) with
  | error e => rfl
  | ok ps =>
    show Except.ok (conjunctionOf (ps.reduceOption ++ [] ++ [])) = .ok (conjunctionOf ps.reduceOption)
    simp

/-- De Morgan's law for filters that each add something, or are refused:
`{NOT: {OR: [F, G]}}` and `{AND: [{NOT: F}, {NOT: G}]}` are both refused,
or compile to predicates with the same truth on every row. -/
theorem compile_deMorgan {F G : Value} (hF : level reg t F ≠ .ok none)
    (hG : level reg t G ≠ .ok none) :
    Agree (fun p q => ∀ env, p.eval env = q.eval env)
      (compile reg t (.dict [("NOT", .dict [("OR", .list [F, G])])]))
      (compile reg t (.dict [("AND", .list [.dict [("NOT", F)], .dict [("NOT", G)]])])) := by
  unfold compile
  rw [level_not_only, level_or_only _ (by simp), level_and_only _ (by simp)]
  simp only [List.mapM_cons, List.mapM_nil, level_not_only]
  cases hf : level reg t F with
  | error e => trivial
  | ok p? =>
    obtain ⟨p, rfl⟩ := Option.ne_none_iff_exists'.mp fun h => hF (h ▸ hf)
    cases hg : level reg t G with
    | error e => trivial
    | ok q? =>
      obtain ⟨q, rfl⟩ := Option.ne_none_iff_exists'.mp fun h => hG (h ▸ hg)
      intro env
      -- the negation of the disjunction, against the negations conjoined
      show (Predicate.negate (Predicate.disj [p, q])).eval env =
        (Predicate.conj [Predicate.negate p, Predicate.negate q]).eval env
      simp [Predicate.eval_negate, Predicate.eval_disj, Predicate.eval_conj, Truth.neg_disj]

end Congruence

/-- Filters that read alike on a row stay alike there in every context: as
an item of an `AND` or `OR` list or as the operand of `NOT`, at any depth and
beside any other members, they compile to predicates with the same truth on
that row, or are both refused. De Morgan's law holds for filters that each
add something. -/
theorem compile_context_congr (reg : Registry) (t : Table) :
    (∀ (frames : List Frame) (F G : Value) (env : RowEnv),
      Agree (SameAt env) (level reg t F) (level reg t G) →
      Agree (fun p q => p.eval env = q.eval env)
        (compile reg t (plug frames F)) (compile reg t (plug frames G))) ∧
    (∀ F G : Value, level reg t F ≠ .ok none → level reg t G ≠ .ok none →
      Agree (fun p q => ∀ env, p.eval env = q.eval env)
        (compile reg t (.dict [("NOT", .dict [("OR", .list [F, G])])]))
        (compile reg t (.dict [("AND", .list [.dict [("NOT", F)], .dict [("NOT", G)]])]))) :=
  ⟨fun frames _ _ _ h => compile_agree_of_level (level_plug_agree frames h), fun _ _ => compile_deMorgan⟩

section Addresses

/-- A user's address, a text that may be null. -/
def emailColumn : Column :=
  { name := "email", table := "users", tag := "text", columnType := "String" }

/-- Users, by their address. -/
def usersTable : Table := { name := "users", columns := [emailColumn] }

/-- `{email: {isNotNull: true}}`. -/
def hasEmail : Value := .dict [("email", .dict [("isNotNull", .bool true)])]

/-- `{NOT: {email: {isNull: true}}}`. -/
def notNullEmail : Value := .dict [("NOT", .dict [("email", .dict [("isNull", .bool true)])])]

/-- The two ways of asking for an address read alike on the null row, stay
alike there under `NOT` around an `AND` list, and obey De Morgan's law. -/
theorem hasEmail_congr_in_context :
    Agree (SameAt nullRow) (level {} usersTable hasEmail) (level {} usersTable notNullEmail) ∧
    Agree (fun p q => p.eval nullRow = q.eval nullRow)
      (compile {} usersTable (plug [.notOperand [], .andItem [] [.dict []] []] hasEmail))
      (compile {} usersTable (plug [.notOperand [], .andItem [] [.dict []] []] notNullEmail)) ∧
    level {} usersTable hasEmail ≠ .ok none ∧ level {} usersTable notNullEmail ≠ .ok none ∧
    Agree (fun p q => ∀ env, p.eval env = q.eval env)
      (compile {} usersTable (.dict [("NOT", .dict [("OR", .list [hasEmail, notNullEmail])])]))
      (compile {} usersTable
        (.dict [("AND", .list [.dict [("NOT", hasEmail)], .dict [("NOT", notNullEmail)]])])) := by
  have hF : level {} usersTable hasEmail = .ok (some (.isNull emailColumn true)) := by cbv
  have hG : level {} usersTable notNullEmail = .ok (some (.isNull emailColumn true)) := by cbv
  have hsame : Agree (SameAt nullRow) (level {} usersTable hasEmail)
      (level {} usersTable notNullEmail) := by
    rw [hF, hG]
    rfl
  have hF' : level {} usersTable hasEmail ≠ .ok none := by simp [hF]
  have hG' : level {} usersTable notNullEmail ≠ .ok none := by simp [hG]
  exact ⟨hsame, (compile_context_congr {} usersTable).1 _ _ _ _ hsame, hF', hG',
    (compile_context_congr {} usersTable).2 _ _ hF' hG'⟩

/-- `{OR: [{}]}`: an `OR` list whose one item adds nothing. -/
def orOfEmpty : Value := .dict [("OR", .list [.dict []])]

/-- `{email: {eq: "x", ne: "x"}}`. -/
def equalAndUnequal : Value := .dict [("email", .dict [("eq", .str "x"), ("ne", .str "x")])]

/-- `{email: {isNull: true, isNotNull: true}}`. -/
def nullAndNotNull : Value :=
  .dict [("email", .dict [("isNull", .bool true), ("isNotNull", .bool true)])]

/-- Selecting the same rows in every state is not kept in context. `{}` and
`{OR: [{}]}` are TRUE on every row, but under `NOT` the first stays TRUE and
the second is FALSE; `{email: {eq: "x", ne: "x"}}` and
`{email: {isNull: true, isNotNull: true}}` are TRUE on no row, but under
`NOT` the first is UNKNOWN where the address is null and the second TRUE.
De Morgan's law fails for `F = {}`. -/
theorem same_rows_not_congruent :
    (∀ env, (compile {} usersTable (.dict [])).map (·.eval env) = .ok (some true)) ∧
    (∀ env, (compile {} usersTable orOfEmpty).map (·.eval env) = .ok (some true)) ∧
    compile {} usersTable (.dict [("NOT", .dict [])]) = .ok (.const true) ∧
    compile {} usersTable (.dict [("NOT", orOfEmpty)]) = .ok (.const false) ∧
    (∀ env, (compile {} usersTable equalAndUnequal).map (·.eval env) ≠ .ok (some true)) ∧
    (∀ env, (compile {} usersTable nullAndNotNull).map (·.eval env) ≠ .ok (some true)) ∧
    (compile {} usersTable (.dict [("NOT", equalAndUnequal)])).map (·.eval nullRow) = .ok none ∧
    (compile {} usersTable (.dict [("NOT", nullAndNotNull)])).map (·.eval nullRow) =
      .ok (some true) ∧
    (compile {} usersTable (.dict [("NOT", .dict [("OR", .list [.dict [], hasEmail])])])).map
      (·.eval nullRow) = .ok (some false) ∧
    (compile {} usersTable
      (.dict [("AND", .list [.dict [("NOT", .dict [])], .dict [("NOT", hasEmail)]])])).map
      (·.eval nullRow) = .ok (some true) := by
  have hempty : compile {} usersTable (.dict []) = .ok (.const true) := by cbv
  have hor : compile {} usersTable orOfEmpty = .ok (.test true) := by cbv
  have heq : compile {} usersTable equalAndUnequal = .ok (.all
      [.compare emailColumn .eq (.param (.str "x")), .compare emailColumn .ne (.param (.str "x"))]) := by
    cbv
  have hnull : compile {} usersTable nullAndNotNull =
      .ok (.all [.isNull emailColumn false, .isNull emailColumn true]) := by cbv
  refine ⟨fun env => by rw [hempty]; rfl, fun env => by rw [hor]; rfl,
    by cbv, by cbv, fun env => ?_, fun env => ?_, by cbv, by cbv, by cbv, by cbv⟩
  · -- an operator and its opposite are never both TRUE
    have hne : env.compare emailColumn .ne (.param (.str "x")) =
        Truth.neg (env.compare emailColumn .eq (.param (.str "x"))) :=
      env.compare_negate emailColumn .eq _
    rw [heq]
    show Except.ok (Truth.all [env.compare emailColumn .eq (.param (.str "x")),
      env.compare emailColumn .ne (.param (.str "x"))]) ≠ .ok (some true)
    rw [hne]
    rw [ne_eq, Except.ok.injEq]
    rcases env.compare emailColumn .eq (.param (.str "x")) with _ | _ | _ <;> decide
  · -- a column is null or not, never both
    rw [hnull]
    show Except.ok (Truth.all [some (env.null emailColumn != false),
      some (env.null emailColumn != true)]) ≠ .ok (some true)
    cases env.null emailColumn <;> simp

end Addresses

end Filter

end TableGraph
