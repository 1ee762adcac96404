import Lanes.Proofs.TableMap

/-!
Updates in any order.

Whole-number reductions are associative and commutative, and tuples of them are too, element
by element (`Acc.combineSame_right_comm`). A table whose kind is made of them (`Acc.whole`)
therefore reaches the same state whichever order updates of its kind come in: two updates
combined in either order give one table (`Table.Valid.combine_swap`), and so does any
permutation of a list of them (`Table.combineAll_perm`). Floating-point sums and means have no
such law.
-/

namespace Lanes.Accumulator

theorem Op.combineValue?_right_comm (op : Op) (a x y : Int64) :
    ((op.combineValue? a x).bind fun b => op.combineValue? b y) =
      ((op.combineValue? a y).bind fun b => op.combineValue? b x) := by
  have hinj := @Int64.toInt_inj
  cases op with
  | none => rfl
  | sum =>
    simp only [Op.combineValue?, Option.bind_some, Option.some.injEq]
    grind
  | min =>
    simp only [Op.combineValue?, Option.bind_some, Option.some.injEq, Int64.lt_iff_toInt_lt]
    split_ifs <;> grind
  | max =>
    simp only [Op.combineValue?, Option.bind_some, Option.some.injEq, gt_iff_lt,
      Int64.lt_iff_toInt_lt]
    split_ifs <;> grind
  | and =>
    simp only [Op.combineValue?, Option.bind_some, Option.some.injEq]
    rw [Int64.and_assoc, Int64.and_comm x y, ← Int64.and_assoc]
  | or =>
    simp only [Op.combineValue?, Option.bind_some, Option.some.injEq]
    rw [Int64.or_assoc, Int64.or_comm x y, ← Int64.or_assoc]
  | xor =>
    simp only [Op.combineValue?, Option.bind_some, Option.some.injEq]
    rw [Int64.xor_assoc, Int64.xor_comm x y, ← Int64.xor_assoc]

namespace Acc

mutual

/-- Whether every part of an accumulator is a whole number with a reduction. -/
def whole : Acc → Bool
  | .long l => l.op != .none
  | .double _ => false
  | .mean _ => false
  | .composed ps => wholeList ps

/-- Whether every element of a tuple is whole. -/
def wholeList : List Acc → Bool
  | [] => true
  | a :: rest => a.whole && wholeList rest

end

mutual

theorem whole_identity : ∀ a : Acc, a.identity.whole = a.whole
  | .long _ => rfl
  | .double _ => rfl
  | .mean _ => rfl
  | .composed ps => by
    simp only [identity, whole, wholeList_identityList ps]

theorem wholeList_identityList : ∀ ps : List Acc, wholeList (identityList ps) = wholeList ps
  | [] => rfl
  | a :: rest => by
    simp only [identityList, wholeList, whole_identity a, wholeList_identityList rest]

end

theorem whole_eq_of_identity_eq {a b : Acc} (h : a.identity = b.identity) : a.whole = b.whole := by
  rw [← whole_identity a, h, whole_identity]

/-! ### What a successful combination is made of -/

theorem combineSame_long_ok {l : Long} {x b : Acc} (h : combineSame (.long l) x = .ok b) :
    ∃ m v, x = .long m ∧ l.op = m.op ∧ l.op.combineValue? l.value m.value = some v ∧
      b = .long { l with value := v } := by
  cases x with
  | long m =>
    by_cases hop : l.op = m.op
    · simp only [combineSame, if_pos hop, Long.reduce] at h
      cases hv : l.op.combineValue? l.value m.value with
      | none =>
        simp only [hv] at h
        cases h
      | some v =>
        simp only [hv] at h
        exact ⟨m, v, rfl, hop, hv, (Except.ok.inj h).symm⟩
    · simp [combineSame, hop] at h
  | double _ => cases h
  | mean _ => cases h
  | composed _ => cases h

theorem combineSame_composed_ok {ps : List Acc} {x b : Acc}
    (h : combineSame (.composed ps) x = .ok b) :
    ∃ qs cs, x = .composed qs ∧ combineList ps qs = .ok cs ∧ b = .composed cs := by
  cases x with
  | composed qs =>
    simp only [combineSame] at h
    cases hc : combineList ps qs with
    | error f => rw [hc] at h; cases h
    | ok cs =>
      rw [hc] at h
      exact ⟨qs, cs, rfl, hc, (Except.ok.inj h).symm⟩
  | long _ => cases h
  | double _ => cases h
  | mean _ => cases h

theorem combineList_cons_ok {p : Acc} {ps qs cs : List Acc}
    (h : combineList (p :: ps) qs = .ok cs) :
    ∃ q qs' c cs', qs = q :: qs' ∧ combineSame p q = .ok c ∧ combineList ps qs' = .ok cs' ∧
      cs = c :: cs' := by
  cases qs with
  | nil => cases h
  | cons q qs' =>
    simp only [combineList] at h
    cases hc : combineSame p q with
    | error f => rw [hc] at h; cases h
    | ok c =>
      cases hcs : combineList ps qs' with
      | error f => rw [hc, hcs] at h; cases h
      | ok cs' =>
        rw [hc, hcs] at h
        exact ⟨q, qs', c, cs', rfl, hc, hcs, (Except.ok.inj h).symm⟩

/-! ### Right commutativity -/

mutual

/-- Combining `x` then `y` into a whole accumulator gives what combining `y` then `x` gives. -/
theorem combineSame_right_comm : ∀ (a : Acc) {x y b c b' c' : Acc}, a.whole = true →
    combineSame a x = .ok b → combineSame b y = .ok c →
    combineSame a y = .ok b' → combineSame b' x = .ok c' → c = c'
  | .long l, _, _, _, _, _, _, _, hb, hc, hb', hc' => by
    obtain ⟨m, v, rfl, hm, hv, rfl⟩ := combineSame_long_ok hb
    obtain ⟨n, w, rfl, hn, hw, rfl⟩ := combineSame_long_ok hc
    obtain ⟨n', v', hn', -, hv', rfl⟩ := combineSame_long_ok hb'
    obtain ⟨m', w', hm', -, hw', rfl⟩ := combineSame_long_ok hc'
    cases hn'
    cases hm'
    -- both orders are the same two reductions of the value
    have h := Op.combineValue?_right_comm l.op l.value m.value n.value
    simp only [hv, hv', Option.bind_some] at h
    simp only at hw hw'
    rw [hw, hw'] at h
    rw [Option.some.inj h]
  | .double _, _, _, _, _, _, _, hw, _, _, _, _ => by simp [whole] at hw
  | .mean _, _, _, _, _, _, _, hw, _, _, _, _ => by simp [whole] at hw
  | .composed ps, _, _, _, _, _, _, hw, hb, hc, hb', hc' => by
    obtain ⟨qs, bs, rfl, hbs, rfl⟩ := combineSame_composed_ok hb
    obtain ⟨rs, cs, rfl, hcs, rfl⟩ := combineSame_composed_ok hc
    obtain ⟨rs', bs', hrs, hbs', rfl⟩ := combineSame_composed_ok hb'
    obtain ⟨qs', cs', hqs, hcs', rfl⟩ := combineSame_composed_ok hc'
    cases hrs
    cases hqs
    rw [combineList_right_comm ps hw hbs hcs hbs' hcs']

theorem combineList_right_comm : ∀ (ps : List Acc) {xs ys bs cs bs' cs' : List Acc},
    wholeList ps = true →
    combineList ps xs = .ok bs → combineList bs ys = .ok cs →
    combineList ps ys = .ok bs' → combineList bs' xs = .ok cs' → cs = cs'
  | [], _, _, _, _, _, _, _, hb, hc, hb', hc' => by
    simp only [combineList] at hb hb'
    cases hb
    cases hb'
    simp only [combineList] at hc hc'
    rw [← Except.ok.inj hc, ← Except.ok.inj hc']
  | p :: ps, _, _, _, _, _, _, hw, hb, hc, hb', hc' => by
    simp only [wholeList, Bool.and_eq_true] at hw
    obtain ⟨x, xs, b, bs, rfl, hb1, hbs, rfl⟩ := combineList_cons_ok hb
    obtain ⟨y, ys, c, cs, rfl, hc1, hcs, rfl⟩ := combineList_cons_ok hc
    obtain ⟨y', ys', b', bs', hy, hb1', hbs', rfl⟩ := combineList_cons_ok hb'
    obtain ⟨x', xs', c', cs', hx, hc1', hcs', rfl⟩ := combineList_cons_ok hc'
    cases hy
    cases hx
    rw [combineSame_right_comm p hw.1 hb1 hc1 hb1' hc1',
      combineList_right_comm ps hw.2 hbs hcs hbs' hcs']

end

theorem combineSame_of_combine {a x b : Acc} (h : a.combine (some x) = .ok b) :
    combineSame a x = .ok b := by
  by_cases hk : a.kind = x.kind
  · simpa [combine, hk] using h
  · simp [combine, hk] at h

/-- Combining `x` then `y` into a whole accumulator gives what combining `y` then `x` gives. -/
theorem combine_right_comm {a x y b c b' c' : Acc} (hw : a.whole = true)
    (hb : a.combine (some x) = .ok b) (hc : b.combine (some y) = .ok c)
    (hb' : a.combine (some y) = .ok b') (hc' : b'.combine (some x) = .ok c') : c = c' :=
  combineSame_right_comm a hw (combineSame_of_combine hb) (combineSame_of_combine hc)
    (combineSame_of_combine hb') (combineSame_of_combine hc')

end Acc

end Lanes.Accumulator

namespace Lanes.Pipeline

open Lanes.Accumulator

/-! ### Sorted entries are determined by their lookups -/

theorem lookup_eq_none_of_keyLT {k k' : Key} {a' : Acc} {rest : List (Key × Acc)}
    (hs : Sorted ((k', a') :: rest)) (hlt : keyLT k k' = true) :
    ((k', a') :: rest).lookup k = none := by
  rw [← Option.not_isSome_iff_eq_none, ← Table.mem_keys_iff]
  intro hk
  simp only [List.map_cons, List.mem_cons] at hk
  rcases hk with rfl | hk
  · simp [keyLT_irrefl] at hlt
  · obtain ⟨e, he, rfl⟩ := List.mem_map.1 hk
    have hgt : keyLT k' e.1 = true := (List.pairwise_cons.1 hs).1 e he
    exact ne_of_keyLT (keyLT_trans hlt hgt) rfl

theorem Sorted.lookup_tail {k : Key} {a : Acc} {rest : List (Key × Acc)}
    (hs : Sorted ((k, a) :: rest)) : rest.lookup k = none := by
  rw [← Option.not_isSome_iff_eq_none, ← Table.mem_keys_iff]
  intro hm
  obtain ⟨e, he, rfl⟩ := List.mem_map.1 hm
  exact ne_of_keyLT ((List.pairwise_cons.1 hs).1 e he) rfl

theorem Sorted.ext : ∀ {es es' : List (Key × Acc)}, Sorted es → Sorted es' →
    (∀ k, es.lookup k = es'.lookup k) → es = es'
  | [], [], _, _, _ => rfl
  | [], (k', a') :: _, _, _, h => by simpa using h k'
  | (k, a) :: _, [], _, _, h => by simpa using h k
  | (k, a) :: rest, (k', a') :: rest', hs, hs', h => by
    rcases keyLT_trichotomy k k' with hlt | rfl | hgt
    · have := h k
      rw [lookup_eq_none_of_keyLT hs' hlt] at this
      simp at this
    · have ha : a = a' := by simpa using h k
      subst ha
      -- past the first key, both tails miss it and agree on every other key
      have hrest : ∀ j, rest.lookup j = rest'.lookup j := by
        intro j
        by_cases hj : j = k
        · subst hj
          rw [hs.lookup_tail, hs'.lookup_tail]
        · simpa [Table.lookup_cons_ne hj] using h j
      rw [Sorted.ext (List.pairwise_cons.1 hs).2 (List.pairwise_cons.1 hs').2 hrest]
    · have := h k'
      rw [lookup_eq_none_of_keyLT hs hgt] at this
      simp at this


namespace Table

theorem combine_identity (s : Table) (key : Key) (u : Option Acc) :
    (s.combine key u).1.identity = s.identity := by
  dsimp only [combine]
  split_ifs
  · rfl
  · rfl
  · split <;> rfl

theorem Striped.lookup_eq_none {t : Table} (h : t.Striped) {i : Nat} (hi : i < t.stripes.length)
    {k : Key} (hk : stripeOf k ≠ i) : t.stripes[i].lookup k = none := by
  rw [← Option.not_isSome_iff_eq_none, ← mem_keys_iff]
  intro hm
  obtain ⟨e, he, rfl⟩ := List.mem_map.1 hm
  exact hk (h.placed i _ (List.getElem?_eq_getElem hi) e he)

/-- Two tables laid out in stripes that hold the same map have the same stripes. -/
theorem Striped.stripes_eq {t t' : Table} (h : t.Striped) (h' : t'.Striped)
    (hm : t.toMap = t'.toMap) : t.stripes = t'.stripes := by
  refine List.ext_getElem (h.length.trans h'.length.symm) fun i hi hi' => ?_
  -- stripe `i` of either table holds the keys of the map that hash to `i`, in order
  refine Sorted.ext (h.sorted _ (List.getElem_mem hi)) (h'.sorted _ (List.getElem_mem hi')) fun k => ?_
  by_cases hk : stripeOf k = i
  · have hs : t.stripe k = t.stripes[i] := by
      rw [stripe_eq, hk, List.getElem?_eq_getElem hi]
      rfl
    have hs' : t'.stripe k = t'.stripes[i] := by
      rw [stripe_eq, hk, List.getElem?_eq_getElem hi']
      rfl
    rw [← hs, ← hs']
    exact congrFun hm k
  · rw [h.lookup_eq_none hi hk, h'.lookup_eq_none hi' hk]

/-- Two tables of one kind, identity and freezing that hold the same map are one. -/
theorem Valid.ext {t t' : Table} (hv : t.Valid) (hv' : t'.Valid) (hk : t.kind = t'.kind)
    (hi : t.identity = t'.identity) (hf : t.frozen = t'.frozen) (hm : t.toMap = t'.toMap) :
    t = t' := by
  have hs := hv.toStriped.stripes_eq hv'.toStriped hm
  obtain ⟨kind, identity, frozen, ss⟩ := t
  obtain ⟨kind', identity', frozen', ss'⟩ := t'
  simp only at hk hi hf hs
  subst hk hi hf hs
  rfl

theorem Valid.current_whole {t : Table} (hv : t.Valid) (hw : t.identity.whole = true)
    (key : Key) : ((t.toMap key).getD t.identity.identity).whole = true := by
  rw [← hw]
  exact Acc.whole_eq_of_identity_eq
    (identity_eq_of_kind_eq ((hv.current key).1.trans hv.identity_kind.symm))

/-- On a table of a whole kind, two updates of its kind combine to one table in either order. -/
theorem Valid.combine_swap {t : Table} (hv : t.Valid) (hw : t.identity.whole = true)
    (hf : t.frozen = false) (k₁ k₂ : Key) {u₁ u₂ : Acc} (h₁ : u₁.kind = t.kind)
    (h₂ : u₂.kind = t.kind) :
    ((t.combine k₁ (some u₁)).1.combine k₂ (some u₂)).1 =
      ((t.combine k₂ (some u₂)).1.combine k₁ (some u₁)).1 := by
  have hv₁ := hv.combine k₁ (some u₁)
  have hv₂ := hv.combine k₂ (some u₂)
  obtain ⟨c₁, hc₁, hm₁, hf₁⟩ := hv.toMap_combine k₁ u₁ h₁ hf
  obtain ⟨c₂, hc₂, hm₂, hf₂⟩ := hv.toMap_combine k₂ u₂ h₂ hf
  obtain ⟨c₁₂, hc₁₂, hm₁₂, hf₁₂⟩ :=
    hv₁.toMap_combine k₂ u₂ (by rw [combine_kind]; exact h₂) hf₁
  obtain ⟨c₂₁, hc₂₁, hm₂₁, hf₂₁⟩ :=
    hv₂.toMap_combine k₁ u₁ (by rw [combine_kind]; exact h₁) hf₂
  rw [hm₁, combine_identity] at hc₁₂
  rw [hm₂, combine_identity] at hc₂₁
  refine (hv₁.combine k₂ _).ext (hv₂.combine k₁ _) (by simp only [combine_kind])
    (by simp only [combine_identity]) (by rw [hf₁₂, hf₂₁]) ?_
  rw [hm₁₂, hm₂₁, hm₁, hm₂]
  by_cases hk : k₁ = k₂
  · subst hk
    simp only [Function.update_self, Option.getD_some] at hc₁₂ hc₂₁
    -- one key: the two orders of the same two reductions
    rw [Acc.combine_right_comm (hv.current_whole hw k₁) hc₁ hc₁₂ hc₂ hc₂₁, Function.update_idem,
      Function.update_idem]
  · simp only [Function.update_of_ne (Ne.symm hk), Function.update_of_ne hk] at hc₁₂ hc₂₁
    -- two keys: each update starts from the entry the other leaves alone
    obtain rfl : c₁₂ = c₂ := Except.ok.inj (hc₁₂.symm.trans hc₂)
    obtain rfl : c₂₁ = c₁ := Except.ok.inj (hc₂₁.symm.trans hc₁)
    exact Function.update_comm hk _ _ _

theorem combine_frozen_eq (s : Table) (key : Key) (u : Option Acc) :
    (s.combine key u).1.frozen = s.frozen := by
  dsimp only [combine]
  split_ifs
  · rfl
  · rfl
  · split <;> rfl

/-- Combines updates into a table one after another, keeping the table each attempt leaves. -/
def combineAll (t : Table) (us : List (Key × Acc)) : Table :=
  us.foldl (fun s u => (s.combine u.1 (some u.2)).1) t

theorem combineAll_cons (t : Table) (u : Key × Acc) (us : List (Key × Acc)) :
    t.combineAll (u :: us) = (t.combine u.1 (some u.2)).1.combineAll us := rfl

theorem combineAll_append (t : Table) (us vs : List (Key × Acc)) :
    t.combineAll (us ++ vs) = (t.combineAll us).combineAll vs := List.foldl_append

/-- On a table of a whole kind that is not frozen, updates of its kind reach one table in
every order. -/
theorem combineAll_perm {t : Table} (hv : t.Valid) (hw : t.identity.whole = true)
    (hf : t.frozen = false) {us us' : List (Key × Acc)} (hp : us.Perm us')
    (hk : ∀ u ∈ us, u.2.kind = t.kind) : t.combineAll us = t.combineAll us' := by
  induction hp generalizing t with
  | nil => rfl
  | cons u _ ih =>
    rw [combineAll_cons, combineAll_cons]
    refine ih (hv.combine _ _) (by rw [combine_identity]; exact hw)
      (by rw [combine_frozen_eq]; exact hf) fun v hv' => ?_
    rw [combine_kind]
    exact hk v (List.mem_cons_of_mem _ hv')
  | swap u₁ u₂ l =>
    rw [combineAll_cons, combineAll_cons, combineAll_cons, combineAll_cons,
      hv.combine_swap hw hf u₂.1 u₁.1 (hk u₂ List.mem_cons_self)
        (hk u₁ (List.mem_cons_of_mem _ List.mem_cons_self))]
  | trans h₁ _ ih₁ ih₂ =>
    exact (ih₁ hv hw hf hk).trans (ih₂ hv hw hf fun u hu => hk u (h₁.symm.subset hu))

end Table

end Lanes.Pipeline
