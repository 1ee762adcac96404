import Lanes.Proofs.UpdateOrder
import Lanes.Proofs.KindErrors

/-!
The laws of combining.

The six whole-number reductions (sum and exclusive or wrapping around in 64 bits, minimum,
maximum, and, or) are associative and commutative, with the unit of the reduction as identity on
both sides (`Op.combineValue?_assoc`, `Op.combineValue?_comm`, `Op.combineValue?_unit_left`).
Tuples of them inherit the laws element by element, at any depth (`Acc.combineSame_assoc`,
`Acc.combineSame_comm`, `Acc.combineSame_identity`). Counts of means add by the same laws.

So, for a kind made of whole numbers with a reduction (`Acc.whole`), updates of the kind can be
split into groups in any way. Folding each group into a new accumulator of the kind, then
folding the groups' results in any order, gives what folding the updates one by one gives
(`foldIn_grouped`).

Main statement: `combine_grouping_laws`.
-/

namespace Lanes.Accumulator

/-! ### Whole-number reductions -/

namespace Op

theorem combineValue?_comm {op : Op} (h : op ≠ .none) (x y : Int64) :
    op.combineValue? x y = op.combineValue? y x := by
  have hinj := @Int64.toInt_inj
  cases op with
  | none => exact absurd rfl h
  | sum => simp only [combineValue?, Int64.add_comm]
  | min =>
    simp only [combineValue?, Option.some.injEq, Int64.lt_iff_toInt_lt]
    split_ifs <;> grind
  | max =>
    simp only [combineValue?, Option.some.injEq, gt_iff_lt, Int64.lt_iff_toInt_lt]
    split_ifs <;> grind
  | and => simp only [combineValue?, Int64.and_comm]
  | or => simp only [combineValue?, Int64.or_comm]
  | xor => simp only [combineValue?, Int64.xor_comm]

theorem combineValue?_assoc (op : Op) (x y z : Int64) :
    ((op.combineValue? x y).bind fun v => op.combineValue? v z) =
      ((op.combineValue? y z).bind fun w => op.combineValue? x w) := by
  have hinj := @Int64.toInt_inj
  cases op with
  | none => rfl
  | sum => simp only [combineValue?, Option.bind_some, Int64.add_assoc]
  | min =>
    simp only [combineValue?, Option.bind_some, Option.some.injEq, Int64.lt_iff_toInt_lt]
    split_ifs <;> grind
  | max =>
    simp only [combineValue?, Option.bind_some, Option.some.injEq, gt_iff_lt,
      Int64.lt_iff_toInt_lt]
    split_ifs <;> grind
  | and => simp only [combineValue?, Option.bind_some, Int64.and_assoc]
  | or => simp only [combineValue?, Option.bind_some, Int64.or_assoc]
  | xor => simp only [combineValue?, Option.bind_some, Int64.xor_assoc]

theorem combineValue?_unit_left {op : Op} (h : op ≠ .none) (x : Int64) :
    op.combineValue? op.unit x = some x := by
  cases op with
  | none => exact absurd rfl h
  | sum => simp [combineValue?, unit]
  | min =>
    -- nothing is above the greatest value
    simp only [combineValue?, unit, Option.some.injEq]
    by_cases hx : x < Int64.maxValue
    · simp [hx]
    · simpa [hx] using (Int64.le_antisymm (Int64.le_maxValue x) (Int64.not_lt.1 hx)).symm
  | max =>
    simp only [combineValue?, unit, Option.some.injEq]
    by_cases hx : Int64.minValue < x
    · simp [hx]
    · simpa [hx] using (Int64.le_antisymm (Int64.not_lt.1 hx) (Int64.minValue_le x)).symm
  | and => simp [combineValue?, unit]
  | or => simp [combineValue?, unit]
  | xor => simp [combineValue?, unit]

theorem combineValue?_unit_right {op : Op} (h : op ≠ .none) (x : Int64) :
    op.combineValue? x op.unit = some x := by
  rw [combineValue?_comm h, combineValue?_unit_left h]

theorem combineValue?_isSome {op : Op} (h : op ≠ .none) (x y : Int64) :
    ∃ v, op.combineValue? x y = some v := by
  cases op <;> simp_all [combineValue?]

end Op

namespace Acc

theorem combineSame_long_of_value {op : Op} {x y v : Int64} (hv : op.combineValue? x y = some v) :
    combineSame (.long ⟨op, x⟩) (.long ⟨op, y⟩) = .ok (.long ⟨op, v⟩) := by
  simp [combineSame, Lanes.Accumulator.Long.reduce, hv, Except.map]

mutual

theorem whole_reduces : ∀ a : Acc, a.whole = true → a.reduces = true
  | .long _, h => by simpa [whole, reduces] using h
  | .double _, h => by simp [whole] at h
  | .mean _, h => by simp [whole] at h
  | .composed ps, h => wholeList_reducesList ps h

theorem wholeList_reducesList : ∀ ps : List Acc, wholeList ps = true → reducesList ps = true
  | [], _ => rfl
  | a :: rest, h => by
    simp only [wholeList, Bool.and_eq_true] at h
    simp only [reducesList, whole_reduces a h.1, wholeList_reducesList rest h.2, Bool.and_self]

end

/-! ### Commutativity -/

mutual

/-- Two whole accumulators of one kind combine the same way round either way. -/
theorem combineSame_comm : ∀ (a : Acc) {b : Acc}, a.whole = true → a.identity = b.identity →
    combineSame a b = combineSame b a
  | .long l, _, hw, hi => by
    obtain ⟨_, m, ⟨⟩, rfl, hop⟩ | ⟨_, _, h, -⟩ | ⟨_, _, h, -⟩ | ⟨_, _, h, -⟩ :=
      identity_eq_cases hi <;> try cases h
    obtain ⟨op, x⟩ := l
    obtain ⟨op', y⟩ := m
    obtain rfl : op = op' := hop
    have hne : op ≠ .none := by simpa [whole] using hw
    obtain ⟨v, hv⟩ := Op.combineValue?_isSome hne x y
    rw [combineSame_long_of_value hv,
      combineSame_long_of_value (by rw [Op.combineValue?_comm hne, hv])]
  | .double _, _, hw, _ => by simp [whole] at hw
  | .mean _, _, hw, _ => by simp [whole] at hw
  | .composed ps, _, hw, hi => by
    obtain ⟨_, _, h, -⟩ | ⟨_, _, h, -⟩ | ⟨_, _, h, -⟩ | ⟨_, qs, ⟨⟩, rfl, hps⟩ :=
      identity_eq_cases hi <;> try cases h
    simp only [combineSame, combineList_comm ps hw hps]

theorem combineList_comm : ∀ (ps : List Acc) {qs : List Acc}, wholeList ps = true →
    identityList ps = identityList qs → combineList ps qs = combineList qs ps
  | [], _, _, hi => by
    obtain ⟨-, rfl⟩ | ⟨_, _, _, _, h, -⟩ := identityList_eq_cases hi
    · rfl
    · cases h
  | p :: ps, _, hw, hi => by
    obtain ⟨h, -⟩ | ⟨_, _, q, qs, ⟨⟩, rfl, hpq, hps⟩ := identityList_eq_cases hi
    · cases h
    simp only [wholeList, Bool.and_eq_true] at hw
    simp only [combineList, combineSame_comm p hw.1 hpq, combineList_comm ps hw.2 hps]

end

/-! ### Associativity -/

mutual

/-- Combining `b` into a whole `a` and then `c`, or `c` into `b` and then the result into `a`,
gives the same. -/
theorem combineSame_assoc : ∀ (a : Acc) {b c ab bc : Acc}, a.whole = true →
    combineSame a b = .ok ab → combineSame b c = .ok bc → combineSame ab c = combineSame a bc
  | .long l, _, _, _, _, _, hab, hbc => by
    obtain ⟨m, v, rfl, hm, hv, rfl⟩ := combineSame_long_ok hab
    obtain ⟨n, w, rfl, hn, hw, rfl⟩ := combineSame_long_ok hbc
    obtain ⟨op, x⟩ := l
    obtain ⟨op', y⟩ := m
    obtain ⟨op'', z⟩ := n
    obtain rfl : op = op' := hm
    obtain rfl : op = op'' := hn
    -- both ways are the same two reductions of the values
    have h := Op.combineValue?_assoc op x y z
    simp only at hv hw
    rw [hv, hw, Option.bind_some, Option.bind_some] at h
    simp only [combineSame, if_true, Lanes.Accumulator.Long.reduce, h,
      Lanes.Accumulator.Long.kind]
  | .double _, _, _, _, _, hw, _, _ => by simp [whole] at hw
  | .mean _, _, _, _, _, hw, _, _ => by simp [whole] at hw
  | .composed ps, _, _, _, _, hw, hab, hbc => by
    obtain ⟨qs, abs, rfl, habs, rfl⟩ := combineSame_composed_ok hab
    obtain ⟨rs, bcs, rfl, hbcs, rfl⟩ := combineSame_composed_ok hbc
    simp only [combineSame, combineList_assoc ps hw habs hbcs]

theorem combineList_assoc : ∀ (ps : List Acc) {qs rs abs bcs : List Acc}, wholeList ps = true →
    combineList ps qs = .ok abs → combineList qs rs = .ok bcs →
    combineList abs rs = combineList ps bcs
  | [], _, _, _, _, _, hab, _ => by
    simp only [combineList] at hab
    cases hab
    rfl
  | p :: ps, _, _, _, _, hw, hab, hbc => by
    simp only [wholeList, Bool.and_eq_true] at hw
    obtain ⟨q, qs, ab, abs, rfl, hab1, habs, rfl⟩ := combineList_cons_ok hab
    obtain ⟨r, rs, bc, bcs, rfl, hbc1, hbcs, rfl⟩ := combineList_cons_ok hbc
    simp only [combineList, combineSame_assoc p hw.1 hab1 hbc1, combineList_assoc ps hw.2 habs hbcs]

end

/-! ### The identity -/

mutual

theorem combineSame_identity_right : ∀ a : Acc, a.whole = true → combineSame a a.identity = .ok a
  | .long ⟨op, x⟩, hw => by
    have hne : op ≠ .none := by simpa [whole] using hw
    exact combineSame_long_of_value (Op.combineValue?_unit_right hne x)
  | .double _, hw => by simp [whole] at hw
  | .mean _, hw => by simp [whole] at hw
  | .composed ps, hw => by
    simp [identity, combineSame, combineList_identity_right ps hw, Except.map]

theorem combineList_identity_right : ∀ ps : List Acc, wholeList ps = true →
    combineList ps (identityList ps) = .ok ps
  | [], _ => rfl
  | p :: ps, hw => by
    simp only [wholeList, Bool.and_eq_true] at hw
    simp only [identityList, combineList, combineSame_identity_right p hw.1,
      combineList_identity_right ps hw.2]
    rfl

end

/-! ### Combining accumulators of one whole kind -/

theorem combine_eq_combineSame {a b : Acc} (h : b.kind = a.kind) :
    a.combine (some b) = combineSame a b := by
  simp [combine, h]

theorem whole_of_kind_eq {a b : Acc} (h : b.kind = a.kind) : b.whole = a.whole :=
  whole_eq_of_identity_eq (identity_eq_of_kind_eq h)

/-- A whole accumulator and another of its kind always combine, into one of the kind. -/
theorem combine_whole_ok {a b : Acc} (hw : a.whole = true) (hk : b.kind = a.kind) :
    ∃ c, a.combine (some b) = .ok c ∧ c.kind = a.kind :=
  combine_ok_of_kind_eq (whole_reduces a hw) hk.symm

section Laws

variable {a b c : Acc} (hw : a.whole = true) (hb : b.kind = a.kind) (hc : c.kind = a.kind)
include hw

include hb in
theorem combine_comm : a.combine (some b) = b.combine (some a) := by
  rw [combine_eq_combineSame hb, combine_eq_combineSame hb.symm,
    combineSame_comm a hw (identity_eq_of_kind_eq hb.symm)]

include hb hc in
theorem combine_assoc :
    (a.combine (some b) >>= fun ab => ab.combine (some c)) =
      (b.combine (some c) >>= fun bc => a.combine (some bc)) := by
  obtain ⟨ab, hab, hkab⟩ := combine_whole_ok hw hb
  obtain ⟨bc, hbc, hkbc⟩ := combine_whole_ok ((whole_of_kind_eq hb).trans hw) (hc.trans hb.symm)
  have hsame := combineSame_assoc a hw ((combine_eq_combineSame hb).symm.trans hab)
    ((combine_eq_combineSame (hc.trans hb.symm)).symm.trans hbc)
  rw [hab, hbc]
  change ab.combine (some c) = a.combine (some bc)
  rw [combine_eq_combineSame (hc.trans hkab.symm), combine_eq_combineSame (hkbc.trans hb), hsame]

theorem combine_identity_right : a.combine (some a.identity) = .ok a := by
  rw [combine_eq_combineSame (kind_identity a), combineSame_identity_right a hw]

theorem combine_identity_left : a.identity.combine (some a) = .ok a := by
  have hi : a.identity.identity = a.identity := identity_eq_of_kind_eq (kind_identity a)
  have hwi : a.identity.whole = true := by rw [whole_identity, hw]
  rw [combine_eq_combineSame (kind_identity a).symm, combineSame_comm a.identity hwi hi,
    combineSame_identity_right a hw]

end Laws

theorem combine_mean (m n : Mean) : (Acc.mean m).combine (some (.mean n)) = .ok (.mean (m.merge n)) := by
  simp [combine, kind, combineSame]

end Acc

/-! ### Counts of means -/

namespace Mean

theorem merge_count_comm (m n : Mean) : (m.merge n).count = (n.merge m).count :=
  Int64.add_comm _ _

theorem merge_count_assoc (m n p : Mean) : ((m.merge n).merge p).count = (m.merge (n.merge p)).count :=
  Int64.add_assoc _ _ _

theorem empty_merge_count (m : Mean) : (empty.merge m).count = m.count :=
  Int64.zero_add _

theorem merge_empty_count (m : Mean) : (m.merge empty).count = m.count :=
  Int64.add_zero _

end Mean

/-! ### Folding updates -/

/-- Folds updates one by one, in order, into an accumulator. -/
def foldIn (a : Acc) (us : List Acc) : Except Fault Acc :=
  us.foldlM (fun b u => b.combine (some u)) a

theorem foldIn_cons (a u : Acc) (us : List Acc) :
    foldIn a (u :: us) = a.combine (some u) >>= fun b => foldIn b us :=
  List.foldlM_cons ..

theorem foldIn_append (a : Acc) (us vs : List Acc) :
    foldIn a (us ++ vs) = foldIn a us >>= fun b => foldIn b vs :=
  List.foldlM_append

section Fold

variable {t : Acc} (ht : t.whole = true)
include ht

theorem whole_of_kind {a : Acc} (ha : a.kind = t.kind) : a.whole = true :=
  (Acc.whole_of_kind_eq ha).trans ht

theorem combine_whole_kind {a b : Acc} (ha : a.kind = t.kind) (hb : b.kind = t.kind) :
    ∃ c, a.combine (some b) = .ok c ∧ c.kind = t.kind := by
  obtain ⟨c, hc, hck⟩ := Acc.combine_whole_ok (whole_of_kind ht ha) (hb.trans ha.symm)
  exact ⟨c, hc, hck.trans ha⟩

theorem foldIn_ok : ∀ (us : List Acc) {a : Acc}, a.kind = t.kind → (∀ u ∈ us, u.kind = t.kind) →
    ∃ r, foldIn a us = .ok r ∧ r.kind = t.kind
  | [], a, ha, _ => ⟨a, rfl, ha⟩
  | u :: us, a, ha, hus => by
    obtain ⟨b, hb, hbk⟩ := combine_whole_kind ht ha (hus u (by simp))
    obtain ⟨r, hr, hrk⟩ := foldIn_ok us hbk (fun v hv => hus v (List.mem_cons_of_mem u hv))
    refine ⟨r, ?_, hrk⟩
    rw [foldIn_cons, hb]
    exact hr

/-- The order of the updates does not matter. -/
theorem foldIn_perm {us vs : List Acc} (hp : us.Perm vs) :
    ∀ {a : Acc}, a.kind = t.kind → (∀ u ∈ us, u.kind = t.kind) → foldIn a us = foldIn a vs := by
  induction hp with
  | nil => intros; rfl
  | cons x _ ih =>
    intro a ha hus
    obtain ⟨b, hb, hbk⟩ := combine_whole_kind ht ha (hus x (by simp))
    rw [foldIn_cons, foldIn_cons, hb]
    exact ih hbk (fun v hv => hus v (List.mem_cons_of_mem x hv))
  | swap x y l =>
    intro a ha hus
    have hx : x.kind = t.kind := hus x (by simp)
    have hy : y.kind = t.kind := hus y (by simp)
    obtain ⟨b, hb, hbk⟩ := combine_whole_kind ht ha hy
    obtain ⟨c, hc, -⟩ := combine_whole_kind ht hbk hx
    obtain ⟨b', hb', hbk'⟩ := combine_whole_kind ht ha hx
    obtain ⟨c', hc', -⟩ := combine_whole_kind ht hbk' hy
    -- the two updates go in either order
    have hcc : c = c' := Acc.combine_right_comm (whole_of_kind ht ha) hb hc hb' hc'
    rw [foldIn_cons, foldIn_cons, hb, hb']
    change (b.combine (some x) >>= fun d => foldIn d l) = (b'.combine (some y) >>= fun d => foldIn d l)
    rw [hc, hc', hcc]
  | trans h₁ _ ih₁ ih₂ =>
    intro a ha hus
    rw [ih₁ ha hus, ih₂ ha (fun v hv => hus v (h₁.mem_iff.2 hv))]

theorem foldIn_absorb : ∀ (g : List Acc) {a b : Acc}, a.kind = t.kind → b.kind = t.kind →
    (∀ u ∈ g, u.kind = t.kind) →
    (foldIn b g >>= fun p => a.combine (some p)) = (a.combine (some b) >>= fun ab => foldIn ab g)
  | [], a, b, _, _, _ => by
    change a.combine (some b) = (a.combine (some b) >>= fun ab => pure ab)
    rw [bind_pure]
  | x :: g, a, b, ha, hb, hg => by
    have hx : x.kind = t.kind := hg x (by simp)
    obtain ⟨bx, hbx, hbxk⟩ := combine_whole_kind ht hb hx
    obtain ⟨ab, hab, -⟩ := combine_whole_kind ht ha hb
    -- one regrouping of three: `(a ⊕ b) ⊕ x = a ⊕ (b ⊕ x)`
    have hassoc := Acc.combine_assoc (whole_of_kind ht ha) (hb.trans ha.symm)
      (hx.trans ha.symm)
    rw [hab, hbx] at hassoc
    replace hassoc : ab.combine (some x) = a.combine (some bx) := hassoc
    rw [foldIn_cons, hbx, hab]
    change (foldIn bx g >>= fun p => a.combine (some p)) = foldIn ab (x :: g)
    rw [foldIn_absorb g ha hbxk (fun v hv => hg v (List.mem_cons_of_mem x hv)), foldIn_cons]
    change (a.combine (some bx) >>= fun d => foldIn d g) = (ab.combine (some x) >>= fun d => foldIn d g)
    rw [hassoc]

/-- Folding the groups' results, each group folded from the identity, is folding all the
updates of the groups in turn. -/
theorem foldIn_grouped : ∀ (groups : List (List Acc)) {a : Acc}, a.kind = t.kind →
    (∀ u ∈ groups.flatten, u.kind = t.kind) →
    foldIn a groups.flatten = (groups.mapM (foldIn t.identity) >>= foldIn a)
  | [], _, _, _ => rfl
  | g :: gs, a, ha, hus => by
    have hg : ∀ u ∈ g, u.kind = t.kind := fun u hu => hus u (by simp [hu])
    have hgs : ∀ u ∈ gs.flatten, u.kind = t.kind := fun u hu => hus u (by simp_all)
    obtain ⟨b, hb, hbk⟩ := foldIn_ok ht g ha hg
    obtain ⟨p, hp, -⟩ := foldIn_ok ht g (Acc.kind_identity t) hg
    -- the group's result combines into `a` as the group's updates fold into it
    have hap : a.combine (some p) = .ok b := by
      have h := foldIn_absorb ht g ha (Acc.kind_identity t) hg
      rw [hp, ← identity_eq_of_kind_eq ha,
        Acc.combine_identity_right (whole_of_kind ht ha)] at h
      exact h.trans hb
    rw [List.flatten_cons, foldIn_append, hb, List.mapM_cons, hp]
    change foldIn b gs.flatten =
      ((do let ps ← gs.mapM (foldIn t.identity); pure (p :: ps)) >>= foldIn a)
    rw [foldIn_grouped gs hbk hgs]
    cases gs.mapM (foldIn t.identity) with
    | error e => rfl
    | ok ps =>
      change foldIn b ps = foldIn a (p :: ps)
      rw [foldIn_cons, hap]
      rfl

end Fold

/-- **The laws of combining.** Whole accumulators of one kind combine commutatively and
associatively, with the identity of the kind as unit on both sides. A whole number with a sum,
minimum, maximum, and, or or exclusive or is one, and so is any tuple of such, nested to any
depth. Counts of means add by the same laws. Hence, for a whole kind, the updates can be split
into groups in any way and order. Folding each group into a new accumulator of the kind, then
folding the groups' results into another, gives what the one-pass fold gives. -/
theorem combine_grouping_laws :
    (∀ a b c : Acc, a.whole = true → b.kind = a.kind → c.kind = a.kind →
      a.combine (some b) = b.combine (some a) ∧
      (a.combine (some b) >>= fun ab => ab.combine (some c)) =
        (b.combine (some c) >>= fun bc => a.combine (some bc)) ∧
      a.identity.combine (some a) = .ok a ∧ a.combine (some a.identity) = .ok a) ∧
    (∀ m n p : Mean, (Acc.mean m).combine (some (.mean n)) = .ok (.mean (m.merge n)) ∧
      (m.merge n).count = (n.merge m).count ∧
      ((m.merge n).merge p).count = (m.merge (n.merge p)).count ∧
      (Mean.empty.merge m).count = m.count ∧ (m.merge Mean.empty).count = m.count) ∧
    (∀ t : Acc, t.whole = true → ∀ us : List Acc, (∀ u ∈ us, u.kind = t.kind) →
      ∀ groups : List (List Acc), groups.flatten.Perm us →
        ∃ e r, ofKind t.kind.toUTF8.toList = .ok e ∧ foldIn e us = .ok r ∧
          (groups.mapM (foldIn e) >>= foldIn e) = .ok r) := by
  refine ⟨fun a b c hw hb hc => ⟨Acc.combine_comm hw hb, Acc.combine_assoc hw hb hc,
    Acc.combine_identity_left hw, Acc.combine_identity_right hw⟩,
    fun m n p => ⟨Acc.combine_mean m n, Mean.merge_count_comm m n, Mean.merge_count_assoc m n p,
      Mean.empty_merge_count m, Mean.merge_empty_count m⟩, ?_⟩
  intro t ht us hus groups hp
  obtain ⟨r, hr, -⟩ := foldIn_ok ht us (Acc.kind_identity t) hus
  have hflat : ∀ u ∈ groups.flatten, u.kind = t.kind := fun u hu => hus u (hp.mem_iff.1 hu)
  refine ⟨t.identity, r, ofKind_kind t, hr, ?_⟩
  rw [← foldIn_grouped ht groups (Acc.kind_identity t) hflat,
    foldIn_perm ht hp (Acc.kind_identity t) hflat, hr]

/-- Tuples of a wrapping sum, a minimum and an exclusive or, combined three ways round and folded
in two groups. -/
theorem combine_grouping_laws_wrapping :
    let t : Acc := .composed [.long ⟨.sum, 0⟩, .composed [.long ⟨.min, 0⟩, .long ⟨.xor, 0⟩]]
    let u₁ : Acc :=
      .composed [.long ⟨.sum, Int64.maxValue⟩, .composed [.long ⟨.min, 5⟩, .long ⟨.xor, -1⟩]]
    let u₂ : Acc :=
      .composed [.long ⟨.sum, 1⟩, .composed [.long ⟨.min, Int64.minValue⟩, .long ⟨.xor, 3⟩]]
    let u₃ : Acc :=
      .composed [.long ⟨.sum, Int64.minValue⟩, .composed [.long ⟨.min, -7⟩, .long ⟨.xor, 12⟩]]
    t.whole = true ∧ (∀ u ∈ [u₁, u₂, u₃], u.kind = t.kind) ∧
      [[u₃], [u₁, u₂]].flatten.Perm [u₁, u₂, u₃] ∧
      (u₁.combine (some u₂) = u₂.combine (some u₁) ∧
        (u₁.combine (some u₂) >>= fun ab => ab.combine (some u₃)) =
          (u₂.combine (some u₃) >>= fun bc => u₁.combine (some bc))) ∧
      ∃ e r, ofKind t.kind.toUTF8.toList = .ok e ∧ foldIn e [u₁, u₂, u₃] = .ok r ∧
        ([[u₃], [u₁, u₂]].mapM (foldIn e) >>= foldIn e) = .ok r := by
  intro t u₁ u₂ u₃
  have hw : t.whole = true := rfl
  have hk : ∀ u ∈ [u₁, u₂, u₃], u.kind = t.kind := by decide
  have hp : [[u₃], [u₁, u₂]].flatten.Perm [u₁, u₂, u₃] := by
    simpa using @List.perm_append_comm _ [u₃] [u₁, u₂]
  have hw₁ : u₁.whole = true := rfl
  have h₂ : u₂.kind = u₁.kind := by decide
  have h₃ : u₃.kind = u₁.kind := by decide
  obtain ⟨hcomm, hassoc, -, -⟩ := combine_grouping_laws.1 u₁ u₂ u₃ hw₁ h₂ h₃
  exact ⟨hw, hk, hp, ⟨hcomm, hassoc⟩, combine_grouping_laws.2.2 t hw _ hk _ hp⟩

end Lanes.Accumulator
