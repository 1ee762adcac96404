import Lanes.Proofs.KindNames

/-!
When combining succeeds.

An accumulator's kind defines a reduction when none of its whole-number or floating-point parts
has the operation `none` (`reduces`). Accumulators of one kind are built alike
(`identity_eq_cases`). So two accumulators of one such kind always combine, and the result keeps
the kind; two of a kind that does not reduce fail as unsupported (`combineSame_unsupported`).
This is why the check a region makes before it starts, combining the identity of each shared
value with itself, rules out every later failure of the merge.

Main statements: `combine_ok_of_kind_eq`, and `reduces_of_combine_identity` for the check.
-/

namespace Lanes.Accumulator

namespace Acc

mutual

/-- Whether every reduction in an accumulator is defined. -/
def reduces : Acc → Bool
  | .long l => l.op != .none
  | .double d => d.op != .none
  | .mean _ => true
  | .composed ps => reducesList ps

/-- Whether every element of a tuple reduces. -/
def reducesList : List Acc → Bool
  | [] => true
  | a :: rest => a.reduces && reducesList rest

end

theorem reducesList_iff (ps : List Acc) : reducesList ps = true ↔ ∀ a ∈ ps, a.reduces = true := by
  induction ps with
  | nil => simp [reducesList]
  | cons a rest ih => simp [reducesList, ih]

mutual

theorem reduces_identity : ∀ a : Acc, a.identity.reduces = a.reduces
  | .long _ => rfl
  | .double _ => rfl
  | .mean _ => rfl
  | .composed ps => by
    simp only [identity, reduces, reducesList_identityList ps]

theorem reducesList_identityList : ∀ ps : List Acc,
    reducesList (identityList ps) = reducesList ps
  | [] => rfl
  | a :: rest => by
    simp only [identityList, reducesList, reduces_identity a, reducesList_identityList rest]

end

theorem reduces_eq_of_identity_eq {a b : Acc} (h : a.identity = b.identity) :
    a.reduces = b.reduces := by
  rw [← reduces_identity a, h, reduces_identity]

/-! ### Combining accumulators of one shape -/

theorem Long.reduce_ok {l : Long} (h : l.op ≠ .none) (x : Int64) :
    ∃ v, Lanes.Accumulator.Long.reduce l x = .ok { l with value := v } := by
  obtain ⟨op, value⟩ := l
  cases op <;> simp_all [Lanes.Accumulator.Long.reduce, Op.combineValue?]

theorem Double.reduce_ok {d : Double} (h : d.op ≠ .none) (x : Binary64) :
    ∃ v, Lanes.Accumulator.Double.reduce d x = .ok { d with value := v } := by
  obtain ⟨op, value⟩ := d
  cases op <;> simp_all [Lanes.Accumulator.Double.reduce, FloatOp.combineValue?]

/-- Accumulators with one identity are built alike: two whole numbers, or two floating-point
numbers, with one operation; two means; or two tuples whose elements agree one by one. -/
theorem identity_eq_cases {a b : Acc} (h : a.identity = b.identity) :
    (∃ l m, a = .long l ∧ b = .long m ∧ l.op = m.op) ∨
    (∃ d e, a = .double d ∧ b = .double e ∧ d.op = e.op) ∨
    (∃ m n, a = .mean m ∧ b = .mean n) ∨
    (∃ ps qs, a = .composed ps ∧ b = .composed qs ∧ identityList ps = identityList qs) := by
  cases a <;> cases b <;>
    simp_all [identity, Lanes.Accumulator.Long.identity, Lanes.Accumulator.Double.identity]

theorem identityList_eq_cases {ps qs : List Acc} (h : identityList ps = identityList qs) :
    (ps = [] ∧ qs = []) ∨ ∃ a as b bs, ps = a :: as ∧ qs = b :: bs ∧ a.identity = b.identity ∧
      identityList as = identityList bs := by
  cases ps <;> cases qs <;> simp_all [identityList]

mutual

theorem combineSame_ok : ∀ a b : Acc, a.reduces = true → a.identity = b.identity →
    ∃ c, combineSame a b = .ok c ∧ c.identity = a.identity
  | .long l, _, hr, hi => by
    obtain ⟨_, m, ⟨⟩, rfl, hop⟩ | ⟨_, _, h, -⟩ | ⟨_, _, h, -⟩ | ⟨_, _, h, -⟩ :=
      identity_eq_cases hi <;> try cases h
    have hne : l.op ≠ .none := by simpa [reduces] using hr
    obtain ⟨v, hv⟩ := Long.reduce_ok hne m.value
    refine ⟨.long { l with value := v }, ?_, rfl⟩
    rw [combineSame, if_pos hop, hv]
    rfl
  | .double d, _, hr, hi => by
    obtain ⟨_, _, h, -⟩ | ⟨_, e, ⟨⟩, rfl, hop⟩ | ⟨_, _, h, -⟩ | ⟨_, _, h, -⟩ :=
      identity_eq_cases hi <;> try cases h
    have hne : d.op ≠ .none := by simpa [reduces] using hr
    obtain ⟨v, hv⟩ := Double.reduce_ok hne e.value
    refine ⟨.double { d with value := v }, ?_, rfl⟩
    rw [combineSame, if_pos hop, hv]
    rfl
  | .mean m, _, _, hi => by
    obtain ⟨_, _, h, -⟩ | ⟨_, _, h, -⟩ | ⟨_, n, ⟨⟩, rfl⟩ | ⟨_, _, h, -⟩ :=
      identity_eq_cases hi <;> try cases h
    exact ⟨.mean (m.merge n), rfl, rfl⟩
  | .composed ps, _, hr, hi => by
    obtain ⟨_, _, h, -⟩ | ⟨_, _, h, -⟩ | ⟨_, _, h, -⟩ | ⟨_, qs, ⟨⟩, rfl, hps⟩ :=
      identity_eq_cases hi <;> try cases h
    obtain ⟨cs, hcs, hid⟩ := combineList_ok ps qs hr hps
    refine ⟨.composed cs, ?_, ?_⟩
    · simp [combineSame, hcs, Except.map]
    · simp only [identity, hid]

theorem combineList_ok : ∀ ps qs : List Acc, reducesList ps = true →
    identityList ps = identityList qs →
    ∃ cs, combineList ps qs = .ok cs ∧ identityList cs = identityList ps
  | [], _, _, hi => by
    obtain ⟨-, rfl⟩ | ⟨_, _, _, _, h, -⟩ := identityList_eq_cases hi
    · exact ⟨[], rfl, rfl⟩
    · cases h
  | a :: ps, _, hr, hi => by
    obtain ⟨h, -⟩ | ⟨_, _, b, qs, ⟨⟩, rfl, hab, hps⟩ := identityList_eq_cases hi
    · cases h
    simp only [reducesList, Bool.and_eq_true] at hr
    obtain ⟨c, hc, hci⟩ := combineSame_ok a b hr.1 hab
    obtain ⟨cs, hcs, hcsi⟩ := combineList_ok ps qs hr.2 hps
    refine ⟨c :: cs, ?_, ?_⟩
    · simp only [combineList, hc, hcs]
      rfl
    · simp only [identityList, hci, hcsi]

end

/-- Two accumulators of one kind combine when that kind reduces, and the result keeps the kind. -/
theorem combine_ok_of_kind_eq {a b : Acc} (hr : a.reduces = true) (hk : a.kind = b.kind) :
    ∃ c, a.combine (some b) = .ok c ∧ c.kind = a.kind := by
  obtain ⟨c, hc, hci⟩ := combineSame_ok a b hr (identity_eq_of_kind_eq hk)
  refine ⟨c, ?_, ?_⟩
  · simp [combine, hk, hc]
  · rw [← kind_identity c, hci, kind_identity]

/-! ### Failing as unsupported -/

mutual

/-- Two accumulators of one kind, where some part of the first has no reduction, fail to
combine as unsupported. -/
theorem combineSame_unsupported : ∀ a : Acc, ∀ {b : Acc}, a.reduces = false →
    a.identity = b.identity → ∃ f, combineSame a b = .error f ∧ f.kindOf = some .notSupported
  | .long l, _, hr, hi => by
    obtain ⟨_, m, ⟨⟩, rfl, hop⟩ | ⟨_, _, h, -⟩ | ⟨_, _, h, -⟩ | ⟨_, _, h, -⟩ :=
      identity_eq_cases hi <;> try cases h
    have hn : l.op = .none := by simpa [reduces] using hr
    refine ⟨unsupported l.kind, ?_, Fault.kindOf_make _ _⟩
    rw [combineSame, if_pos hop]
    simp [Lanes.Accumulator.Long.reduce, hn, Op.combineValue?, Except.map]
  | .double d, _, hr, hi => by
    obtain ⟨_, _, h, -⟩ | ⟨_, e, ⟨⟩, rfl, hop⟩ | ⟨_, _, h, -⟩ | ⟨_, _, h, -⟩ :=
      identity_eq_cases hi <;> try cases h
    have hn : d.op = .none := by simpa [reduces] using hr
    refine ⟨unsupported d.kind, ?_, Fault.kindOf_make _ _⟩
    rw [combineSame, if_pos hop]
    simp [Lanes.Accumulator.Double.reduce, hn, FloatOp.combineValue?, Except.map]
  | .mean _, _, hr, _ => by simp [reduces] at hr
  | .composed ps, _, hr, hi => by
    obtain ⟨_, _, h, -⟩ | ⟨_, _, h, -⟩ | ⟨_, _, h, -⟩ | ⟨_, qs, ⟨⟩, rfl, hps⟩ :=
      identity_eq_cases hi <;> try cases h
    obtain ⟨f, hf, hk⟩ := combineList_unsupported ps hr hps
    exact ⟨f, by simp [combineSame, hf, Except.map], hk⟩

/-- Two tuples of one kind, where some element of the first has no reduction, fail to combine
as unsupported. -/
theorem combineList_unsupported : ∀ ps : List Acc, ∀ {qs : List Acc}, reducesList ps = false →
    identityList ps = identityList qs →
      ∃ f, combineList ps qs = .error f ∧ f.kindOf = some .notSupported
  | [], _, hr, _ => by simp [reducesList] at hr
  | a :: as, _, hr, hi => by
    obtain ⟨h, -⟩ | ⟨_, _, b, bs, ⟨⟩, rfl, hab, has⟩ := identityList_eq_cases hi
    · cases h
    cases ha : a.reduces with
    | false =>
      -- the first element fails, before any other is looked at
      obtain ⟨f, hf, hk⟩ := combineSame_unsupported a ha hab
      exact ⟨f, by simp [combineList, hf]; rfl, hk⟩
    | true =>
      -- the first element combines, and a later one fails
      have hr' : reducesList as = false := by simpa [reducesList, ha] using hr
      obtain ⟨c, hc, -⟩ := combineSame_ok a b ha hab
      obtain ⟨f, hf, hk⟩ := combineList_unsupported as hr' has
      exact ⟨f, by simp [combineList, hc, hf]; rfl, hk⟩

end

/-! ### The check before a region starts -/

/-- The identity of a kind combines with itself only when the kind reduces. -/
theorem reduces_of_combine_identity {a : Acc} (h : ∃ c, a.identity.combine (some a.identity) = .ok c) :
    a.reduces = true := by
  obtain ⟨c, hc⟩ := h
  cases hr : a.reduces with
  | true => rfl
  | false =>
    obtain ⟨f, hf, -⟩ := combineSame_unsupported a.identity (by rw [reduces_identity, hr]) rfl
    simp [combine, hf] at hc

end Acc

end Lanes.Accumulator
