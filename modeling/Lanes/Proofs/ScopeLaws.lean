import Lanes.Metrics.Board
import Mathlib.Tactic.SplitIfs

/-!
Metric scopes under the calls a program makes on them.

A board keeps each scope's instances as cells. The calls here are recording a value into a
metric (an increment of a counter, an observation of a maximum), merging one scope into another,
resetting a scope to the empty one, reading a value and visiting a scope's metrics. None of them
makes two instances share a cell (`Board.Sound`), so each instance behaves as a value of its own:
the rule's fold, from zero, of what was recorded into it since its scope was last reset
(`Records`), directly or through merges. A counter is the wrapping sum of its increments; a
maximum is the largest of zero and every value observed.

Merging another scope folds each of its instances into the target's and leaves it as it was;
merging a scope into itself folds each instance into itself, which doubles a counter. Folding is
commutative and associative on values, reading a value changes none, and a visit lists the
metrics the scope has an instance of, in declaration order.

Main statement: `scope_values_follow_records`.
-/

namespace Lanes.Metrics

/-! ### What a rule makes of recorded values -/

namespace Rule

/-- The value of what was recorded: every value folded by the rule, from zero. -/
def total (r : Rule) (vs : List Int64) : Int64 := vs.foldl r.fold 0

theorem fold_maximum (x v : Int64) :
    Rule.maximum.fold x v = if v.toInt ≤ x.toInt then x else v := by
  simp only [fold, Int64.le_iff_toInt_le]

theorem fold_comm (r : Rule) (x y : Int64) : r.fold x y = r.fold y x := by
  cases r with
  | counter => exact Int64.add_comm x y
  | maximum =>
    rw [fold_maximum, fold_maximum]
    split_ifs with h₁ h₂ h₂
    · exact Int64.toInt_inj.1 (by omega)
    · rfl
    · rfl
    · omega

theorem fold_assoc (r : Rule) (x y z : Int64) : r.fold (r.fold x y) z = r.fold x (r.fold y z) := by
  cases r with
  | counter => exact Int64.add_assoc x y z
  | maximum =>
    simp only [fold_maximum]
    split_ifs <;> first | rfl | omega

theorem foldl_counter (a : Int64) (vs : List Int64) :
    vs.foldl Rule.counter.fold a = a + Rule.counter.total vs := by
  induction vs generalizing a with
  | nil => exact (Int64.add_zero a).symm
  | cons v vs ih =>
    simp only [total, List.foldl_cons, ih (Rule.counter.fold a v), ih (Rule.counter.fold 0 v)]
    simp only [fold, Int64.zero_add, Int64.add_assoc]

theorem fold_maximum_nonneg {a : Int64} (ha : 0 ≤ a.toInt) (v : Int64) :
    0 ≤ (Rule.maximum.fold a v).toInt := by
  rw [fold_maximum]
  split_ifs <;> omega

theorem fold_fold_zero {a : Int64} (ha : 0 ≤ a.toInt) (v : Int64) :
    Rule.maximum.fold a (Rule.maximum.fold 0 v) = Rule.maximum.fold a v := by
  have h0 : (0 : Int64).toInt = 0 := by decide
  simp only [fold_maximum, h0]
  split_ifs <;> first | rfl | omega

theorem foldl_maximum {a : Int64} (ha : 0 ≤ a.toInt) (vs : List Int64) :
    vs.foldl Rule.maximum.fold a = Rule.maximum.fold a (Rule.maximum.total vs) := by
  induction vs generalizing a with
  | nil => simp [total, fold_maximum, ha]
  | cons v vs ih =>
    have h0v := fold_maximum_nonneg (show 0 ≤ (0 : Int64).toInt by decide) v
    simp only [total, List.foldl_cons] at ih ⊢
    rw [ih (fold_maximum_nonneg ha v), ih h0v, ← fold_assoc, fold_fold_zero ha]

theorem total_maximum_nonneg (vs : List Int64) : 0 ≤ (Rule.maximum.total vs).toInt := by
  have h : ∀ a : Int64, 0 ≤ a.toInt → 0 ≤ (vs.foldl Rule.maximum.fold a).toInt := by
    induction vs with
    | nil => exact fun a ha => ha
    | cons v vs ih =>
      intro a ha
      exact ih _ (fold_maximum_nonneg ha v)
  exact h 0 (by simp)

theorem total_append (r : Rule) (us vs : List Int64) :
    r.total (us ++ vs) = r.fold (r.total us) (r.total vs) := by
  cases r with
  | counter =>
    rw [total, List.foldl_append]
    exact foldl_counter _ vs
  | maximum =>
    rw [total, List.foldl_append]
    exact foldl_maximum (total_maximum_nonneg us) vs

theorem total_counter (vs : List Int64) : Rule.counter.total vs = vs.sum := by
  induction vs with
  | nil => rfl
  | cons v vs ih =>
    rw [total, List.foldl_cons, foldl_counter, ih, List.sum_cons]
    simp only [fold, Int64.zero_add]

theorem toInt_fold_maximum (x v : Int64) :
    (Rule.maximum.fold x v).toInt = max x.toInt v.toInt := by
  rw [fold_maximum]
  split_ifs <;> omega

theorem toInt_total_maximum (vs : List Int64) :
    (Rule.maximum.total vs).toInt = (vs.map Int64.toInt).foldr max 0 := by
  induction vs with
  | nil => rfl
  | cons v vs ih =>
    have h0 : (0 : Int64).toInt = 0 := by decide
    have h0v := fold_maximum_nonneg (show 0 ≤ (0 : Int64).toInt by decide) v
    have hstep : Rule.maximum.total (v :: vs) =
        Rule.maximum.fold (Rule.maximum.fold 0 v) (Rule.maximum.total vs) :=
      foldl_maximum h0v vs
    have hvs : 0 ≤ (vs.map Int64.toInt).foldr max 0 := ih ▸ total_maximum_nonneg vs
    rw [hstep, toInt_fold_maximum, toInt_fold_maximum, ih, h0, List.map_cons, List.foldr_cons]
    omega

end Rule

/-! ### Cells of a board -/

theorem getD_append_replicate_none {α : Type} (l : List (Option α)) (k j : Nat) :
    ((l ++ List.replicate k none)[j]?).getD none = (l[j]?).getD none := by
  by_cases hj : j < l.length
  · rw [List.getElem?_append_left hj]
  · rw [List.getElem?_append_right (Nat.le_of_not_lt hj), List.getElem?_eq_none (Nat.le_of_not_lt hj),
      List.getElem?_replicate]
    split <;> rfl

namespace Board

/-- The instance of a scope's metric: the value in its cell, if the scope has one. -/
def get? (b : Board) (sc id : Nat) : Option Int64 := (b.cell? sc id).map b.read

/-- A board whose cells each belong to one instance: the cells of instances exist, no two
instances share one, and scopes hold instances of declared metrics only. -/
structure Sound (b : Board) : Prop where
  cell_lt : ∀ sc id c, b.cell? sc id = some c → c < b.cells.length
  unshared : ∀ sc id sc' id' c, b.cell? sc id = some c → b.cell? sc' id' = some c →
    sc = sc' ∧ id = id'
  slots_le : ∀ sc, (b.slots sc).length ≤ declared.length

variable (b : Board)

@[simp] theorem slots_withCells (cs : List Int64) (sc : Nat) :
    ({ b with cells := cs } : Board).slots sc = b.slots sc := rfl

theorem slots_setSlots_ne {sc sc' : Nat} (s : List (Option Nat)) (h : sc' ≠ sc) :
    (b.setSlots sc s).slots sc' = b.slots sc' := by
  have hne : (sc == sc') = false := by simp [Ne.symm h]
  simp only [setSlots, slots, List.find?_cons, hne, List.find?_filter]
  congr 2
  funext x
  by_cases hx : x.1 = sc' <;> simp [hx, h]

theorem cell?_setSlots_self (sc : Nat) (s : List (Option Nat)) (id : Nat) :
    (b.setSlots sc s).cell? sc id = (s[id]?).getD none := by
  rw [cell?, slots_setSlots]

theorem cell?_setSlots_ne {sc sc' : Nat} (s : List (Option Nat)) (h : sc' ≠ sc) (id : Nat) :
    (b.setSlots sc s).cell? sc' id = b.cell? sc' id := by
  rw [cell?, cell?, slots_setSlots_ne b s h]

theorem cell?_of_slots_le {sc id : Nat} (h : (b.slots sc).length ≤ id) : b.cell? sc id = none := by
  simp [cell?, List.getElem?_eq_none h]

theorem read_set_self {c : Nat} (h : c < b.cells.length) (v : Int64) :
    ({ b with cells := b.cells.set c v } : Board).read c = v := by
  simp [read, List.getD_eq_getElem?_getD, h]

theorem read_set_ne {c c' : Nat} (h : c' ≠ c) (v : Int64) :
    ({ b with cells := b.cells.set c v } : Board).read c' = b.read c' := by
  simp [read, List.getD_eq_getElem?_getD, List.getElem?_set_ne (Ne.symm h)]

/-! ### Making an instance -/

section CellOf

variable {b} (sc id : Nat)

theorem cellOf_of_some {c : Nat} (h : b.cell? sc id = some c) : b.cellOf sc id = (b, c) := by
  simp [cellOf, h]

/-- The board after a new instance is made: its scope's slots padded to the metric's position,
which points at a new cell holding zero. -/
def grown (b : Board) (sc id : Nat) : Board :=
  { b.setSlots sc ((b.slots sc ++ List.replicate (id + 1 - (b.slots sc).length) none).set id
      (some b.cells.length)) with cells := b.cells ++ [0] }

theorem cellOf_of_none (h : b.cell? sc id = none) :
    b.cellOf sc id = (b.grown sc id, b.cells.length) := by
  simp [cellOf, h, grown]

theorem cell?_grown_self : (b.grown sc id).cell? sc id = some b.cells.length := by
  simp only [grown, cell?, slots_withCells]
  rw [slots_setSlots, List.getElem?_set_self (by simp; omega)]
  rfl

theorem cell?_grown_ne {sc' id' : Nat} (h : ¬ (sc' = sc ∧ id' = id)) :
    (b.grown sc id).cell? sc' id' = b.cell? sc' id' := by
  by_cases hs : sc' = sc
  · subst hs
    have hid : id' ≠ id := fun hi => h ⟨rfl, hi⟩
    simp only [grown, cell?, slots_withCells]
    rw [slots_setSlots, List.getElem?_set_ne (Ne.symm hid), getD_append_replicate_none]
  · simp only [grown, cell?, slots_withCells]
    rw [slots_setSlots_ne b _ hs]

theorem read_grown_new : (b.grown sc id).read b.cells.length = 0 := by
  simp [grown, read, List.getD_eq_getElem?_getD]

theorem read_grown_of_lt {c : Nat} (h : c < b.cells.length) : (b.grown sc id).read c = b.read c := by
  simp [grown, read, List.getD_eq_getElem?_getD, List.getElem?_append_left h]

theorem Sound.grown (hb : b.Sound) (hid : id < declared.length) (h : b.cell? sc id = none) :
    (b.grown sc id).Sound := by
  have hcells : (b.grown sc id).cells.length = b.cells.length + 1 := by simp [Board.grown]
  -- the new instance, and every other as it was
  have hcell : ∀ sc' id', (b.grown sc id).cell? sc' id' =
      if sc' = sc ∧ id' = id then some b.cells.length else b.cell? sc' id' := by
    intro sc' id'
    split
    · obtain ⟨rfl, rfl⟩ := ‹sc' = sc ∧ id' = id›
      exact cell?_grown_self sc' id'
    · exact cell?_grown_ne sc id ‹_›
  refine ⟨fun sc' id' c hc => ?_, fun s₁ i₁ s₂ i₂ c h₁ h₂ => ?_, fun sc' => ?_⟩
  · rw [hcell] at hc
    split at hc
    · cases hc
      omega
    · have := hb.cell_lt _ _ _ hc
      omega
  · rw [hcell] at h₁ h₂
    split at h₁ <;> split at h₂
    · rename_i e₁ e₂
      exact ⟨e₁.1.trans e₂.1.symm, e₁.2.trans e₂.2.symm⟩
    · cases h₁
      exact absurd (hb.cell_lt _ _ _ h₂) (Nat.lt_irrefl _)
    · cases h₂
      exact absurd (hb.cell_lt _ _ _ h₁) (Nat.lt_irrefl _)
    · exact hb.unshared _ _ _ _ _ h₁ h₂
  · by_cases hs : sc' = sc
    · subst hs
      simp only [Board.grown, slots_withCells, slots_setSlots, List.length_set, List.length_append,
        List.length_replicate]
      have := hb.slots_le sc'
      omega
    · simp only [Board.grown, slots_withCells]
      rw [slots_setSlots_ne b _ hs]
      exact hb.slots_le sc'

/-- Making an instance, if the scope has none, keeps the board sound, every other instance and
every existing cell; the instance's cell holds what the instance held, or zero. -/
theorem cellOf_spec (hb : b.Sound) (hid : id < declared.length) :
    (b.cellOf sc id).1.Sound ∧ (b.cellOf sc id).1.cell? sc id = some (b.cellOf sc id).2 ∧
    (∀ sc' id', ¬ (sc' = sc ∧ id' = id) → (b.cellOf sc id).1.cell? sc' id' = b.cell? sc' id') ∧
    (∀ c < b.cells.length, (b.cellOf sc id).1.read c = b.read c) ∧
    (b.cellOf sc id).1.read (b.cellOf sc id).2 = (b.get? sc id).getD 0 := by
  cases h : b.cell? sc id with
  | some c =>
    rw [cellOf_of_some sc id h]
    exact ⟨hb, h, fun _ _ _ => rfl, fun _ _ => rfl, by simp [get?, h]⟩
  | none =>
    rw [cellOf_of_none sc id h]
    exact ⟨hb.grown sc id hid h, cell?_grown_self sc id, fun sc' id' hne => cell?_grown_ne sc id hne,
      fun c hc => read_grown_of_lt sc id hc, by simp [get?, h, read_grown_new]⟩

end CellOf

/-! ### The calls on one board -/

section Calls

variable {b} (sc id : Nat)

theorem fold_eq (v : Int64) :
    b.fold sc id v =
      { (b.cellOf sc id).1 with
        cells := (b.cellOf sc id).1.cells.set (b.cellOf sc id).2
          ((ruleAt id).fold ((b.cellOf sc id).1.read (b.cellOf sc id).2) v) } := rfl

theorem cell?_fold (v : Int64) (sc' id' : Nat) :
    (b.fold sc id v).cell? sc' id' = (b.cellOf sc id).1.cell? sc' id' := rfl

theorem Sound.fold (hb : b.Sound) (hid : id < declared.length) (v : Int64) :
    (b.fold sc id v).Sound := by
  obtain ⟨hs, -⟩ := cellOf_spec sc id hb hid
  exact ⟨fun sc' id' c hc => by simpa [fold_eq] using hs.cell_lt sc' id' c hc,
    fun s₁ i₁ s₂ i₂ c h₁ h₂ => hs.unshared s₁ i₁ s₂ i₂ c h₁ h₂, fun sc' => hs.slots_le sc'⟩

theorem get?_fold_self (hb : b.Sound) (hid : id < declared.length) (v : Int64) :
    (b.fold sc id v).get? sc id = some ((ruleAt id).fold ((b.get? sc id).getD 0) v) := by
  obtain ⟨hs, hself, -, -, hread⟩ := cellOf_spec sc id hb hid
  rw [get?, cell?_fold, hself, Option.map_some, fold_eq, read_set_self _ (hs.cell_lt _ _ _ hself),
    hread]

theorem get?_fold_ne (hb : b.Sound) (hid : id < declared.length) (v : Int64) {sc' id' : Nat}
    (hne : ¬ (sc' = sc ∧ id' = id)) : (b.fold sc id v).get? sc' id' = b.get? sc' id' := by
  obtain ⟨hs, hself, hother, hkeep, -⟩ := cellOf_spec sc id hb hid
  simp only [get?, cell?_fold, hother sc' id' hne]
  cases hc : b.cell? sc' id' with
  | none => rfl
  | some c =>
    -- another instance's cell is not the one written
    have hcc : c ≠ (b.cellOf sc id).2 := by
      intro h
      rw [h, ← hother sc' id' hne] at hc
      exact hne (hs.unshared _ _ _ _ _ hc hself)
    simp only [Option.map_some, fold_eq]
    rw [read_set_ne _ hcc, hkeep c (hb.cell_lt _ _ _ hc)]

theorem cell?_fold_ne (hb : b.Sound) (hid : id < declared.length) (v : Int64) {sc' id' : Nat}
    (hne : ¬ (sc' = sc ∧ id' = id)) : (b.fold sc id v).cell? sc' id' = b.cell? sc' id' :=
  (cellOf_spec sc id hb hid).2.2.1 sc' id' hne

theorem Sound.value (hb : b.Sound) (hid : id < declared.length) : (b.value sc id).1.Sound :=
  (cellOf_spec sc id hb hid).1

theorem get?_value_self (hb : b.Sound) (hid : id < declared.length) :
    (b.value sc id).1.get? sc id = some ((b.get? sc id).getD 0) := by
  obtain ⟨-, hself, -, -, hread⟩ := cellOf_spec sc id hb hid
  simp only [value, get?, hself, Option.map_some, hread]

theorem get?_value_ne (hb : b.Sound) (hid : id < declared.length) {sc' id' : Nat}
    (hne : ¬ (sc' = sc ∧ id' = id)) : (b.value sc id).1.get? sc' id' = b.get? sc' id' := by
  obtain ⟨-, -, hother, hkeep, -⟩ := cellOf_spec sc id hb hid
  simp only [value, get?, hother sc' id' hne]
  cases hc : b.cell? sc' id' with
  | none => rfl
  | some c => simp only [Option.map_some, hkeep c (hb.cell_lt _ _ _ hc)]

theorem value_read (hb : b.Sound) (hid : id < declared.length) :
    (b.value sc id).2 = (b.get? sc id).getD 0 :=
  (cellOf_spec sc id hb hid).2.2.2.2

theorem Sound.reset (hb : b.Sound) : (b.reset sc none).Sound := by
  have hcell : ∀ sc' id', (b.reset sc none).cell? sc' id' = if sc' = sc then none else b.cell? sc' id' := by
    intro sc' id'
    split
    · subst ‹sc' = sc›
      simp [Board.reset, cell?_setSlots_self]
    · exact cell?_setSlots_ne b _ ‹_› id'
  refine ⟨fun sc' id' c hc => ?_, fun s₁ i₁ s₂ i₂ c h₁ h₂ => ?_, fun sc' => ?_⟩
  · rw [hcell] at hc
    split at hc
    · cases hc
    · exact hb.cell_lt _ _ _ hc
  · rw [hcell] at h₁ h₂
    split at h₁
    · cases h₁
    · split at h₂
      · cases h₂
      · exact hb.unshared _ _ _ _ _ h₁ h₂
  · by_cases hs : sc' = sc
    · subst hs
      simp [Board.reset, slots_setSlots]
    · simp only [Board.reset]
      rw [slots_setSlots_ne b _ hs]
      exact hb.slots_le sc'

theorem get?_reset (sc' id' : Nat) :
    (b.reset sc none).get? sc' id' = if sc' = sc then none else b.get? sc' id' := by
  split
  · subst ‹sc' = sc›
    simp [get?, reset, cell?_setSlots_self]
  · simp only [get?, reset]
    rw [cell?_setSlots_ne b _ ‹_›]
    rfl

end Calls

/-! ### Merging -/

section Merge

variable {b} (dst src : Nat)

/-- What merging leaves in `sc`'s instance of `id`: where `b` has an instance in `src`, its value
folded into `sc`'s, made at zero if there was none. -/
def merged (b : Board) (src sc id : Nat) : Option Int64 :=
  (b.get? src id).elim (b.get? sc id) fun v => some ((ruleAt id).fold ((b.get? sc id).getD 0) v)

variable {f : Board → Nat → Board}
  (hsome : ∀ acc id c, b.cell? src id = some c → f acc id = acc.fold dst id (acc.read c))
  (hnone : ∀ acc id, b.cell? src id = none → f acc id = acc)
include hsome hnone

theorem merge_step {acc : Board} {id : Nat} (hid : id < declared.length) (hacc : acc.Sound)
    (hsame : ∀ sc, acc.get? sc id = b.get? sc id)
    (hcell : ∀ c, b.cell? src id = some c → acc.cell? src id = some c) :
    (f acc id).Sound ∧
    (∀ sc id', (f acc id).get? sc id' =
      if sc = dst ∧ id' = id then b.merged src sc id else acc.get? sc id') ∧
    (∀ sc id', ¬ (sc = dst ∧ id' = id) → (f acc id).cell? sc id' = acc.cell? sc id') := by
  cases hc : b.cell? src id with
  | none =>
    rw [hnone acc id hc]
    refine ⟨hacc, fun sc id' => ?_, fun _ _ _ => rfl⟩
    split
    · obtain ⟨rfl, rfl⟩ := ‹sc = dst ∧ id' = id›
      have hsrc : b.get? src id' = none := by simp [get?, hc]
      simp only [merged, hsrc, Option.elim_none]
      exact hsame sc
    · rfl
  | some c =>
    -- the value folded in is the one `src` held in `b`
    have hread : acc.read c = b.read c := by
      have h := hsame src
      simp only [get?, hcell c hc, hc, Option.map_some, Option.some.injEq] at h
      exact h
    rw [hsome acc id c hc, hread]
    refine ⟨hacc.fold dst id hid _, fun sc id' => ?_, fun sc id' hne => cell?_fold_ne dst id hacc hid _ hne⟩
    split
    · obtain ⟨rfl, rfl⟩ := ‹sc = dst ∧ id' = id›
      rw [get?_fold_self sc id' hacc hid, hsame sc]
      simp [merged, get?, hc]
    · exact get?_fold_ne dst id hacc hid _ ‹_›

theorem foldl_merge_steps : ∀ (todo : List Nat) (acc : Board), todo.Nodup →
    (∀ id ∈ todo, id < declared.length) → acc.Sound →
    (∀ id ∈ todo, ∀ sc, acc.get? sc id = b.get? sc id) →
    (∀ id ∈ todo, ∀ c, b.cell? src id = some c → acc.cell? src id = some c) →
    (todo.foldl f acc).Sound ∧ ∀ sc id, (todo.foldl f acc).get? sc id =
      if sc = dst ∧ id ∈ todo then b.merged src sc id else acc.get? sc id := by
  intro todo
  induction todo with
  | nil => exact fun acc _ _ hacc _ _ => ⟨hacc, fun sc id => by simp⟩
  | cons id rest ih =>
    intro acc hnd hlt hacc hsame hcell
    rw [List.nodup_cons] at hnd
    obtain ⟨hs, hget, hcell'⟩ := merge_step dst src hsome hnone (hlt id (by simp)) hacc
      (hsame id (by simp)) (hcell id (by simp))
    -- the metrics after `id` are still as in `b`
    have hne : ∀ id' ∈ rest, id' ≠ id := fun id' h e => hnd.1 (e ▸ h)
    obtain ⟨hs', hget'⟩ := ih (f acc id) hnd.2 (fun id' h => hlt id' (by simp [h])) hs
      (fun id' h sc => by rw [hget, if_neg (by simp [hne id' h]), hsame id' (by simp [h])])
      (fun id' h c hc => by
        rw [hcell' src id' (by simp [hne id' h]), hcell id' (by simp [h]) c hc])
    refine ⟨hs', fun sc id' => ?_⟩
    rw [List.foldl_cons, hget', hget]
    by_cases hsc : sc = dst <;> by_cases hid : id' = id <;> simp_all

omit hsome hnone in
theorem merge_eq_foldl (b : Board) : ∃ f : Board → Nat → Board,
    (∀ acc id c, b.cell? src id = some c → f acc id = acc.fold dst id (acc.read c)) ∧
    (∀ acc id, b.cell? src id = none → f acc id = acc) ∧
    b.merge dst src = (List.range (b.slots src).length).foldl f b :=
  ⟨_, fun acc id c h => by simp only [cell?] at h; simp only [h],
    fun acc id h => by simp only [cell?] at h; simp only [h], rfl⟩

omit hsome hnone in
/-- **Merging** folds, at each metric `src` has an instance of, the value it held into `dst`'s
instance, made at zero if there was none; no other instance changes. -/
theorem merge_spec (hb : b.Sound) :
    (b.merge dst src).Sound ∧ ∀ sc id, (b.merge dst src).get? sc id =
      if sc = dst then b.merged src sc id else b.get? sc id := by
  obtain ⟨f, hsome, hnone, heq⟩ := merge_eq_foldl dst src b
  have hlt : ∀ id ∈ List.range (b.slots src).length, id < declared.length := fun id h =>
    Nat.lt_of_lt_of_le (List.mem_range.1 h) (hb.slots_le src)
  obtain ⟨hs, hget⟩ := foldl_merge_steps dst src hsome hnone _ b List.nodup_range hlt hb
    (fun _ _ _ => rfl) (fun _ _ _ h => h)
  rw [heq]
  refine ⟨hs, fun sc id => ?_⟩
  rw [hget]
  by_cases hsc : sc = dst
  · by_cases hid : id < (b.slots src).length
    · simp [hsc, hid]
    · -- past its slots, `src` has no instance to give
      have hsrc : b.get? src id = none := by
        simp [get?, cell?_of_slots_le b (Nat.le_of_not_lt hid)]
      simp [hsc, hid, merged, hsrc]
  · simp [hsc]

end Merge

/-! ### Visiting a scope -/

theorem scope_get? (b : Board) (sc id : Nat) : (b.scope sc).get? id = b.get? sc id := by
  simp only [scope, Scope.get?, List.getElem?_map, get?, cell?]
  cases (b.slots sc)[id]? <;> rfl

/-- A visit lists the metrics the scope has an instance of, with their values, in declaration
order. -/
theorem each_scope {b : Board} (hb : b.Sound) (sc : Nat) :
    (b.scope sc).each = (List.range declared.length).filterMap fun id =>
      (b.get? sc id).map fun v => ((declared.getD id ⟨"", "", .counter⟩).name, v) := by
  have hlen : (b.scope sc).instances.length = (b.slots sc).length := by simp [scope]
  obtain ⟨k, hk⟩ := Nat.exists_eq_add_of_le (hb.slots_le sc)
  rw [Scope.each, hk, List.range_add, List.filterMap_append, hlen]
  simp only [scope_get?]
  -- past its slots, the scope has no instance
  have hnone : ((List.range k).map ((b.slots sc).length + ·)).filterMap (fun id =>
      (b.get? sc id).map fun v => ((declared.getD id ⟨"", "", .counter⟩).name, v)) = [] := by
    simp [get?, cell?_of_slots_le]
  rw [hnone, List.append_nil]

end Board

/-! ### Calls and what was recorded -/

/-- A call on the scopes of a board: recording a value into a declared metric (an increment of
a counter, an observation of a maximum), merging a scope into another, resetting a scope to the
empty one, reading a value, and visiting a scope's metrics. -/
inductive Call where
  | record (sc : Nat) (id : Fin declared.length) (v : Int64)
  | merge (dst src : Nat)
  | reset (sc : Nat)
  | value (sc : Nat) (id : Fin declared.length)
  | each (sc : Nat)

namespace Board

/-- The board after a call. -/
def perform (b : Board) : Call → Board
  | .record sc id v => b.fold sc id v
  | .merge dst src => b.merge dst src
  | .reset sc => b.reset sc none
  | .value sc id => (b.value sc id).1
  | .each _ => b

/-- The board after calls, one at a time. -/
def performAll (b : Board) (cs : List Call) : Board := cs.foldl perform b

end Board

/-- What every scope has recorded of every metric since it was last reset: `none` while the
scope has no instance of the metric, otherwise every value recorded into the instance, directly
or through merges, in order. -/
def Records : Type := Nat → Nat → Option (List Int64)

namespace Records

/-- Nothing recorded, and no instance. -/
def empty : Records := fun _ _ => none

/-- What a call adds to the records: a recorded value to its instance's; a merge the records of
every instance of the merged scope to the target's; a read, an instance with no records. A
reset forgets the scope's records. -/
def perform (R : Records) : Call → Records
  | .record sc id v => fun s i => if s = sc ∧ i = id then some ((R s i).getD [] ++ [v]) else R s i
  | .merge dst src => fun s i =>
    if s = dst then (R src i).elim (R s i) fun vs => some ((R s i).getD [] ++ vs) else R s i
  | .reset sc => fun s i => if s = sc then none else R s i
  | .value sc id => fun s i => if s = sc ∧ i = id then some ((R s i).getD []) else R s i
  | .each _ => R

/-- What calls add to the records, one at a time. -/
def performAll (R : Records) (cs : List Call) : Records := cs.foldl perform R

theorem getD_perform_merge_self (R : Records) (dst src id : Nat) :
    ((R.perform (.merge dst src)) dst id).getD [] = (R dst id).getD [] ++ (R src id).getD [] := by
  simp only [perform]
  cases R src id <;> simp

theorem perform_merge_ne (R : Records) {dst s : Nat} (src : Nat) (h : s ≠ dst) (id : Nat) :
    R.perform (.merge dst src) s id = R s id := by
  simp [perform, h]

end Records

namespace Board

/-- Every instance of the board holds the rule's fold of what the records hold for it. -/
def Holds (b : Board) (R : Records) : Prop := ∀ sc id, b.get? sc id = (R sc id).map (ruleAt id).total

theorem Holds.getD {b : Board} {R : Records} (h : b.Holds R) (sc id : Nat) :
    (b.get? sc id).getD 0 = (ruleAt id).total ((R sc id).getD []) := by
  rw [h]
  cases R sc id <;> rfl

/-- Every call keeps a sound board sound and holding what was recorded. -/
theorem Holds.perform {b : Board} {R : Records} (hb : b.Sound) (h : b.Holds R) (c : Call) :
    (b.perform c).Sound ∧ (b.perform c).Holds (R.perform c) := by
  cases c with
  | record sc id v =>
    refine ⟨hb.fold sc id id.isLt v, fun s i => ?_⟩
    simp only [Board.perform, Records.perform]
    split_ifs with hsi
    · obtain ⟨rfl, rfl⟩ := hsi
      rw [get?_fold_self s _ hb id.isLt, h.getD, Option.map_some]
      simp only [Rule.total, List.foldl_append, List.foldl_cons, List.foldl_nil]
    · rw [get?_fold_ne sc id hb id.isLt v hsi, h]
  | merge dst src =>
    obtain ⟨hs, hget⟩ := merge_spec dst src hb
    refine ⟨hs, fun s i => ?_⟩
    simp only [Board.perform, Records.perform, hget]
    split_ifs with hs
    · subst hs
      rw [merged, h src i]
      cases hsrc : R src i with
      | none => exact h s i
      | some vs => rw [Option.map_some, Option.elim_some, Option.elim_some, h.getD, Option.map_some,
          Rule.total_append]
    · exact h s i
  | reset sc =>
    refine ⟨hb.reset sc, fun s i => ?_⟩
    simp only [Board.perform, Records.perform, get?_reset]
    split_ifs
    · rfl
    · exact h s i
  | value sc id =>
    refine ⟨hb.value sc id id.isLt, fun s i => ?_⟩
    simp only [Board.perform, Records.perform]
    split_ifs with hsi
    · obtain ⟨rfl, rfl⟩ := hsi
      rw [get?_value_self s _ hb id.isLt, h.getD, Option.map_some]
    · rw [get?_value_ne sc id hb id.isLt hsi, h]
  | each sc => exact ⟨hb, h⟩

theorem Holds.performAll {b : Board} {R : Records} (hb : b.Sound) (h : b.Holds R) (cs : List Call) :
    (b.performAll cs).Sound ∧ (b.performAll cs).Holds (R.performAll cs) := by
  induction cs generalizing b R with
  | nil => exact ⟨hb, h⟩
  | cons c cs ih =>
    obtain ⟨hb', h'⟩ := h.perform hb c
    exact ih hb' h'

theorem sound_empty : Board.empty.Sound :=
  ⟨fun _ _ _ h => by simp [cell?, slots, Board.empty] at h, fun _ _ _ _ _ h => by
    simp [cell?, slots, Board.empty] at h, fun _ => by simp [slots, Board.empty]⟩

theorem holds_empty : Board.empty.Holds Records.empty := fun _ _ => by
  simp [get?, cell?, slots, Board.empty, Records.empty]

/-- After a merge, the target holds the fold of everything recorded into it and into the merged
scope; merging a scope into itself folds its records twice. -/
theorem Holds.getD_merge {b : Board} {R : Records} (hb : b.Sound) (h : b.Holds R)
    (dst src id : Nat) :
    ((b.merge dst src).get? dst id).getD 0 =
      (ruleAt id).total ((R dst id).getD [] ++ (R src id).getD []) := by
  rw [← R.getD_perform_merge_self]
  exact (h.perform hb (.merge dst src)).2.getD dst id

/-- Merging is commutative on values. -/
theorem Holds.merge_comm {b : Board} {R : Records} (hb : b.Sound) (h : b.Holds R) (s u id : Nat) :
    ((b.merge s u).get? s id).getD 0 = ((b.merge u s).get? u id).getD 0 := by
  rw [h.getD_merge hb, h.getD_merge hb, Rule.total_append, Rule.total_append, Rule.fold_comm]

/-- Merging is associative on values: merging `m` and then `c` into `a` leaves in `a` what merging
`c` into `m` and then `m` into `a` does. -/
theorem Holds.merge_assoc {b : Board} {R : Records} (hb : b.Sound) (h : b.Holds R) {a m c : Nat}
    (ham : a ≠ m) (hac : a ≠ c) (id : Nat) :
    (((b.merge a m).merge a c).get? a id).getD 0 = (((b.merge m c).merge a m).get? a id).getD 0 := by
  have h₁ : (b.merge a m).Sound ∧ (b.merge a m).Holds (R.perform (.merge a m)) :=
    h.perform hb (.merge a m)
  have h₂ : (b.merge m c).Sound ∧ (b.merge m c).Holds (R.perform (.merge m c)) :=
    h.perform hb (.merge m c)
  rw [h₁.2.getD_merge h₁.1, h₂.2.getD_merge h₂.1, R.getD_perform_merge_self,
    R.getD_perform_merge_self, R.perform_merge_ne m (Ne.symm hac), R.perform_merge_ne c ham,
    List.append_assoc]

theorem merge_self_get? {b : Board} (hb : b.Sound) (s id : Nat) :
    (b.merge s s).get? s id = (b.get? s id).map fun v => (ruleAt id).fold v v := by
  rw [(merge_spec s s hb).2, if_pos rfl, merged]
  cases b.get? s id <;> rfl

end Board

/-- **Scope laws.** After any calls on a board's scopes, each instance holds the rule's fold of
what was recorded into it since its scope was last reset, directly or through merges: for a
counter their wrapping sum, for a maximum the largest of zero and them. A further merge folds the
merged scope's instances into the target's and changes no other scope, so the merged scope keeps
its values unless it is the target itself, whose instances are then folded into themselves.
Merging is commutative and associative on values, reading a value changes none, and a visit lists
the scope's instances in declaration order. -/
theorem scope_values_follow_records (cs : List Call) :
    (∀ sc id, (Board.empty.performAll cs).get? sc id =
      (Records.empty.performAll cs sc id).map (ruleAt id).total) ∧
    (∀ vs, Rule.counter.total vs = vs.sum) ∧
    (∀ vs, (Rule.maximum.total vs).toInt = (vs.map Int64.toInt).foldr max 0) ∧
    (∀ dst src sc id, ((Board.empty.performAll cs).merge dst src).get? sc id =
      if sc = dst then (Board.empty.performAll cs).merged src sc id
      else (Board.empty.performAll cs).get? sc id) ∧
    (∀ s id, ((Board.empty.performAll cs).merge s s).get? s id =
      ((Board.empty.performAll cs).get? s id).map fun v => (ruleAt id).fold v v) ∧
    (∀ s u id, (((Board.empty.performAll cs).merge s u).get? s id).getD 0 =
      (((Board.empty.performAll cs).merge u s).get? u id).getD 0) ∧
    (∀ a m c id, a ≠ m → a ≠ c →
      ((((Board.empty.performAll cs).merge a m).merge a c).get? a id).getD 0 =
        ((((Board.empty.performAll cs).merge m c).merge a m).get? a id).getD 0) ∧
    (∀ sc (id : Fin declared.length) sc' id',
      ((Board.empty.performAll cs).value sc id).2 = ((Board.empty.performAll cs).get? sc id).getD 0 ∧
      (((Board.empty.performAll cs).value sc id).1.get? sc' id').getD 0 =
        ((Board.empty.performAll cs).get? sc' id').getD 0) ∧
    (∀ sc, ((Board.empty.performAll cs).scope sc).each =
      (List.range declared.length).filterMap fun id =>
        ((Board.empty.performAll cs).get? sc id).map
          fun v => ((declared.getD id ⟨"", "", .counter⟩).name, v)) := by
  obtain ⟨hb, h⟩ := Board.holds_empty.performAll Board.sound_empty cs
  refine ⟨h, Rule.total_counter, Rule.toInt_total_maximum, fun dst src => (Board.merge_spec dst src hb).2,
    Board.merge_self_get? hb, h.merge_comm hb, fun a m c id ham hac => h.merge_assoc hb ham hac id,
    fun sc id sc' id' => ⟨Board.value_read sc id hb id.isLt, ?_⟩, Board.each_scope hb⟩
  -- reading makes the instance at zero if there was none, which reads as before
  by_cases hsi : sc' = sc ∧ id' = id
  · obtain ⟨rfl, rfl⟩ := hsi
    rw [Board.get?_value_self _ _ hb id.isLt]
    rfl
  · rw [Board.get?_value_ne sc id hb id.isLt hsi]

/-- Merging a scope into itself doubles a counter: after two lanes are counted, the scope counts
four. -/
theorem merge_into_itself_doubles :
    (Board.empty.performAll [.record 0 ⟨lanesRun, by decide⟩ 2]).get? 0 lanesRun = some 2 ∧
      ((Board.empty.performAll [.record 0 ⟨lanesRun, by decide⟩ 2]).merge 0 0).get? 0 lanesRun =
        some 4 := by
  decide

end Lanes.Metrics
