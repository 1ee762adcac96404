import Lanes.Knapsack
import Lanes.Proofs.LaneWorld
import Lanes.Proofs.SimulatedAccelerator
import Lanes.Proofs.RegionMerge
import Mathlib.Data.Nat.Bitwise

/-!
The knapsack search: what a walk finds, and what the search on every device returns.

A fill keeps its item set as the bits of a word, beside its weight and value. Flipping an item
toggles its bit and adds or takes away its weight and value, so a fill made by flips tallies its
set (`Fill.Tallies`): the set holds only the problem's items, and the weight and value are the
wrapping sums of its items'. Every step of a walk flips items, so every fill a walk gives
tallies its set; each step's drop loop gives a fill only once it fits, so every fill a walk gives
fits too (`Fill.Feasible`). The loops of a walk are bounded, and a walk that ends within a bound
gives the same fill within every larger one (`walk_mono`): the fill is that of the unbounded walk.

The search runs one lane per device. Each lane writes its seed into its own device, runs the walk
there and folds the fill it reads back into its copy of the shared fill. No lane touches another
lane's device, so lane `i` finds the walk from `seed + i` whatever order the lanes run in; the
region folds the lanes' fills in lane order.

Main statement: `walk_search_folds_walks`.
-/

/-! ### Lane steps on a simulated accelerator -/

namespace Lanes.Region.LaneM

variable {α σ ε : Type} (info : LaneInfo) (l : List α) (sc : Metrics.Scope) (w : σ)

theorem exec_pure {β : Type} (b : β) (st : LaneState α σ) :
    exec (pure b : LaneM α σ ε β) info st = (.ok b, st) := rfl

theorem exec_read (st : LaneState α σ) :
    exec (read : LaneM α σ ε LaneInfo) info st = (.ok info, st) := rfl

theorem exec_device? (st : LaneState α σ) :
    exec (device? : LaneM α σ ε (Option Nat)) info st = (.ok info.device, st) := rfl

theorem exec_localIndex {handle j : Nat} (kind : String) (h : info.shared.idxOf? handle = some j)
    (st : LaneState α σ) : exec (localIndex handle kind : LaneM α σ ε Nat) info st = (.ok j, st) := by
  simp only [localIndex, exec_bind, exec_read, h]
  rfl

theorem exec_onSim_ok {β : Type} (f : Sim → Except Fault (Sim × β)) {s s' : Sim} {b : β}
    (h : f s = .ok (s', b)) :
    exec (onSim f : LaneM α σ ε (Except Fault β)) info ⟨l, sc, .sim s, w⟩ =
      (.ok (.ok b), ⟨l, sc, .sim s', w⟩) := by
  have hget : exec (get : LaneM α σ ε (LaneState α σ)) info ⟨l, sc, .sim s, w⟩ =
      (.ok ⟨l, sc, .sim s, w⟩, ⟨l, sc, .sim s, w⟩) := rfl
  simp only [onSim, exec_bind, hget, h]
  rfl

theorem exec_load_of_ok {s s' : Sim} {i : Nat} {m : String} (h : s.load i m = .ok s') :
    exec (load i m : LaneM α σ ε (Except Fault Unit)) info ⟨l, sc, .sim s, w⟩ =
      (.ok (.ok ()), ⟨l, sc, .sim s', w⟩) :=
  exec_onSim_ok info l sc w _ (by rw [h]; rfl)

theorem exec_copyIn_sim (s : Sim) (i : Nat) (bytes : List UInt8) :
    exec (copyIn i bytes : LaneM α σ ε (Except Fault Unit)) info ⟨l, sc, .sim s, w⟩ =
      (.ok (.ok ()), ⟨l, sc, .sim (s.copyIn i bytes), w⟩) := rfl

theorem exec_launch_of_ok {s s' : Sim} {i : Nat} {k : String} {args : List Int64}
    (h : s.launch i k args = .ok s') :
    exec (launch i k args : LaneM α σ ε (Except Fault Unit)) info ⟨l, sc, .sim s, w⟩ =
      (.ok (.ok ()), ⟨l, sc, .sim s', w⟩) :=
  exec_onSim_ok info l sc w _ (by rw [h]; rfl)

theorem exec_copyOut_sim (s : Sim) (i : Nat) :
    exec (copyOut i : LaneM α σ ε (Except Fault (List UInt8))) info ⟨l, sc, .sim s, w⟩ =
      (.ok (.ok (s.copyOut i)), ⟨l, sc, .sim s, w⟩) := rfl

end Lanes.Region.LaneM

namespace Lanes.Knapsack

open Lanes.Random Lanes.Region

/-! ### Item sets as bits -/

namespace Fill

theorem toNat_bit {j : Nat} (hj : j < 64) : (bit j).toNat = 2 ^ j := by
  have hj' : j.toUInt64.toNat = j := by
    rw [Nat.toUInt64, UInt64.toNat_ofNat']
    exact Nat.mod_eq_of_lt (Nat.lt_trans hj (by decide))
  rw [bit, UInt64.toNat_shiftLeft, hj', Nat.mod_eq_of_lt hj, UInt64.toNat_one, Nat.one_shiftLeft]
  exact Nat.mod_eq_of_lt (Nat.pow_lt_pow_right (by decide) hj)

theorem testBit_toNat_not (x : UInt64) (i : Nat) :
    (~~~x).toNat.testBit i = (decide (i < 64) && !x.toNat.testBit i) := by
  rw [← UInt64.toNat_toBitVec, UInt64.toBitVec_not, BitVec.testBit_toNat, BitVec.getLsbD_not,
    ← BitVec.testBit_toNat, UInt64.toNat_toBitVec]

theorem testBit_toNat_of_le (x : UInt64) {i : Nat} (hi : 64 ≤ i) : x.toNat.testBit i = false :=
  Nat.testBit_lt_two_pow (Nat.lt_of_lt_of_le x.toNat_lt (Nat.pow_le_pow_right (by decide) hi))

theorem has_eq_testBit (f : Fill) {j : Nat} (hj : j < 64) : f.has j = f.items.toNat.testBit j := by
  have h : (f.items &&& bit j).toNat = (f.items.toNat.testBit j).toNat * 2 ^ j := by
    rw [UInt64.toNat_and, toNat_bit hj, Nat.and_two_pow]
  have hpos : 0 < 2 ^ j := Nat.pow_pos (by decide)
  rw [has]
  cases hb : f.items.toNat.testBit j
  · rw [hb, Bool.toNat_false, Nat.zero_mul] at h
    simp [UInt64.toNat_inj.symm, h]
  · rw [hb, Bool.toNat_true, Nat.one_mul] at h
    have hne : f.items &&& bit j ≠ 0 := fun h0 => by
      rw [h0, UInt64.toNat_zero] at h
      omega
    simpa using hne

theorem testBit_flip (p : Problem) (f : Fill) {j : Nat} (hj : j < 64) (i : Nat) :
    (f.flip p j).items.toNat.testBit i = (f.items.toNat.testBit i ^^ (i == j)) := by
  have hbit : (bit j).toNat.testBit i = (i == j) := by
    rw [toNat_bit hj, Nat.testBit_two_pow]
    by_cases hij : i = j
    · simp [hij]
    · simp [hij, Ne.symm hij]
  rw [flip]
  split
  · -- the item is in: its bit is cleared
    rename_i hhas
    rw [has_eq_testBit f hj] at hhas
    rw [UInt64.toNat_and, Nat.testBit_and, testBit_toNat_not, hbit]
    by_cases hij : i = j
    · subst hij
      simp [hhas]
    · have hij' : (i == j) = false := by simp [hij]
      by_cases hi : i < 64
      · simp [hij', hi]
      · simp [hij', testBit_toNat_of_le f.items (Nat.le_of_not_lt hi)]
  · -- the item is out: its bit is set
    rename_i hhas
    rw [has_eq_testBit f hj] at hhas
    rw [UInt64.toNat_or, Nat.testBit_or, hbit]
    by_cases hij : i = j
    · subst hij
      simp [hhas]
    · have hij' : (i == j) = false := by simp [hij]
      simp [hij']

end Fill

/-! ### The items of a set and their sums -/

/-- The items of a set, in order: item `j` of the problem where bit `j` is set. -/
def Problem.chosen (p : Problem) (items : UInt64) : List Item :=
  ((List.range p.items.size).filter fun j => items.toNat.testBit j).map fun j => p.items.getD j default

theorem sum_filter_range_succ (t : Nat → Bool) (g : Nat → Int64) (k : Nat) :
    (((List.range (k + 1)).filter t).map g).sum =
      (((List.range k).filter t).map g).sum + if t k then g k else 0 := by
  rw [List.range_succ, List.filter_append, List.map_append, List.sum_append]
  by_cases htk : t k <;> simp [List.filter, htk]

theorem sum_filter_toggle (g : Nat → Int64) {t t' : Nat → Bool} {j : Nat}
    (ht : ∀ i, t' i = (t i ^^ (i == j))) :
    ∀ k, j < k → (((List.range k).filter t').map g).sum =
      (((List.range k).filter t).map g).sum + if t j then -g j else g j := by
  intro k
  induction k with
  | zero => intro h; omega
  | succ k ih =>
    intro hjk
    rw [sum_filter_range_succ, sum_filter_range_succ, ht k]
    rcases Nat.lt_succ_iff_lt_or_eq.1 hjk with hj | rfl
    · -- the toggled index is below `k`: the last term is the same
      have hkj : (k == j) = false := by simp; omega
      rw [ih hj, hkj, Bool.xor_false]
      grind
    · -- the toggled index is the last one: the sums below it agree
      have hsame : (List.range j).filter t' = (List.range j).filter t := by
        refine List.filter_congr fun i hi => ?_
        have hij : (i == j) = false := by simp at hi ⊢; omega
        rw [ht i, hij, Bool.xor_false]
      rw [hsame, beq_self_eq_true, Bool.xor_true]
      cases t j
      · simp
      · simp only [Bool.not_true, Bool.false_eq_true, ↓reduceIte, Int64.add_zero]
        grind

/-- A fill tallies its set: the set holds only the problem's items, and the fill's weight and
value are the sums of its items' weights and values. -/
structure Fill.Tallies (p : Problem) (f : Fill) : Prop where
  within : f.items.toNat < 2 ^ p.items.size
  weight : f.weight = ((p.chosen f.items).map Item.weight).sum
  value : f.value = ((p.chosen f.items).map Item.value).sum

namespace Fill

variable {p : Problem}

theorem tallies_empty : empty.Tallies p where
  within := Nat.pow_pos (by decide)
  weight := by simp [empty, Problem.chosen]
  value := by simp [empty, Problem.chosen]

theorem sum_chosen_flip (g : Item → Int64) (f : Fill) {j : Nat} (hj : j < p.items.size)
    (hn : p.items.size ≤ 64) :
    ((p.chosen (f.flip p j).items).map g).sum =
      ((p.chosen f.items).map g).sum +
        if f.has j then -g (p.items.getD j default) else g (p.items.getD j default) := by
  have hj64 : j < 64 := Nat.lt_of_lt_of_le hj hn
  simp only [Problem.chosen, List.map_map]
  rw [sum_filter_toggle (g ∘ fun j => p.items.getD j default) (testBit_flip p f hj64) _ hj,
    has_eq_testBit f hj64]
  rfl

theorem Tallies.flip {f : Fill} (h : f.Tallies p) {j : Nat} (hj : j < p.items.size)
    (hn : p.items.size ≤ 64) : (f.flip p j).Tallies p where
  within := by
    -- no bit at or above the number of items is set, before or after the flip
    refine Nat.lt_pow_two_of_testBit _ fun i hi => ?_
    have hij : (i == j) = false := by simp; omega
    rw [testBit_flip p f (Nat.lt_of_lt_of_le hj hn), hij, Bool.xor_false]
    exact Nat.testBit_lt_two_pow (Nat.lt_of_lt_of_le h.within (Nat.pow_le_pow_right (by decide) hi))
  weight := by
    rw [sum_chosen_flip Item.weight f hj hn, ← h.weight, Fill.flip]
    split <;> simp only [*, Int64.sub_eq_add_neg]
  value := by
    rw [sum_chosen_flip Item.value f hj hn, ← h.value, Fill.flip]
    split <;> simp only [*, Int64.sub_eq_add_neg]

end Fill

/-! ### What a walk finds -/

/-- A fill of the problem's items that fits. -/
structure Fill.Feasible (p : Problem) (f : Fill) : Prop where
  tallies : f.Tallies p
  fits : f.weight ≤ p.capacity

theorem fit_zero (bound : Nat) (p : Problem) (f : Fill) (s : Source) :
    fit bound p 0 f s = if p.capacity < f.weight then none else some (f, s) := rfl

theorem fit_succ (bound : Nat) (p : Problem) (k : Nat) (f : Fill) (s : Source) :
    fit bound p (k + 1) f s =
      if p.capacity < f.weight then
        (s.intn bound p.items.size).bind fun d =>
          fit bound p k (if f.has d.1 then f.flip p d.1 else f) d.2
      else some (f, s) := rfl

/-- A drop loop that gives a fill gives one that fits; drawing within a larger bound, or going
round more times, it gives the same fill. -/
theorem fit_mono {bound bound' : Nat} {p : Problem} (hb : bound ≤ bound') :
    ∀ {k k' : Nat} {f : Fill} {s : Source} {r : Fill × Source}, k ≤ k' →
      fit bound p k f s = some r → fit bound' p k' f s = some r := by
  intro k
  induction k with
  | zero =>
    intro k' f s r _ h
    rw [fit_zero] at h
    split at h
    · cases h
    · -- the fill already fits, so every loop gives it back at once
      cases k' with
      | zero => rwa [fit_zero, if_neg ‹_›]
      | succ k' => rwa [fit_succ, if_neg ‹_›]
  | succ k ih =>
    intro k' f s r hk h
    obtain ⟨k', rfl⟩ : ∃ j, k' = j + 1 := ⟨k' - 1, by omega⟩
    rw [fit_succ] at h ⊢
    split
    · rw [if_pos ‹_›] at h
      obtain ⟨d, hd, hr⟩ := Option.bind_eq_some_iff.1 h
      rw [Source.intn_mono hb hd, Option.bind_some]
      exact ih (by omega) hr
    · rwa [if_neg ‹_›] at h

theorem walkFrom_succ (bound : Nat) (p : Problem) (k : Nat) (curr best : Fill) (s : Source) :
    walkFrom bound p (k + 1) curr best s =
      (s.intn bound p.items.size).bind fun d =>
        (fit bound p bound (curr.flip p d.1) d.2).bind fun c =>
          walkFrom bound p k c.1 (if c.1.better best then c.1 else best) c.2 := rfl

/-- A walk that gives a fill within a bound gives the same fill within every larger bound. -/
theorem walkFrom_mono {bound bound' : Nat} {p : Problem} (hb : bound ≤ bound') :
    ∀ {k : Nat} {curr best f : Fill} {s : Source}, walkFrom bound p k curr best s = some f →
      walkFrom bound' p k curr best s = some f := by
  intro k
  induction k with
  | zero => intro curr best f s h; exact h
  | succ k ih =>
    intro curr best f s h
    rw [walkFrom_succ] at h ⊢
    obtain ⟨d, hd, h⟩ := Option.bind_eq_some_iff.1 h
    obtain ⟨c, hc, h⟩ := Option.bind_eq_some_iff.1 h
    rw [Source.intn_mono hb hd, Option.bind_some, fit_mono hb hb hc, Option.bind_some]
    exact ih h

theorem walk_mono {bound bound' : Nat} {p : Problem} {seed : Int64} {steps : Int} {f : Fill}
    (hb : bound ≤ bound') (h : walk bound p seed steps = some f) :
    walk bound' p seed steps = some f :=
  walkFrom_mono hb h

section Walk

variable {p : Problem} (hn : 0 < p.items.size) (hn64 : p.items.size ≤ 64)
include hn hn64

/-- A drop loop from a fill that tallies its set gives, if anything, a fill that tallies its set
and fits. -/
theorem Fill.Tallies.fit {bound : Nat} :
    ∀ {k : Nat} {f : Fill} {s : Source} {r : Fill × Source}, f.Tallies p →
      Knapsack.fit bound p k f s = some r → r.1.Feasible p := by
  intro k
  induction k with
  | zero =>
    intro f s r hf h
    rw [fit_zero] at h
    split at h
    · cases h
    · cases h
      exact ⟨hf, Int64.not_lt.1 ‹_›⟩
  | succ k ih =>
    intro f s r hf h
    rw [fit_succ] at h
    split at h
    · -- a drop draws an item of the problem, and flips it only when it is in the fill
      obtain ⟨d, hd, hr⟩ := Option.bind_eq_some_iff.1 h
      refine ih ?_ hr
      split
      · exact hf.flip (Source.intn_lt hd hn) hn64
      · exact hf
    · cases h
      exact ⟨hf, Int64.not_lt.1 ‹_›⟩

theorem Fill.Feasible.walkFrom {bound : Nat} :
    ∀ {k : Nat} {curr best f : Fill} {s : Source}, curr.Tallies p → best.Feasible p →
      Knapsack.walkFrom bound p k curr best s = some f → f.Feasible p := by
  intro k
  induction k with
  | zero =>
    intro curr best f s _ hb h
    cases h
    exact hb
  | succ k ih =>
    intro curr best f s hc hb h
    rw [walkFrom_succ] at h
    obtain ⟨d, hd, h⟩ := Option.bind_eq_some_iff.1 h
    obtain ⟨c, hfit, h⟩ := Option.bind_eq_some_iff.1 h
    -- the step's fill tallies its set and fits, so the best fill after it does too
    have hnext : c.1.Feasible p := (hc.flip (Source.intn_lt hd hn) hn64).fit hn hn64 hfit
    refine ih hnext.tallies ?_ h
    split
    · exact hnext
    · exact hb

/-- Every fill a walk gives holds only the problem's items, weighs and is worth the sums of its
items, and fits, when the capacity is not negative. -/
theorem feasible_walk (hcap : 0 ≤ p.capacity) {bound : Nat} {seed : Int64} {steps : Int}
    {f : Fill} (h : walk bound p seed steps = some f) : f.Feasible p :=
  Fill.Feasible.walkFrom hn hn64 Fill.tallies_empty ⟨Fill.tallies_empty, hcap⟩ h

end Walk

/-! ### One lane of the search -/

/-- An accelerator of `n` devices that runs the walks of a problem, with loops bounded by
`bound`: the walk's name finds the walk's kernel. -/
structure Hosts (bound : Nat) (p : Problem) (n : Nat) (s : Sim) : Prop where
  finds : s.kernels.find? (·.name == kernelName) = some ⟨kernelName, moduleName, kernel bound p⟩
  devices : s.deviceCount = n

namespace Hosts

variable {bound : Nat} {p : Problem} {n : Nat} {s : Sim}

theorem knows (h : Hosts bound p n s) : s.knows moduleName = true := by
  have hmem := List.mem_of_find?_eq_some h.finds
  simp only [Sim.knows, List.any_eq_true, beq_iff_eq]
  exact ⟨_, hmem, rfl⟩

theorem copyIn (h : Hosts bound p n s) (i : Nat) (bytes : List UInt8) :
    Hosts bound p n (s.copyIn i bytes) :=
  ⟨h.finds, by rw [Sim.copyIn, Sim.deviceCount_modify, h.devices]⟩

theorem load (h : Hosts bound p n s) {i : Nat} (hi : i < n) :
    ∃ s', s.load i moduleName = .ok s' ∧ Hosts bound p n s' ∧ moduleName ∈ (s'.device i).loaded := by
  by_cases hm : moduleName ∈ (s.device i).loaded
  · exact ⟨s, Sim.load_eq_of_loaded s hm, h, hm⟩
  · have hload := Sim.load_eq_of_new s hm h.knows
    refine ⟨_, hload, ⟨h.finds, ?_⟩, ?_⟩
    · show (s.modify i _).deviceCount = n
      rw [Sim.deviceCount_modify, h.devices]
    · exact List.contains_iff_mem.1 (Sim.loaded_of_load s _ i moduleName (h.devices ▸ hi) hload)

end Hosts

theorem kernel_le64 {bound : Nat} {p : Problem} {seed steps : Int64} {f : Fill}
    (hf : walk bound p seed steps.toInt = some f) (i : Nat) :
    kernel bound p i (Bytes.le64 seed.toUInt64) [steps] = .ok f.encode := by
  simp only [kernel, Bytes.le64_length, if_true, Bytes.readLe64_le64, Int64.toInt64_toUInt64, hf]

/-- How a lane of the search that found `f` ends: it succeeds, with its copy of the shared fill
folded with `f`, and counts nothing. -/
def laneEnd (f : Fill) : LaneEnd Fill Fault :=
  ⟨.ok (), [Fill.empty.combine f], Metrics.Scope.empty⟩

theorem runLane_eq_exec {α σ ε : Type} (body : LaneM α σ ε Unit) (info : LaneInfo) (values : List α)
    (acc : Accelerator) (w : σ) :
    runLane body info values acc w =
      (⟨(LaneM.exec body info ⟨values, Metrics.Scope.empty, acc, w⟩).1,
        (LaneM.exec body info ⟨values, Metrics.Scope.empty, acc, w⟩).2.locals,
        (LaneM.exec body info ⟨values, Metrics.Scope.empty, acc, w⟩).2.scope⟩,
        (LaneM.exec body info ⟨values, Metrics.Scope.empty, acc, w⟩).2.accelerator,
        (LaneM.exec body info ⟨values, Metrics.Scope.empty, acc, w⟩).2.world) := rfl

/-- A lane of the search on device `i` loads the walk, writes its seed, runs the walk and reads
the fill back; it changes only device `i`. -/
theorem runLane_search {bound : Nat} {p : Problem} {n : Nat} {s : Sim} (hs : Hosts bound p n s)
    (seed steps : Int64) {i : Nat} (hi : i < n) {f : Fill}
    (hf : walk bound p (seed + Int64.ofNat i) steps.toInt = some f) (handles : List Nat)
    (hh : handles.idxOf? 0 = some 0) :
    ∃ s', Hosts bound p n s' ∧
      runLane (lane seed steps) ⟨i, n, some i, handles⟩ [Fill.empty] (.sim s) () =
        (laneEnd f, .sim s', ()) := by
  obtain ⟨s₁, hload, hs₁, hloaded⟩ := hs.load hi
  -- the seed written into the lane's own device
  obtain ⟨s₂, hs₂⟩ : ∃ s₂, s₁.copyIn i (Bytes.le64 (seed + Int64.ofNat i).toUInt64) = s₂ := ⟨_, rfl⟩
  have hi₂ : i < s₂.deviceCount := hs₂ ▸ (hs₁.copyIn i _).devices ▸ hi
  have hmem₂ : (s₂.device i).memory = Bytes.le64 (seed + Int64.ofNat i).toUInt64 := by
    rw [← hs₂, Sim.device_copyIn_self s₁ (hs₁.devices ▸ hi)]
  have hloaded₂ : moduleName ∈ (s₂.device i).loaded := by
    rw [← hs₂, Sim.loaded_copyIn]
    exact hloaded
  -- the walk's kernel runs where its module was loaded, on the seed just written
  have hlaunch : s₂.launch i kernelName [steps] = .ok (s₂.copyIn i f.encode) :=
    (Sim.launch_ok_iff _ _ _ _ _).2 ⟨_, hs₂ ▸ (hs₁.copyIn i _).finds, hloaded₂, _,
      by rw [hmem₂]; exact kernel_le64 hf i, rfl⟩
  have hout : (s₂.copyIn i f.encode).copyOut i = f.encode := by
    rw [Sim.copyOut, Sim.device_copyIn_self s₂ hi₂]
  refine ⟨s₂.copyIn i f.encode, (hs₂ ▸ (hs₁.copyIn i _)).copyIn i _, ?_⟩
  simp only [runLane_eq_exec, lane, LaneM.exec_bind, LaneM.exec_pure, LaneM.exec_device?,
    LaneM.exec_index, LaneM.exec_load_of_ok _ _ _ _ hload, orStop, LaneM.exec_copyIn_sim, hs₂,
    LaneM.exec_launch_of_ok _ _ _ _ hlaunch, LaneM.exec_copyOut_sim, hout, Fill.decode_encode,
    LaneM.exec_localIndex ⟨i, n, some i, handles⟩ _ hh, LaneM.exec_getLocal, LaneM.exec_setLocal]
  rfl

theorem hosts_install {bound : Nat} {p : Problem} {s₀ s : Sim} (h : install bound s₀ p = .ok s) :
    Hosts bound p s₀.deviceCount s ∧ s.failOpen = s₀.failOpen := by
  unfold install Sim.register at h
  split at h
  · cases h
  · rename_i hnew
    cases h
    refine ⟨⟨?_, rfl⟩, rfl⟩
    -- no kernel had the walk's name before, so the name finds the one just registered
    have hnone : s₀.kernels.find? (·.name == kernelName) = none := by
      simpa using hnew
    simp [List.find?_append, hnone]

/-! ### All lanes of the search -/

section Lanes

variable {bound : Nat} {p : Problem} {n : Nat} (seed steps : Int64) (fills : Nat → Fill)

theorem lt_of_mem_laneOrder {i : Nat} (h : i ∈ laneOrder n) : i < n := by
  cases n with
  | zero => simp [laneOrder] at h
  | succ k =>
    simp only [laneOrder, List.mem_cons, List.mem_range] at h
    omega

/-- The lanes of the search, run one after another on devices below `n`, each end as their own
lane would alone: no lane touches another's device. -/
theorem runLanes_search (lanes : List Nat) {s : Sim} (hs : Hosts bound p n s)
    (hlt : ∀ i ∈ lanes, i < n)
    (hw : ∀ i ∈ lanes, walk bound p (seed + Int64.ofNat i) steps.toInt = some (fills i)) :
    (runLanes (lane seed steps) (fun i => ⟨i, n, some i, [0]⟩) [Fill.empty] lanes (.sim s) ()).1 =
      lanes.map (fun i => laneEnd (fills i)) := by
  induction lanes generalizing s with
  | nil => rfl
  | cons i rest ih =>
    obtain ⟨s', hs', hrun⟩ := runLane_search hs seed steps (hlt i List.mem_cons_self)
      (hw i List.mem_cons_self) [0] rfl
    rw [runLanes_cons, hrun]
    simp only [List.map_cons]
    rw [ih hs' (fun j hj => hlt j (List.mem_cons_of_mem i hj))
      (fun j hj => hw j (List.mem_cons_of_mem i hj))]

theorem laneEnds_search {s : Sim} (hs : Hosts bound p n s)
    (hw : ∀ i < n, walk bound p (seed + Int64.ofNat i) steps.toInt = some (fills i)) :
    (runLanes (lane seed steps) (fun i => ⟨i, n, some i, [0]⟩) [Fill.empty] (laneOrder n) (.sim s)
      ()).1.rotateLeft 1 = (List.range n).map (fun i => laneEnd (fills i)) := by
  rw [runLanes_search seed steps fills (laneOrder n) hs (fun i => lt_of_mem_laneOrder)
    (fun i hi => hw i (lt_of_mem_laneOrder hi))]
  cases n with
  | zero => rfl
  | succ k =>
    rw [laneOrder, List.map_cons, rotateLeft_one_cons, List.range_succ, List.map_append]
    rfl

end Lanes

theorem foldLanes_fills (xs : List Fill) : ∀ (i : Nat) (m : Fill) (scope : Metrics.Scope)
    (fails : List (Nat × LaneFailure Fault)),
    (foldLanes true i (xs.map fun x => ⟨.ok (), [x], Metrics.Scope.empty⟩) [m] scope fails).1 =
        [xs.foldl Fill.combine m] ∧
      (foldLanes true i (xs.map fun x => ⟨.ok (), [x], Metrics.Scope.empty⟩) [m] scope fails).2.2 =
        fails.reverse := by
  induction xs with
  | nil => intro i m scope fails; exact ⟨rfl, rfl⟩
  | cons x xs ih =>
    intro i m scope fails
    -- a fill crosses the device boundary unchanged and folds into the merged fill
    have hmoved : [x].mapM (Mergeable.transfer : Fill → Except Fault Fill) = .ok [x] := by
      simp [Mergeable.transfer, Fill.decode_encode]
    have hmerge : mergeLane [m] [x] = .ok [m.combine x] := rfl
    simp only [List.map_cons, foldLanes, if_true, hmoved, hmerge]
    exact ih _ _ _ _

/-! ### Folding the lanes' fills -/

namespace Fill

theorem better_iff (f g : Fill) : f.better g = true ↔
    g.value.toInt < f.value.toInt ∨ (f.value.toInt = g.value.toInt ∧ f.weight.toInt < g.weight.toInt) := by
  simp [better, Int64.lt_iff_toInt_lt, ← Int64.toInt_inj]

theorem better_eq_false_of_better {f g h : Fill} (hfg : f.better g = false) (hhg : h.better g = true) :
    f.better h = false := by
  have hfg' := (better_iff f g).not.1 (by simp [hfg])
  have hhg' := (better_iff h g).1 hhg
  have hfh : ¬ (f.better h = true) := fun hfh => by
    have := (better_iff f h).1 hfh
    omega
  simpa using hfh

theorem better_eq_false_trans {f g h : Fill} (hfg : f.better g = false) (hgh : g.better h = false) :
    f.better h = false := by
  have hfg' := (better_iff f g).not.1 (by simp [hfg])
  have hgh' := (better_iff g h).not.1 (by simp [hgh])
  have hfh : ¬ (f.better h = true) := fun hfh => by
    have := (better_iff f h).1 hfh
    omega
  simpa using hfh

theorem combine_empty_combine {m : Fill} (hm : empty.better m = false) (w : Fill) :
    m.combine (empty.combine w) = m.combine w := by
  by_cases hw : w.better empty = true
  · have he : empty.combine w = w := by rw [Fill.combine, if_pos hw]
    rw [he]
  · have he : empty.combine w = empty := by rw [Fill.combine, if_neg hw]
    have hwm : w.better m = false := better_eq_false_trans (by simpa using hw) hm
    rw [he]
    simp only [Fill.combine, hm, hwm, Bool.false_eq_true, if_false]

theorem foldl_empty_combine (ws : List Fill) {m : Fill} (hm : empty.better m = false) :
    (ws.map empty.combine).foldl combine m = ws.foldl combine m := by
  induction ws generalizing m with
  | nil => rfl
  | cons w ws ih =>
    rw [List.map_cons, List.foldl_cons, List.foldl_cons, combine_empty_combine hm]
    -- the empty fill is no better than the fold so far
    refine ih ?_
    rw [combine]
    split
    · exact better_eq_false_of_better hm ‹_›
    · exact hm

end Fill

/-! ### The search -/

theorem planOn_allDevices (e : Executor) {n : Nat} (hacc : e.inventory.accelerators = n)
    (hn : 0 < n) (hlim : n ≤ laneLimit) (hcores : 1 ≤ e.inventory.cores) :
    Policy.allDevices.planOn e = .ok (⟨n, true, none⟩, e.placement) := by
  have hv : Manifest.validate ⟨1, allCount⟩ = .ok () := rfl
  have hc : Manifest.resolveCount "cores" 1 e.inventory.cores = .ok 1 := by
    rw [Manifest.resolveCount, if_neg (by simp [allCount]), if_neg (by simp [allCount]),
      if_neg (by omega)]
  have hd : Manifest.resolveCount "accelerators" allCount e.inventory.accelerators = .ok n := by
    rw [Manifest.resolveCount, if_neg (by omega), if_pos rfl, hacc]
  have hres : Manifest.resolve ⟨1, allCount⟩ e.inventory = .ok ⟨1, n⟩ := by
    simp only [Manifest.resolve, hv, hc, hd]
    rfl
  have hsized : Plan.sized (n : Int) true none = .ok ⟨n, true, none⟩ := by
    rw [Plan.sized, if_neg (by simp; omega)]
    rfl
  simp only [Policy.planOn, hres, hsized]
  rfl

theorem openDevices_sim {s : Sim} {n : Nat} (hn : n ≤ s.deviceCount) (hopen : s.failOpen = []) :
    openDevices (.sim s) n = .ok () := by
  unfold openDevices
  -- every device below `n` opens, so no lane reports a failure
  rw [List.filterMap_eq_nil_iff.2 fun i hi => ?_]
  · rfl
  · have hopen' : (Accelerator.sim s).open? (i : Int) = .ok i := by
      simp only [Accelerator.open?, Sim.open?, hopen, List.find?_nil]
      rw [if_neg (by have := lt_of_mem_laneOrder hi; omega)]
      rfl
    simp only [hopen']

/-- On an accelerator that runs the walk on `n` devices, none told to fail, with an inventory
that lists them, a search whose lanes' walks all give fills succeeds with the fold of those fills
in lane order. -/
theorem search_eq {bound : Nat} {p : Problem} {n : Nat} {s : Sim} (hs : Hosts bound p n s)
    (hopen : s.failOpen = []) (hn : 0 < n) (hlim : n ≤ laneLimit) (inv : Inventory)
    (hacc : inv.accelerators = n) (hcores : 1 ≤ inv.cores) (placement : Option Placement)
    (scope : Metrics.Scope) (seed steps : Int64) (fills : Nat → Fill)
    (hw : ∀ i < n, walk bound p (seed + Int64.ofNat i) steps.toInt = some (fills i)) :
    (search ⟨.sim s, inv, placement, scope⟩ seed steps).2 =
      (((List.range n).map fills).foldl Fill.combine Fill.empty, .ok) := by
  have hplan := planOn_allDevices ⟨.sim s, inv, placement, scope⟩ hacc hn hlim hcores
  have hopenD := openDevices_sim (Nat.le_of_eq hs.devices.symm) hopen
  have hcheck : checkShared 0 [some Fill.empty] = .ok [Fill.empty] := rfl
  -- lane `i` ends with the empty fill folded with the fill its walk gives
  have hends : (List.range n).map (fun i => laneEnd (fills i)) =
      ((List.range n).map fun i => Fill.empty.combine (fills i)).map
        fun x => ⟨.ok (), [x], Metrics.Scope.empty⟩ := by
    rw [List.map_map]
    rfl
  obtain ⟨hmerged, hfails⟩ := foldLanes_fills
    ((List.range n).map fun i => Fill.empty.combine (fills i)) 0 Fill.empty scope []
  simp only [search, Region.run, hcheck, hplan, hopenD, if_true, List.map_cons, List.map_nil,
    laneEnds_search seed steps fills hs hw, hends, hmerged, hfails, List.reverse_nil,
    List.isEmpty_nil]
  have hmap : ((List.range n).map fun i => Fill.empty.combine (fills i)) =
      ((List.range n).map fills).map Fill.empty.combine := by
    rw [List.map_map]
    rfl
  rw [hmap, Fill.foldl_empty_combine _ (Fill.better_irrefl _)]

/-! ### Problems of one item -/

section OneItem

variable {p : Problem} (h1 : p.items.size = 1)
include h1

theorem intn_one (bound : Nat) (s : Source) :
    s.intn bound p.items.size = some (Source.masked Source.int31 1 s) ∧
      (Source.masked Source.int31 1 s).1 = 0 := by
  refine ⟨?_, Nat.mod_one _⟩
  rw [h1, Source.intn, if_pos (by decide), Source.int31n, Source.below_pow2 _ _ _ (by decide)]

theorem weight_eq_zero {f : Fill} (hf : f.Tallies p) (hout : f.has 0 = false) : f.weight = 0 := by
  have hbit : f.items.toNat.testBit 0 = false := by
    rw [← Fill.has_eq_testBit f (by decide)]
    exact hout
  rw [hf.weight, Problem.chosen, h1]
  simp [hbit]

theorem fit_one_item (hcap : 0 ≤ p.capacity) (bound : Nat) {f : Fill} (hf : f.Tallies p) (k : Nat)
    (s : Source) : (fit bound p (k + 1) f s).isSome := by
  rw [fit_succ]
  split
  · rename_i hover
    have hhas : f.has 0 = true := by
      cases hh : f.has 0
      · rw [weight_eq_zero h1 hf hh] at hover
        exact absurd hover (Int64.not_lt.2 hcap)
      · rfl
    obtain ⟨hdraw, hzero⟩ := intn_one h1 bound s
    rw [hdraw, Option.bind_some, hzero, if_pos hhas]
    have hout : (f.flip p 0).has 0 = false := by
      rw [Fill.has_eq_testBit _ (by decide), Fill.testBit_flip p f (by decide),
        ← Fill.has_eq_testBit f (by decide), hhas]
      rfl
    have hempty := weight_eq_zero h1 (hf.flip (by omega) (by omega)) hout
    -- the item is out, so the fill weighs nothing and fits
    cases k with
    | zero => rw [fit_zero, if_neg (by rw [hempty]; exact Int64.not_lt.2 hcap)]; rfl
    | succ k => rw [fit_succ, if_neg (by rw [hempty]; exact Int64.not_lt.2 hcap)]; rfl
  · rfl

/-- With one item and a bound of at least one, every walk ends. -/
theorem walkFrom_one_item (hcap : 0 ≤ p.capacity) {bound : Nat} (hb : 1 ≤ bound) :
    ∀ (k : Nat) {curr best : Fill} (s : Source), curr.Tallies p →
      (walkFrom bound p k curr best s).isSome := by
  intro k
  induction k with
  | zero => intro curr best s _; rfl
  | succ k ih =>
    intro curr best s hc
    obtain ⟨hdraw, hzero⟩ := intn_one h1 bound s
    have hflip := hc.flip (j := 0) (by omega) (by omega)
    obtain ⟨c, hc'⟩ := Option.isSome_iff_exists.1
      (fit_one_item h1 hcap bound hflip (bound - 1) (Source.masked Source.int31 1 s).2)
    rw [Nat.sub_add_cancel hb] at hc'
    rw [walkFrom_succ, hdraw, Option.bind_some, hzero, hc', Option.bind_some]
    exact ih _ (hflip.fit (by omega) (by omega) hc').tallies

end OneItem

/-- **The knapsack search.** Take a problem of one to 64 items whose capacity is not negative,
any bound on the loops of a walk, and a simulated accelerator of `n ≥ 1` devices, no more than a
region has lanes for and none told to fail, with the walk registered; the executor's inventory
lists the devices and at least one core. When the walks from `seed`, `seed + 1`, ...,
`seed + n - 1` end within the bound, the search succeeds and returns the fold of their fills, in
device order and from the empty fill.

Every fill a walk gives holds only the problem's items, its weight and value are the sums of its
items' weights and values, and it fits; and the walk gives that same fill within every larger
bound, so the fill does not depend on the bound. -/
theorem walk_search_folds_walks (bound : Nat) (p : Problem) (s₀ s : Sim) (inv : Inventory)
    (placement : Option Placement) (scope : Metrics.Scope) (seed steps : Int64)
    (hn : 0 < p.items.size) (hn64 : p.items.size ≤ 64) (hcap : 0 ≤ p.capacity)
    (hinstall : install bound s₀ p = .ok s) (hopen : s₀.failOpen = [])
    (hD : 0 < s₀.deviceCount) (hlim : s₀.deviceCount ≤ laneLimit)
    (hacc : inv.accelerators = s₀.deviceCount) (hcores : 1 ≤ inv.cores) (fills : Nat → Fill)
    (hwalks : ∀ i < s₀.deviceCount,
      walk bound p (seed + Int64.ofNat i) steps.toInt = some (fills i)) :
    (search ⟨.sim s, inv, placement, scope⟩ seed steps).2 =
        (((List.range s₀.deviceCount).map fills).foldl Fill.combine Fill.empty, .ok) ∧
      ∀ (seed' : Int64) (steps' : Int) (f : Fill), walk bound p seed' steps' = some f →
        f.Tallies p ∧ f.weight ≤ p.capacity ∧
          ∀ bound', bound ≤ bound' → walk bound' p seed' steps' = some f := by
  obtain ⟨hs, hfail⟩ := hosts_install hinstall
  refine ⟨search_eq hs (hfail.trans hopen) hD hlim inv hacc hcores placement scope seed steps
    fills hwalks, fun seed' steps' f hf => ?_⟩
  have hfeas := feasible_walk hn hn64 hcap hf
  exact ⟨hfeas.tallies, hfeas.fits, fun _ hb => walk_mono hb hf⟩

/-- Two devices searching a problem of one item, each loop bounded by one round: both walks end,
and the search returns the better of their fills. -/
theorem walk_search_two_devices :
    install 1 (Sim.create 2) ⟨5, #[⟨3, 7⟩]⟩ =
        .ok ⟨List.replicate 2 ⟨[], []⟩, [⟨kernelName, moduleName, kernel 1 ⟨5, #[⟨3, 7⟩]⟩⟩], [], 0⟩ ∧
      (search ⟨.sim ⟨List.replicate 2 ⟨[], []⟩, [⟨kernelName, moduleName, kernel 1 ⟨5, #[⟨3, 7⟩]⟩⟩],
          [], 0⟩, ⟨4, 2⟩, none, Metrics.Scope.empty⟩ 1 10).2 =
        (((List.range 2).map fun i =>
          (walk 1 ⟨5, #[⟨3, 7⟩]⟩ (1 + Int64.ofNat i) (10 : Int64).toInt).getD Fill.empty).foldl
            Fill.combine Fill.empty, .ok) := by
  -- every walk of the one-item problem ends, so each lane's fill is its walk's
  have hends : ∀ i : Nat, (walk 1 ⟨5, #[⟨3, 7⟩]⟩ (1 + Int64.ofNat i) (10 : Int64).toInt).isSome :=
    fun i => walkFrom_one_item (p := ⟨5, #[⟨3, 7⟩]⟩) rfl (by decide) le_rfl _ _ Fill.tallies_empty
  have hwalks : ∀ i < (Sim.create 2).deviceCount,
      walk 1 ⟨5, #[⟨3, 7⟩]⟩ (1 + Int64.ofNat i) (10 : Int64).toInt =
        some ((walk 1 ⟨5, #[⟨3, 7⟩]⟩ (1 + Int64.ofNat i) (10 : Int64).toInt).getD Fill.empty) :=
    fun i _ => (Option.getD_of_ne_none (Option.isSome_iff_ne_none.1 (hends i)) _).symm
  have h := walk_search_folds_walks 1 ⟨5, #[⟨3, 7⟩]⟩ (Sim.create 2) _ ⟨4, 2⟩ none
    Metrics.Scope.empty 1 10 (by decide) (by decide) (by decide) rfl rfl (by decide) (by decide)
    (by decide) (by decide) _ hwalks
  exact ⟨rfl, h.1⟩

end Lanes.Knapsack
