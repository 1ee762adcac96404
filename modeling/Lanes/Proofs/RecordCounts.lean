import Lanes.Proofs.TopologyStages
import Lanes.Proofs.RegionMerge
import Lanes.Proofs.Interleaving

/-!
How a topology's run counts the records its replicas read.

A run counts them three ways: in the topology's records count, which the region folds from the
lanes' copies of a shared sum; in each source's records counter, into which a replica merges its
lane's metrics when it is done; and in the executor's records counter, into which the region
merges the metrics of every lane. A lane counts each record it reads in its scope and in its copy
of the sum at once, so its copy always holds its counter (`Tally`). The region folds the copies
only of the lanes that succeeded, but merges the metrics of them all.

Main statement: `record_counts`. Over any run, the sources' counters and the executor's counter
both grow by the records every lane read, while the topology's count is what the lanes that
succeeded read; the three agree when no lane fails. A lane that fails after reading a record
leaves the count short of the counters (`failed_replica_records_uncounted`).
-/

namespace Lanes

namespace Metrics.Scope

/-- The value of a counter in a scope: zero where the scope never used it. -/
def count (s : Scope) (id : Nat) : Int64 := (s.get? id).getD 0

theorem getD_append_replicate_none (l : List (Option Int64)) (k j : Nat) :
    ((l ++ List.replicate k none)[j]?).getD none = (l[j]?).getD none := by
  by_cases hj : j < l.length
  · rw [List.getElem?_append_left hj]
  · rw [List.getElem?_append_right (Nat.le_of_not_lt hj), List.getElem?_eq_none (Nat.le_of_not_lt hj),
      List.getElem?_replicate]
    split <;> rfl

theorem get?_fold_ne (s : Scope) {id id' : Nat} (v : Int64) (h : id' ≠ id) :
    (s.fold id v).get? id' = s.get? id' := by
  simp only [fold, get?]
  rw [List.getElem?_set_ne (Ne.symm h), getD_append_replicate_none]

theorem count_fold_self (s : Scope) (id : Nat) (v : Int64) :
    (s.fold id v).count id = (ruleAt id).fold (s.count id) v := by
  simp only [count, fold, get?]
  rw [List.getElem?_set_self (by simp; omega)]
  rfl

theorem count_fold_ne (s : Scope) {id id' : Nat} (v : Int64) (h : id' ≠ id) :
    (s.fold id v).count id' = s.count id' := by
  simp only [count, get?_fold_ne s v h]

theorem count_incr_ne (s : Scope) {id id' : Nat} (n : Int64) (h : id' ≠ id) :
    (s.incr id n).count id' = s.count id' :=
  count_fold_ne s n h

theorem count_incr_self (s : Scope) {id : Nat} (n : Int64) (h : ruleAt id = .counter) :
    (s.incr id n).count id = s.count id + n := by
  rw [incr, count_fold_self, h]
  rfl

theorem count_foldl {id : Nat} (c : Int64) (g : Scope → Nat → Scope)
    (hg : ∀ acc j, (g acc j).count id = acc.count id + if j = id then c else 0) :
    ∀ (js : List Nat) (acc : Scope), js.Nodup →
      (js.foldl g acc).count id = acc.count id + if id ∈ js then c else 0
  | [], acc, _ => by simp
  | j :: js, acc, hnd => by
    rw [List.nodup_cons] at hnd
    rw [List.foldl_cons, count_foldl c g hg js _ hnd.2, hg]
    by_cases hj : j = id
    · -- the counter's own position comes here, and at no later one
      subst hj
      simp only [if_neg hnd.1, List.mem_cons_self]
      grind
    · simp [hj, Ne.symm hj]

theorem count_merge (s u : Scope) {id : Nat} (h : ruleAt id = .counter) :
    (s.merge u).count id = s.count id + u.count id := by
  rw [merge, count_foldl (u.count id) _ ?step _ s List.nodup_range]
  case step =>
    -- the instance at each position is folded into that position alone
    intro acc j
    split
    · rename_i v hv
      by_cases hj : j = id
      · subst hj
        rw [count_fold_self, h, if_pos rfl]
        simp [Rule.fold, count, hv]
      · simp [count_fold_ne _ _ (Ne.symm hj), hj]
    · rename_i hv
      by_cases hj : j = id
      · subst hj
        simp [count, hv]
      · simp [hj]
  by_cases hid : id < u.instances.length
  · simp [hid]
  · -- beyond its instances, the scope never used the counter
    have hnone : u.count id = 0 := by
      simp [count, get?, List.getElem?_eq_none (Nat.le_of_not_lt hid)]
    simp [hid, hnone]

theorem count_observe_ne (s : Scope) {id id' : Nat} (v : Int64) (h : id' ≠ id) :
    (s.observe id v).count id' = s.count id' :=
  count_fold_ne s v h

@[simp] theorem count_empty (id : Nat) : empty.count id = 0 := by
  simp [count, get?, empty]

theorem recordsRead_counter : ruleAt recordsRead = .counter := rfl

end Metrics.Scope

open Metrics.Scope Region Region.LaneM Accumulator

/-! ### What lanes count -/

namespace Region

variable {α ε : Type}

/-- The records a lane read, by its records counter. -/
def LaneEnd.recordsRead (x : LaneEnd α ε) : Int64 := x.scope.count Metrics.recordsRead

/-- The records some lanes read, together. -/
def recordsReadBy (ends : List (LaneEnd α ε)) : Int64 :=
  (ends.map LaneEnd.recordsRead).foldr (· + ·) 0

/-- The lanes whose body succeeded. -/
def succeeded (ends : List (LaneEnd α ε)) : List (LaneEnd α ε) :=
  ends.filter fun x => x.result.isOk

@[simp] theorem recordsReadBy_nil : recordsReadBy ([] : List (LaneEnd α ε)) = 0 := rfl

@[simp] theorem recordsReadBy_cons (x : LaneEnd α ε) (ends : List (LaneEnd α ε)) :
    recordsReadBy (x :: ends) = x.recordsRead + recordsReadBy ends := rfl

theorem recordsReadBy_append (xs ys : List (LaneEnd α ε)) :
    recordsReadBy (xs ++ ys) = recordsReadBy xs + recordsReadBy ys := by
  induction xs with
  | nil => simp
  | cons x xs ih => simp only [List.cons_append, recordsReadBy_cons, ih]; grind

theorem recordsReadBy_rotateLeft (ends : List (LaneEnd α ε)) :
    recordsReadBy (ends.rotateLeft 1) = recordsReadBy ends := by
  cases ends with
  | nil => rfl
  | cons x xs =>
    rw [rotateLeft_one_cons, recordsReadBy_append]
    simp only [recordsReadBy_cons, recordsReadBy_nil]
    grind

theorem mem_rotateLeft_one {x : LaneEnd α ε} {ends : List (LaneEnd α ε)} :
    x ∈ ends.rotateLeft 1 ↔ x ∈ ends := by
  cases ends with
  | nil => rfl
  | cons y ys =>
    rw [rotateLeft_one_cons]
    simp [or_comm]

theorem okLocals_eq : ∀ ends : List (LaneEnd α ε), okLocals ends = (succeeded ends).map (·.locals)
  | [] => rfl
  | ⟨.ok (), _, _⟩ :: rest => by simp [okLocals, succeeded, okLocals_eq rest, Except.isOk, Except.toBool]
  | ⟨.error _, _, _⟩ :: rest => by simp [okLocals, succeeded, okLocals_eq rest, Except.isOk, Except.toBool]

theorem succeeded_eq_of_bodyFailures {ends : List (LaneEnd α ε)} (h : bodyFailures 0 ends = []) :
    succeeded ends = ends := by
  have hlen := okLocals_length_add 0 ends
  rw [h, okLocals_eq, List.length_map, List.length_nil, Nat.add_zero] at hlen
  exact List.filter_eq_self.2 (List.length_filter_eq_length_iff.1 hlen)

/-- Folding the lanes merges the metrics of every lane, failed or not, into the executor's. -/
theorem foldLanes_count [Mergeable α] (devices : Bool) :
    ∀ (ends : List (LaneEnd α ε)) (i : Nat) (merged : List α) (scope : Metrics.Scope)
      (fails : List (Nat × LaneFailure ε)),
      (foldLanes devices i ends merged scope fails).2.1.count Metrics.recordsRead =
        scope.count Metrics.recordsRead + recordsReadBy ends
  | [], _, _, _, _ => by simp [foldLanes]
  | x :: rest, i, merged, scope, fails => by
    simp only [foldLanes]
    split
    · rw [foldLanes_count devices rest, count_merge _ _ recordsRead_counter, recordsReadBy_cons]
      simp only [LaneEnd.recordsRead]
      grind
    · -- a failed lane is also counted as failed, in a counter of its own
      rw [foldLanes_count devices rest, count_incr_ne _ _ (by decide),
        count_merge _ _ recordsRead_counter, recordsReadBy_cons]
      simp only [LaneEnd.recordsRead]
      grind

theorem foldlM_sumOf (a : Int64) (cs : List Int64) :
    (cs.map Pipeline.sumOf).foldlM (fun a l => a.combine (some l)) (Pipeline.sumOf a) =
      .ok (Pipeline.sumOf (a + cs.foldr (· + ·) 0)) := by
  induction cs generalizing a with
  | nil =>
    rw [List.map_nil, List.foldlM_nil, List.foldr_nil, Int64.add_zero]
    rfl
  | cons c cs ih =>
    have hc : (Pipeline.sumOf a).combine (some (Pipeline.sumOf c)) = .ok (Pipeline.sumOf (a + c)) := rfl
    rw [List.map_cons, List.foldlM_cons, hc]
    simp only [bind, Except.bind]
    rw [ih]
    simp only [List.foldr_cons]
    congr 2
    grind

theorem run_sum_cases {σ : Type} (e : Executor) (n : Nat) (b : LaneM Acc σ ε Unit) (w : σ) :
    let r := run e (some (.lanes n)) (some b) [(0, some (Pipeline.sumOf 0))] w
    (r.world = w ∧ r.merged = none ∧ r.executor.scope = e.scope ∧ r.outcome ≠ .ok) ∨
    (let lanes := runLanes b (fun i => ⟨i, n, none, [0]⟩) [Pipeline.sumOf 0] (laneOrder n)
        e.accelerator w
     let folded := foldLanes false 0 (lanes.1.rotateLeft 1) [Pipeline.sumOf 0] e.scope []
     r.world = lanes.2.2 ∧ r.merged = some folded.1 ∧
       r.executor.scope = ((folded.2.1.incr Metrics.regionsRun 1).incr Metrics.lanesRun
         (Int64.ofNat n)).observe Metrics.widestRegion (Int64.ofNat n) ∧
       r.outcome = if folded.2.2.isEmpty then .ok else .failed n folded.2.2) := by
  intro r
  have hcheck : checkShared 0 ([(0, some (Pipeline.sumOf 0))].map (·.2)) = .ok [Pipeline.sumOf 0] :=
    rfl
  by_cases hn : (n : Int) ≤ 0
  · -- no lanes to run: the region is refused
    have hr : r = ⟨e, w, [], none, .refused (Fault.make .invalid
        ("region: lane count " ++ toString (n : Int) ++ " must be positive"))⟩ := by
      simp only [r, run, hcheck, Policy.planOn, if_pos hn]
    rw [hr]
    exact .inl ⟨rfl, rfl, rfl, fun h => by cases h⟩
  by_cases hl : (n : Int) > laneLimit
  · -- too many lanes to make: the region panics
    have hplan : Policy.planOn e (.lanes n) =
        .error (.panics "runtime error: makeslice: len out of range") := by
      simp [Policy.planOn, Plan.sized, hl, show n ≠ 0 by omega]
      rfl
    have hr : r = ⟨e, w, [], none, .panicked "runtime error: makeslice: len out of range"⟩ := by
      simp only [r, run, hcheck, hplan]
    rw [hr]
    exact .inl ⟨rfl, rfl, rfl, fun h => by cases h⟩
  · refine .inr ?_
    have hplan : Policy.planOn e (.lanes n) = .ok (⟨n, false, none⟩, e.placement) := by
      rw [Policy.planOn, if_neg hn, Plan.sized, if_neg (by simp; omega)]
      rfl
    simp only [r, run, hcheck, hplan]
    exact ⟨rfl, rfl, rfl, rfl⟩

end Region

namespace Pipeline

namespace Topology

/-! ### The counts of a topology -/

/-- The records the sources of a topology counted, together. -/
def recordsCounted (t : Topology) : Int64 :=
  (t.sources.map fun sc => sc.scope.count Metrics.recordsRead).foldr (· + ·) 0

/-- A lane's copy of the record count holds its records counter. -/
def Tally (ls : List Acc) (s : Metrics.Scope) : Prop := ls = [sumOf (s.count Metrics.recordsRead)]

/-- The records counters of a list of scopes, together. -/
def countedBy (scopes : List Metrics.Scope) : Int64 :=
  (scopes.map fun s => s.count Metrics.recordsRead).foldr (· + ·) 0

theorem recordsCounted_eq (t : Topology) : t.recordsCounted = countedBy (t.sources.map (·.scope)) := by
  simp [recordsCounted, countedBy, Function.comp_def]

theorem countedBy_set : ∀ (scopes : List Metrics.Scope) (si : Nat) (s : Metrics.Scope)
    (hsi : si < scopes.length),
    countedBy (scopes.set si s) + scopes[si].count Metrics.recordsRead =
      countedBy scopes + s.count Metrics.recordsRead
  | [], _, _, hsi => absurd hsi (Nat.not_lt_zero _)
  | x :: xs, 0, s, _ => by
    simp only [countedBy, List.set_cons_zero, List.map_cons, List.foldr_cons, List.getElem_cons_zero]
    grind
  | x :: xs, si + 1, s, hsi => by
    have ih := countedBy_set xs si s (by simpa using hsi)
    simp only [countedBy, List.set_cons_succ, List.map_cons, List.foldr_cons,
      List.getElem_cons_succ] at ih ⊢
    grind

theorem tally_workStable (S : List Metrics.Scope) :
    WorkStable Tally fun t => t.sources.map (·.scope) = S where
  setTable _ _ h := h
  setOrigin t si sc o hsc h := by
    rw [← h, List.map_set]
    have hs : (t.sources.map (·.scope))[si]? = some sc.scope := by simp [hsc]
    obtain ⟨hlt, heq⟩ := List.getElem?_eq_some_iff.1 hs
    exact heq ▸ List.set_getElem_self hlt
  countUpdate ls s h := by
    rw [Tally, count_incr_ne _ _ (by decide)]
    exact h
  countLong ls s l hl h := by
    -- the copy is the sum the counter holds, and both grow by one
    subst h
    cases hl
    simp [Tally, sumOf, count_incr_self _ _ recordsRead_counter]
  countOther ls s a ha hne h := by
    subst h
    exact absurd ha.symm (hne _)

theorem laneReplicas_start (t : Topology) (started : Bool) :
    ({ t with sources := t.sources.map SourceConfig.start, started } : Topology).laneReplicas =
      t.laneReplicas := by
  simp [laneReplicas, List.zipIdx_map, SourceConfig.start, Function.comp_def]

/-! ### One lane -/

section Lane

variable {lanes : List (Nat × ReplicaConfig)} {k : Nat}

theorem exec_replicaDone (si : Nat) (info : LaneInfo) (st : LaneState Acc Topology) {sc : SourceConfig}
    (hsc : st.world.sources[si]? = some sc) :
    let st' := (exec (replicaDone si) info st)
    st'.2.locals = st.locals ∧ st'.2.scope = st.scope ∧
      st'.2.world.sources.map (·.scope) =
        (st.world.sources.map (·.scope)).set si (sc.scope.merge st.scope) := by
  unfold replicaDone
  simp only [exec_bind, exec_scope, exec_world, hsc, exec_setWorld]
  simp [List.map_set]

theorem replicaDone_ok (si : Nat) (info : LaneInfo) (st : LaneState Acc Topology) :
    (exec (replicaDone si) info st).1 = .ok () := by
  unfold replicaDone
  simp only [exec_bind, exec_scope, exec_world]
  split <;> rfl

/-- **One lane.** A lane that starts with its copy holding a counter at zero ends with its copy
holding its counter, and the counters of the sources have grown by it. -/
theorem body_counts (hl : ∀ (j si : Nat) (rc : ReplicaConfig), lanes[j]? = some (si, rc) → si < k) (info : LaneInfo)
    (st : LaneState Acc Topology) (hT : Tally st.locals st.scope) (hk : st.world.sources.length = k)
    (h0 : st.scope.count Metrics.recordsRead = 0) :
    let st' := (exec (body lanes) info st).2
    Tally st'.locals st'.scope ∧ st'.world.sources.length = k ∧
      st'.world.recordsCounted = st.world.recordsCounted + st'.scope.count Metrics.recordsRead := by
  unfold body
  simp only [exec_bind, exec_index]
  split
  · rename_i si rc hlane
    rw [exec_andThenAlways (replicaDone_ok si)]
    -- the replica's work keeps the tally and the sources' scopes
    obtain ⟨hT₁, hS₁⟩ := replicaWork_triple (tally_workStable (st.world.sources.map (·.scope))) si rc
      info st hT rfl
    set st₁ := (exec (replicaWork si rc) info st).2
    have hlen₁ : st₁.world.sources.length = k := by simpa [hk] using congrArg List.length hS₁
    have hsi : si < st₁.world.sources.length := hlen₁ ▸ hl _ si rc hlane
    obtain ⟨hlocals, hscope, hmap⟩ := exec_replicaDone si info st₁ (List.getElem?_eq_getElem hsi)
    refine ⟨by rw [hlocals, hscope]; exact hT₁, by simpa [hlen₁] using congrArg List.length hmap, ?_⟩
    -- then its end adds its counter to its source's
    have hset := countedBy_set (st₁.world.sources.map (·.scope)) si
      (st₁.world.sources[si].scope.merge st₁.scope) (by simpa using hsi)
    rw [count_merge _ _ recordsRead_counter, List.getElem_map] at hset
    rw [recordsCounted_eq, hmap, hscope, recordsCounted_eq, ← hS₁]
    grind
  · -- a lane without a replica does nothing
    refine ⟨hT, hk, ?_⟩
    show _ = _ + st.scope.count _
    rw [h0, Int64.add_zero]
    rfl

theorem runLanes_cons_exec (b : ReplicaM Unit) (info : Nat → LaneInfo) (values : List Acc) (i : Nat)
    (rest : List Nat) (acc : Accelerator) (w : Topology) :
    let st := (exec b (info i) ⟨values, .empty, acc, w⟩)
    runLanes b info values (i :: rest) acc w =
      (⟨st.1, st.2.locals, st.2.scope⟩ :: (runLanes b info values rest st.2.accelerator st.2.world).1,
        (runLanes b info values rest st.2.accelerator st.2.world).2) := rfl

/-- **All the lanes.** Lanes run one after another, each on the world the one before left, end
with their copies holding their counters, and the sources' counters grow by what they all read. -/
theorem runLanes_counts (hl : ∀ (j si : Nat) (rc : ReplicaConfig), lanes[j]? = some (si, rc) → si < k)
    (info : Nat → LaneInfo) (order : List Nat) :
    ∀ (acc : Accelerator) (w : Topology), w.sources.length = k →
      let r := runLanes (body lanes) info [sumOf 0] order acc w
      (∀ x ∈ r.1, x.locals = [sumOf x.recordsRead]) ∧ r.2.2.sources.length = k ∧
        r.2.2.recordsCounted = w.recordsCounted + recordsReadBy r.1 := by
  induction order with
  | nil =>
    intro acc w hk
    exact ⟨by simp [runLanes], hk, by simp [runLanes]⟩
  | cons i rest ih =>
    intro acc w hk
    -- lane `i` runs first, from the sum's identity and an empty scope
    obtain ⟨hT, hk', hw⟩ := body_counts hl (info i) ⟨[sumOf 0], .empty, acc, w⟩
      (by simp [Tally]) hk (count_empty _)
    obtain ⟨hends, hlen, hcount⟩ := ih _ _ hk'
    rw [runLanes_cons_exec]
    refine ⟨?_, hlen, ?_⟩
    · intro x hx
      rcases List.mem_cons.1 hx with rfl | hx
      · exact hT
      · exact hends x hx
    · rw [hcount, hw, recordsReadBy_cons]
      simp only [LaneEnd.recordsRead]
      grind

end Lane

/-! ### The run -/

theorem recordsCounted_congr {t t' : Topology}
    (h : t.sources.map (·.scope) = t'.sources.map (·.scope)) : t.recordsCounted = t'.recordsCounted := by
  rw [recordsCounted_eq, h, recordsCounted_eq]

theorem run_started {t : Topology} (e : Executor) (hs : t.started = false) (hne : t.sources ≠ [])
    (hok : startSources 0 t.sources = .ok (t.sources.map SourceConfig.start)) :
    let R := Region.run e (some (.lanes t.laneReplicas.length)) (some (body t.laneReplicas))
      [(0, some (sumOf 0))] { t with sources := t.sources.map SourceConfig.start, started := true }
    (t.run e).2.2 = .ran R.outcome ∧ (t.run e).2.1 = R.executor ∧
      (t.run e).1.sources = R.world.sources.map ({ · with stage := .drained }) ∧
      (R.merged = none → (t.run e).1.records = 0) ∧
      (∀ v, R.merged = some [sumOf v] → (t.run e).1.records = v) := by
  intro R
  have hlanes := laneReplicas_start t true
  simp only [run, hs, Bool.false_eq_true, if_false, List.isEmpty_eq_false_iff.mpr hne, hok, hlanes]
  exact ⟨rfl, rfl, rfl, fun h => by rw [h], fun v h => by rw [h]; rfl⟩

/-- The ends of the lanes of a run of a body: lane `i` is the body run with index `i` on a fresh
copy of the record count, from the accelerator and world the lanes before it left. -/
def LaneRuns (b : ReplicaM Unit) (ends : List (LaneEnd Acc Fault)) : Prop :=
  ∀ i (hi : i < ends.length), ∃ acc w, ends[i] = (runLane b ⟨i, ends.length, none, [0]⟩ [sumOf 0] acc w).1

theorem laneEnds_laneRuns (b : ReplicaM Unit) (n : Nat) (acc : Accelerator) (w : Topology) :
    LaneRuns b (laneEnds b n false [0] [sumOf 0] acc w) := by
  have hlen := laneEnds_length b n false [0] [sumOf 0] acc w
  intro i hi
  obtain ⟨acc', w', h⟩ := laneEnds_getElem b n false [0] [sumOf 0] acc w i (hlen ▸ hi)
  refine ⟨acc', w', ?_⟩
  rw [hlen]
  exact Option.some.inj ((List.getElem?_eq_getElem hi).symm.trans (by simpa using h))

/-- The merged sum of lanes whose copies hold their counters is what those that succeeded read. -/
theorem folded_sum {ends : List (LaneEnd Acc Fault)} (hends : ∀ x ∈ ends, x.locals = [sumOf x.recordsRead])
    (scope : Metrics.Scope) :
    (foldLanes false 0 ends [sumOf 0] scope []).1 = [sumOf (recordsReadBy (succeeded ends))] ∧
      (foldLanes false 0 ends [sumOf 0] scope []).2.2 = bodyFailures 0 ends := by
  have hkinds : ∀ x ∈ ends, x.locals.map Acc.kind = [sumOf 0].map Acc.kind := by
    intro x hx
    rw [hends x hx]
    rfl
  obtain ⟨⟨hk, hcol⟩, hfails⟩ := foldLanes_spec (by decide) (by decide +kernel) false ends 0
    [] [sumOf 0] scope [] (folded_nil _) hkinds
  refine ⟨?_, by simpa using hfails⟩
  -- the one merged value is the fold of the copies of the lanes that succeeded
  have hcopies : (okLocals ends).map (·.getD 0 default) =
      ((succeeded ends).map LaneEnd.recordsRead).map sumOf := by
    rw [okLocals_eq, List.map_map, List.map_map]
    refine List.map_congr_left fun x hx => ?_
    simp [hends x (List.mem_of_mem_filter hx)]
  have hcol0 := hcol 0 (by simp)
  rw [List.nil_append, hcopies, List.getD_cons_zero, foldlM_sumOf, Int64.zero_add] at hcol0
  obtain ⟨m, hm⟩ : ∃ m, (foldLanes false 0 ends [sumOf 0] scope []).1 = [m] :=
    List.length_eq_one_iff.1 (by simpa using congrArg List.length hk)
  have hfirst : [m].getD 0 default = m := rfl
  rw [hm, hfirst] at hcol0
  rw [hm, ← Except.ok.inj hcol0]
  rfl

/-- A run that passes its checks counts in the sources' counters, and in the executor's, the
records every lane read, and in the topology's count those its lanes that succeeded read. -/
theorem run_started_counts {t : Topology} (e : Executor) (hs : t.started = false)
    (hne : t.sources ≠ []) (hok : startSources 0 t.sources = .ok (t.sources.map SourceConfig.start)) :
    ∃ o ends, (t.run e).2.2 = .ran o ∧ LaneRuns (body t.laneReplicas) ends ∧
      (t.run e).1.records = recordsReadBy (succeeded ends) ∧
      (t.run e).1.recordsCounted = t.recordsCounted + recordsReadBy ends ∧
      (t.run e).2.1.scope.count Metrics.recordsRead =
        e.scope.count Metrics.recordsRead + recordsReadBy ends ∧
      (o = .ok → succeeded ends = ends) := by
  obtain ⟨hend, hexec, hsources, hnone, hsome⟩ := run_started e hs hne hok
  set t₀ : Topology := { t with sources := t.sources.map SourceConfig.start, started := true }
  set n := t.laneReplicas.length
  -- starting and draining the sources leaves their scopes alone
  have hstart : t₀.recordsCounted = t.recordsCounted :=
    recordsCounted_congr (by simp [t₀, SourceConfig.start, Function.comp_def])
  have hdrain : (t.run e).1.recordsCounted = (Region.run e (some (.lanes n)) (some (body t.laneReplicas))
      [(0, some (sumOf 0))] t₀).world.recordsCounted :=
    recordsCounted_congr (by rw [hsources]; simp [Function.comp_def])
  rcases run_sum_cases e n (body t.laneReplicas) t₀ with ⟨hw, hm, hsc, hout⟩ | ⟨hw, hm, hsc, hout⟩
  · -- the region stops before its lanes: nothing is read
    refine ⟨_, [], hend, fun i hi => absurd hi (Nat.not_lt_zero i), hnone hm, ?_, ?_, fun ho => absurd ho hout⟩
    · rw [hdrain, hw, hstart, recordsReadBy_nil, Int64.add_zero]
    · rw [hexec, hsc, recordsReadBy_nil, Int64.add_zero]
  · -- the lanes run, and each ends with its copy holding its counter
    set lanes := runLanes (body t.laneReplicas) (fun i => ⟨i, n, none, [0]⟩) [sumOf 0] (laneOrder n)
      e.accelerator t₀
    obtain ⟨hlocals, -, hcounted⟩ := runLanes_counts
      (fun _ _ _ (h : t.laneReplicas[_]? = _) => source_lt_of_laneReplicas h) _ (laneOrder n)
      e.accelerator t₀ (by simp [t₀])
    have hends : ∀ x ∈ lanes.1.rotateLeft 1, x.locals = [sumOf x.recordsRead] :=
      fun x hx => hlocals x (mem_rotateLeft_one.1 hx)
    obtain ⟨hsum, hfails⟩ := folded_sum hends e.scope
    refine ⟨_, lanes.1.rotateLeft 1, hend,
      laneEnds_laneRuns (body t.laneReplicas) n e.accelerator t₀,
      hsome _ (hm.trans (by rw [hsum])), ?_, ?_, ?_⟩
    · rw [hdrain, hw, hcounted, hstart, recordsReadBy_rotateLeft]
    · rw [hexec, hsc, count_observe_ne _ _ (by decide), count_incr_ne _ _ (by decide),
        count_incr_ne _ _ (by decide), foldLanes_count]
    · intro ho
      rw [ho, eq_comm] at hout
      split at hout
      · rename_i hempty
        exact succeeded_eq_of_bodyFailures (by simpa [hfails] using hempty)
      · exact absurd hout (fun h => by cases h)

/-- **The record counts of a run.** A run refused before its lanes changes no count and keeps
its executor. A run that starts runs one lane per replica copy, each the body on a fresh record
count; the sources' records counters and the executor's both grow by the records all the lanes
read, while the topology's count is the records read by the lanes that succeeded. A run that
succeeds had every lane succeed, so there the three agree. -/
theorem record_counts (t : Topology) (e : Executor) :
    (∃ f, (t.run e).2.2 = .refused f ∧ (t.run e).1.records = t.records ∧
      (t.run e).1.recordsCounted = t.recordsCounted ∧ (t.run e).2.1 = e) ∨
    ∃ o ends, (t.run e).2.2 = .ran o ∧ LaneRuns (body t.laneReplicas) ends ∧
      (t.run e).1.records = recordsReadBy (succeeded ends) ∧
      (t.run e).1.recordsCounted = t.recordsCounted + recordsReadBy ends ∧
      (t.run e).2.1.scope.count Metrics.recordsRead =
        e.scope.count Metrics.recordsRead + recordsReadBy ends ∧
      (o = .ok → succeeded ends = ends) := by
  cases hs : t.started
  · by_cases hne : t.sources = []
    · have hr : t.run e = (t, e, .refused (configFault "topology has no sources")) := by
        simp [run, hs, hne]
      rw [hr]
      exact .inl ⟨_, rfl, rfl, rfl, rfl⟩
    rcases startSources_cases 0 t.sources with ⟨-, hok⟩ | ⟨pre, sc, post, hsrc, -, -, herr⟩
    · exact .inr (run_started_counts e hs hne hok)
    · -- a source without replicas: those before it are marked running, their scopes untouched
      have hr : t.run e = ({ t with sources := pre.map SourceConfig.start ++ sc :: post }, e,
          .refused (configFault ("source " ++ toString (0 + pre.length) ++ " has no replicas"))) := by
        simp only [run, hs, Bool.false_eq_true, if_false, List.isEmpty_eq_false_iff.mpr hne, herr]
      rw [hr]
      refine .inl ⟨_, rfl, rfl, recordsCounted_congr ?_, rfl⟩
      rw [hsrc]
      simp [SourceConfig.start, Function.comp_def]
  · have hr : t.run e = (t, e, .refused (configFault "topology already run")) := by
      simp [run, hs]
    rw [hr]
    exact .inl ⟨_, rfl, rfl, rfl, rfl⟩

/-- Field means of the records `2`, `x` and `4` into a table of `double.mean`, by one replica:
`x` is no number, and fails the replica after it read two records. The source's counter and the
executor's count the two; the topology's count has none. -/
theorem failed_replica_records_uncounted :
    let t : Topology := ⟨⟨"double.mean", .mean Mean.empty, false, List.replicate numStripes []⟩,
      [⟨.shared (.records [⟨"a", ⟨#[50]⟩⟩, ⟨"b", ⟨#[120]⟩⟩, ⟨"c", ⟨#[52]⟩⟩]) false,
        [⟨"fieldmean", 1, "fieldmean", ["m", ",", "0"]⟩], .configured, 0, Metrics.Scope.empty⟩],
      false, false, 0, none⟩
    (t.run Executor.host).1.records = 0 ∧ (t.run Executor.host).1.recordsCounted = 2 ∧
      (t.run Executor.host).2.1.scope.count Metrics.recordsRead = 2 := by
  decide +kernel

end Topology

end Pipeline

end Lanes
