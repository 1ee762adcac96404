import Lanes.Region.Shared
import Lanes.Proofs.Reduction
import Lanes.Proofs.Envelope

/-!
The merge law of regions.

A region forks its lanes, each on copies of the shared accumulators, and folds the copies of the
lanes whose body succeeded back into copies of the shared accumulators, lane after lane. The
check before the lanes start (each shared accumulator's identity combines with itself) makes
every later fold succeed, as long as the bodies change their copies only as accumulators allow,
keeping each copy's kind (`KeepsKinds`). Moving a lane's copies across the device boundary
changes nothing, since an envelope reads back to what was written.

Main statement: `region_merge_law`. Each shared accumulator ends as its state before the region
folded with the copies of the lanes that succeeded, in lane order; the region succeeds exactly
when every lane did, and otherwise reports each failed body, in lane order.
-/

namespace Lanes.Region

open Lanes.Accumulator

/-! ### Running the lanes -/

section Lanes

variable {α σ ε : Type}

/-- One lane: the body run with the lane's information on fresh copies of `values`, on the
accelerator and world the lane before it left. -/
def runLane (body : LaneM α σ ε Unit) (info : LaneInfo) (values : List α) (acc : Accelerator)
    (w : σ) : LaneEnd α ε × Accelerator × σ :=
  let (r, st) := (body.run info).run ⟨values, Metrics.Scope.empty, acc, w⟩
  (⟨r, st.locals, st.scope⟩, st.accelerator, st.world)

theorem runLanes_cons (body : LaneM α σ ε Unit) (info : Nat → LaneInfo) (values : List α)
    (i : Nat) (rest : List Nat) (acc : Accelerator) (w : σ) :
    runLanes body info values (i :: rest) acc w =
      let (e, acc', w') := runLane body (info i) values acc w
      let (ends, acc'', w'') := runLanes body info values rest acc' w'
      (e :: ends, acc'', w'') := rfl

theorem runLanes_getElem (body : LaneM α σ ε Unit) (info : Nat → LaneInfo) (values : List α) :
    ∀ (lanes : List Nat) (acc : Accelerator) (w : σ) (k : Nat) (hk : k < lanes.length),
      ∃ acc' w', (runLanes body info values lanes acc w).1[k]? =
        some (runLane body (info lanes[k]) values acc' w').1
  | [], _, _, k, hk => absurd hk (Nat.not_lt_zero k)
  | i :: rest, acc, w, 0, _ => ⟨acc, w, by simp [runLanes_cons]⟩
  | i :: rest, acc, w, k + 1, hk => by
    obtain ⟨acc', w', h⟩ := runLanes_getElem body info values rest
      (runLane body (info i) values acc w).2.1 (runLane body (info i) values acc w).2.2 k
      (by simpa using hk)
    exact ⟨acc', w', by simpa [runLanes_cons] using h⟩

theorem runLanes_length (body : LaneM α σ ε Unit) (info : Nat → LaneInfo) (values : List α) :
    ∀ (lanes : List Nat) (acc : Accelerator) (w : σ),
      (runLanes body info values lanes acc w).1.length = lanes.length
  | [], _, _ => rfl
  | i :: rest, acc, w => by
    simp [runLanes_cons, runLanes_length body info values rest]

theorem rotateLeft_one_cons (x : α) (xs : List α) : (x :: xs).rotateLeft 1 = xs ++ [x] := by
  cases xs with
  | nil => rfl
  | cons y ys => simp [List.rotateLeft]

/-- The ends of a region's lanes in lane order. They run the lane started last first, then the
others in the order they were started. -/
def laneEnds (body : LaneM α σ ε Unit) (n : Nat) (devices : Bool) (handles : List Nat)
    (values : List α) (acc : Accelerator) (w : σ) : List (LaneEnd α ε) :=
  let info (i : Nat) : LaneInfo := ⟨i, n, if devices then some i else none, handles⟩
  (runLanes body info values (laneOrder n) acc w).1.rotateLeft 1

theorem laneOrder_length : ∀ n : Nat, (laneOrder n).length = n
  | 0 => rfl
  | k + 1 => by simp [laneOrder]

theorem laneEnds_length (body : LaneM α σ ε Unit) (n : Nat) (devices : Bool)
    (handles : List Nat) (values : List α) (acc : Accelerator) (w : σ) :
    (laneEnds body n devices handles values acc w).length = n := by
  cases n with
  | zero => rfl
  | succ k =>
    simp only [laneEnds, laneOrder, runLanes_cons]
    rw [rotateLeft_one_cons]
    simp [runLanes_length]

/-- The `i`-th end is lane `i`'s: the body run with index `i` on fresh copies of the values. -/
theorem laneEnds_getElem (body : LaneM α σ ε Unit) (n : Nat) (devices : Bool)
    (handles : List Nat) (values : List α) (acc : Accelerator) (w : σ) (i : Nat) (hi : i < n) :
    ∃ acc' w', (laneEnds body n devices handles values acc w)[i]? =
      some (runLane body ⟨i, n, if devices then some i else none, handles⟩ values acc' w').1 := by
  obtain ⟨k, rfl⟩ : ∃ k, n = k + 1 := ⟨n - 1, by omega⟩
  simp only [laneEnds, laneOrder, runLanes_cons]
  rw [rotateLeft_one_cons]
  set info : Nat → LaneInfo := fun i => ⟨i, k + 1, if devices then some i else none, handles⟩
  set first := runLane body (info k) values acc w
  have hlen := runLanes_length body info values (List.range k) first.2.1 first.2.2
  rcases Nat.lt_succ_iff_lt_or_eq.1 hi with hi | rfl
  · -- the lanes started first ran second, in the order they were started
    obtain ⟨acc', w', h⟩ := runLanes_getElem body info values (List.range k) first.2.1
      first.2.2 i (by simpa using hi)
    refine ⟨acc', w', ?_⟩
    rw [List.getElem?_append_left (by simpa [hlen] using hi), h, List.getElem_range]
  · -- the lane started last ran first
    refine ⟨acc, w, ?_⟩
    rw [List.getElem?_append_right (by simp [hlen]), hlen, List.length_range, Nat.sub_self]
    rfl

end Lanes


/-! ### What the lanes report -/

section Report

variable {α ε : Type}

/-- Why a lane's body did not succeed, if it did not. -/
def LaneEnd.bodyFailure (e : LaneEnd α ε) : Option (LaneFailure ε) :=
  match e.result with
  | .ok () => none
  | .error (.error err) => some (.body err)
  | .error (.panic m) => some (.panic (firstLine m))

/-- The copies of the lanes whose body succeeded, in lane order. -/
def okLocals : List (LaneEnd α ε) → List (List α)
  | [] => []
  | e :: rest =>
    match e.result with
    | .ok () => e.locals :: okLocals rest
    | .error _ => okLocals rest

/-- The failures of the lanes whose body did not succeed, each with its index, counted from
`i`, in lane order. -/
def bodyFailures (i : Nat) : List (LaneEnd α ε) → List (Nat × LaneFailure ε)
  | [] => []
  | e :: rest =>
    match e.bodyFailure with
    | some f => (i, f) :: bodyFailures (i + 1) rest
    | none => bodyFailures (i + 1) rest

theorem okLocals_length_add : ∀ (i : Nat) (ends : List (LaneEnd α ε)),
    (okLocals ends).length + (bodyFailures i ends).length = ends.length
  | _, [] => rfl
  | i, ⟨.ok (), _, _⟩ :: rest => by
    have := okLocals_length_add (i + 1) rest
    simp only [okLocals, bodyFailures, LaneEnd.bodyFailure, List.length_cons] at this ⊢
    omega
  | i, ⟨.error (.error _), _, _⟩ :: rest => by
    have := okLocals_length_add (i + 1) rest
    simp only [okLocals, bodyFailures, LaneEnd.bodyFailure, List.length_cons] at this ⊢
    omega
  | i, ⟨.error (.panic _), _, _⟩ :: rest => by
    have := okLocals_length_add (i + 1) rest
    simp only [okLocals, bodyFailures, LaneEnd.bodyFailure, List.length_cons] at this ⊢
    omega

end Report

/-! ### Lanes that keep their kinds -/

section Kinds

variable {σ ε : Type}

/-- A body that changes its copies only as accumulators allow: whatever it does, each copy
keeps its kind. -/
def KeepsKinds (body : LaneM Acc σ ε Unit) : Prop :=
  ∀ (info : LaneInfo) (st : LaneState Acc σ),
    ((body.run info).run st).2.locals.map Acc.kind = st.locals.map Acc.kind

theorem runLanes_kinds {body : LaneM Acc σ ε Unit} (hbody : KeepsKinds body)
    (info : Nat → LaneInfo) (values : List Acc) :
    ∀ (lanes : List Nat) (acc : Accelerator) (w : σ),
      ∀ e ∈ (runLanes body info values lanes acc w).1, e.locals.map Acc.kind = values.map Acc.kind
  | [], _, _ => by simp [runLanes]
  | i :: rest, acc, w => by
    intro e he
    simp only [runLanes_cons, List.mem_cons] at he
    rcases he with rfl | he
    · exact hbody (info i) ⟨values, Metrics.Scope.empty, acc, w⟩
    · exact runLanes_kinds hbody info values rest _ _ e he

theorem laneEnds_kinds {body : LaneM Acc σ ε Unit} (hbody : KeepsKinds body) (n : Nat)
    (devices : Bool) (handles : List Nat) (values : List Acc) (acc : Accelerator) (w : σ) :
    ∀ e ∈ laneEnds body n devices handles values acc w, e.locals.map Acc.kind = values.map Acc.kind := by
  intro e he
  cases n with
  | zero => simp [laneEnds, laneOrder, runLanes] at he
  | succ k =>
    simp only [laneEnds, laneOrder] at he
    rw [runLanes_cons, rotateLeft_one_cons] at he
    exact runLanes_kinds hbody _ values (k :: List.range k) acc w e (by
      rw [runLanes_cons]
      simp only [List.mem_append, List.mem_singleton] at he
      rcases he with he | rfl
      · exact List.mem_cons_of_mem _ he
      · exact List.mem_cons_self)

end Kinds

/-! ### Folding the lanes -/

section Fold

/-- The merged values after some lanes: each shared value folded, in order, with its column of
the copies of those lanes. -/
def Folded (templates : List Acc) (rows : List (List Acc)) (merged : List Acc) : Prop :=
  merged.map Acc.kind = templates.map Acc.kind ∧
    ∀ j < templates.length,
      (rows.map (·.getD j default)).foldlM (fun a l => a.combine (some l)) (templates.getD j default) =
        .ok (merged.getD j default)

theorem folded_nil (templates : List Acc) : Folded templates [] templates :=
  ⟨rfl, fun _ _ => rfl⟩

theorem forall_of_kinds {P : Acc → Prop} (hP : ∀ a b : Acc, a.kind = b.kind → P b → P a) :
    ∀ {ms ts : List Acc}, ms.map Acc.kind = ts.map Acc.kind → (∀ t ∈ ts, P t) → ∀ m ∈ ms, P m
  | [], _, _, _ => by simp
  | m :: ms, t :: ts, hk, ht => by
    simp only [List.map_cons, List.cons.injEq] at hk
    intro x hx
    rcases List.mem_cons.1 hx with rfl | hx
    · exact hP x t hk.1 (ht t (by simp))
    · exact forall_of_kinds hP hk.2 (fun y hy => ht y (by simp [hy])) x hx
  | _ :: _, [], hk, _ => by simp at hk

theorem reduces_of_kinds {ms ts : List Acc} (hk : ms.map Acc.kind = ts.map Acc.kind)
    (ht : ∀ t ∈ ts, t.reduces = true) : ∀ m ∈ ms, m.reduces = true :=
  forall_of_kinds (fun a b h hb => by rw [Acc.reduces_eq_of_identity_eq (identity_eq_of_kind_eq h)]; exact hb)
    hk ht

theorem bounded_of_kinds {ms ts : List Acc} (hk : ms.map Acc.kind = ts.map Acc.kind)
    (ht : ∀ t ∈ ts, t.encode.length < 2 ^ 64) : ∀ m ∈ ms, m.encode.length < 2 ^ 64 :=
  forall_of_kinds (fun a b h hb => by rw [Acc.encode_length_of_kind_eq h]; exact hb) hk ht

theorem mergeLane_ok : ∀ (merged locals : List Acc), locals.map Acc.kind = merged.map Acc.kind →
    (∀ m ∈ merged, m.reduces = true) →
    ∃ merged', mergeLane merged locals = .ok merged' ∧ merged'.map Acc.kind = merged.map Acc.kind ∧
      ∀ j < merged.length,
        (merged.getD j default).combine (some (locals.getD j default)) = .ok (merged'.getD j default)
  | [], [], _, _ => ⟨[], rfl, rfl, fun _ hj => absurd hj (Nat.not_lt_zero _)⟩
  | m :: ms, l :: ls, hk, hr => by
    simp only [List.map_cons, List.cons.injEq] at hk
    obtain ⟨c, hc, hck⟩ := Acc.combine_ok_of_kind_eq (hr m (by simp)) hk.1.symm
    obtain ⟨cs, hcs, hcsk, hcsj⟩ := mergeLane_ok ms ls hk.2 (fun x hx => hr x (by simp [hx]))
    refine ⟨c :: cs, ?_, by simp [hck, hcsk], ?_⟩
    · have hm : mergeLane (m :: ms) (l :: ls) =
          (do let c ← Mergeable.combine m l; let cs ← mergeLane ms ls; pure (c :: cs)) := by
        simp [mergeLane]
      rw [hm]
      change (do let c ← m.combine (some l); let cs ← mergeLane ms ls; pure (c :: cs)) = _
      rw [hc, hcs]
      rfl
    · intro j hj
      cases j with
      | zero => simpa using hc
      | succ j => simpa using hcsj j (by simpa using hj)
  | [], _ :: _, hk, _ => by simp at hk
  | _ :: _, [], hk, _ => by simp at hk

theorem folded_snoc {templates : List Acc} {rows : List (List Acc)} {merged merged' locals : List Acc}
    (hf : Folded templates rows merged) (hk : locals.map Acc.kind = merged.map Acc.kind)
    (hm : mergeLane merged locals = .ok merged') (hr : ∀ m ∈ merged, m.reduces = true) :
    Folded templates (rows ++ [locals]) merged' := by
  obtain ⟨m', hm', hk', hj⟩ := mergeLane_ok merged locals hk hr
  rw [hm, Except.ok.injEq] at hm'
  subst hm'
  refine ⟨hk'.trans hf.1, fun j hj' => ?_⟩
  have hlen : merged.length = templates.length := by
    simpa using congrArg List.length hf.1
  rw [List.map_append, List.foldlM_append, hf.2 j hj']
  simp only [List.map_cons, List.map_nil, List.foldlM_cons, List.foldlM_nil, bind_pure]
  exact hj j (by omega)

theorem transfer_ok {locals : List Acc} (h : ∀ a ∈ locals, a.encode.length < 2 ^ 64) :
    locals.mapM Mergeable.transfer = .ok locals := by
  induction locals with
  | nil => rfl
  | cons a rest ih =>
    have ha : Mergeable.transfer a = .ok a := decode_encode_acc a (h a (by simp))
    rw [List.mapM_cons, ha, ih (fun x hx => h x (by simp [hx]))]
    rfl


/-- **The merge phase.** Folding lanes whose copies keep the kinds of the shared values takes in
every lane whose body succeeded, in lane order, and reports every other lane with the failure of
its body; no lane fails in the fold itself. -/
theorem foldLanes_spec {ε : Type} {templates : List Acc} (hred : ∀ t ∈ templates, t.reduces = true)
    (hsize : ∀ t ∈ templates, t.encode.length < 2 ^ 64) (devices : Bool) :
    ∀ (ends : List (LaneEnd Acc ε)) (i : Nat) (rows : List (List Acc)) (merged : List Acc)
      (scope : Metrics.Scope) (fails : List (Nat × LaneFailure ε)),
      Folded templates rows merged →
      (∀ e ∈ ends, e.locals.map Acc.kind = templates.map Acc.kind) →
      Folded templates (rows ++ okLocals ends) (foldLanes devices i ends merged scope fails).1 ∧
        (foldLanes devices i ends merged scope fails).2.2 = fails.reverse ++ bodyFailures i ends
  | [], i, rows, merged, scope, fails, hf, _ => by
    simpa [foldLanes, okLocals, bodyFailures] using hf
  | ⟨.ok (), locals, escope⟩ :: rest, i, rows, merged, scope, fails, hf, hk => by
    have hkl0 : locals.map Acc.kind = templates.map Acc.kind := hk _ List.mem_cons_self
    have hkl : locals.map Acc.kind = merged.map Acc.kind := hkl0.trans hf.1.symm
    have hr := reduces_of_kinds hf.1 hred
    obtain ⟨merged', hm, -, -⟩ := mergeLane_ok merged locals hkl hr
    -- a lane that drove a device moves its copies across the boundary first, unchanged
    have hmoved : (if devices then locals.mapM Mergeable.transfer else .ok locals) =
        (.ok locals : Except Fault (List Acc)) := by
      cases devices
      · rfl
      · exact transfer_ok (bounded_of_kinds hkl0 hsize)
    have ih := foldLanes_spec hred hsize devices rest (i + 1) (rows ++ [locals]) merged'
      (scope.merge escope) fails (folded_snoc hf hkl hm hr) (fun e he => hk e (by simp [he]))
    simp only [foldLanes, hmoved, hm]
    simpa [okLocals, bodyFailures, LaneEnd.bodyFailure] using ih
  | ⟨.error (.error err), locals, escope⟩ :: rest, i, rows, merged, scope, fails, hf, hk => by
    have ih := foldLanes_spec hred hsize devices rest (i + 1) rows merged
      ((scope.merge escope).incr Metrics.lanesFailed 1) ((i, .body err) :: fails) hf
      (fun e he => hk e (by simp [he]))
    simp only [foldLanes]
    simpa [okLocals, bodyFailures, LaneEnd.bodyFailure] using ih
  | ⟨.error (.panic m), locals, escope⟩ :: rest, i, rows, merged, scope, fails, hf, hk => by
    have ih := foldLanes_spec hred hsize devices rest (i + 1) rows merged
      ((scope.merge escope).incr Metrics.lanesFailed 1) ((i, .panic (firstLine m)) :: fails) hf
      (fun e he => hk e (by simp [he]))
    simp only [foldLanes]
    simpa [okLocals, bodyFailures, LaneEnd.bodyFailure] using ih

theorem checkShared_ok : ∀ (i : Nat) (templates : List Acc),
    (∀ t ∈ templates, ∃ c, t.identity.combine (some t.identity) = .ok c) →
    checkShared i (templates.map some) = .ok templates
  | _, [], _ => rfl
  | i, t :: rest, h => by
    obtain ⟨c, hc⟩ := h t (by simp)
    have hc' : Mergeable.combine (Mergeable.identity t) (Mergeable.identity t) = .ok c := hc
    simp only [List.map_cons, checkShared, hc',
      checkShared_ok (i + 1) rest (fun x hx => h x (by simp [hx]))]
    rfl

end Fold


/-! ### The region -/

section Run

variable {σ ε : Type}

/-- A region that passes its checks and plans its lanes runs them, and its result and outcome
are those of folding the lanes' ends. -/
theorem run_of_planned (e : Executor) (p : Policy) (plan : Plan) (body : LaneM Acc σ ε Unit)
    (shared : List (Nat × Acc)) (world : σ) (hplan : p.plan e = .ok plan)
    (hdev : plan.devices = true → openDevices e.accelerator plan.lanes = .ok ())
    (hcheck : ∀ x ∈ shared, ∃ c, x.2.identity.combine (some x.2.identity) = .ok c) :
    let ends := laneEnds body plan.lanes plan.devices (shared.map (·.1)) (shared.map (·.2))
      e.accelerator world
    let folded := foldLanes plan.devices 0 ends (shared.map (·.2)) e.scope []
    let r := run e (some p) (some body) (shared.map fun x => (x.1, some x.2)) world
    r.merged = some folded.1 ∧
      r.outcome = if folded.2.2.isEmpty then .ok else .failed plan.lanes folded.2.2 := by
  have hvals : (shared.map fun x => (x.1, some x.2)).map (·.2) = (shared.map (·.2)).map some := by
    simp
  have hhandles : (shared.map fun x => (x.1, some x.2)).map (·.1) = shared.map (·.1) := by
    simp
  have hok := checkShared_ok 0 (shared.map (·.2)) (by
    intro t ht
    obtain ⟨x, hx, rfl⟩ := List.mem_map.1 ht
    exact hcheck x hx)
  have hopen : (if plan.devices then openDevices e.accelerator plan.lanes else .ok ()) =
      (.ok () : Except Fault Unit) := by
    cases hd : plan.devices
    · rfl
    · exact hdev hd
  obtain ⟨held, hplanOn⟩ := Policy.planOn_of_plan hplan
  simp only [run, hvals, hok, hplanOn, hopen, hhandles]
  exact ⟨rfl, rfl⟩

/-- **The merge law of regions.** Take a region that passes its checks and plans `n` lanes, over
shared accumulators whose kinds reduce, and a body that changes its copies only as accumulators
allow. The `i`-th lane ends as the body run with index `i` on fresh copies of the shared
accumulators. Each shared accumulator ends as its state before the region folded, in lane order,
with the copies of the lanes whose body succeeded; a lane that drove a device contributes the
same. The region succeeds exactly when all `n` lanes did, and otherwise reports each lane whose
body failed, with that failure, in lane order.

Every accumulator a program holds has an envelope shorter than `2 ^ 64` bytes (`hsize`). -/
theorem region_merge_law (e : Executor) (p : Policy) (plan : Plan) (body : LaneM Acc σ ε Unit)
    (shared : List (Nat × Acc)) (world : σ) (hplan : p.plan e = .ok plan)
    (hdev : plan.devices = true → openDevices e.accelerator plan.lanes = .ok ())
    (hcheck : ∀ x ∈ shared, ∃ c, x.2.identity.combine (some x.2.identity) = .ok c)
    (hsize : ∀ x ∈ shared, x.2.encode.length < 2 ^ 64) (hbody : KeepsKinds body) :
    let templates := shared.map (·.2)
    let ends := laneEnds body plan.lanes plan.devices (shared.map (·.1)) templates e.accelerator world
    let r := run e (some p) (some body) (shared.map fun x => (x.1, some x.2)) world
    (∀ i < plan.lanes, ∃ acc w, ends[i]? = some (runLane body
      ⟨i, plan.lanes, if plan.devices then some i else none, shared.map (·.1)⟩ templates acc w).1) ∧
    (∃ merged, r.merged = some merged ∧ merged.length = templates.length ∧
      ∀ j < templates.length,
        ((okLocals ends).map (·.getD j default)).foldlM (fun a l => a.combine (some l))
          (templates.getD j default) = .ok (merged.getD j default)) ∧
    r.outcome = if (okLocals ends).length = plan.lanes then .ok
      else .failed plan.lanes (bodyFailures 0 ends) := by
  intro templates ends r
  obtain ⟨hmerged, houtcome⟩ := run_of_planned e p plan body shared world hplan hdev hcheck
  have hred : ∀ t ∈ templates, t.reduces = true := by
    intro t ht
    obtain ⟨x, hx, rfl⟩ := List.mem_map.1 ht
    exact Acc.reduces_of_combine_identity (hcheck x hx)
  have hbound : ∀ t ∈ templates, t.encode.length < 2 ^ 64 := by
    intro t ht
    obtain ⟨x, hx, rfl⟩ := List.mem_map.1 ht
    exact hsize x hx
  obtain ⟨hfolded, hfails⟩ := foldLanes_spec hred hbound plan.devices ends 0 [] templates e.scope
    [] (folded_nil templates) (laneEnds_kinds hbody _ _ _ _ _ _)
  refine ⟨laneEnds_getElem body plan.lanes plan.devices _ templates e.accelerator world,
    ⟨_, hmerged, ?_, hfolded.2⟩, ?_⟩
  · simpa using congrArg List.length hfolded.1
  · -- the region reports its lanes' failures, and has none exactly when every lane succeeded
    have hcount := okLocals_length_add 0 ends
    rw [laneEnds_length] at hcount
    rw [houtcome, hfails, List.reverse_nil, List.nil_append]
    by_cases hk : (okLocals ends).length = plan.lanes
    · have hnil : bodyFailures 0 ends = [] := List.eq_nil_of_length_eq_zero (by omega)
      simp [hk, hnil]
    · have hne : (bodyFailures 0 ends).isEmpty = false := by
        cases h : bodyFailures 0 ends with
        | nil => simp [h] at hcount; omega
        | cons _ _ => rfl
      simp [hk, hne]


/-- Two lanes on cores over one whole-number sum, with a body that leaves its copies alone: the
checks pass, and the region folds the copies into a result. -/
theorem region_merge_law_two_lanes :
    Policy.plan Executor.host (.lanes 2) = .ok ⟨2, false, none⟩ ∧
      KeepsKinds (pure () : LaneM Acc Unit Unit Unit) ∧
      ∃ merged, (run Executor.host (some (.lanes 2)) (some (pure () : LaneM Acc Unit Unit Unit))
        [(0, some (.long ⟨.sum, 5⟩))] ()).merged = some merged := by
  have hbody : KeepsKinds (pure () : LaneM Acc Unit Unit Unit) := fun _ _ => rfl
  have hlaw := region_merge_law Executor.host (.lanes 2) ⟨2, false, none⟩
    (pure () : LaneM Acc Unit Unit Unit) [(0, .long ⟨.sum, 5⟩)] () rfl (fun h => absurd h (by decide))
    (by
      intro x hx
      simp only [List.mem_singleton] at hx
      subst hx
      exact ⟨_, rfl⟩)
    (by decide +kernel) hbody
  obtain ⟨merged, hmerged, -⟩ := hlaw.2.1
  exact ⟨rfl, hbody, merged, hmerged⟩

end Run

end Lanes.Region
