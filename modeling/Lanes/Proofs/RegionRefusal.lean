import Lanes.Proofs.RegionMerge
import Lanes.Proofs.HostPlacement
import Mathlib

/-!
Refusals before the fork.

Before any lane starts, a region checks its policy, its body and its shared values, plans its
lanes and opens their devices. Each check that fails stops the region with a fault of its own.
A missing policy, body or shared value is an invalid argument. A shared value whose kind defines
no reduction is not supported. A policy that cannot be planned gives the fault of its count, of
resolving or of placing, which is an invalid argument or an unavailable resource. A device that
cannot be opened leaves the resources unavailable. A unit that its placement cannot admit yet
leaves the region waiting.

However a region stops before forking, it invokes no body and leaves its shared values, the world
and the executor as they were (`run_unforked`). Every region, forked or not, gives back the lease
its plan took, so the placement ends as it began (`run_placement`).

Main statement: `region_refusal_before_fork`.
-/

namespace Lanes

/-! ### Faults of the checks -/

theorem Fault.kindOf_wrap {k : FaultKind} (hk : k ≠ .other) (s : Severity) (m : String)
    (inner : Fault) : (Fault.wrap k s m inner).kindOf = some k := by
  cases inner with
  | text t => simp [Fault.wrap, Fault.kindOf]
  | coded m' k' s' c =>
    have hkind : (if k' = k ∨ k = .other then k' else k) = k := by
      split <;> grind
    simp only [Fault.wrap, Fault.kindOf]
    split <;> simp_all

namespace Accumulator.Acc

theorem combine_identity_unsupported {a : Acc} (h : a.reduces = false) :
    ∃ f, a.identity.combine (some a.identity) = .error f ∧ f.kindOf = some .notSupported := by
  obtain ⟨f, hf, hk⟩ := combineSame_unsupported a.identity (by rw [reduces_identity, h]) rfl
  have hcomb : a.identity.combine (some a.identity) = combineSame a.identity a.identity := by
    simp [combine]
  exact ⟨f, hcomb.trans hf, hk⟩

theorem combine_identity_ok {a : Acc} (h : a.reduces = true) :
    ∃ c, a.identity.combine (some a.identity) = .ok c := by
  obtain ⟨c, hc, -⟩ := combine_ok_of_kind_eq (a := a.identity) (b := a.identity)
    (by rw [reduces_identity, h]) rfl
  exact ⟨c, hc⟩

end Accumulator.Acc

namespace Manifest

theorem validate_error_kind {m : Manifest} {f : Fault} (h : m.validate = .error f) :
    f.kindOf = some .invalid := by
  unfold validate at h
  split at h
  · cases h; simp
  · split at h
    · cases h; simp
    · cases h

theorem resolveCount_error_kind {what : String} {asked offered : Int} {f : Fault}
    (h : resolveCount what asked offered = .error f) : f.kindOf = some .unavailable := by
  unfold resolveCount at h
  split at h
  · cases h; simp
  · split at h
    · cases h
    · split at h
      · cases h; simp
      · cases h

theorem resolve_error_kind {m : Manifest} {inv : Inventory} {f : Fault}
    (h : m.resolve inv = .error f) : f.kindOf = some .invalid ∨ f.kindOf = some .unavailable := by
  unfold resolve at h
  cases hv : m.validate with
  | error e =>
    rw [hv] at h
    cases h
    exact .inl (validate_error_kind hv)
  | ok u =>
    cases hc : resolveCount "cores" m.cores inv.cores with
    | error e =>
      rw [hv, hc] at h
      cases h
      exact .inr (resolveCount_error_kind hc)
    | ok c =>
      cases hd : resolveCount "accelerators" m.accelerators inv.accelerators with
      | error e =>
        rw [hv, hc, hd] at h
        cases h
        exact .inr (resolveCount_error_kind hd)
      | ok d => rw [hv, hc, hd] at h; cases h

end Manifest

theorem Placement.place_refused {p : Placement} {m : Manifest} {f : Fault}
    (h : p.place m = .refused f) : m.resolve p.offered = .error f := by
  unfold Placement.place at h
  split at h
  · rename_i f' hres
    cases h
    exact hres
  · split at h
    · cases h
    · split at h
      · split at h <;> cases h
      · cases h

namespace Region

theorem Except.error_of_map {α β ε : Type} {x : Except ε α} {g : α → β} {u : ε}
    (h : x.map g = .error u) : x = .error u := by
  cases x with
  | error u' => cases h; rfl
  | ok a => cases h

theorem Plan.sized_lease {n : Int} {d : Bool} {l : Option Allocation} {plan : Plan}
    (h : Plan.sized n d l = .ok plan) : plan.lease = l := by
  unfold Plan.sized at h
  split at h
  · cases h
  · cases h; rfl

theorem Plan.sized_ne_refused (n : Int) (d : Bool) (l : Option Allocation) (f : Fault) :
    Plan.sized n d l ≠ .error (.refused f) := by
  unfold Plan.sized
  split <;> simp

/-- A policy that cannot be planned is refused for its count, or by resolving or placing its
manifest: an invalid argument or an unavailable resource. -/
theorem Policy.plan_refused_kind {e : Executor} {p : Policy} {f : Fault}
    (h : p.plan e = .error (.refused f)) :
    f.kindOf = some .invalid ∨ f.kindOf = some .unavailable := by
  have hon := Except.error_of_map h
  -- a plan of a size never refuses, so the refusal is one of the checks before it
  have sized_map : ∀ {n d l} {q : Option Placement},
      (Plan.sized n d l).map (·, q) ≠ .error (.refused f) :=
    fun hs => Plan.sized_ne_refused _ _ _ f (Except.error_of_map hs)
  cases p with
  | lanes n =>
    simp only [Policy.planOn] at hon
    split at hon
    · cases hon; exact .inl (by simp)
    · exact absurd hon sized_map
  | devices n =>
    simp only [Policy.planOn] at hon
    split at hon
    · cases hon; exact .inl (by simp)
    · split at hon
      · exact absurd hon sized_map
      · cases hon; exact Manifest.resolve_error_kind ‹_›
  | allCores =>
    simp only [Policy.planOn] at hon
    split at hon
    · exact absurd hon sized_map
    · cases hon; exact Manifest.resolve_error_kind ‹_›
  | allDevices =>
    simp only [Policy.planOn] at hon
    split at hon
    · exact absurd hon sized_map
    · cases hon; exact Manifest.resolve_error_kind ‹_›
  | unit m =>
    simp only [Policy.planOn] at hon
    split at hon
    · rename_i pl _
      split at hon
      · split at hon <;> exact absurd hon sized_map
      · cases hon
      · rename_i f' hplace
        cases hon
        exact Manifest.resolve_error_kind (Placement.place_refused hplace)
    · split at hon
      · split at hon <;> exact absurd hon sized_map
      · cases hon; exact Manifest.resolve_error_kind ‹_›

theorem Policy.planOn_count_invalid {e : Executor} {n : Int} (hn : n ≤ 0) {p : Policy}
    (hp : p = .lanes n ∨ p = .devices n) :
    ∃ f, p.planOn e = .error (.refused f) ∧ f.kindOf = some .invalid := by
  rcases hp with rfl | rfl
  · exact ⟨_, by rw [Policy.planOn, if_pos hn], by simp⟩
  · exact ⟨_, by rw [Policy.planOn, if_pos hn], by simp⟩

theorem openDevices_error_kind {acc : Accelerator} {n : Nat} {f : Fault}
    (h : openDevices acc n = .error f) : f.kindOf = some .unavailable := by
  unfold openDevices at h
  dsimp only at h
  split at h
  · cases h
    exact Fault.kindOf_wrap (by decide) _ _ _
  · cases h

/-! ### The shared values -/

open Accumulator in
/-- A shared value a region accepts: present, and of a kind whose reductions are all defined. -/
def acceptsShared : Option Acc → Bool
  | some a => a.reduces
  | none => false

open Accumulator in
theorem checkShared_ok_of_accepts : ∀ {vs : List (Option Acc)}, (∀ x ∈ vs, acceptsShared x) →
    ∀ i, ∃ values, checkShared i vs = .ok values
  | [], _, _ => ⟨[], rfl⟩
  | none :: _, h, _ => absurd (h none (by simp)) (by simp [acceptsShared])
  | some a :: rest, h, i => by
    obtain ⟨c, hc⟩ := Acc.combine_identity_ok (h (some a) (by simp))
    have hc' : Mergeable.combine (Mergeable.identity a) (Mergeable.identity a) = .ok c := hc
    obtain ⟨values, hrest⟩ :=
      checkShared_ok_of_accepts (fun x (hx : x ∈ rest) => h x (by simp [hx])) (i + 1)
    exact ⟨a :: values, by simp only [checkShared, hc', hrest]; rfl⟩

open Accumulator in
/-- The check of the shared values stops at the first one it does not accept: an invalid argument
when that value is missing, not supported when its kind leaves a reduction undefined. -/
theorem checkShared_first_failure {v : Option Acc} (post : List (Option Acc))
    (hv : acceptsShared v = false) : ∀ (i : Nat) (pre : List (Option Acc)),
    (∀ x ∈ pre, acceptsShared x) →
    ∃ f, checkShared i (pre ++ v :: post) = .error f ∧
      f.kindOf = some (if v.isNone then .invalid else .notSupported)
  | i, [], _ => by
    cases v with
    | none => exact ⟨_, rfl, by simp⟩
    | some a =>
      obtain ⟨f, hf, hkind⟩ := Acc.combine_identity_unsupported hv
      have hc : Mergeable.combine (Mergeable.identity a) (Mergeable.identity a) = .error f := hf
      refine ⟨Fault.within ("region: shared accumulator " ++ toString i) f,
        by simp only [List.nil_append, checkShared, hc], ?_⟩
      rw [Fault.kindOf_within _ _ (by simp [hkind]), hkind]
      rfl
  | i, none :: _, hpre => absurd (hpre none (by simp)) (by simp [acceptsShared])
  | i, some a :: pre, hpre => by
    -- an accepted value passes, and the failure further on is the whole check's
    obtain ⟨c, hc⟩ := Acc.combine_identity_ok (hpre (some a) (by simp))
    have hc' : Mergeable.combine (Mergeable.identity a) (Mergeable.identity a) = .ok c := hc
    obtain ⟨f, hf, hkind⟩ := checkShared_first_failure post hv (i + 1) pre
      (fun x hx => hpre x (by simp [hx]))
    exact ⟨f, by simp only [List.cons_append, checkShared, hc', hf]; rfl, hkind⟩

/-! ### The lease -/

theorem Plan.sized_map_ok {n : Int} {d : Bool} {l : Option Allocation} {q held : Option Placement}
    {plan : Plan} (h : (Plan.sized n d l).map (·, q) = .ok (plan, held)) :
    held = q ∧ plan.lease = l := by
  cases hsz : Plan.sized n d l with
  | error u => rw [hsz] at h; cases h
  | ok plan' =>
    rw [hsz] at h
    cases h
    exact ⟨rfl, Plan.sized_lease hsz⟩

theorem Policy.planOn_ok_cases {e : Executor} {p : Policy} {plan : Plan} {held : Option Placement}
    (h : p.planOn e = .ok (plan, held)) :
    (held = e.placement ∧ plan.lease = none) ∨
    ∃ m pl a rest, e.placement = some pl ∧ pl.place m = .granted a rest ∧ held = some rest ∧
      plan.lease = some a := by
  cases p with
  | lanes n =>
    simp only [Policy.planOn] at h
    split at h
    · cases h
    · exact .inl (Plan.sized_map_ok h)
  | devices n =>
    simp only [Policy.planOn] at h
    split at h
    · cases h
    · split at h
      · exact .inl (Plan.sized_map_ok h)
      · cases h
  | allCores =>
    simp only [Policy.planOn] at h
    split at h
    · exact .inl (Plan.sized_map_ok h)
    · cases h
  | allDevices =>
    simp only [Policy.planOn] at h
    split at h
    · exact .inl (Plan.sized_map_ok h)
    · cases h
  | unit m =>
    simp only [Policy.planOn] at h
    split at h
    · rename_i pl hpl
      split at h
      · -- the unit was granted: the plan holds its allocation
        rename_i a rest hplace
        obtain ⟨hheld, hl⟩ : held = some rest ∧ plan.lease = some a := by
          split at h <;> exact Plan.sized_map_ok h
        exact .inr ⟨m, pl, a, rest, hpl, hplace, hheld, hl⟩
      · cases h
      · cases h
    · rename_i hpl
      split at h
      · obtain ⟨hheld, hl⟩ : held = none ∧ plan.lease = none := by
          split at h <;> exact Plan.sized_map_ok h
        exact .inl ⟨hheld.trans hpl.symm, hl⟩
      · cases h

/-- Giving a plan's lease back leaves the executor's placement as it was before planning. -/
theorem Policy.planOn_placement {e : Executor} {p : Policy} {plan : Plan} {held : Option Placement}
    (h : p.planOn e = .ok (plan, held)) : held.map plan.release = e.placement := by
  rcases Policy.planOn_ok_cases h with ⟨rfl, hl⟩ | ⟨m, pl, a, rest, hpl, hplace, rfl, hl⟩
  · -- a plan that holds no lease gives nothing back
    cases e.placement with
    | none => rfl
    | some pl => simp [Plan.release, hl]
  · -- the unit's allocation goes back to the pools that granted it
    simp [Plan.release, hl, hpl, Placement.release_place hplace]

variable {α σ ε : Type} [Mergeable α]

/-- What a region can end as. It stops before planning, or planning stops it, and then it is as it
was; or it stops opening its devices, with its lease given back; or it forks, and its outcome is
its lanes'. -/
theorem run_cases (e : Executor) (policy : Option Policy) (body : Option (LaneM α σ ε Unit))
    (shared : List (Nat × Option α)) (world : σ) :
    let r := run e policy body shared world
    (r.executor = e ∧ r.world = world ∧ r.ran = [] ∧ r.merged = none ∧
      ((∃ f, r.outcome = .refused f) ∨ r.outcome = .waits ∨ ∃ m, r.outcome = .panicked m)) ∨
    (∃ p plan held, policy = some p ∧ p.planOn e = .ok (plan, held) ∧
      r.executor = { e with placement := held.map plan.release } ∧ r.world = world ∧ r.ran = [] ∧
      r.merged = none ∧ ∃ f, r.outcome = .refused f) ∨
    (∃ p plan held, policy = some p ∧ p.planOn e = .ok (plan, held) ∧
      r.executor.placement = held.map plan.release ∧
      (∃ fails, r.outcome = if fails.isEmpty then .ok else .failed plan.lanes fails) ∧
      ∃ b info values, body = some b ∧
        r.world = (runLanes b info values (laneOrder plan.lanes) e.accelerator world).2.2) := by
  intro r
  rcases policy with _ | p
  · exact .inl ⟨rfl, rfl, rfl, rfl, .inl ⟨_, rfl⟩⟩
  rcases body with _ | b
  · exact .inl ⟨rfl, rfl, rfl, rfl, .inl ⟨_, rfl⟩⟩
  cases hc : checkShared 0 (shared.map (·.2)) with
  | error f =>
    have hr : r = ⟨e, world, [], none, .refused f⟩ := by simp only [r, run, hc]
    rw [hr]
    exact .inl ⟨rfl, rfl, rfl, rfl, .inl ⟨f, rfl⟩⟩
  | ok values =>
    cases hp : p.planOn e with
    | error u =>
      cases u with
      | refused f =>
        have hr : r = ⟨e, world, [], none, .refused f⟩ := by simp only [r, run, hc, hp]
        rw [hr]
        exact .inl ⟨rfl, rfl, rfl, rfl, .inl ⟨f, rfl⟩⟩
      | waits =>
        have hr : r = ⟨e, world, [], none, .waits⟩ := by simp only [r, run, hc, hp]
        rw [hr]
        exact .inl ⟨rfl, rfl, rfl, rfl, .inr (.inl rfl)⟩
      | panics m =>
        have hr : r = ⟨e, world, [], none, .panicked m⟩ := by simp only [r, run, hc, hp]
        rw [hr]
        exact .inl ⟨rfl, rfl, rfl, rfl, .inr (.inr ⟨m, rfl⟩)⟩
    | ok ph =>
      obtain ⟨plan, held⟩ := ph
      cases ho : (if plan.devices then openDevices e.accelerator plan.lanes else .ok ()) with
      | error f =>
        have hr : r = ⟨{ e with placement := held.map plan.release }, world, [], none, .refused f⟩ := by
          simp only [r, run, hc, hp, ho]
        rw [hr]
        exact .inr (.inl ⟨p, plan, held, rfl, hp, rfl, rfl, rfl, rfl, f, rfl⟩)
      | ok u =>
        refine .inr (.inr ⟨p, plan, held, rfl, hp, ?_, ?_, b,
          fun i => ⟨i, plan.lanes, if plan.devices then some i else none, shared.map (·.1)⟩,
          values, rfl, ?_⟩)
        · simp only [r, run, hc, hp, ho]
        · simp only [r, run, hc, hp, ho]
          exact ⟨_, rfl⟩
        · simp only [r, run, hc, hp, ho]

/-- Every region ends with the placement it began with: the lease its plan took is given back,
whatever its lanes do. -/
theorem run_placement (e : Executor) (policy : Option Policy) (body : Option (LaneM α σ ε Unit))
    (shared : List (Nat × Option α)) (world : σ) :
    (run e policy body shared world).executor.placement = e.placement := by
  rcases run_cases e policy body shared world with
    ⟨he, -⟩ | ⟨p, plan, held, -, hp, he, -⟩ | ⟨p, plan, held, -, hp, hplacement, -⟩
  · rw [he]
  · rw [he]
    exact Policy.planOn_placement hp
  · rw [hplacement]
    exact Policy.planOn_placement hp

/-- A region that stops before forking invokes no body and leaves its shared values, the world and
the executor as they were. -/
theorem run_unforked (e : Executor) (policy : Option Policy) (body : Option (LaneM α σ ε Unit))
    (shared : List (Nat × Option α)) (world : σ)
    (h : (∃ f, (run e policy body shared world).outcome = .refused f) ∨
      (run e policy body shared world).outcome = .waits) :
    let r := run e policy body shared world
    r.ran = [] ∧ r.merged = none ∧ r.world = world ∧ r.executor = e := by
  intro r
  rcases run_cases e policy body shared world with
    ⟨he, hw, hran, hm, -⟩ | ⟨p, plan, held, -, hp, he, hw, hran, hm, -⟩ |
      ⟨p, plan, held, -, hp, -, ⟨fails, hout⟩, -⟩
  · exact ⟨hran, hm, hw, he⟩
  · refine ⟨hran, hm, hw, ?_⟩
    rw [he, Policy.planOn_placement hp]
  · -- a region that forked ends as its lanes did, neither refused nor waiting
    exfalso
    rcases h with ⟨f, hf⟩ | hf <;> rw [hout] at hf <;> split at hf <;> cases hf

/-! ### Which check stops a region -/

section Checks

variable (e : Executor) (p : Policy) (b : LaneM α σ ε Unit) (shared : List (Nat × Option α))
  (world : σ) {values : List α} {f : Fault}

theorem run_checkShared_error (h : checkShared 0 (shared.map (·.2)) = .error f) :
    (run e (some p) (some b) shared world).outcome = .refused f := by
  simp only [run, h]

theorem run_planOn_refused (hc : checkShared 0 (shared.map (·.2)) = .ok values)
    (h : p.planOn e = .error (.refused f)) :
    (run e (some p) (some b) shared world).outcome = .refused f := by
  simp only [run, hc, h]

theorem run_planOn_waits (hc : checkShared 0 (shared.map (·.2)) = .ok values)
    (h : p.planOn e = .error .waits) : (run e (some p) (some b) shared world).outcome = .waits := by
  simp only [run, hc, h]

theorem run_openDevices_error {plan : Plan} {held : Option Placement}
    (hc : checkShared 0 (shared.map (·.2)) = .ok values) (h : p.planOn e = .ok (plan, held))
    (hd : plan.devices = true) (ho : openDevices e.accelerator plan.lanes = .error f) :
    (run e (some p) (some b) shared world).outcome = .refused f := by
  simp only [run, hc, h, hd, ho, if_true]

end Checks

open Accumulator in
/-- Refusals before the fork. However a region stops before its lanes start, it invokes no body
and leaves the shared values, the world and the executor (its metrics and its placement) as they
were. It is refused with the fault of the check that failed: a missing policy or body, or a missing
shared value, is an invalid argument; a shared value of a kind with an undefined reduction is not
supported; a policy that cannot be planned is an invalid argument or leaves resources unavailable,
or else the region waits for them; a device that cannot be opened leaves them unavailable. Every
region, whatever its lanes do, ends with the placement it began with. -/
theorem region_refusal_before_fork (e : Executor) (policy : Option Policy)
    (body : Option (LaneM Acc σ ε Unit)) (shared : List (Nat × Option Acc)) (world : σ) :
    let r := run e policy body shared world
    (((∃ f, r.outcome = .refused f) ∨ r.outcome = .waits) →
      r.ran = [] ∧ r.merged = none ∧ r.world = world ∧ r.executor = e) ∧
    ((policy = none ∨ body = none) → ∃ f, r.outcome = .refused f ∧ f.kindOf = some .invalid) ∧
    (∀ pre v post, policy.isSome → body.isSome → shared.map (·.2) = pre ++ v :: post →
      (∀ x ∈ pre, acceptsShared x) → acceptsShared v = false →
      ∃ f, r.outcome = .refused f ∧
        f.kindOf = some (if v.isNone then .invalid else .notSupported)) ∧
    (∀ p b, policy = some p → body = some b → (∀ x ∈ shared.map (·.2), acceptsShared x) →
      (∀ n, n ≤ 0 → (p = .lanes n ∨ p = .devices n) →
        ∃ f, r.outcome = .refused f ∧ f.kindOf = some .invalid) ∧
      (∀ f, p.plan e = .error (.refused f) →
        r.outcome = .refused f ∧ (f.kindOf = some .invalid ∨ f.kindOf = some .unavailable)) ∧
      (p.plan e = .error .waits → r.outcome = .waits) ∧
      (∀ plan f, p.plan e = .ok plan → plan.devices → openDevices e.accelerator plan.lanes = .error f →
        r.outcome = .refused f ∧ f.kindOf = some .unavailable)) ∧
    r.executor.placement = e.placement := by
  intro r
  refine ⟨run_unforked e policy body shared world, ?missing, ?shared, ?planned,
    run_placement e policy body shared world⟩
  case missing =>
    rintro (rfl | rfl)
    · exact ⟨_, rfl, by simp⟩
    · cases policy with
      | none => exact ⟨_, rfl, by simp⟩
      | some p => exact ⟨_, rfl, by simp⟩
  case shared =>
    intro pre v post hp hb hvalues hpre hv
    obtain ⟨p, rfl⟩ := Option.isSome_iff_exists.mp hp
    obtain ⟨b, rfl⟩ := Option.isSome_iff_exists.mp hb
    obtain ⟨f, hf, hkind⟩ := checkShared_first_failure post hv 0 pre hpre
    rw [← hvalues] at hf
    exact ⟨f, run_checkShared_error e p b shared world hf, hkind⟩
  case planned =>
    rintro p b rfl rfl hall
    -- every shared value is accepted, so planning is the first check that can stop the region
    obtain ⟨values, hc⟩ := checkShared_ok_of_accepts hall 0
    refine ⟨fun n hn hp => ?_, fun f hf => ⟨?_, Policy.plan_refused_kind hf⟩, fun hw => ?_,
      fun plan f hplan hd ho => ⟨?_, openDevices_error_kind ho⟩⟩
    · obtain ⟨f, hf, hkind⟩ := Policy.planOn_count_invalid (e := e) hn hp
      exact ⟨f, run_planOn_refused e p b shared world hc hf, hkind⟩
    · exact run_planOn_refused e p b shared world hc (Except.error_of_map hf)
    · exact run_planOn_waits e p b shared world hc (Except.error_of_map hw)
    · obtain ⟨held, hon⟩ := Policy.planOn_of_plan hplan
      exact run_openDevices_error e p b shared world hc hon hd ho

open Accumulator in
/-- A region over a shared whole-number value whose reduction is `none` is refused before any
lane starts, as not supported. -/
theorem region_refusal_before_fork_unsupported :
    ∃ f, (run Executor.host (some (.lanes 2)) (some (pure () : LaneM Acc Unit Unit Unit))
      [(0, some (.long ⟨.none, 0⟩))] ()).outcome = .refused f ∧
        f.kindOf = some .notSupported :=
  (region_refusal_before_fork Executor.host (some (.lanes 2))
    (some (pure () : LaneM Acc Unit Unit Unit)) [(0, some (.long ⟨.none, 0⟩))] ()).2.2.1
    [] (some (.long ⟨.none, 0⟩)) [] rfl rfl rfl (by simp) rfl

end Region

end Lanes
