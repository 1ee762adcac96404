import Lanes.Proofs.HostPlacement
import Lanes.Proofs.RegionRefusal

/-!
How far resolving and planning reach.

Resolving a manifest checks it, then resolves its cores and its devices against an inventory:
"all" becomes the inventory's count, refused only when that count is zero, and any other count
must fit. So a resolved allocation keeps every count that is not "all", takes the inventory's
count for "all", and never exceeds the inventory (`Manifest.Resolves`). Its lower bounds come
from the inventory alone. Nothing checks that an inventory's counts are not negative, and "all"
takes a negative count as it is. Over an inventory with no negative count (`Inventory.Stocked`)
an allocation holds at least one core. Every policy then sizes its table of lanes with at least
one lane; a device plan asks for no more devices than the inventory it was resolved against lists.

Main statements: `resolution_bounds`, and `negative_inventory_resolves_unchecked` for an
inventory of minus one core.
-/

namespace Lanes

/-- An inventory with no negative count. -/
def Inventory.Stocked (inv : Inventory) : Prop := 0 ≤ inv.cores ∧ 0 ≤ inv.accelerators

instance (inv : Inventory) : Decidable inv.Stocked := inferInstanceAs (Decidable (_ ∧ _))

namespace Manifest

/-- A resolved allocation, count by count: the manifest's count where it is not "all", the
inventory's where it is (and then not zero), and never above the inventory. -/
structure Resolves (m : Manifest) (inv : Inventory) (a : Allocation) : Prop where
  cores_of_ne : m.cores ≠ allCount → a.cores = m.cores
  cores_of_all : m.cores = allCount → a.cores = inv.cores ∧ inv.cores ≠ 0
  accelerators_of_ne : m.accelerators ≠ allCount → a.accelerators = m.accelerators
  accelerators_of_all : m.accelerators = allCount → a.accelerators = inv.accelerators ∧ inv.accelerators ≠ 0
  cores_le : a.cores ≤ inv.cores
  accelerators_le : a.accelerators ≤ inv.accelerators

theorem resolveCount_spec {what : String} {asked offered c : Int}
    (h : resolveCount what asked offered = .ok c) :
    (asked ≠ allCount → c = asked) ∧ (asked = allCount → c = offered ∧ offered ≠ 0) ∧ c ≤ offered := by
  rcases resolveCount_ok h with ⟨hall, h0, rfl⟩ | ⟨hne, hle, rfl⟩ <;> omega

theorem resolves_of_resolve {m : Manifest} {inv : Inventory} {a : Allocation}
    (h : m.resolve inv = .ok a) : m.Resolves inv a := by
  obtain ⟨-, hc, hd⟩ := resolve_ok h
  obtain ⟨hc1, hc2, hc3⟩ := resolveCount_spec hc
  obtain ⟨hd1, hd2, hd3⟩ := resolveCount_spec hd
  exact ⟨hc1, hc2, hd1, hd2, hc3, hd3⟩

theorem resolve_of_validate {m : Manifest} (hv : m.validate = .ok ()) (inv : Inventory) :
    m.resolve inv = (do
      let cores ← resolveCount "cores" m.cores inv.cores
      let accelerators ← resolveCount "accelerators" m.accelerators inv.accelerators
      pure ⟨cores, accelerators⟩) := by
  simp only [resolve, hv]
  rfl

theorem resolve_error_cases {m : Manifest} {inv : Inventory} {f : Fault}
    (h : m.resolve inv = .error f) :
    (m.validate ≠ .ok () ∧ f.kindOf = some .invalid) ∨
      (m.validate = .ok () ∧ f.kindOf = some .unavailable) := by
  cases hv : m.validate with
  | error g =>
    -- the check's refusal is the answer
    have hf : g = f := by
      simp only [resolve, hv] at h
      exact Except.error.inj h
    exact .inl ⟨by simp, hf ▸ validate_error_kind hv⟩
  | ok u =>
    refine .inr ⟨rfl, ?_⟩
    rw [resolve_of_validate hv] at h
    cases hc : resolveCount "cores" m.cores inv.cores with
    | error g =>
      rw [hc] at h
      cases h
      exact resolveCount_error_kind hc
    | ok c =>
      cases hd : resolveCount "accelerators" m.accelerators inv.accelerators with
      | error g =>
        rw [hc, hd] at h
        cases h
        exact resolveCount_error_kind hd
      | ok d => rw [hc, hd] at h; cases h

/-- Resolving either refuses, as invalid exactly when the check does, or resolves. -/
theorem resolve_cases (m : Manifest) (inv : Inventory) :
    (∃ f, m.resolve inv = .error f ∧
      ((m.validate ≠ .ok () ∧ f.kindOf = some .invalid) ∨
        (m.validate = .ok () ∧ f.kindOf = some .unavailable))) ∨
    ∃ a, m.resolve inv = .ok a ∧ m.Resolves inv a := by
  cases h : m.resolve inv with
  | error f => exact .inl ⟨f, rfl, resolve_error_cases h⟩
  | ok a => exact .inr ⟨a, rfl, resolves_of_resolve h⟩

end Manifest

namespace Region

/-- An executor whose inventory, and whose placement's inventory if it has one, has no negative
count. -/
def Executor.Stocked (e : Executor) : Prop :=
  e.inventory.Stocked ∧ ∀ p, e.placement = some p → p.offered.Stocked

/-- The inventory a policy is resolved against: the placement's for a unit the executor places,
the executor's otherwise. -/
def Executor.inventoryFor (e : Executor) : Policy → Inventory
  | .unit _ =>
    match e.placement with
    | some p => p.offered
    | none => e.inventory
  | _ => e.inventory

/-- How a resolved unit sizes its region over a stocked inventory: by its devices when it has
some, else by its cores; either way at least one lane. -/
theorem unit_sized {m : Manifest} {inv : Inventory} {a : Allocation} (hr : m.resolve inv = .ok a)
    (hs : inv.Stocked) (l : Option Allocation) :
    ∃ n d, 1 ≤ n ∧ (d = true → n ≤ inv.accelerators) ∧
      (if a.accelerators > 0 then Plan.sized a.accelerators true l else Plan.sized a.cores false l) =
        Plan.sized n d l := by
  have hpos := Manifest.resolve_pos hr hs.1 hs.2
  have hle := (Manifest.resolves_of_resolve hr).accelerators_le
  by_cases hd : a.accelerators > 0
  · exact ⟨a.accelerators, true, by omega, fun _ => hle, if_pos hd⟩
  · exact ⟨a.cores, false, by omega, fun h => absurd h (by simp), if_neg hd⟩

/-- **Planning over a stocked executor.** Every policy is refused, waits for a placement, or
sizes its table of lanes with a count of at least one; a device plan's count is at most the
devices of the inventory it was resolved against. -/
theorem planOn_sized (e : Executor) (hs : e.Stocked) (pol : Policy) :
    (∃ f, pol.planOn e = .error (.refused f)) ∨ pol.planOn e = .error .waits ∨
    ∃ (n : Int) (d : Bool) (l : Option Allocation) (held : Option Placement),
      1 ≤ n ∧ (d = true → n ≤ (e.inventoryFor pol).accelerators) ∧
      pol.planOn e = (Plan.sized n d l).map (·, held) := by
  cases pol with
  | lanes n =>
    by_cases hn : n ≤ 0
    · exact .inl ⟨_, by rw [Policy.planOn, if_pos hn]⟩
    · exact .inr (.inr ⟨n, false, none, e.placement, by omega, by simp,
        by simp [Policy.planOn, hn]⟩)
  | allCores =>
    cases hr : Manifest.resolve ⟨allCount, 0⟩ e.inventory with
    | error f => exact .inl ⟨f, by simp [Policy.planOn, hr]⟩
    | ok a =>
      have hpos := Manifest.resolve_pos hr hs.1.1 hs.1.2
      exact .inr (.inr ⟨a.cores, false, none, e.placement, by omega, by simp,
        by simp [Policy.planOn, hr]⟩)
  | allDevices =>
    cases hr : Manifest.resolve ⟨1, allCount⟩ e.inventory with
    | error f => exact .inl ⟨f, by simp [Policy.planOn, hr]⟩
    | ok a =>
      -- "all" devices resolves to the inventory's count, which is not zero
      obtain ⟨ha, h0⟩ := (Manifest.resolves_of_resolve hr).accelerators_of_all rfl
      have hnn := hs.1.2
      exact .inr (.inr ⟨a.accelerators, true, none, e.placement, by omega,
        fun _ => by simp [Executor.inventoryFor, ha], by simp [Policy.planOn, hr]⟩)
  | devices n =>
    by_cases hn : n ≤ 0
    · exact .inl ⟨_, by rw [Policy.planOn, if_pos hn]⟩
    · cases hr : Manifest.resolve ⟨1, n⟩ e.inventory with
      | error f => exact .inl ⟨f, by simp [Policy.planOn, hn, hr]⟩
      | ok a =>
        have hres := Manifest.resolves_of_resolve hr
        have ha : a.accelerators = n := hres.accelerators_of_ne (by simp [allCount]; omega)
        exact .inr (.inr ⟨a.accelerators, true, none, e.placement, by omega,
          fun _ => hres.accelerators_le, by simp [Policy.planOn, hn, hr]⟩)
  | unit m =>
    cases hp : e.placement with
    | none =>
      cases hr : m.resolve e.inventory with
      | error f => exact .inl ⟨f, by simp [Policy.planOn, hp, hr]⟩
      | ok a =>
        obtain ⟨n, d, h1, hd, hsized⟩ := unit_sized hr hs.1 none
        refine .inr (.inr ⟨n, d, none, none, h1, by simpa [Executor.inventoryFor, hp] using hd, ?_⟩)
        simp only [Policy.planOn, hp, hr]
        rw [hsized]
    | some p =>
      cases hg : p.place m with
      | granted a rest =>
        -- a placed unit is resolved against the placement's own inventory
        have hr := (Placement.place_eq_granted hg).1
        obtain ⟨n, d, h1, hd, hsized⟩ := unit_sized hr (hs.2 p hp) (some a)
        refine .inr (.inr ⟨n, d, some a, some rest, h1, by simpa [Executor.inventoryFor, hp] using hd, ?_⟩)
        simp only [Policy.planOn, hp, hg]
        rw [hsized]
      | waits => exact .inr (.inl (by simp [Policy.planOn, hp, hg]))
      | refused f => exact .inl ⟨f, by simp [Policy.planOn, hp, hg]⟩

/-- **Resolution and the plans it sizes.** Resolving a manifest against any inventory either
refuses it, as invalid exactly when the manifest fails its check and as unavailable otherwise, or
gives an allocation that keeps the manifest's counts that are not "all", takes the inventory's
for "all", and stays within the inventory. Over an inventory with no negative count it holds at
least one core and no negative number of devices. Over an executor with no negative count, every
policy is refused, waits, or sizes its table of lanes with at least one lane, a device plan with
no more devices than the inventory it was resolved against. -/
theorem resolution_bounds (m : Manifest) (inv : Inventory) (e : Executor) (pol : Policy) :
    ((∃ f, m.resolve inv = .error f ∧
        ((m.validate ≠ .ok () ∧ f.kindOf = some .invalid) ∨
          (m.validate = .ok () ∧ f.kindOf = some .unavailable))) ∨
      ∃ a, m.resolve inv = .ok a ∧ m.Resolves inv a ∧
        (inv.Stocked → 1 ≤ a.cores ∧ 0 ≤ a.accelerators)) ∧
    (e.Stocked →
      (∃ f, pol.planOn e = .error (.refused f)) ∨ pol.planOn e = .error .waits ∨
      ∃ (n : Int) (d : Bool) (l : Option Allocation) (held : Option Placement),
        1 ≤ n ∧ (d = true → n ≤ (e.inventoryFor pol).accelerators) ∧
        pol.planOn e = (Plan.sized n d l).map (·, held)) := by
  refine ⟨?_, fun hs => planOn_sized e hs pol⟩
  rcases Manifest.resolve_cases m inv with hf | ⟨a, hr, hres⟩
  · exact .inl hf
  · refine .inr ⟨a, hr, hres, fun hs => ?_⟩
    have := Manifest.resolve_pos hr hs.1 hs.2
    omega

/-- The host's executor and an inventory of four cores are stocked: all four cores resolve as
they are, and a unit of two cores is sized with at least one lane. -/
theorem resolution_bounds_host :
    (⟨4, 0⟩ : Inventory).Stocked ∧ Executor.host.Stocked ∧
      Manifest.Resolves ⟨allCount, 0⟩ ⟨4, 0⟩ ⟨4, 0⟩ ∧
      ∃ (n : Int) (d : Bool) (l : Option Allocation) (held : Option Placement),
        1 ≤ n ∧ (Policy.unit ⟨2, 0⟩).planOn Executor.host = (Plan.sized n d l).map (·, held) := by
  have hinv : (⟨4, 0⟩ : Inventory).Stocked := by decide
  have hhost : Executor.host.Stocked := ⟨by decide, fun p hp => by simp [Executor.host] at hp⟩
  have hres : Manifest.resolve ⟨allCount, 0⟩ ⟨4, 0⟩ = .ok ⟨4, 0⟩ := rfl
  have hplan : (Policy.unit ⟨2, 0⟩).planOn Executor.host = .ok (⟨2, false, none⟩, none) := rfl
  obtain ⟨hall, hunit⟩ := resolution_bounds ⟨allCount, 0⟩ ⟨4, 0⟩ Executor.host (.unit ⟨2, 0⟩)
  refine ⟨hinv, hhost, ?_, ?_⟩
  · rcases hall with ⟨f, hf, -⟩ | ⟨a, ha, hr, -⟩
    · rw [hres] at hf
      cases hf
    · rw [hres] at ha
      cases ha
      exact hr
  · rcases hunit hhost with ⟨f, hf⟩ | hw | ⟨n, d, l, held, h1, -, h⟩
    · rw [hplan] at hf
      cases hf
    · rw [hplan] at hw
      cases hw
    · exact ⟨n, d, l, held, h1, h⟩

/-- Nothing checks an inventory's counts: asking for all of minus one core resolves to minus one
core, and a region of all cores then panics as it sizes its table of lanes. -/
theorem negative_inventory_resolves_unchecked :
    Manifest.resolve ⟨allCount, 0⟩ ⟨-1, 0⟩ = .ok ⟨-1, 0⟩ ∧
      Policy.allCores.planOn ⟨.absent, ⟨-1, 0⟩, none, Metrics.Scope.empty⟩ =
        .error (.panics "runtime error: makeslice: len out of range") := by
  constructor <;> rfl

end Region

end Lanes
