import Lanes.Placement
import Mathlib

/-!
A host's placement as a ledger of leases.

What a pool holds is its heap, or nothing for an empty pool (`Pool.free`). Over an inventory
with non-negative counts, every step keeps the placement a ledger of its leases
(`Leases.Ledger`): the free cores are the inventory's less the cores of the leases still held,
and the same for devices. On such a ledger a unit is granted exactly when it resolves against
the inventory and its cores and devices fit in what is free. A unit that is not granted changes
nothing, a lease given back twice is given back once, and running a body on a unit gives back
everything it took (`Placement.run_placement`), whatever the placement.

Main statement: `host_placement_ledger`.
-/

namespace Lanes

/-! ### Pools -/

namespace Pool

/-- The tokens a pool holds; an empty pool holds none. -/
def free (p : Pool) : Int := p.heap.getD 0

/-- A pool that holds no heap of zero or fewer tokens. -/
def Positive (p : Pool) : Prop := ∀ v, p.heap = some v → 0 < v

theorem free_give (p : Pool) (n : Int) : (p.give n).free = p.free + n := by
  unfold give free
  split
  · omega
  · simp only [Option.getD_some]
    omega

theorem free_ofCount (n : Int) : (ofCount n).free = n := by
  rw [ofCount, free_give]
  simp [free]

theorem take?_eq_some {p q : Pool} {n : Int} (h : p.take? n = some q) :
    ∃ v, p.heap = some v ∧ n ≤ v ∧ q = ⟨if v = n then none else some (v - n)⟩ := by
  unfold take? at h
  cases hp : p.heap with
  | none => simp [hp] at h
  | some v =>
    rw [hp] at h
    by_cases hn : n ≤ v
    · simp only [hn, if_true, Option.some.injEq] at h
      exact ⟨v, rfl, hn, h.symm⟩
    · simp [hn] at h

theorem free_take? {p q : Pool} {n : Int} (h : p.take? n = some q) : q.free = p.free - n := by
  obtain ⟨v, hp, -, rfl⟩ := take?_eq_some h
  simp only [free, hp, Option.getD_some]
  split <;> simp [*]

theorem positive_take? {p q : Pool} {n : Int} (h : p.take? n = some q) : q.Positive := by
  obtain ⟨v, hv, hn, rfl⟩ := take?_eq_some h
  intro w hw
  split at hw
  · cases hw
  · cases hw
    omega

theorem Positive.give {p : Pool} (hp : p.Positive) {n : Int} (hn : 0 ≤ n) : (p.give n).Positive := by
  intro w hw
  unfold Pool.give at hw
  split at hw
  · exact hp w hw
  · cases hw
    cases hh : p.heap with
    | none => simp; omega
    | some v =>
      have := hp v hh
      simp
      omega

theorem positive_ofCount {n : Int} (hn : 0 ≤ n) : (ofCount n).Positive :=
  Positive.give (fun _ h => by cases h) hn

theorem Positive.free_nonneg {p : Pool} (hp : p.Positive) : 0 ≤ p.free := by
  unfold free
  cases hh : p.heap with
  | none => simp
  | some v => simpa using le_of_lt (hp v hh)

theorem take?_isSome_iff (p : Pool) {n : Int} (hn : 0 < n) :
    (p.take? n).isSome ↔ n ≤ p.free := by
  unfold Pool.take? free
  cases hh : p.heap with
  | none => simp; omega
  | some v => by_cases hv : n ≤ v <;> simp [hv]

end Pool

/-! ### Resolving against an inventory -/

namespace Manifest

theorem resolveCount_ok {what : String} {asked offered c : Int}
    (h : resolveCount what asked offered = .ok c) :
    (asked = allCount ∧ offered ≠ 0 ∧ c = offered) ∨ (asked ≠ allCount ∧ asked ≤ offered ∧ c = asked) := by
  unfold resolveCount at h
  split at h
  · cases h
  · rename_i hall
    split at h
    · cases h
      exact .inl ⟨‹_›, fun h0 => hall ⟨‹_›, h0⟩, rfl⟩
    · split at h
      · cases h
      · cases h
        exact .inr ⟨‹_›, by omega, rfl⟩

theorem resolve_ok {m : Manifest} {inv : Inventory} {a : Allocation} (h : m.resolve inv = .ok a) :
    m.validate = .ok () ∧ resolveCount "cores" m.cores inv.cores = .ok a.cores ∧
      resolveCount "accelerators" m.accelerators inv.accelerators = .ok a.accelerators := by
  unfold resolve at h
  cases hv : m.validate with
  | error e => simp [hv] at h; cases h
  | ok u =>
    cases hc : resolveCount "cores" m.cores inv.cores with
    | error e => simp [hv, hc] at h; cases h
    | ok c =>
      cases hd : resolveCount "accelerators" m.accelerators inv.accelerators with
      | error e => simp [hv, hc, hd] at h; cases h
      | ok d =>
        rw [hv, hc, hd] at h
        have ha : (⟨c, d⟩ : Allocation) = a := Except.ok.inj h
        subst ha
        exact ⟨rfl, rfl, rfl⟩

theorem validate_ok {m : Manifest} (h : m.validate = .ok ()) :
    m.cores ≠ 0 ∧ allCount ≤ m.cores ∧ allCount ≤ m.accelerators := by
  unfold validate at h
  split at h
  · cases h
  · split at h
    · cases h
    · omega

theorem resolve_cores_ne_zero {m : Manifest} {inv : Inventory} {a : Allocation}
    (h : m.resolve inv = .ok a) : a.cores ≠ 0 := by
  obtain ⟨hv, hc, -⟩ := resolve_ok h
  have := validate_ok hv
  rcases resolveCount_ok hc with ⟨-, h0, h1⟩ | ⟨-, -, h1⟩ <;> omega

theorem resolve_pos {m : Manifest} {inv : Inventory} {a : Allocation} (h : m.resolve inv = .ok a)
    (hc : 0 ≤ inv.cores) (hd : 0 ≤ inv.accelerators) : 0 < a.cores ∧ 0 ≤ a.accelerators := by
  obtain ⟨hv, hcores, hdevs⟩ := resolve_ok h
  have := validate_ok hv
  have hall : allCount = -1 := rfl
  rcases resolveCount_ok hcores with ⟨-, h0, h1⟩ | ⟨hne, -, h1⟩ <;>
    rcases resolveCount_ok hdevs with ⟨-, h0', h1'⟩ | ⟨hne', -, h1'⟩ <;> omega

end Manifest

/-! ### Placing a unit -/

namespace Placement

theorem place_eq_granted {p rest : Placement} {m : Manifest} {a : Allocation}
    (h : p.place m = .granted a rest) :
    m.resolve p.offered = .ok a ∧ ∃ cores, p.cores.take? a.cores = some cores ∧
      if 0 < a.accelerators then
        ∃ devices, p.devices.take? a.accelerators = some devices ∧ rest = { p with cores, devices }
      else rest = { p with cores } := by
  unfold place at h
  split at h
  · cases h
  · rename_i a' hres
    split at h
    · cases h
    · rename_i cores hcores
      split at h
      · rename_i hpos
        split at h
        · cases h
        · rename_i devices hdevices
          cases h
          exact ⟨hres, cores, hcores, by simp only [gt_iff_lt] at hpos; simp [hpos, hdevices]⟩
      · rename_i hpos
        cases h
        exact ⟨hres, cores, hcores, by simp only [gt_iff_lt] at hpos; simp [hpos]⟩

theorem offered_place {p rest : Placement} {m : Manifest} {a : Allocation}
    (h : p.place m = .granted a rest) : rest.offered = p.offered := by
  obtain ⟨-, cores, -, hrest⟩ := place_eq_granted h
  split at hrest
  · obtain ⟨devices, -, rfl⟩ := hrest
    rfl
  · rw [hrest]

theorem free_place {p rest : Placement} {m : Manifest} {a : Allocation}
    (h : p.place m = .granted a rest) (ha : 0 ≤ a.accelerators) :
    rest.cores.free = p.cores.free - a.cores ∧ rest.devices.free = p.devices.free - a.accelerators := by
  obtain ⟨-, cores, hcores, hrest⟩ := place_eq_granted h
  split at hrest
  · obtain ⟨devices, hdevices, rfl⟩ := hrest
    exact ⟨Pool.free_take? hcores, Pool.free_take? hdevices⟩
  · rw [hrest]
    exact ⟨Pool.free_take? hcores, by simp only; omega⟩

theorem positive_place {p rest : Placement} {m : Manifest} {a : Allocation}
    (h : p.place m = .granted a rest) (hd : p.devices.Positive) :
    rest.cores.Positive ∧ rest.devices.Positive := by
  obtain ⟨-, cores, hcores, hrest⟩ := place_eq_granted h
  split at hrest
  · obtain ⟨devices, hdevices, rfl⟩ := hrest
    exact ⟨Pool.positive_take? hcores, Pool.positive_take? hdevices⟩
  · rw [hrest]
    exact ⟨Pool.positive_take? hcores, hd⟩

/-- On a positive pool of devices, a unit that needs at least one core and no negative number of devices is
granted exactly when it resolves and its cores and devices are free. -/
theorem place_granted_iff {p : Placement} (hd : p.devices.Positive)
    (m : Manifest) (a : Allocation) (ha : m.resolve p.offered = .ok a → 0 < a.cores ∧ 0 ≤ a.accelerators) :
    (∃ rest, p.place m = .granted a rest) ↔
      m.resolve p.offered = .ok a ∧ a.cores ≤ p.cores.free ∧ a.accelerators ≤ p.devices.free := by
  constructor
  · rintro ⟨rest, h⟩
    obtain ⟨hres, cores, hcores, hrest⟩ := place_eq_granted h
    obtain ⟨hcpos, hdnn⟩ := ha hres
    refine ⟨hres, (p.cores.take?_isSome_iff hcpos).1 (by simp [hcores]), ?_⟩
    split at hrest
    · obtain ⟨devices, hdevices, -⟩ := hrest
      exact (p.devices.take?_isSome_iff ‹_›).1 (by simp [hdevices])
    · -- no device is taken, and none is needed
      have := hd.free_nonneg
      omega
  · rintro ⟨hres, hcfit, hdfit⟩
    obtain ⟨hcpos, hdnn⟩ := ha hres
    obtain ⟨cores, hcores⟩ := Option.isSome_iff_exists.1 ((p.cores.take?_isSome_iff hcpos).2 hcfit)
    unfold place
    simp only [hres, hcores]
    by_cases hpos : 0 < a.accelerators
    · obtain ⟨devices, hdevices⟩ :=
        Option.isSome_iff_exists.1 ((p.devices.take?_isSome_iff hpos).2 hdfit)
      simp [hpos, hdevices]
    · simp [hpos]

/-- Placing a unit and giving its allocation back leaves a placement as it was. -/
theorem release_place {p rest : Placement} {m : Manifest} {a : Allocation}
    (h : p.place m = .granted a rest) : rest.release a = p := by
  obtain ⟨hres, cores, hcores, hrest⟩ := place_eq_granted h
  have hne := Manifest.resolve_cores_ne_zero hres
  split at hrest
  · obtain ⟨devices, hdevices, rfl⟩ := hrest
    simp only [release, ‹0 < a.accelerators›, if_true,
      Pool.give_take _ _ _ hcores hne, Pool.give_take _ _ _ hdevices (by omega)]
  · rw [hrest]
    simp only [release, ‹¬0 < a.accelerators›, if_false,
      Pool.give_take _ _ _ hcores hne]

theorem free_release (p : Placement) {a : Allocation} (ha : 0 ≤ a.accelerators) :
    (p.release a).cores.free = p.cores.free + a.cores ∧
      (p.release a).devices.free = p.devices.free + a.accelerators := by
  refine ⟨Pool.free_give _ _, ?_⟩
  simp only [release]
  split
  · exact Pool.free_give _ _
  · omega

theorem positive_release {p : Placement} (hc : p.cores.Positive) (hd : p.devices.Positive)
    {a : Allocation} (ha : 0 < a.cores ∧ 0 ≤ a.accelerators) :
    (p.release a).cores.Positive ∧ (p.release a).devices.Positive := by
  refine ⟨hc.give (le_of_lt ha.1), ?_⟩
  simp only [release]
  split
  · exact hd.give ha.2
  · exact hd

/-- The body runs exactly for a unit that is granted, on its allocation. -/
theorem run_ran_iff {β : Type} (p : Placement) (m : Manifest) (body : Allocation → β)
    (a : Allocation) (r : β) :
    (p.run m body).1 = .ran a r ↔ (∃ rest, p.place m = .granted a rest) ∧ r = body a := by
  unfold run
  split
  · rename_i a' rest h
    simp only [Done.ran.injEq]
    constructor
    · rintro ⟨rfl, rfl⟩
      exact ⟨⟨rest, h⟩, rfl⟩
    · rintro ⟨⟨rest', h'⟩, rfl⟩
      rw [h] at h'
      cases h'
      exact ⟨rfl, rfl⟩
  · rename_i h
    simp [h]
  · rename_i f h
    simp [h]

/-- Running a body on a unit leaves the placement as it was. -/
theorem run_placement {β : Type} (p : Placement) (m : Manifest) (body : Allocation → β) :
    (p.run m body).2 = p := by
  unfold run
  split
  · rename_i a rest h
    exact release_place h
  · rfl
  · rfl

end Placement

/-! ### Leases -/

namespace Leases

/-- The allocations of the leases still held. -/
def held (s : Leases) : List Allocation := s.leases.filterMap id

theorem sum_held_set (f : Allocation → Int) :
    ∀ (l : List (Option Allocation)) (i : Nat) (a : Allocation), l[i]? = some (some a) →
      (((l.set i none).filterMap id).map f).sum + f a = ((l.filterMap id).map f).sum
  | [], _, _, h => by simp at h
  | x :: l, 0, a, h => by
    simp only [List.getElem?_cons_zero, Option.some.injEq] at h
    subst h
    simp [add_comm]
  | x :: l, i + 1, a, h => by
    simp only [List.getElem?_cons_succ] at h
    have ih := sum_held_set f l i a h
    cases x with
    | none => simpa [List.set_cons_succ] using ih
    | some b =>
      simp [List.set_cons_succ] at ih ⊢
      linarith

theorem mem_held_set {l : List (Option Allocation)} {i : Nat} {b : Allocation}
    (h : b ∈ (l.set i none).filterMap id) : b ∈ l.filterMap id := by
  simp only [List.mem_filterMap, id_eq, exists_eq_right] at h ⊢
  rcases List.mem_or_eq_of_mem_set h with h | h
  · exact h
  · cases h

/-- What a user of a placement does: place a unit, give a lease back, run a body on a unit, or
ask what is offered. -/
inductive Step where
  | place (m : Manifest)
  | release (i : Nat)
  | run (m : Manifest)
  | offered

/-- The leases after a step; running a body changes the placement alone. -/
def step (s : Leases) : Step → Leases
  | .place m => (s.place m).2
  | .release i => s.release i
  | .run m => { s with placement := (s.placement.run m fun _ => ()).2 }
  | .offered => s

/-- The leases after steps taken in order. -/
def stepAll (s : Leases) (steps : List Step) : Leases := steps.foldl step s

/-- The placement is a ledger of the leases it granted over an inventory. -/
structure Ledger (inv : Inventory) (s : Leases) : Prop where
  offered : s.placement.offered = inv
  /-- The free cores are the inventory's less those of the leases held. -/
  cores : s.placement.cores.free = inv.cores - (s.held.map (·.cores)).sum
  /-- The free devices are the inventory's less those of the leases held. -/
  devices : s.placement.devices.free = inv.accelerators - (s.held.map (·.accelerators)).sum
  coresPositive : s.placement.cores.Positive
  devicesPositive : s.placement.devices.Positive
  /-- Every lease held has at least one core and no negative number of devices. -/
  held : ∀ a ∈ s.held, 0 < a.cores ∧ 0 ≤ a.accelerators

section Ledger

variable {inv : Inventory} (hc : 0 ≤ inv.cores) (hd : 0 ≤ inv.accelerators)
include hc hd

theorem Ledger.ofInventory : (ofInventory inv).Ledger inv where
  offered := rfl
  cores := by simp [Leases.ofInventory, Leases.held, Placement.ofInventory, Pool.free_ofCount]
  devices := by simp [Leases.ofInventory, Leases.held, Placement.ofInventory, Pool.free_ofCount]
  coresPositive := Pool.positive_ofCount hc
  devicesPositive := Pool.positive_ofCount hd
  held := by simp [Leases.ofInventory, Leases.held]

variable {s : Leases} (h : s.Ledger inv)
include h

theorem Ledger.resolve_pos {m : Manifest} {a : Allocation}
    (hres : m.resolve s.placement.offered = .ok a) : 0 < a.cores ∧ 0 ≤ a.accelerators := by
  rw [h.offered] at hres
  exact Manifest.resolve_pos hres hc hd

theorem Ledger.place (m : Manifest) : (s.place m).2.Ledger inv := by
  unfold Leases.place
  split
  · rename_i a rest hplace
    obtain ⟨hres, -⟩ := Placement.place_eq_granted hplace
    have ha := h.resolve_pos hc hd hres
    obtain ⟨hcf, hdf⟩ := Placement.free_place hplace ha.2
    obtain ⟨hcp, hdp⟩ := Placement.positive_place hplace h.devicesPositive
    have hheld : (⟨rest, s.leases ++ [some a]⟩ : Leases).held = s.held ++ [a] := by
      simp [Leases.held]
    refine ⟨(Placement.offered_place hplace).trans h.offered, ?_, ?_, hcp, hdp, ?_⟩
    · rw [hheld, hcf, h.cores]
      simp
      ring
    · rw [hheld, hdf, h.devices]
      simp
      ring
    · rw [hheld]
      intro b hb
      rcases List.mem_append.1 hb with hb | hb
      · exact h.held b hb
      · rw [List.mem_singleton.1 hb]
        exact ha
  · exact h

omit hc hd in
theorem Ledger.release (i : Nat) : (s.release i).Ledger inv := by
  unfold Leases.release
  split
  · rename_i a hi
    have ha : 0 < a.cores ∧ 0 ≤ a.accelerators :=
      h.held a (by
        simp only [Leases.held, List.mem_filterMap, id_eq, exists_eq_right]
        exact List.mem_of_getElem? hi)
    obtain ⟨hcf, hdf⟩ := Placement.free_release s.placement ha.2
    obtain ⟨hcp, hdp⟩ := Placement.positive_release h.coresPositive h.devicesPositive ha
    refine ⟨h.offered, ?_, ?_, hcp, hdp, ?_⟩
    · have hsum := sum_held_set (·.cores) s.leases i a hi
      have hcores := h.cores
      simp only [Leases.held] at hcores ⊢
      rw [hcf, hcores]
      linarith
    · have hsum := sum_held_set (·.accelerators) s.leases i a hi
      have hdevices := h.devices
      simp only [Leases.held] at hdevices ⊢
      rw [hdf, hdevices]
      linarith
    · intro b hb
      exact h.held b (mem_held_set hb)
  · exact h

theorem Ledger.step (st : Step) : (s.step st).Ledger inv := by
  cases st with
  | place m => exact h.place hc hd m
  | release i => exact h.release i
  | run m =>
    simp only [Leases.step, Placement.run_placement]
    exact h
  | offered => exact h

end Ledger

theorem Ledger.stepAll {inv : Inventory} (hc : 0 ≤ inv.cores) (hd : 0 ≤ inv.accelerators)
    {s : Leases} (h : s.Ledger inv) (steps : List Step) : (s.stepAll steps).Ledger inv := by
  induction steps generalizing s with
  | nil => exact h
  | cons st steps ih => exact ih (h.step hc hd st)

theorem place_of_not_granted (s : Leases) (m : Manifest)
    (h : ∀ a rest, s.placement.place m ≠ .granted a rest) : (s.place m).2 = s := by
  unfold Leases.place
  split
  · rename_i a rest hplace
    exact absurd hplace (h a rest)
  · rfl

theorem release_of_not_held {s : Leases} {i : Nat} (h : ∀ a, s.leases[i]? ≠ some (some a)) :
    s.release i = s := by
  unfold Leases.release
  split
  · rename_i a hi
    exact absurd hi (h a)
  · rfl

/-- A lease is given back once: giving it back again changes nothing. -/
theorem release_release (s : Leases) (i : Nat) : (s.release i).release i = s.release i := by
  by_cases hheld : ∃ a, s.leases[i]? = some (some a)
  · obtain ⟨a, hi⟩ := hheld
    have hlt : i < s.leases.length := (List.getElem?_eq_some_iff.1 hi).1
    have hrel : s.release i = ⟨s.placement.release a, s.leases.set i none⟩ := by
      simp [Leases.release, hi]
    rw [hrel]
    exact release_of_not_held (by simp [hlt])
  · have hrel : s.release i = s := release_of_not_held (fun a ha => hheld ⟨a, ha⟩)
    rw [hrel, hrel]

theorem held_place {s : Leases} {m : Manifest} {a : Allocation} {rest : Placement}
    (h : s.placement.place m = .granted a rest) : (s.place m).2.held = s.held ++ [a] := by
  simp [Leases.place, h, held]

end Leases

/-- **A host's placement is a ledger of its leases.** Over an inventory with non-negative
counts, take any steps of placing units, giving leases back, running bodies on units and asking
what is offered, and the leases `s` they leave.
- The free cores are the inventory's less the cores of the leases not given back, and the same
  for devices; the placement offers the inventory.
- A unit is granted exactly when it resolves against the inventory and its cores and devices
  fit in what is free; it then holds a new lease of its allocation.
- A unit that is not granted, refused or left to wait, changes nothing.
- Giving a lease back a second time changes nothing.
- A body runs exactly when its unit is granted, on the unit's allocation, and running it leaves
  the placement as it was. -/
theorem host_placement_ledger (inv : Inventory) (hc : 0 ≤ inv.cores) (hd : 0 ≤ inv.accelerators)
    (steps : List Leases.Step) :
    let s := (Leases.ofInventory inv).stepAll steps
    s.placement.cores.free = inv.cores - (s.held.map (·.cores)).sum ∧
    s.placement.devices.free = inv.accelerators - (s.held.map (·.accelerators)).sum ∧
    s.placement.offered = inv ∧
    (∀ m a, ((∃ rest, s.placement.place m = .granted a rest) ↔
        m.resolve inv = .ok a ∧ a.cores ≤ s.placement.cores.free ∧
          a.accelerators ≤ s.placement.devices.free) ∧
      ∀ rest, s.placement.place m = .granted a rest → (s.place m).2.held = s.held ++ [a]) ∧
    (∀ m, (∀ a rest, s.placement.place m ≠ .granted a rest) → (s.place m).2 = s) ∧
    (∀ i, (s.release i).release i = s.release i) ∧
    (∀ {β : Type} (m : Manifest) (body : Allocation → β),
      (∀ a r, (s.placement.run m body).1 = .ran a r ↔
        (∃ rest, s.placement.place m = .granted a rest) ∧ r = body a) ∧
      (s.placement.run m body).2 = s.placement) := by
  intro s
  have h : s.Ledger inv := (Leases.Ledger.ofInventory hc hd).stepAll hc hd steps
  refine ⟨h.cores, h.devices, h.offered, fun m a => ⟨?_, fun rest => Leases.held_place⟩,
    fun m => Leases.place_of_not_granted s m, fun i => Leases.release_release s i,
    fun m body => ⟨Placement.run_ran_iff s.placement m body, Placement.run_placement s.placement m body⟩⟩
  rw [← h.offered]
  exact Placement.place_granted_iff h.devicesPositive m a (h.resolve_pos hc hd)

/-- Three cores offered, a unit of two placed and given back twice, then placed again: the
inventory has no negative count, and the ledger holds. -/
theorem host_placement_ledger_gating :
    0 ≤ (⟨3, 0⟩ : Inventory).cores ∧ 0 ≤ (⟨3, 0⟩ : Inventory).accelerators ∧
      let s := (Leases.ofInventory ⟨3, 0⟩).stepAll
        [.place ⟨2, 0⟩, .release 0, .release 0, .place ⟨2, 0⟩]
      s.placement.cores.free = 3 - (s.held.map (·.cores)).sum :=
  ⟨by decide, by decide,
    (host_placement_ledger ⟨3, 0⟩ (by decide) (by decide)
      [.place ⟨2, 0⟩, .release 0, .release 0, .place ⟨2, 0⟩]).1⟩

end Lanes
