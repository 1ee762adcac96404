import Lanes.Manifest

/-!
Placement: handing out a host's cores and devices to units of work, and taking them back.

Each resource is a pool of tokens (`Pool`). Tokens given back join the pool's heap; taking `n`
tokens succeeds when the heap holds at least `n` and otherwise waits until enough come back.
An empty pool (no heap) is told apart from a heap of zero tokens: taking waits on the first and
may succeed on the second.

A unit is placed by resolving its manifest against the inventory (a refusal ends there), then
taking its cores, then its devices when it needs any. A unit that must wait holds nothing. A
granted unit holds a lease until it gives its allocation back; running a body on a unit places
it, runs the body and gives the allocation back.

Main statement: taking and giving back the same count leaves a pool as it was
(`give_take`).
-/

namespace Lanes

/-- A pool of interchangeable tokens: its heap, or none when it is empty. -/
structure Pool where
  heap : Option Int
  deriving DecidableEq, Repr, Inhabited

namespace Pool

/-- Gives tokens back; giving none changes nothing. -/
def give (p : Pool) (n : Int) : Pool :=
  if n = 0 then p else ⟨some (n + p.heap.getD 0)⟩

/-- A pool holding `n` tokens. -/
def ofCount (n : Int) : Pool := give ⟨none⟩ n

/-- Takes `n` tokens; `none` when the pool must first be given more. -/
def take? (p : Pool) (n : Int) : Option Pool :=
  match p.heap with
  | some v => if n ≤ v then some ⟨if v = n then none else some (v - n)⟩ else none
  | none => none

theorem give_take (p q : Pool) (n : Int) (h : p.take? n = some q) (hn : n ≠ 0) : q.give n = p := by
  unfold take? at h
  cases hp : p.heap with
  | none => simp [hp] at h
  | some v =>
    simp only [hp] at h
    split at h
    · cases h
      unfold give
      simp only [hn, if_false]
      cases p
      simp only at hp
      subst hp
      split
      · rename_i hvn
        rw [Option.getD_none, Int.add_zero, hvn]
      · rw [Option.getD_some, show n + (v - n) = v by omega]
    · cases h

end Pool

/-- A host's resources as they are handed out. -/
structure Placement where
  offered : Inventory
  cores : Pool
  devices : Pool
  deriving DecidableEq, Repr, Inhabited

/-- How a request for resources ends. -/
inductive Admission where
  /-- The unit holds its allocation; the placement is what remains. -/
  | granted (a : Allocation) (rest : Placement)
  /-- The resources are not free now; the unit would wait for them, holding nothing. -/
  | waits
  /-- The manifest cannot be resolved against the inventory. -/
  | refused (f : Fault)

namespace Placement

/-- A placement with the whole inventory free. -/
def ofInventory (inv : Inventory) : Placement :=
  ⟨inv, Pool.ofCount inv.cores, Pool.ofCount inv.accelerators⟩

/-- Places a unit: resolve, then take cores, then devices when it needs any. -/
def place (p : Placement) (m : Manifest) : Admission :=
  match m.resolve p.offered with
  | .error f => .refused f
  | .ok a =>
    match p.cores.take? a.cores with
    | none => .waits
    | some cores =>
      if a.accelerators > 0 then
        match p.devices.take? a.accelerators with
        | none => .waits
        | some devices => .granted a { p with cores, devices }
      else .granted a { p with cores }

/-- Gives an allocation back. -/
def release (p : Placement) (a : Allocation) : Placement :=
  { p with cores := p.cores.give a.cores,
           devices := if a.accelerators > 0 then p.devices.give a.accelerators else p.devices }

/-- How running a body on a unit ends: the body ran on the unit's allocation and gave a result,
or the unit would wait, or it was refused. -/
inductive Done (β : Type) where
  | ran (a : Allocation) (result : β)
  | waits
  | refused (f : Fault)

/-- Places a unit, runs the body on its allocation, and gives the allocation back once the body
has returned. The body runs only for a unit that is granted. -/
def run {β : Type} (p : Placement) (m : Manifest) (body : Allocation → β) : Done β × Placement :=
  match p.place m with
  | .granted a rest => (.ran a (body a), rest.release a)
  | .waits => (.waits, p)
  | .refused f => (.refused f, p)

end Placement

/-- A placement and the leases it granted, in the order granted: each held, or given back. A
lease is given back at most once. -/
structure Leases where
  placement : Placement
  leases : List (Option Allocation)

namespace Leases

/-- The whole inventory free, and no lease granted. -/
def ofInventory (inv : Inventory) : Leases := ⟨Placement.ofInventory inv, []⟩

/-- Places a unit; a granted unit holds the next lease. -/
def place (s : Leases) (m : Manifest) : Admission × Leases :=
  match s.placement.place m with
  | .granted a rest => (.granted a rest, ⟨rest, s.leases ++ [some a]⟩)
  | other => (other, s)

/-- Gives lease `i` back if it is held; a lease given back before stays given back. -/
def release (s : Leases) (i : Nat) : Leases :=
  match s.leases[i]? with
  | some (some a) => ⟨s.placement.release a, s.leases.set i none⟩
  | _ => s

end Leases

end Lanes
