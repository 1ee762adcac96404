import Lanes.Fault

/-!
Manifests: what a unit of work needs, in cores and accelerator devices.

A count is a number of resources or `-1`, which asks for all there are. A unit needs at least
one core (or all of them) and any number of devices, zero meaning none. Resolving a manifest
against an inventory gives the allocation it would hold: all becomes the inventory's count, and
a count above the inventory's is refused, as is asking for all of none.

Main statement: a resolved allocation never exceeds the inventory
(`resolve_cores_le`).
-/

namespace Lanes

/-- The count that asks for all there is. -/
def allCount : Int := -1

/-- What a unit of work needs. -/
structure Manifest where
  cores : Int
  accelerators : Int
  deriving DecidableEq, Repr, Inhabited

/-- What a host offers. -/
structure Inventory where
  cores : Int
  accelerators : Int
  deriving DecidableEq, Repr, Inhabited

/-- What a unit holds while it runs. -/
structure Allocation where
  cores : Int
  accelerators : Int
  deriving DecidableEq, Repr, Inhabited

namespace Manifest

/-- A count as text: `all` for all, else the number. -/
def countText (n : Int) : String := if n = allCount then "all" else toString n

/-- The manifest as text. -/
def text (m : Manifest) : String :=
  "cores=" ++ countText m.cores ++ " accelerators=" ++ countText m.accelerators

/-- Checks the counts: at least one core or all, and no device count below all. -/
def validate (m : Manifest) : Except Fault Unit :=
  if m.cores = 0 ∨ m.cores < allCount then
    .error (Fault.make .invalid ("manifest: invalid core count " ++ toString m.cores))
  else if m.accelerators < allCount then
    .error (Fault.make .invalid ("manifest: invalid accelerator count " ++ toString m.accelerators))
  else .ok ()

/-- Resolves one count against what is offered, naming the resource in a refusal. -/
def resolveCount (what : String) (asked offered : Int) : Except Fault Int :=
  if asked = allCount ∧ offered = 0 then
    .error (Fault.make .unavailable ("manifest: all " ++ what ++ " requested but none are available"))
  else if asked = allCount then .ok offered
  else if asked > offered then
    .error (Fault.make .unavailable
      ("manifest: " ++ toString asked ++ " " ++ what ++ " requested, " ++ toString offered ++ " available"))
  else .ok asked

/-- The allocation a valid manifest holds in an inventory: cores first, then devices. -/
def resolve (m : Manifest) (inv : Inventory) : Except Fault Allocation := do
  m.validate
  let cores ← resolveCount "cores" m.cores inv.cores
  let accelerators ← resolveCount "accelerators" m.accelerators inv.accelerators
  pure ⟨cores, accelerators⟩

theorem resolveCount_le (what : String) (asked offered c : Int)
    (h : resolveCount what asked offered = .ok c) : c ≤ offered := by
  unfold resolveCount at h
  split at h
  · cases h
  · split at h
    · cases h; exact Int.le_refl _
    · split at h
      · cases h
      · cases h; omega

theorem resolve_cores_le (m : Manifest) (inv : Inventory) (a : Allocation)
    (h : m.resolve inv = .ok a) : a.cores ≤ inv.cores ∧ a.accelerators ≤ inv.accelerators := by
  unfold resolve at h
  cases hv : m.validate with
  | error e => simp [hv] at h; cases h
  | ok u =>
    cases hc : resolveCount "cores" m.cores inv.cores with
    | error e => simp [hv, hc] at h; cases h
    | ok c =>
      cases ha : resolveCount "accelerators" m.accelerators inv.accelerators with
      | error e => simp [hv, hc, ha] at h; cases h
      | ok d =>
        simp [hv, hc, ha] at h
        cases h
        exact ⟨resolveCount_le _ _ _ _ hc, resolveCount_le _ _ _ _ ha⟩

end Manifest

end Lanes
