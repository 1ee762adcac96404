import Lanes.Scenario.Basic
import Lanes.Placement

/-!
Scenarios over manifests and placements.

A manifest is reported with its text, its counts, whether it is valid and, given an inventory,
what it resolves to. A placement scenario places units and gives back their leases, numbered
from zero in the order they were granted; giving a lease back twice does nothing. A unit that
would wait is reported as a deadline that passed.
-/

namespace Lanes.Scenario

/-- An inventory described by its counts; a missing count is zero. -/
def inventoryOf (d : Doc) : Attempt Inventory := do
  pure ⟨(← intFieldOr d "cores" 0).toInt, (← intFieldOr d "accelerators" 0).toInt⟩

/-- A manifest described by its counts; missing devices are zero. -/
def manifestOf (d : Doc) : Attempt Manifest := do
  pure ⟨(← intField d "cores").toInt, (← intFieldOr d "accelerators" 0).toInt⟩

/-- The report of a count pair. -/
def allocationFields (a : Allocation) : List (String × Doc) :=
  [("cores", .int a.cores), ("accelerators", .int a.accelerators)]

/-- The report of a manifest, resolved against the inventory when one is given. -/
def manifestScenario (req : Doc) : Attempt Doc := do
  let m ← manifestOf req
  let validity : Doc := match m.validate with
    | .ok () => .str "ok"
    | .error f => .record (faultFields f)
  let resolved : List (String × Doc) ← match req.field? "inventory" with
    | some inv =>
      match m.resolve (← inventoryOf inv) with
      | .ok a => pure [("resolve", .record (allocationFields a))]
      | .error f => pure [("resolve", .record (faultFields f))]
    | none => pure []
  pure (.record ([("string", .str m.text), ("cores_required", .int m.cores),
    ("accelerators_required", .int m.accelerators), ("validate", validity)] ++ resolved))

/-- One step of a placement scenario. -/
def placementStep (s : Leases) (step : Doc) : Attempt Doc × Leases :=
  let attempt : Attempt (Attempt Doc × Leases) := do
    match ← textField step "do" with
    | "place" =>
      match s.place (← manifestOf step) with
      | (.granted a _, s') =>
        pure (.ok (.record (("lease", .nat s.leases.length) :: allocationFields a)), s')
      | (.waits, s') => pure (.error .deadline, s')
      | (.refused f, s') => pure (.error (.fault f), s')
    | "do" =>
      -- the body records the allocation it was given
      match s.placement.run (← manifestOf step) id with
      | (.ran _ recorded, p) =>
        pure (.ok (.record (("ran", .bool true) :: allocationFields recorded)), { s with placement := p })
      | (.waits, p) =>
        pure (.ok (.record (Failure.deadline.fields ++ [("ran", .bool false)])), { s with placement := p })
      | (.refused f, p) =>
        pure (.ok (.record (faultFields f ++ [("ran", .bool false)])), { s with placement := p })
    | "release" =>
      let i ← natField step "lease"
      if i < s.leases.length then pure (.ok (.record [("released", .nat i)]), s.release i)
      else refuse ("no lease " ++ toString i)
    | "offered" =>
      let inv := s.placement.offered
      pure (.ok (.record [("cores", .int inv.cores), ("accelerators", .int inv.accelerators)]), s)
    | other => refuse ("unknown step " ++ other)
  match attempt with
  | .ok r => r
  | .error e => (.error e, s)

/-- A placement scenario over an inventory. -/
def placementScenario (req : Doc) : Attempt Doc := do
  let inv ← inventoryOf (← need req "inventory")
  let (out, _) := runSteps placementStep (Leases.ofInventory inv) (← need req "steps").items
  pure (.record [("steps", .list out)])

end Lanes.Scenario
