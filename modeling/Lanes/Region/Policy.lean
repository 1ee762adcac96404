import Lanes.Placement
import Lanes.Device
import Lanes.Metrics.Basic

/-!
Region policies and executors.

A policy says how many lanes a region runs and whether each lane drives a device: `lanes n`
runs `n` lanes on cores, `allCores` one lane per core of the inventory, `allDevices` one lane per
device, `devices n` a lane on each of the first `n` devices, and `unit m` sizes the region by a
manifest (one device lane per device it needs, else one core lane per core). An executor holds
the accelerator, the inventory that "all" is resolved against, an optional placement that units
are placed by, and the metrics scope that every lane it runs is merged into.

Planning refuses a count below one, and whatever resolving or placing the manifest refuses. A
unit that the executor's placement grants holds its lease while the region runs. A count that
resolving leaves negative, as an inventory with a negative number of cores or devices gives,
cannot size the table of lanes: the region panics before any lane starts.
-/

namespace Lanes.Region

/-- How many lanes a region runs, and where. -/
inductive Policy where
  | lanes (n : Int)
  | allCores
  | allDevices
  | devices (n : Int)
  | unit (m : Manifest)
  deriving DecidableEq, Repr, Inhabited

/-- The policy as text. -/
def Policy.text : Policy → String
  | .lanes n => "lanes(" ++ toString n ++ ")"
  | .allCores => "allcores"
  | .allDevices => "alldevices"
  | .devices n => "devices(" ++ toString n ++ ")"
  | .unit m => "unit(" ++ m.text ++ ")"

/-- What runs regions. -/
structure Executor where
  accelerator : Accelerator
  inventory : Inventory
  placement : Option Placement
  scope : Metrics.Scope

/-- The cores of a host that nothing else describes. -/
def hostCores : Int := 4

/-- An executor with no accelerator, the host's cores, no placement and no metrics yet. -/
def Executor.host : Executor := ⟨.absent, ⟨hostCores, 0⟩, none, Metrics.Scope.empty⟩

/-- A resolved policy: the number of lanes, whether they drive devices, and the allocation
held while the region runs, if a placement granted one. -/
structure Plan where
  lanes : Nat
  devices : Bool
  lease : Option Allocation
  deriving Repr, Inhabited

/-- Why a policy could not be planned: a refusal, resources that are not free now, or a count
that no table of lanes can have. -/
inductive Unplanned where
  | refused (f : Fault)
  | waits
  | panics (message : String)

/-- The most lanes a region can have: its table of lanes, 256 bytes each, can take at most
`2 ^ 48` bytes. -/
def laneLimit : Nat := Nat.pow 2 40

/-- The plan of `n` lanes; a negative `n`, or one above `laneLimit`, panics, as making a table
of that length does. -/
def Plan.sized (n : Int) (devices : Bool) (lease : Option Allocation) : Except Unplanned Plan :=
  if n < 0 || n > laneLimit then .error (.panics "runtime error: makeslice: len out of range")
  else .ok ⟨n.toNat, devices, lease⟩

/-- The plan of a policy on an executor, with the executor's placement as planning leaves it:
a unit that the placement grants holds its allocation from then on. -/
def Policy.planOn (e : Executor) : Policy → Except Unplanned (Plan × Option Placement)
  | .lanes n =>
    if n ≤ 0 then .error (.refused (Fault.make .invalid ("region: lane count " ++ toString n ++ " must be positive")))
    else (Plan.sized n false none).map (·, e.placement)
  | .allCores =>
    match Manifest.resolve ⟨allCount, 0⟩ e.inventory with
    | .ok a => (Plan.sized a.cores false none).map (·, e.placement)
    | .error f => .error (.refused f)
  | .allDevices =>
    match Manifest.resolve ⟨1, allCount⟩ e.inventory with
    | .ok a => (Plan.sized a.accelerators true none).map (·, e.placement)
    | .error f => .error (.refused f)
  | .devices n =>
    if n ≤ 0 then .error (.refused (Fault.make .invalid ("region: device count " ++ toString n ++ " must be positive")))
    else match Manifest.resolve ⟨1, n⟩ e.inventory with
      | .ok a => (Plan.sized a.accelerators true none).map (·, e.placement)
      | .error f => .error (.refused f)
  | .unit m =>
    let sized (a : Allocation) (lease : Option Allocation) : Except Unplanned Plan :=
      if a.accelerators > 0 then Plan.sized a.accelerators true lease else Plan.sized a.cores false lease
    match e.placement with
    | some p =>
      match p.place m with
      | .granted a rest => (sized a (some a)).map (·, some rest)
      | .waits => .error .waits
      | .refused f => .error (.refused f)
    | none =>
      match m.resolve e.inventory with
      | .ok a => (sized a none).map (·, none)
      | .error f => .error (.refused f)

/-- The plan of a policy on an executor. -/
def Policy.plan (e : Executor) (p : Policy) : Except Unplanned Plan := (p.planOn e).map (·.1)

theorem Policy.planOn_of_plan {e : Executor} {p : Policy} {plan : Plan} (h : p.plan e = .ok plan) :
    ∃ held, p.planOn e = .ok (plan, held) := by
  unfold Policy.plan at h
  cases hp : p.planOn e with
  | error u => rw [hp] at h; cases h
  | ok r =>
    rw [hp] at h
    cases h
    exact ⟨r.2, rfl⟩

/-- Gives a plan's lease, if it holds one, back to the placement that granted it. -/
def Plan.release (plan : Plan) (p : Placement) : Placement :=
  match plan.lease with
  | some a => p.release a
  | none => p

end Lanes.Region
