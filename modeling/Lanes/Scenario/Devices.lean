import Lanes.Scenario.Basic
import Lanes.Device
import Lanes.Bytes.Word

/-!
Scenarios over a simulated accelerator, with four fixture kernels that read the device memory as
a little-endian 64-bit word: `double` (twice the word plus the first argument), `add` (the word
plus all arguments), `index` (the device's index, whatever the memory held) and `fail` (always
fails). Arithmetic wraps at 64 bits; memory of any length but eight bytes is refused, except by
`index`.

A device must be opened before it is used.
-/

namespace Lanes.Scenario

/-- The word in eight bytes of memory. -/
def memoryWord (mem : List UInt8) : Except Fault UInt64 :=
  if mem.length = 8 then .ok (Bytes.readLe64 mem)
  else .error (.text "kernel: memory must hold 8 bytes")

/-- The fixture kernel of a name. -/
def fixtureKernel : String → Option Kernel
  | "double" => some fun _ mem args => do
    let w ← memoryWord mem
    pure (Bytes.le64 (2 * w + (args.headD 0).toUInt64))
  | "add" => some fun _ mem args => do
    let w ← memoryWord mem
    pure (Bytes.le64 (args.foldl (fun acc a => acc + a.toUInt64) w))
  | "index" => some fun i _ _ => pure (Bytes.le64 i.toUInt64)
  | "fail" => some fun _ _ _ => .error (.text "kernel failed")
  | _ => none

/-- Registers the fixture kernel `fn` under the name `kernel` in a module. -/
def registerFixture (s : Sim) (module kernel fn : String) : Attempt Sim :=
  match fixtureKernel fn with
  | some k =>
    match s.register module kernel k with
    | .ok s' => pure s'
    | .error msg => .error (.panic msg)
  | none => refuse ("unknown kernel function " ++ fn)

/-- Whole-number arguments. -/
def argsOf (d : Doc) : Attempt (List Int64) :=
  match d.field? "args" with
  | some v => v.items.mapM intOf
  | none => pure []

/-- The device scenario's state: the accelerator and the devices opened so far. -/
structure Bench where
  accelerator : Accelerator
  opened : List Nat

/-- The simulator of a bench that has one. -/
def Bench.sim (b : Bench) : Attempt Sim :=
  match b.accelerator with
  | .sim s => pure s
  | .absent => refuse "no simulated accelerator"

/-- One step of a device scenario. -/
def deviceStep (b : Bench) (step : Doc) : Attempt Doc × Bench :=
  let ok : Doc := .record [("ok", .bool true)]
  let attempt : Attempt (Attempt Doc × Bench) := do
    let opened (key : String) : Attempt Nat := do
      let i ← intField step key
      if i.toInt ≥ 0 ∧ b.opened.contains i.toInt.toNat then pure i.toInt.toNat
      else refuse ("device " ++ toString i.toInt ++ " not opened")
    match ← textField step "do" with
    | "register" =>
      let kernel ← textField step "kernel"
      let fn ← if step.has "fn" then textField step "fn" else pure kernel
      let s ← registerFixture (← b.sim) (← textField step "module") kernel fn
      pure (.ok ok, { b with accelerator := .sim s })
    | "fail_open" =>
      let s ← b.sim
      let i ← intField step "device"
      let s' := s.failToOpen i.toInt (.text (← textField step "message"))
      pure (.ok ok, { b with accelerator := .sim s' })
    | "count" => pure (.ok (.record [("count", .nat b.accelerator.deviceCount)]), b)
    | "loads" => pure (.ok (.record [("loads", .nat (← b.sim).loads)]), b)
    | "open" =>
      match b.accelerator.open? (← intField step "device").toInt with
      | .ok i => pure (.ok (.record [("index", .nat i)]), { b with opened := i :: b.opened })
      | .error f => pure (.error (.fault f), b)
    | "load" =>
      let i ← opened "device"
      match (← b.sim).load i (← textField step "module") with
      | .ok s => pure (.ok ok, { b with accelerator := .sim s })
      | .error f => pure (.error (.fault f), b)
    | "copyin" =>
      let i ← opened "device"
      let s := (← b.sim).copyIn i (← bytesField step "data")
      pure (.ok ok, { b with accelerator := .sim s })
    | "launch" =>
      let i ← opened "device"
      match (← b.sim).launch i (← textField step "kernel") (← argsOf step) with
      | .ok s => pure (.ok ok, { b with accelerator := .sim s })
      | .error f => pure (.error (.fault f), b)
    | "copyout" =>
      let i ← opened "device"
      pure (.ok (.record [("hex", .str (Bytes.toHex ((← b.sim).copyOut i)))]), b)
    | other => refuse ("unknown step " ++ other)
  match attempt with
  | .ok r => r
  | .error e => (.error e, b)

/-- A device scenario over `devices` simulated devices, or none present. -/
def deviceScenario (req : Doc) : Attempt Doc := do
  let acc : Accelerator ← if boolField req "none" then pure .absent
    else pure (.sim (Sim.create (← natField req "devices")))
  let (out, _) := runSteps deviceStep ⟨acc, []⟩ (← need req "steps").items
  pure (.record [("steps", .list out)])

end Lanes.Scenario
