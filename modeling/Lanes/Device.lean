import Lanes.Fault

/-!
Accelerators and their devices, and a simulated accelerator to run them.

An accelerator has a number of devices, opened by index. A device loads modules, holds a block
of memory that is copied in and out, and launches kernels by name. A kernel is a function of the
device's index, its memory and whole-number arguments that gives the new memory or fails.

The simulated accelerator (`Sim`) knows its kernels and the module each one belongs to. Loading a
module it knows marks the module loaded on that device and counts one load, once per device and
module; loading one it does not know fails and is forgotten, so a later load may succeed. A kernel
runs only where its module is loaded. Devices can be told to fail when opened.

Main statement: loading a module twice counts one load (`load_load`).
-/

namespace Lanes

/-- A kernel: the new memory from the device's index, its memory and the arguments. -/
abbrev Kernel := Nat → List UInt8 → List Int64 → Except Fault (List UInt8)

/-- One simulated device: the modules loaded on it and its memory. -/
structure SimDevice where
  loaded : List String
  memory : List UInt8
  deriving DecidableEq, Repr, Inhabited

/-- A registered kernel: its name, its module and its function. -/
structure KernelEntry where
  name : String
  module : String
  run : Kernel

/-- A simulated accelerator. -/
structure Sim where
  devices : List SimDevice
  kernels : List KernelEntry
  failOpen : List (Int × Fault)
  loads : Nat

/-- An accelerator: none present, or a simulated one. -/
inductive Accelerator where
  | absent
  | sim (s : Sim)

namespace Sim

/-- A simulated accelerator of `n` devices with empty memory, no kernels and no loads. -/
def create (n : Nat) : Sim := ⟨List.replicate n ⟨[], []⟩, [], [], 0⟩

/-- The number of devices. -/
def deviceCount (s : Sim) : Nat := s.devices.length

/-- Registers a kernel of a module; a kernel name can be registered once. -/
def register (s : Sim) (module kernel : String) (run : Kernel) : Except String Sim :=
  if s.kernels.any (·.name == kernel) then
    .error ("device.Sim: kernel " ++ kernel ++ " already registered")
  else .ok { s with kernels := s.kernels ++ [⟨kernel, module, run⟩] }

/-- Makes opening a device fail with `err` from now on. -/
def failToOpen (s : Sim) (i : Int) (err : Fault) : Sim :=
  { s with failOpen := (i, err) :: s.failOpen.filter (·.1 != i) }

/-- Opens a device: its index, or why it cannot be opened. -/
def open? (s : Sim) (i : Int) : Except Fault Nat :=
  if i < 0 ∨ i ≥ s.deviceCount then
    .error (Fault.make .unavailable
      ("device " ++ toString i ++ ": accelerator has " ++ toString s.deviceCount ++ " devices"))
  else
    match s.failOpen.find? (·.1 == i) with
    | some (_, err) => .error (Fault.wrap .unavailable .unknown ("device " ++ toString i ++ ": open") err)
    | none => .ok i.toNat

/-- Whether a module belongs to a registered kernel. -/
def knows (s : Sim) (module : String) : Bool := s.kernels.any (·.module == module)

/-- The device at an index; an empty device past the end. -/
def device (s : Sim) (i : Nat) : SimDevice := s.devices.getD i ⟨[], []⟩

/-- Changes the device at an index. -/
def modify (s : Sim) (i : Nat) (f : SimDevice → SimDevice) : Sim :=
  { s with devices := s.devices.modify i f }

/-- Loads a module on a device; a module loaded before is loaded at once, without a count. -/
def load (s : Sim) (i : Nat) (module : String) : Except Fault Sim :=
  if (s.device i).loaded.contains module then .ok s
  else if s.knows module then
    .ok { s.modify i (fun d => { d with loaded := d.loaded ++ [module] }) with loads := s.loads + 1 }
  else .error (Fault.make .notExist ("device " ++ toString i ++ ": module " ++ module))

/-- Replaces a device's memory. -/
def copyIn (s : Sim) (i : Nat) (bytes : List UInt8) : Sim :=
  s.modify i (fun d => { d with memory := bytes })

/-- A device's memory. -/
def copyOut (s : Sim) (i : Nat) : List UInt8 := (s.device i).memory

/-- Launches a kernel on a device; its module must be loaded there. -/
def launch (s : Sim) (i : Nat) (kernel : String) (args : List Int64) : Except Fault Sim :=
  let dev := "device " ++ toString i
  match s.kernels.find? (·.name == kernel) with
  | none => .error (Fault.make .notExist (dev ++ ": kernel " ++ kernel))
  | some k =>
    if !(s.device i).loaded.contains k.module then
      .error (Fault.make .precondition (dev ++ ": kernel " ++ kernel ++ ": module " ++ k.module ++ " not loaded"))
    else
      match k.run i (s.device i).memory args with
      | .ok mem => .ok (s.copyIn i mem)
      | .error e => .error (Fault.within (dev ++ ": kernel " ++ kernel) e)

theorem loaded_of_load (s s' : Sim) (i : Nat) (m : String) (hi : i < s.deviceCount)
    (h : s.load i m = .ok s') : (s'.device i).loaded.contains m = true := by
  unfold load at h
  split at h
  · cases h; assumption
  · split at h
    · cases h
      simp [device, modify, List.getD, deviceCount] at hi ⊢
      simp [hi]
    · cases h

theorem load_load (s s' : Sim) (i : Nat) (m : String) (hi : i < s.deviceCount)
    (h : s.load i m = .ok s') : s'.load i m = .ok s' := by
  unfold load
  rw [if_pos (loaded_of_load s s' i m hi h)]

end Sim

namespace Accelerator

/-- The number of devices. -/
def deviceCount : Accelerator → Nat
  | .absent => 0
  | .sim s => s.deviceCount

/-- Opens a device. -/
def open? : Accelerator → Int → Except Fault Nat
  | .absent, i => .error (Fault.make .unavailable ("device " ++ toString i ++ ": no accelerator present"))
  | .sim s, i => s.open? i

end Accelerator

end Lanes
