import Lanes.Region.Policy

/-!
Lanes: one run of a region's body.

A lane knows its index, the number of lanes, the device it drives if any, and the handles of the
region's shared values. It owns a private copy of each shared value (its locals), a metrics
scope of its own, and works on the executor's accelerator and on a world `σ` that the body
shares with the other lanes. Lanes run one after another in index order, each on the state the
one before left.

A body stops with an error of its own (`ε`) or by stopping the program (`panic`); what it did
to its locals, scope, accelerator and world before stopping stays done.
-/

namespace Lanes.Region

/-- What a lane knows of itself. -/
structure LaneInfo where
  index : Nat
  count : Nat
  device : Option Nat
  shared : List Nat
  deriving Repr, Inhabited

/-- What a lane works on. -/
structure LaneState (α σ : Type) where
  locals : List α
  scope : Metrics.Scope
  accelerator : Accelerator
  world : σ

/-- How a body stops early. -/
inductive LaneStop (ε : Type) where
  | error (e : ε)
  | panic (message : String)

/-- A lane body's computations. -/
abbrev LaneM (α σ ε : Type) := ReaderT LaneInfo (ExceptT (LaneStop ε) (StateM (LaneState α σ)))

namespace LaneM

variable {α σ ε : Type}

/-- The lane's index. -/
def index : LaneM α σ ε Nat := do return (← read).index

/-- The number of lanes. -/
def count : LaneM α σ ε Nat := do return (← read).count

/-- The device the lane drives, if any. -/
def device? : LaneM α σ ε (Option Nat) := do return (← read).device

/-- Stops the body with an error. -/
def fail {β : Type} (e : ε) : LaneM α σ ε β := throw (.error e)

/-- Stops the program. -/
def panic {β : Type} (message : String) : LaneM α σ ε β := throw (.panic message)

/-- The position of the lane's copy of a shared value, found by its handle; a value that is not
shared with the region stops the program. `kind` names the value in that message. -/
def localIndex (handle : Nat) (kind : String) : LaneM α σ ε Nat := do
  let info ← read
  match info.shared.idxOf? handle with
  | some j => pure j
  | none => panic ("region: lane " ++ toString info.index ++ ": accumulator " ++ kind ++
      " is not shared with this region")

/-- The lane's copy at a position. -/
def getLocal [Inhabited α] (j : Nat) : LaneM α σ ε α := do
  return (← get).locals.getD j default

/-- Replaces the lane's copy at a position. -/
def setLocal (j : Nat) (a : α) : LaneM α σ ε Unit :=
  modify fun st => { st with locals := st.locals.set j a }

/-- All the lane's copies, in the order the shared values were given. -/
def locals : LaneM α σ ε (List α) := do return (← get).locals

/-- Replaces all the lane's copies. -/
def setLocals (as : List α) : LaneM α σ ε Unit :=
  modify fun st => { st with locals := as }

/-- Adds to a counter of the lane's scope. -/
def incr (id : Nat) (n : Int64) : LaneM α σ ε Unit :=
  modify fun st => { st with scope := st.scope.incr id n }

/-- The lane's scope. -/
def scope : LaneM α σ ε Metrics.Scope := do return (← get).scope

/-- The shared world. -/
def world : LaneM α σ ε σ := do return (← get).world

/-- Changes the shared world. -/
def setWorld (w : σ) : LaneM α σ ε Unit :=
  modify fun st => { st with world := w }

/-- Runs a step of the simulated accelerator; a lane runs on devices only when the executor
has one. -/
def onSim {β : Type} (f : Sim → Except Fault (Sim × β)) : LaneM α σ ε (Except Fault β) := do
  let st ← get
  match st.accelerator with
  | .sim s =>
    match f s with
    | .ok (s', b) =>
      set { st with accelerator := .sim s' }
      pure (.ok b)
    | .error e => pure (.error e)
  | .absent => pure (.error (Fault.make .unavailable "no accelerator present"))

/-- Loads a module on a device. -/
def load (dev : Nat) (module : String) : LaneM α σ ε (Except Fault Unit) :=
  onSim fun s => (s.load dev module).map (·, ())

/-- Copies bytes into a device's memory. -/
def copyIn (dev : Nat) (bytes : List UInt8) : LaneM α σ ε (Except Fault Unit) :=
  onSim fun s => .ok (s.copyIn dev bytes, ())

/-- Launches a kernel on a device. -/
def launch (dev : Nat) (kernel : String) (args : List Int64) : LaneM α σ ε (Except Fault Unit) :=
  onSim fun s => (s.launch dev kernel args).map (·, ())

/-- A device's memory. -/
def copyOut (dev : Nat) : LaneM α σ ε (Except Fault (List UInt8)) :=
  onSim fun s => .ok (s, s.copyOut dev)

/-- Runs `body`, then `after` whether the body stopped or not; a stop of the body goes on. -/
def andThenAlways {β : Type} (body : LaneM α σ ε β) (after : LaneM α σ ε Unit) : LaneM α σ ε β :=
  tryCatch (do let b ← body; after; pure b) (fun e => do after; throw e)

end LaneM

end Lanes.Region
