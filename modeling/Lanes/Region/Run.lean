import Lanes.Region.Lane

/-!
Running a region: fork, run and merge.

A region checks its policy, body and shared values, plans its lanes, opens their devices, then
runs the body once per lane, each lane on private copies of the shared values. The lane started
last runs first, then the others in the order they were started (`laneOrder`); lanes that read
from the same world see it in that order. Afterwards the
copies of the lanes that succeeded are folded into copies of the shared values in lane order,
all of a lane's copies or none of them; a lane that drove a device first moves its copies across
the device boundary. The folded values are the region's result. Every lane's metrics are merged
into the executor's scope, which also counts the region, its lanes and the failed lanes, and
keeps the widest region.

A lane fails when its body stops, or when its copies cannot be moved or folded. The failures of
all lanes are reported together, in lane order, after the merge. A lease taken in planning is
given back once the region has merged, or when it stops before any lane starts. A plan with a negative number
of lanes makes the whole region panic before any lane starts.
-/

namespace Lanes.Region

/-- Values that lanes fold back into a region's shared values. -/
class Mergeable (α : Type) where
  /-- The kind, naming the value in messages. -/
  kind : α → String
  /-- The unit of `combine` of the same kind. -/
  identity : α → α
  /-- Folds the second value into the first. -/
  combine : α → α → Except Fault α
  /-- Moves a value across the device boundary. -/
  transfer : α → Except Fault α

/-- Errors of lane bodies that can be written as text. -/
class Explain (ε : Type) where
  explain : ε → String

instance : Explain Fault := ⟨Fault.message⟩

/-- Why a lane failed. -/
inductive LaneFailure (ε : Type) where
  /-- The body stopped with an error. -/
  | body (e : ε)
  /-- The body stopped the program; the message's first line is kept. -/
  | panic (message : String)
  /-- The lane's copies could not be moved across the device boundary or folded. -/
  | fault (f : Fault)

/-- The failure of a lane whose body stopped the program. -/
def panicFault (message : String) : Fault :=
  .coded "" .other .fatal (some (.text ("panic while running lane: " ++ message)))

/-- The first line of a text. -/
def firstLine (s : String) : String := String.ofList (s.toList.takeWhile (· != '\n'))

/-- The text of a lane failure. -/
def LaneFailure.text {ε : Type} [Explain ε] : LaneFailure ε → String
  | .body e => Explain.explain e
  | .panic m => (panicFault m).message
  | .fault f => f.message

/-- How a region ended. -/
inductive Outcome (ε : Type) where
  /-- Every lane succeeded. -/
  | ok
  /-- The region was refused before any lane started. -/
  | refused (f : Fault)
  /-- The region waits for resources that are not free now. -/
  | waits
  /-- Some lanes failed: the number of lanes and each failure with its lane. -/
  | failed (lanes : Nat) (failures : List (Nat × LaneFailure ε))
  /-- The region panicked before any lane started. -/
  | panicked (message : String)

/-- Changes the errors of lane bodies. -/
def LaneFailure.map {ε ε' : Type} (g : ε → ε') : LaneFailure ε → LaneFailure ε'
  | .body e => .body (g e)
  | .panic m => .panic m
  | .fault f => .fault f

/-- Changes the errors of lane bodies. -/
def Outcome.map {ε ε' : Type} (g : ε → ε') : Outcome ε → Outcome ε'
  | .ok => .ok
  | .refused f => .refused f
  | .waits => .waits
  | .failed n fs => .failed n (fs.map fun (i, f) => (i, f.map g))
  | .panicked m => .panicked m

/-- The text of lane failures. -/
def failuresText {ε : Type} [Explain ε] (lanes : Nat) (failures : List (Nat × LaneFailure ε)) : String :=
  "region: " ++ toString failures.length ++ " of " ++ toString lanes ++ " lanes failed:\n" ++
    "\n".intercalate (failures.map fun (i, f) => "\tlane " ++ toString i ++ ": " ++ f.text)

/-- What running a region leaves. -/
structure Ran (α σ ε : Type) where
  executor : Executor
  world : σ
  /-- The lanes whose body started. -/
  ran : List Nat
  /-- The folded shared values, when lanes were forked. -/
  merged : Option (List α)
  outcome : Outcome ε

variable {α σ ε : Type}

/-- Checks the shared values: each is present, and its kind can fold its own identity. -/
def checkShared [Mergeable α] : Nat → List (Option α) → Except Fault (List α)
  | _, [] => .ok []
  | i, none :: _ => .error (Fault.make .invalid ("region: shared accumulator " ++ toString i ++ " is nil"))
  | i, some a :: rest =>
    match Mergeable.combine (Mergeable.identity a) (Mergeable.identity a) with
    | .error f => .error (Fault.within ("region: shared accumulator " ++ toString i) f)
    | .ok _ => (checkShared (i + 1) rest).map (a :: ·)

/-- The order in which lanes start: the lane started last runs first, then the others in the
order they were started. -/
def laneOrder : Nat → List Nat
  | 0 => []
  | k + 1 => k :: List.range k

/-- Opens the first `n` devices, in the order lanes start; the first that cannot be opened is
reported. -/
def openDevices (acc : Accelerator) (n : Nat) : Except Fault Unit :=
  let failures := (laneOrder n).filterMap fun (i : Nat) =>
    match acc.open? (i : Int) with
    | .error f => some f
    | .ok _ => none
  match failures.head? with
  | some f => .error (Fault.wrap .unavailable .unknown "region: open devices" f)
  | none => .ok ()

/-- What one lane left: how its body ended, its copies and its scope. -/
structure LaneEnd (α ε : Type) where
  result : Except (LaneStop ε) Unit
  locals : List α
  scope : Metrics.Scope

/-- Runs the lanes in the order given, each on the accelerator and world the one before left. -/
def runLanes (body : LaneM α σ ε Unit) (info : Nat → LaneInfo) (values : List α) :
    List Nat → Accelerator → σ → List (LaneEnd α ε) × Accelerator × σ
  | [], acc, w => ([], acc, w)
  | i :: rest, acc, w =>
    let (r, st) := (body.run (info i)).run ⟨values, Metrics.Scope.empty, acc, w⟩
    let (ends, acc', w') := runLanes body info values rest st.accelerator st.world
    (⟨r, st.locals, st.scope⟩ :: ends, acc', w')

/-- Folds a lane's copies into the merged values, all of them or none. -/
def mergeLane [Mergeable α] (merged locals : List α) : Except Fault (List α) :=
  (merged.zip locals).mapM fun (m, l) => Mergeable.combine m l

/-- Folds the lanes in lane order: the merged values, the executor's scope, and the failures. -/
def foldLanes [Mergeable α] (devices : Bool) :
    Nat → List (LaneEnd α ε) → List α → Metrics.Scope → List (Nat × LaneFailure ε) →
      List α × Metrics.Scope × List (Nat × LaneFailure ε)
  | _, [], merged, scope, fails => (merged, scope, fails.reverse)
  | i, e :: rest, merged, scope, fails =>
    let scope := scope.merge e.scope
    let step : Except (LaneFailure ε) (List α) :=
      match e.result with
      | .error (.error err) => .error (.body err)
      | .error (.panic m) => .error (.panic (firstLine m))
      | .ok () =>
        let moved := if devices then e.locals.mapM Mergeable.transfer else .ok e.locals
        match moved with
        | .error f => .error (.fault f)
        | .ok locals =>
          match mergeLane merged locals with
          | .ok m => .ok m
          | .error f => .error (.fault (Fault.within "region: merge" f))
    match step with
    | .ok merged' => foldLanes devices (i + 1) rest merged' scope fails
    | .error f => foldLanes devices (i + 1) rest merged (scope.incr Metrics.lanesFailed 1) ((i, f) :: fails)

/-- Runs a region on an executor: `shared` pairs each shared value, if present, with its handle,
by which a lane finds its copy. -/
def run [Mergeable α] (e : Executor) (policy : Option Policy) (body : Option (LaneM α σ ε Unit))
    (shared : List (Nat × Option α)) (world : σ) : Ran α σ ε :=
  let refused (f : Fault) : Ran α σ ε := ⟨e, world, [], none, .refused f⟩
  match policy, body with
  | none, _ => refused (Fault.make .invalid "region: nil policy")
  | _, none => refused (Fault.make .invalid "region: nil body")
  | some p, some b =>
    match checkShared 0 (shared.map (·.2)) with
    | .error f => refused f
    | .ok values =>
      match p.planOn e with
      | .error (.refused f) => refused f
      | .error .waits => ⟨e, world, [], none, .waits⟩
      | .error (.panics m) => ⟨e, world, [], none, .panicked m⟩
      | .ok (plan, held) =>
        let n := plan.lanes
        -- the lease planning took is given back when the region ends, forked or not
        let placement := held.map plan.release
        match (if plan.devices then openDevices e.accelerator n else .ok ()) with
        | .error f => ⟨{ e with placement }, world, [], none, .refused f⟩
        | .ok () =>
          let info (i : Nat) : LaneInfo :=
            ⟨i, n, if plan.devices then some i else none, shared.map (·.1)⟩
          let (ends, acc, world') := runLanes b info values (laneOrder n) e.accelerator world
          -- back to index order: the lane that ran first is the last one
          let ends := ends.rotateLeft 1
          let (merged, scope, fails) := foldLanes plan.devices 0 ends values e.scope []
          let scope := (scope.incr Metrics.regionsRun 1).incr Metrics.lanesRun (Int64.ofNat n)
            |>.observe Metrics.widestRegion (Int64.ofNat n)
          let outcome : Outcome ε := if fails.isEmpty then .ok else .failed n fails
          ⟨{ e with accelerator := acc, scope, placement }, world', List.range n, some merged, outcome⟩

end Lanes.Region
