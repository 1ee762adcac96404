import Lanes.Scenario.Accumulators
import Lanes.Scenario.Devices
import Lanes.Scenario.Metrics
import Lanes.Scenario.Hosts
import Lanes.Region.Shared

/-!
Scenarios of parallel regions.

An executor is described by its simulated devices (with fixture kernels, and devices that fail
to open with `device <i> lost`), its inventory (four cores and its devices, unless given), and
whether units are placed. Shared accumulators are described by specs, or by `ref` to an earlier
one, which shares it rather than describing a new one; they outlive each run.

A body gives each lane a list of actions, its own or the default one, run until the first that
fails. Actions reduce or set the lane's copies, combine a spec into one, fail, stop the program,
or drive the lane's device. A value is a literal, or a whole number `k·index + c·count + b`, or a
binary64 value `k·index + b`. A literal that does not read as a number fails the lane with the
reader's refusal.
-/

namespace Lanes.Scenario

open Lanes.Accumulator Lanes.Region

instance : Explain Failure where
  explain
    | .fault f => f.message
    | .panic m => m
    | .deadline => "context deadline exceeded"
    | .malformed m => m

/-- The computations of a scenario's lanes. -/
abbrev Lane := LaneM Acc Unit Failure

/-- A step of a scenario inside a lane. -/
def inLane {β : Type} : Attempt β → Lane β
  | .ok b => pure b
  | .error (.panic m) => LaneM.panic m
  | .error e => LaneM.fail e

/-- A library result inside a lane. -/
def faultInLane {β : Type} : Except Fault β → Lane β
  | .ok b => pure b
  | .error f => LaneM.fail (.fault f)

/-- A value an action gives: a literal to be read, or one computed from the lane. -/
inductive LaneValue where
  | literal (text : String)
  | whole (i : Int64)
  | real (x : Binary64)

/-- The value of an action's field in this lane. -/
def laneValue (v : Doc) : Lane LaneValue := do
  match v with
  | .record _ =>
    let i ← LaneM.index
    if v.has "index_times_f" || v.has "plus_f" then
      let k ← inLane (if v.has "index_times_f" then do floatOf (← need v "index_times_f") else pure Binary64.zero)
      let b ← inLane (if v.has "plus_f" then do floatOf (← need v "plus_f") else pure Binary64.zero)
      pure (.real ((k.mul (Binary64.ofInt i)).add b))
    else
      let n ← LaneM.count
      let k ← inLane (intFieldOr v "index_times" 0)
      let c ← inLane (intFieldOr v "count_times" 0)
      let b ← inLane (intFieldOr v "plus" 0)
      pure (.whole (k * Int64.ofNat i + c * Int64.ofNat n + b))
  | _ =>
    match v.text? with
    | some s => pure (.literal s)
    | none => LaneM.fail (.malformed "bad value")

/-- A value as a whole number. -/
def LaneValue.whole? : LaneValue → Lane Int64
  | .whole i => pure i
  | .literal s =>
    match Numeral.readInt64 s.toUTF8.toList with
    | .ok i => pure i
    | .error r => LaneM.fail (.fault (Numeral.intFault s.toUTF8.toList r))
  | .real _ => LaneM.fail (.malformed "value is not a whole number")

/-- A value as a binary64 value; a literal out of range reads as an infinity or a zero. -/
def LaneValue.real? : LaneValue → Lane Binary64
  | .real x => pure x
  | .whole i => pure (Binary64.ofInt i.toInt)
  | .literal s =>
    match Numeral.readFloat s.toUTF8.toList with
    | some (x, _) => pure x
    | none => LaneM.fail (.fault (Numeral.floatFault s.toUTF8.toList .malformed))

/-- Reduces a value into an accumulator, accumulating it into a mean. -/
def laneReduce (a : Acc) (v : LaneValue) : Lane Acc := do
  match a with
  | .long l => pure (.long (← faultInLane (l.reduce (← v.whole?))))
  | .double d => pure (.double (← faultInLane (d.reduce (← v.real?))))
  | .mean m => pure (.mean (m.accumulate (← v.real?)))
  | .composed _ => LaneM.fail (.malformed "reduce needs a long or double")

/-- Sets the value of a whole-number or floating-point accumulator. -/
def laneSet (a : Acc) (v : LaneValue) : Lane Acc := do
  match a with
  | .long l => pure (.long { l with value := ← v.whole? })
  | .double d => pure (.double { d with value := ← v.real? })
  | _ => LaneM.fail (.malformed ("cannot set " ++ a.kind))

/-- The shared accumulators of a scenario: values by handle, and the handle of each shared
position. -/
structure Pool where
  store : List (Option Acc)
  handles : List Nat

/-- The kind of the accumulator under a handle. -/
def Pool.kindOf (p : Pool) (h : Nat) : String :=
  match p.store.getD h none with
  | some a => a.kind
  | none => "<nil>"

/-- Changes the lane's copy of shared accumulator `j`, or of its element `elem` when given. -/
def updateLocal (p : Pool) (action : Doc) (f : Acc → Lane Acc) : Lane Unit := do
  let j ← inLane (natField action "acc")
  match p.handles[j]? with
  | none => LaneM.fail (.malformed ("no shared accumulator " ++ toString j))
  | some h =>
    let idx ← LaneM.localIndex h (p.kindOf h)
    let a ← LaneM.getLocal idx
    if action.has "elem" then
      let e ← inLane (intField action "elem")
      match a with
      | .composed parts =>
        let el ← inLane (match Acc.part parts e.toInt with
          | .ok x => .ok x
          | .error pn => .error (.panic pn.message))
        let el' ← f el
        LaneM.setLocal idx (.composed (parts.set e.toInt.toNat el'))
      | _ => LaneM.fail (.malformed "elem needs a composed accumulator")
    else LaneM.setLocal idx (← f a)

/-- The device of a lane that drives one. -/
def laneDevice : Lane Nat := do
  match ← LaneM.device? with
  | some d => pure d
  | none => LaneM.fail (.fault (.text "driver: lane has no device"))

/-- One action of a lane. -/
def laneAction (p : Pool) (action : Doc) : Lane Unit := do
  match ← inLane (textField action "do") with
  | "reduce" =>
    let v ← laneValue (← inLane (need action "value"))
    updateLocal p action (laneReduce · v)
  | "set" =>
    let v ← laneValue (← inLane (need action "value"))
    updateLocal p action (laneSet · v)
  | "reduce_all" =>
    let v ← laneValue (← inLane (need action "value"))
    let ls ← LaneM.locals
    for (a, idx) in ls.zipIdx do
      LaneM.setLocal idx (← laneReduce a v)
  | "combine" =>
    let spec ← inLane (build (← inLane (need action "spec")))
    updateLocal p action fun a => faultInLane (a.combine spec)
  | "fail" =>
    let msg ← inLane (textField action "message")
    if action.has "kind" then
      match FaultKind.ofName? (← inLane (textField action "kind")) with
      | some k => LaneM.fail (.fault (Fault.make k msg))
      | none => LaneM.fail (.malformed "unknown kind")
    else LaneM.fail (.fault (.text msg))
  | "panic" => LaneM.panic (← inLane (textField action "message"))
  | "local_foreign" =>
    let _ ← LaneM.localIndex (p.handles.foldl Nat.max 0 + 1) "long.sum"
    pure ()
  | "load" =>
    let d ← laneDevice
    faultInLane (← LaneM.load d (← inLane (textField action "module")))
  | "launch" =>
    let d ← laneDevice
    faultInLane (← LaneM.launch d (← inLane (textField action "kernel")) (← inLane (argsOf action)))
  | "copyin" =>
    let d ← laneDevice
    let v ← (← laneValue (← inLane (need action "value"))).whole?
    faultInLane (← LaneM.copyIn d (Bytes.le64 v.toUInt64))
  | "copyout_reduce" =>
    let d ← laneDevice
    let mem ← faultInLane (← LaneM.copyOut d)
    if mem.length ≠ 8 then
      LaneM.fail (.fault (.text ("driver: device memory holds " ++ toString mem.length ++ " bytes")))
    else updateLocal p action (laneReduce · (.whole (Bytes.readLe64 mem).toInt64))
  | other => LaneM.fail (.malformed ("unknown action " ++ other))

/-- The body a description gives: each lane runs its own actions, or the default ones. -/
def laneBody (p : Pool) (body : Doc) : Lane Unit := do
  let i ← LaneM.index
  let own := (body.field? "lanes").bind (·.field? (toString i))
  let actions := match own with
    | some acts => acts.items
    | none => ((body.field? "default").map Doc.items).getD []
  for a in actions do laneAction p a

/-- A policy description, or none for null. -/
def policyOf (d : Doc) : Attempt (Option Policy) := do
  match d with
  | .null => pure none
  | _ =>
    match ← textField d "type" with
    | "lanes" => pure (some (.lanes (← intField d "n").toInt))
    | "allcores" => pure (some .allCores)
    | "alldevices" => pure (some .allDevices)
    | "devices" => pure (some (.devices (← intField d "n").toInt))
    | "unit" => pure (some (.unit (← manifestOf d)))
    | other => refuse ("unknown policy " ++ other)

/-- An executor description; none describes the default executor. -/
def executorOf (d : Option Doc) : Attempt Executor := do
  let d := d.getD (.record [])
  let devices ← if d.has "devices" then some <$> natField d "devices" else pure none
  let acc ← match devices with
    | some n =>
      let s ← (d.field? "kernels").map Doc.items |>.getD [] |>.foldlM (fun s k => do
        let kernel ← textField k "kernel"
        registerFixture s (← textField k "module") kernel
          (← if k.has "fn" then textField k "fn" else pure kernel)) (Sim.create n)
      let s ← ((d.field? "fail_open").map Doc.items |>.getD []).foldlM (fun s i => do
        let i ← intOf i
        pure (s.failToOpen i.toInt (.text ("device " ++ toString i.toInt ++ " lost")))) s
      pure (Accelerator.sim s)
    | none => pure .absent
  let inv ← match d.field? "inventory" with
    | some i => inventoryOf i
    | none => pure ⟨4, (devices.getD 0 : Nat)⟩
  let placement := if boolField d "placement" then some (Placement.ofInventory inv) else none
  pure ⟨acc, inv, placement, Metrics.Scope.empty⟩

/-- The report of a lane failure. -/
def laneFailureDoc (i : Nat) (f : LaneFailure Failure) : Doc :=
  let fault? : Option Fault := match f with
    | .body (.fault x) => some x
    | .panic m => some (panicFault m)
    | .fault x => some x
    | _ => none
  let kind := match f, fault? with
    | _, some x => faultName x
    | .body e, none => match (Failure.fields e).head? with
      | some (_, .str k) => k
      | _ => "Error"
    | _, none => "Error"
  let severity : List (String × Doc) := match fault? with
    | some x => if x.severityOf == .fatal then [("severity", .str "fatal")] else []
    | none => []
  .record ([("lane", .nat i), ("error", .str kind), ("message", .str f.text)] ++ severity)

/-- The report fields of how a region ended. -/
def outcomeFields : Outcome Failure → List (String × Doc)
  | .ok => []
  | .refused f => [("error", .record (faultFields f)), ("lane_errors", .list [])]
  | .waits => [("error", .record Failure.deadline.fields), ("lane_errors", .list [])]
  | .failed n fails =>
    [("error", .record [("error", .str "LaneErrors"), ("message", .str (failuresText n fails))]),
     ("lane_errors", .list (fails.map fun (i, f) => laneFailureDoc i f))]
  | .panicked m => (Failure.panic m).fields

/-- The report of an accumulator that may be missing. -/
def optStateDoc : Option Acc → Doc
  | some a => stateDoc a
  | none => .null

/-- One run of a region scenario: its report, the executor and the shared accumulators after it. -/
def regionRun (ex : Executor) (p : Pool) (run : Doc) : Attempt (Doc × Executor × Pool) := do
  let policy ← policyOf ((run.field? "policy").getD .null)
  let body : Option (Lane Unit) := match run.field? "body" with
    | some .null | none => none
    | some b => some (laneBody p b)
  let toplevel := boolField run "toplevel"
  let exec := if toplevel then Executor.host else ex
  let shared := p.handles.map fun h => (h, p.store.getD h none)
  let r := Region.run exec policy body shared ()
  if let .panicked m := r.outcome then throw (.panic m)
  let store := match r.merged with
    | some ms => (p.handles.zip ms).foldl (fun st (h, m) => st.set h (some m)) p.store
    | none => p.store
  let p' : Pool := { p with store }
  let policyField : List (String × Doc) := match policy with
    | some pol => [("policy", .str pol.text)]
    | none => []
  let doc : Doc := .record (policyField ++ [("ran", .list (r.ran.map Doc.nat)),
    ("shared", if p'.handles.isEmpty then .null
      else .list (p'.handles.map fun h => optStateDoc (p'.store.getD h none)))] ++
    outcomeFields r.outcome)
  pure (doc, if toplevel then ex else r.executor, p')

/-- A region scenario. -/
def regionScenario (req : Doc) : Attempt Doc := do
  let ex ← executorOf (req.field? "executor")
  -- shared accumulators: a spec makes a new one, a reference shares an earlier one
  let pool ← ((req.field? "shared").map Doc.items |>.getD []).foldlM (fun (p : Pool) spec => do
    if spec.has "ref" then
      let j ← natField spec "ref"
      match p.handles[j]? with
      | some h => pure { p with handles := p.handles ++ [h] }
      | none => refuse ("bad ref " ++ toString j)
    else
      let a ← build spec
      pure ⟨p.store ++ [a], p.handles ++ [p.store.length]⟩) ⟨[], []⟩
  let (reports, ex, _) ← ((req.field? "runs").map Doc.items |>.getD []).foldlM
    (fun (acc : Array Doc × Executor × Pool) run => do
      let (d, ex', p') ← regionRun acc.2.1 acc.2.2 run
      pure (acc.1.push d, ex', p')) (#[], ex, pool)
  let loads : List (String × Doc) := match ex.accelerator with
    | .sim s => [("loads", .nat s.loads)]
    | .absent => []
  pure (.record ([("runs", .list reports.toList), ("metrics", metricsDoc ex.scope)] ++ loads))

end Lanes.Scenario
