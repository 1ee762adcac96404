import Lanes.Pipeline.Transform
import Lanes.Region.Shared

/-!
Topologies: sources, the replicas that read them, and the table they feed.

A topology is built by attaching sources and giving each source replicas: a number of copies of
a transform. A source either is one reader that its replicas share, each record going to one
of them, or opens a fresh reader for every replica. Running the topology runs one region lane
per replica copy, in the order the sources and replicas were attached. Each lane makes its
transform, then reads records until its reader ends, counting each record and emitting the
transform's updates into the table. After the run the table is frozen and the number of records
read by the lanes that succeeded is kept.

A source is unconfigured until it has replicas, then configured, running while the topology
runs, and drained after. A topology is as far as its least advanced source; it is drained only
once its run has finished.
-/

namespace Lanes.Pipeline

open Lanes.Accumulator Lanes.Region

/-- How far a source, or a topology, has come. -/
inductive Stage where
  | unconfigured
  | configured
  | running
  | drained
  deriving DecidableEq, Repr, Inhabited

/-- The stage as text. -/
def Stage.text : Stage → String
  | .unconfigured => "UNCONFIGURED"
  | .configured => "CONFIGURED"
  | .running => "RUNNING"
  | .drained => "DRAINED"

/-- The rank of a stage, in the order stages come. -/
def Stage.rank : Stage → Nat
  | .unconfigured => 0
  | .configured => 1
  | .running => 2
  | .drained => 3

/-- The less advanced of two stages. -/
def Stage.least (a b : Stage) : Stage := if b.rank < a.rank then b else a

/-- Where a source's readers come from. -/
inductive Origin where
  /-- One reader shared by all replicas, and whether it has reached its end. -/
  | shared (r : Reader) (ended : Bool)
  /-- A fresh reader for each replica, or the failure of opening one. -/
  | opener (make : Except Fault Reader)

/-- Copies of a transform reading a source. -/
structure ReplicaConfig where
  name : String
  copies : Nat
  transform : String
  args : List String

/-- A source of a topology. -/
structure SourceConfig where
  origin : Origin
  replicas : List ReplicaConfig
  stage : Stage
  pending : Nat
  scope : Metrics.Scope

/-- The number of replica copies of a source. -/
def SourceConfig.lanes (sc : SourceConfig) : Nat := (sc.replicas.map (·.copies)).foldr (· + ·) 0

/-- A source marked running: each of its replica copies is a lane still to finish. -/
def SourceConfig.start (sc : SourceConfig) : SourceConfig := { sc with pending := sc.lanes, stage := .running }

/-- A topology. -/
structure Topology where
  table : Table
  sources : List SourceConfig
  started : Bool
  drained : Bool
  records : Int64
  outcome : Option (Outcome Fault)

/-- A refusal of building or running a topology. -/
def configFault (message : String) : Fault := Fault.make .invalid ("pipeline: " ++ message)

namespace Topology

/-- An empty topology feeding a table of a kind. -/
def create (kind : List UInt8) : Except Fault Topology := do
  pure ⟨← Table.create kind, [], false, false, 0, none⟩

/-- The stage of the topology. -/
def stage (t : Topology) : Stage :=
  match t.sources with
  | [] => .unconfigured
  | sc :: rest =>
    let least := rest.foldl (fun s c => s.least c.stage) sc.stage
    if least = .drained ∧ !t.drained then .running else least

/-- Attaches a source; its index is the number of sources before it. -/
def attach (t : Topology) (origin : Origin) : Except Fault (Nat × Topology) :=
  if t.started then .error (configFault ("cannot attach source: topology is " ++ t.stage.text))
  else .ok (t.sources.length,
    { t with sources := t.sources ++ [⟨origin, [], .unconfigured, 0, Metrics.Scope.empty⟩] })

/-- Attaches a source that its replicas share; `none` is a missing source. -/
def source (t : Topology) : Option Reader → Except Fault (Nat × Topology)
  | some r => t.attach (.shared r false)
  | none => .error (configFault "nil source")

/-- Attaches a source of which every replica opens its own reader; `none` is a missing opener. -/
def replicatedSource (t : Topology) : Option (Except Fault Reader) → Except Fault (Nat × Topology)
  | some make => t.attach (.opener make)
  | none => .error (configFault "nil source opener")

/-- Gives a source copies of a transform; `name` is empty to be named by its position, and
`transform` is `none` for a missing transform. -/
def addReplicas (t : Topology) (i : Nat) (copies : Int) (name : String) (transform : Option String)
    (args : List String) : Except Fault (ReplicaConfig × Topology) :=
  match t.sources[i]? with
  | none => .error (configFault ("source " ++ toString i ++ " does not exist"))
  | some sc =>
    if copies < 1 then
      .error (configFault ("source " ++ toString i ++ ": replica copies must be positive, got " ++ toString copies))
    else match transform with
      | none => .error (configFault ("source " ++ toString i ++ ": nil transform factory"))
      | some tr =>
        if t.started then
          .error (configFault ("source " ++ toString i ++ ": cannot attach replicas: topology is " ++ t.stage.text))
        else
          let rc : ReplicaConfig :=
            ⟨if name.isEmpty then "transform" ++ toString sc.replicas.length else name, copies.toNat, tr, args⟩
          let sc' := { sc with replicas := sc.replicas ++ [rc], stage := .configured }
          .ok (rc, { t with sources := t.sources.set i sc' })

/-- Gives a source copies of a transform known by name, which also names the replicas. -/
def replicasOf (t : Topology) (i : Nat) (copies : Int) (name : String) (args : List String) :
    Except Fault (ReplicaConfig × Topology) := do
  let tr ← lookupTransform name
  t.addReplicas i copies name (some tr) args

/-! ### Running -/

/-- The lanes of a run: each replica copy with its source's index, in attachment order. -/
def laneReplicas (t : Topology) : List (Nat × ReplicaConfig) :=
  (t.sources.zipIdx.map fun (sc, i) =>
    (sc.replicas.map fun rc => List.replicate rc.copies (i, rc)).flatten).flatten

/-- A lane's computations: its copy of the record count is its only local. -/
abbrev ReplicaM := LaneM Acc Topology Fault

/-- A failure of a lane, under a message. -/
def failWithin {β : Type} (message : String) (f : Fault) : ReplicaM β :=
  LaneM.fail (Fault.within message f)

/-- Reads the next record for a replica: from its own reader, or from the source's shared one. -/
def readNext (si : Nat) (own : Option Reader) : ReplicaM (Read × Option Reader) := do
  match own with
  | some r => let (res, r') := r.read; pure (res, some r')
  | none =>
    let t ← LaneM.world
    match t.sources[si]? with
    | some sc =>
      match sc.origin with
      | .shared r ended =>
        if ended then pure (.done, none)
        else
          let (res, r') := r.read
          let ended' := match res with
            | .done => true
            | _ => false
          LaneM.setWorld { t with sources := t.sources.set si { sc with origin := .shared r' ended' } }
          pure (res, none)
      | .opener _ => pure (.done, none)
    | none => pure (.done, none)

/-- Emits a record's updates into the table, counting each that was taken. -/
def emitAll (rc : ReplicaConfig) (rec : Record) : List (Key × Acc) → ReplicaM Unit
  | [] => pure ()
  | (k, u) :: rest => do
    let t ← LaneM.world
    let (table, r) := t.table.combine k (some u)
    LaneM.setWorld { t with table }
    match r with
    | .ok () =>
      LaneM.incr Metrics.updatesEmitted 1
      emitAll rc rec rest
    | .error f => failWithin ("pipeline: " ++ rc.name ++ ": record " ++ rec.id) f

/-- Reads and maps records until the reader ends, at most `fuel` of them. -/
def pump (si : Nat) (rc : ReplicaConfig) (tr : Transform) : Nat → Option Reader → ReplicaM Unit
  | 0, _ => pure ()
  | fuel + 1, own => do
    let (res, own') ← readNext si own
    match res with
    | .done => pure ()
    | .failed f => failWithin ("pipeline: source " ++ toString si ++ ": read") f
    | .record rec =>
      LaneM.incr Metrics.recordsRead 1
      let n ← LaneM.getLocal 0
      match n with
      | .long l => LaneM.setLocal 0 (.long { l with value := l.value + 1 })
      | other => LaneM.setLocal 0 other
      let (updates, failure) := tr.map rec
      emitAll rc rec updates
      match failure with
      | some f => failWithin ("pipeline: " ++ rc.name ++ ": record " ++ rec.id) f
      | none => pump si rc tr fuel own'

/-- A replica's work: make the transform, find the reader, and pump records. -/
def replicaWork (si : Nat) (rc : ReplicaConfig) : ReplicaM Unit := do
  let tr ← match Transform.make rc.transform rc.args with
    | .ok tr => pure tr
    | .error f => failWithin ("pipeline: source " ++ toString si ++ ": " ++ rc.name) f
  let t ← LaneM.world
  match t.sources[si]? with
  | none => pure ()
  | some sc =>
    match sc.origin with
    | .shared r _ => pump si rc tr (r.bound + 1) none
    | .opener (.ok r) => pump si rc tr (r.bound + 1) (some r)
    | .opener (.error f) => failWithin ("pipeline: source " ++ toString si ++ ": open") f

/-- A replica is done: its lane's metrics join its source's, and a source whose replicas are
all done is drained. -/
def replicaDone (si : Nat) : ReplicaM Unit := do
  let scope ← LaneM.scope
  let t ← LaneM.world
  match t.sources[si]? with
  | none => pure ()
  | some sc =>
    let pending := sc.pending - 1
    let sc' := { sc with scope := sc.scope.merge scope, pending,
                         stage := if pending = 0 then .drained else sc.stage }
    LaneM.setWorld { t with sources := t.sources.set si sc' }

/-- The body of a run's lanes. -/
def body (lanes : List (Nat × ReplicaConfig)) : ReplicaM Unit := do
  match lanes[← LaneM.index]? with
  | some (si, rc) => LaneM.andThenAlways (replicaWork si rc) (replicaDone si)
  | none => pure ()

/-- Checks that every source has replicas, marking each checked source running. -/
def startSources : Nat → List SourceConfig → Except (Fault × List SourceConfig) (List SourceConfig)
  | _, [] => .ok []
  | i, sc :: rest =>
    if sc.stage = .unconfigured then .error (configFault ("source " ++ toString i ++ " has no replicas"), sc :: rest)
    else
      let sc' := sc.start
      match startSources (i + 1) rest with
      | .ok rest' => .ok (sc' :: rest')
      | .error (f, rest') => .error (f, sc' :: rest')

/-- What a run ends with: lanes failed or not, or a refusal before any lane ran. -/
inductive RunEnd where
  | ran (outcome : Outcome Fault)
  | refused (f : Fault)

/-- Runs the topology on an executor. -/
def run (t : Topology) (e : Executor) : Topology × Executor × RunEnd :=
  if t.started then (t, e, .refused (configFault "topology already run"))
  else if t.sources.isEmpty then (t, e, .refused (configFault "topology has no sources"))
  else
    match startSources 0 t.sources with
    | .error (f, sources) => ({ t with sources }, e, .refused f)
    | .ok sources =>
      let t := { t with sources, started := true }
      let lanes := t.laneReplicas
      let r := Region.run e (some (.lanes lanes.length)) (some (body lanes)) [(0, some (sumOf 0))] t
      let w := r.world
      let records := match r.merged with
        | some [.long l] => l.value
        | _ => 0
      let t' := { w with table := w.table.freeze,
                         sources := w.sources.map ({ · with stage := .drained }),
                         records, drained := true, outcome := some r.outcome }
      (t', r.executor, .ran r.outcome)

end Topology

end Lanes.Pipeline
