import Lanes.Scenario.Regions
import Lanes.Pipeline.Topology

/-!
Scenarios of tables and topologies.

A key is reported as text when its bytes are well-formed UTF-8, and as `key_hex` otherwise.
Sources are described as a list of records, the lines of a text (with a long run of `a` after it,
if asked), a number of copies of one content, null, or an opener that fails.
-/

namespace Lanes.Scenario

open Lanes.Accumulator Lanes.Pipeline Lanes.Region

/-- The report of a key. -/
def keyDoc (k : Key) : Doc :=
  if Text.Utf8.valid k then .str (String.fromUTF8! (ByteArray.mk k.toArray))
  else .record [("key_hex", .str (Bytes.toHex k))]

/-- The report of a table's entries. -/
def entriesDoc (t : Table) : Doc :=
  .list (t.snapshot.map fun (k, a) => .list [keyDoc k, stateDoc a])

/-- The report of a whole table. -/
def dumpDoc (t : Table) : Doc :=
  .record [("kind", .str t.kind), ("frozen", .bool t.frozen), ("len", .nat t.size), ("entries", entriesDoc t)]

/-- One step of a table scenario. -/
def tableStep (t : Table) (step : Doc) : Attempt Doc × Table :=
  let attempt : Attempt (Attempt Doc × Table) := do
    match ← textField step "do" with
    | "combine" =>
      let key ← bytesField step "key"
      let update ← build (← need step "update")
      let (t', r) := t.combine key update
      match r with
      | .ok () => pure (.ok (((t'.get? key).map stateDoc).getD .null), t')
      | .error f => pure (.error (.fault f), t')
    | "freeze" => pure (.ok (.record [("frozen", .bool true)]), t.freeze)
    | "get" =>
      match t.get? (← bytesField step "key") with
      | some a => pure (.ok (.record [("present", .bool true), ("acc", stateDoc a)]), t)
      | none => pure (.ok (.record [("present", .bool false)]), t)
    | "len" => pure (.ok (.record [("len", .nat t.size)]), t)
    | "keys" => pure (.ok (.record [("keys", .list (t.keys.map keyDoc))]), t)
    | "range" =>
      let limit ← intField step "limit"
      -- the visit goes on while fewer keys than the limit have been seen
      let seen := t.range (fun (seen : List Key) k _ =>
        let s := seen ++ [k]
        (s, decide ((s.length : Int) < limit.toInt))) []
      pure (.ok (.record [("keys", .list (seen.map keyDoc))]), t)
    | "snapshot" => pure (.ok (.record [("entries", entriesDoc t)]), t)
    | "dump" => pure (.ok (dumpDoc t), t)
    | other => refuse ("unknown step " ++ other)
  match attempt with
  | .ok r => r
  | .error e => (.error e, t)

/-- A table scenario. -/
def tableScenario (req : Doc) : Attempt Doc := do
  let t ← ofFault (Table.create (← bytesField req "kind"))
  let (out, _) := runSteps tableStep t (← need req "steps").items
  pure (.record [("steps", .list out)])

/-- A source description: a reader, or none for null; `none` also stands for an opener that
fails, whose failure is given. -/
inductive SourceSpec where
  | reader (r : Reader)
  | missing
  | failing (f : Fault)

/-- The bytes of a text followed by `n` bytes of `a`. -/
def textWithRun (text : List UInt8) (n : Nat) : ByteArray :=
  ByteArray.mk (text.toArray ++ Array.replicate n 97)

/-- Reads a source description. -/
def sourceSpecOf (d : Doc) : Attempt SourceSpec := do
  match ← textField d "type" with
  | "slice" =>
    let recs ← ((d.field? "records").map Doc.items |>.getD []).mapM fun r => do
      pure (⟨← textField r "id", ByteArray.mk (← bytesField r "content").toArray⟩ : Record)
    pure (.reader (.records recs))
  | "lines" =>
    let text ← bytesField d "text"
    let extra ← if d.has "long_line" then natField d "long_line" else pure 0
    pure (.reader (Reader.ofText (textWithRun text extra)))
  | "count" =>
    let n ← intField d "n"
    let content ← if d.has "content" || d.has "content_hex" then bytesField d "content" else pure []
    pure (.reader (.count n.toInt.toNat 0 (ByteArray.mk content.toArray)))
  | "nil" => pure .missing
  | "fail_open" => pure (.failing (.text (← textField d "message")))
  | other => refuse ("unknown source type " ++ other)

/-- The report of a topology's run. -/
def runDoc (t : Topology) (ex : Option Executor) (sources : Bool) (ending : Topology.RunEnd) : Doc :=
  let sourceDocs : List Doc := if sources then
      t.sources.map fun sc => .record [("state", .str sc.stage.text), ("metrics", metricsDoc sc.scope)]
    else []
  let metrics : List (String × Doc) := match ex with
    | some e => [("metrics", metricsDoc e.scope)]
    | none => []
  let ended : List (String × Doc) := match ending with
    | .ran o => outcomeFields (o.map Failure.fault)
    | .refused f => outcomeFields (.refused f)
  .record ([("records", .int t.records.toInt), ("state", .str t.stage.text), ("table", dumpDoc t.table),
    ("sources", .list sourceDocs)] ++ metrics ++ ended)

/-- A topology scenario's state: the topology and the executor it runs on, if one was given. -/
structure Bench' where
  topology : Topology
  executor : Option Executor

/-- The report of a source's place in a topology. -/
def sourceDoc (i : Nat) (t : Topology) : Doc :=
  .record [("index", .nat i), ("state", .str ((t.sources[i]?.map SourceConfig.stage).getD Stage.unconfigured).text)]

/-- One step of a topology scenario. -/
def topologyStep (b : Bench') (step : Doc) : Attempt Doc × Bench' :=
  let t := b.topology
  let attempt : Attempt (Attempt Doc × Bench') := do
    let attached (r : Except Fault (Nat × Topology)) : Attempt (Attempt Doc × Bench') :=
      match r with
      | .ok (i, t') => pure (.ok (sourceDoc i t'), { b with topology := t' })
      | .error f => pure (.error (.fault f), b)
    match ← textField step "do" with
    | "source" =>
      match ← sourceSpecOf (← need step "source") with
      | .reader r => attached (t.source (some r))
      | .missing => attached (t.source none)
      | .failing _ => refuse "an opener that fails is only for replicated sources"
    | "replicated" =>
      match ← sourceSpecOf (← need step "source") with
      | .reader r => attached (t.replicatedSource (some (.ok r)))
      | .missing => attached (t.replicatedSource none)
      | .failing f => attached (t.replicatedSource (some (.error f)))
    | "replicas" =>
      let i ← natField step "source"
      let copies ← intField step "copies"
      let name ← textField step "transform"
      let args ← ((step.field? "args").map Doc.items |>.getD []).mapM fun a => match a.text? with
        | some s => pure s
        | none => refuse "bad argument"
      let factory ← if step.has "factory" then textField step "factory" else pure ""
      let r ← match factory with
        | "lookup" =>
          match lookupTransform name with
          | .ok tr => pure (t.addReplicas i copies.toInt "" (some tr) args)
          | .error f => pure (.error f)
        | "nil" => pure (t.addReplicas i copies.toInt "" none args)
        | _ => pure (t.replicasOf i copies.toInt name args)
      match r with
      | .ok (rc, t') =>
        let sc := t'.sources[i]?
        pure (.ok (.record [("name", .str rc.name), ("copies", .nat rc.copies),
          ("num_replicas", .nat ((sc.map SourceConfig.lanes).getD 0)),
          ("state", .str ((sc.map SourceConfig.stage).getD Stage.unconfigured).text)]), { b with topology := t' })
      | .error f => pure (.error (.fault f), b)
    | "run" =>
      let (t', ex', ending) := t.run (b.executor.getD Executor.host)
      let ex := b.executor.map fun _ => ex'
      pure (.ok (runDoc t' ex true ending), ⟨t', ex⟩)
    | "state" =>
      pure (.ok (.record [("state", .str t.stage.text), ("records", .int t.records.toInt),
        ("sources", .list (t.sources.zipIdx.map fun (sc, i) =>
          .record [("index", .nat i), ("state", .str sc.stage.text), ("replicas", .nat sc.lanes)]))]), b)
    | "wait" =>
      let w : Doc := if !t.drained then .record Failure.deadline.fields
        else match t.outcome with
          | some .ok | none => .str "ok"
          | some o => match outcomeFields (o.map Failure.fault) with
            | (_, e) :: _ => e
            | [] => .str "ok"
      pure (.ok (.record [("wait", w)]), b)
    | "emit" =>
      let key ← bytesField step "key"
      let update ← build (← need step "update")
      let (table, r) := t.table.combine key update
      let t' := { t with table }
      match r with
      | .ok () => pure (.ok (dumpDoc table), { b with topology := t' })
      | .error f => pure (.error (.fault f), { b with topology := t' })
    | "table" => pure (.ok (dumpDoc t.table), b)
    | "transforms" => pure (.ok (.record [("transforms", .list (transformNames.map Doc.str))]), b)
    | "register_transform" =>
      let name ← textField step "name"
      if boolField step "nil" then .error (.panic (transformMissing name))
      else if transformNames.contains name then .error (.panic (transformTwice name))
      else refuse ("transform " ++ name ++ " would be registered")
    | other => refuse ("unknown step " ++ other)
  match attempt with
  | .ok r => r
  | .error e => (.error e, b)

/-- A topology scenario. -/
def topologyScenario (req : Doc) : Attempt Doc := do
  let t ← ofFault (Topology.create (← bytesField req "kind"))
  let ex ← match req.field? "executor" with
    | some .null | none => pure none
    | some d => some <$> executorOf (some d)
  let (out, _) := runSteps topologyStep ⟨t, ex⟩ (← need req "steps").items
  pure (.record [("steps", .list out)])

end Lanes.Scenario
