import Lanes.Config.Decode
import Lanes.Config.ParseBody
import Lanes.Pipeline.Topology
import Lanes.Manifest

/-!
Topologies described in the configuration language.

A description sets the table's `kind` and lists `source "type" "name"` blocks. A source reads
`paths` of files, given `lines`, or a count of `records` of one `content`; `replicated = true`
gives each replica a reader of its own instead of sharing one. Each source holds
`replica "transform"` blocks with optional `copies` (one by default) and `args`. Expressions may
use `cores` and `devices`, the counts of the inventory the topology is loaded for.

Loading fails on diagnostics of parsing, then of decoding; then the topology is built source by
source, each with its replicas, and a failure of a source or its replicas names the file and the
source.
-/

namespace Lanes.Pipeline

open Config

/-- A replica block: the transform, its copies and its arguments. -/
structure ReplicaSpec where
  transform : String
  copies : Option Int
  args : List String
  deriving DecidableEq

/-- A source block. -/
structure SourceSpec where
  type : String
  name : String
  content : Option String
  lines : List String
  paths : List String
  records : Option Int
  replicated : Bool
  replicas : List ReplicaSpec
  deriving DecidableEq

/-- A topology description. -/
structure TopologySpec where
  kind : String
  sources : List SourceSpec
  deriving DecidableEq

/-- The schema of a description. -/
def fileSchema : Schema := ⟨[⟨"kind", true⟩], [⟨"source", ["type", "name"]⟩]⟩

/-- The schema of a source block. -/
def sourceSchema : Schema :=
  ⟨[⟨"content", false⟩, ⟨"lines", false⟩, ⟨"paths", false⟩, ⟨"records", false⟩,
    ⟨"replicated", false⟩], [⟨"replica", ["transform"]⟩]⟩

/-- The schema of a replica block. -/
def replicaSchema : Schema := ⟨[⟨"args", false⟩, ⟨"copies", false⟩], []⟩

/-- Reads a replica block. -/
def decodeReplica (scope : Scope) (block : BlockHead × Body) : ReplicaSpec × List Diagnostic :=
  let (c, ds) := content replicaSchema block.2
  let (args, ds1) := setting scope (c.attr? "args") (.list .string) Value.asTexts []
  let (copies, ds2) := setting scope (c.attr? "copies") .number Value.asOptInt none
  (⟨block.1.labels.headD "", copies, args⟩, ds ++ ds1 ++ ds2)

/-- Reads a source block. -/
def decodeSource (scope : Scope) (block : BlockHead × Body) : SourceSpec × List Diagnostic :=
  let (c, ds) := content sourceSchema block.2
  let (text, ds1) := setting scope (c.attr? "content") .string Value.asOptText none
  let (lines, ds2) := setting scope (c.attr? "lines") (.list .string) Value.asTexts []
  let (paths, ds3) := setting scope (c.attr? "paths") (.list .string) Value.asTexts []
  let (records, ds4) := setting scope (c.attr? "records") .number Value.asOptInt none
  let (replicated, ds5) := setting scope (c.attr? "replicated") .bool Value.asBool false
  let replicas := (c.blocksOf "replica").map (decodeReplica scope)
  (⟨block.1.labels.getD 0 "", block.1.labels.getD 1 "", text, lines, paths, records, replicated,
      replicas.map (·.1)⟩,
    ds ++ ds1 ++ ds2 ++ ds3 ++ ds4 ++ ds5 ++ (replicas.map (·.2)).flatten)

/-- Reads a description. -/
def decodeTopology (scope : Scope) (body : Body) : TopologySpec × List Diagnostic :=
  let (c, ds) := content fileSchema body
  let (kind, ds1) := setting scope (c.attr? "kind") .string Value.asText ""
  let sources := (c.blocksOf "source").map (decodeSource scope)
  (⟨kind, sources.map (·.1)⟩, ds ++ ds1 ++ (sources.map (·.2)).flatten)

/-- The variables of an inventory. -/
def inventoryScope (inv : Inventory) : Scope :=
  { vars := [("cores", .num (Number.ofInt inv.cores)), ("devices", .num (Number.ofInt inv.accelerators))] }

/-- Opens the reader a source block describes. -/
def SourceSpec.reader (v : Volume) (s : SourceSpec) : Except Fault Reader :=
  match s.type with
  | "file" => fileSource v s.paths
  | "lines" =>
    .ok (.records (s.lines.zipIdx.map fun (l, i) => ⟨toString (i + 1), l.toUTF8⟩))
  | "count" =>
    match s.records with
    | some n =>
      if n < 0 then .error (Fault.make .invalid "count source requires a non-negative records attribute")
      else .ok (.count n.toNat 0 (s.content.getD "").toUTF8)
    | none => .error (Fault.make .invalid "count source requires a non-negative records attribute")
  | t => .error (Fault.make .invalid ("unknown source type " ++ Text.quote t))

/-- Adds a source block and its replicas to a topology. -/
def addSource (v : Volume) (file : String) (t : Topology) (s : SourceSpec) : Except Fault Topology := do
  let within (f : Fault) : Fault := Fault.within ("pipeline: " ++ file ++ ": source " ++ s.name) f
  let origin ← if s.replicated then pure (Origin.opener (s.reader v))
    else match s.reader v with
      | .ok r => pure (Origin.shared r false)
      | .error f => throw (within f)
  let (i, t) ← t.attach origin
  s.replicas.foldlM (fun t r =>
    match t.replicasOf i (r.copies.getD 1) r.transform r.args with
    | .ok (_, t') => .ok t'
    | .error f => .error (within f)) t

/-- Loads a topology from a description in a file of a name, for an inventory; files the
sources name are looked up in the volume. -/
def load (v : Volume) (inv : Inventory) (file src : String) : Except Fault Topology := do
  let (body, ds) := parseConfig file src
  if !ds.isEmpty then
    throw (.coded ("pipeline: parse " ++ file) .invalid .unknown (some (.text (diagnosticsText ds))))
  let (spec, ds) := decodeTopology (inventoryScope inv) body
  if !ds.isEmpty then
    throw (.coded ("pipeline: decode " ++ file) .invalid .unknown (some (.text (diagnosticsText ds))))
  let t ← Topology.create spec.kind.toUTF8.toList
  spec.sources.foldlM (addSource v file) t

/-- The paths the file sources of a description read, as far as the description can be read
without an inventory. -/
def filePaths (file src : String) : List String :=
  let (spec, _) := decodeTopology { vars := [] } (parseConfig file src).1
  (spec.sources.filter (·.type == "file")).flatMap (·.paths)

/-- Loads a topology from a description stored in the volume. -/
def loadFile (v : Volume) (inv : Inventory) (path : String) : Except Fault Topology :=
  match resolve v path with
  | .ok (.file bytes) => load v inv path ((String.fromUTF8? bytes).getD "")
  | .ok .directory => .error (.text ("read " ++ path ++ ": is a directory"))
  | .error e => .error (pathFault "open" path e)

end Lanes.Pipeline
