import Lanes.Binary64.Text

/-!
Metrics: named 64-bit counts kept per scope.

The library declares six metrics, in this order: four of parallel regions (regions run, lanes
run, lanes failed, the widest region) and two of pipelines (records read, updates emitted).
A counter adds what it is given, wrapping around; a maximum keeps the largest value observed.
A scope holds an instance of a metric once the metric is first used in it; merging one scope
into another folds each instance of the first into the second by the metric's rule.

Main statement: merging an empty scope changes nothing (`merge_empty`).
-/

namespace Lanes.Metrics

/-- How a metric folds values. -/
inductive Rule where
  | counter
  | maximum
  deriving DecidableEq, Repr, Inhabited

/-- A declared metric. -/
structure Metric where
  name : String
  help : String
  rule : Rule
  deriving DecidableEq, Repr, Inhabited

/-- The declared metrics, in declaration order; a metric is known by its position. -/
def declared : List Metric :=
  [⟨"regions_total", "parallel regions run", .counter⟩,
   ⟨"lanes_total", "lanes run", .counter⟩,
   ⟨"lane_failures_total", "lanes whose body failed", .counter⟩,
   ⟨"region_lanes_max", "the largest number of lanes in a region", .maximum⟩,
   ⟨"pipeline_records_total", "records read by transform replicas", .counter⟩,
   ⟨"pipeline_updates_total", "keyed updates emitted by transform replicas", .counter⟩]

/-- The position of the metric of regions run. -/
def regionsRun : Nat := 0
/-- The position of the metric of lanes run. -/
def lanesRun : Nat := 1
/-- The position of the metric of failed lanes. -/
def lanesFailed : Nat := 2
/-- The position of the metric of the widest region. -/
def widestRegion : Nat := 3
/-- The position of the metric of records read. -/
def recordsRead : Nat := 4
/-- The position of the metric of updates emitted. -/
def updatesEmitted : Nat := 5

/-- The position of a metric by name. -/
def find? (name : String) : Option Nat := declared.findIdx? (·.name == name)

/-- The refusal of declaring a metric name twice. -/
def declaredTwice (name : String) : String := "metrics: metric " ++ name ++ " already declared"

/-- Folds `v` into an instance by a rule. -/
def Rule.fold : Rule → Int64 → Int64 → Int64
  | .counter, x, v => x + v
  | .maximum, x, v => if v ≤ x then x else v

/-- The rule of the metric at a position. -/
def ruleAt (id : Nat) : Rule := (declared.getD id ⟨"", "", .counter⟩).rule

/-- The metric instances of a scope, by position; `none` where a metric was never used. -/
structure Scope where
  instances : List (Option Int64)
  deriving DecidableEq, Repr, Inhabited

namespace Scope

/-- The scope in which no metric was used. -/
def empty : Scope := ⟨[]⟩

/-- The instance of a metric, if it was used. -/
def get? (s : Scope) (id : Nat) : Option Int64 := (s.instances[id]?).getD none

/-- Folds `v` into a metric's instance, making the instance (at zero) first if needed. -/
def fold (s : Scope) (id : Nat) (v : Int64) : Scope :=
  let padded := s.instances ++ List.replicate (id + 1 - s.instances.length) none
  ⟨padded.set id (some ((ruleAt id).fold ((s.get? id).getD 0) v))⟩

/-- Makes a metric's instance at zero if it was not used, and reads it. -/
def touch (s : Scope) (id : Nat) : Scope × Int64 :=
  match s.get? id with
  | some v => (s, v)
  | none => (s.fold id 0, 0)

/-- Adds to a counter. -/
def incr (s : Scope) (id : Nat) (n : Int64) : Scope := s.fold id n

/-- Observes a value of a maximum. -/
def observe (s : Scope) (id : Nat) (v : Int64) : Scope := s.fold id v

/-- Folds every instance of `u` into `s`. -/
def merge (s u : Scope) : Scope :=
  (List.range u.instances.length).foldl (fun acc id =>
    match u.get? id with
    | some v => acc.fold id v
    | none => acc) s

/-- The used metrics with their values, in declaration order. -/
def each (s : Scope) : List (String × Int64) :=
  (List.range s.instances.length).filterMap fun id =>
    (s.get? id).map fun v => ((declared.getD id ⟨"", "", .counter⟩).name, v)

theorem merge_empty (s : Scope) : s.merge empty = s := rfl

end Scope

/-- A collected metric: its full name, help, type and value as a binary64 number in shortest
form. Every declared metric is collected, at zero where the scope never used it, sorted by
name. -/
structure Family where
  name : String
  help : String
  counter : Bool
  value : String
  deriving Repr

/-- Byte order on names: on UTF-8 text, the order of the characters' code points. -/
def nameLE (a b : String) : Bool := go a.toList b.toList
where
  go : List Char → List Char → Bool
    | [], _ => true
    | _ :: _, [] => false
    | c :: cs, d :: ds =>
      if c.toNat < d.toNat then true else if d.toNat < c.toNat then false else go cs ds

/-- The families of a scope. -/
def collect (s : Scope) : List Family :=
  let fams := (List.range declared.length).map fun id =>
    let m := declared.getD id ⟨"", "", .counter⟩
    ⟨"parlane_" ++ m.name, m.help, m.rule == .counter,
      Binary64.text (Binary64.ofInt ((s.get? id).getD 0).toInt)⟩
  fams.mergeSort (fun a b => nameLE a.name b.name)

end Lanes.Metrics
