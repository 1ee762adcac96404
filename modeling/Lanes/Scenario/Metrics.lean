import Lanes.Scenario.Basic
import Lanes.Metrics.Board

/-!
Scenarios over metric scopes, numbered and made on first use. A scope's metrics are reported as
a record of the used metrics' values; collecting reports every declared metric.
-/

namespace Lanes.Scenario

open Lanes.Metrics

/-- The report of a scope's used metrics. -/
def metricsDoc (s : Scope) : Doc := .record (s.each.map fun (n, v) => (n, .int v.toInt))

/-- The report of collected families. -/
def familyDoc (f : Family) : Doc :=
  .record [("name", .str f.name), ("help", .str f.help),
    ("type", .str (if f.counter then "COUNTER" else "GAUGE")), ("value", .str f.value)]

/-- The position of a named metric that follows `rule`. -/
def metricOf (step : Doc) (rule : Option Rule) : Attempt Nat := do
  let name ← textField step "metric"
  match find? name with
  | some id =>
    match rule with
    | some r => if ruleAt id == r then pure id else refuse ("metric " ++ name ++ " has another type")
    | none => pure id
  | none => refuse ("unknown metric " ++ name)

/-- One step of a metrics scenario. -/
def metricsStep (b : Board) (step : Doc) : Attempt Doc × Board :=
  let attempt : Attempt (Attempt Doc × Board) := do
    let scopeField (k : String) : Attempt Nat := natField step k
    match ← textField step "do" with
    | "declared" =>
      pure (.ok (.record [("metrics", .list (declared.map fun m =>
        .record [("name", .str m.name), ("help", .str m.help), ("counter", .bool (m.rule == .counter))]))]), b)
    | "incr" | "observe" =>
      let rule : Rule := if (← textField step "do") == "incr" then .counter else .maximum
      let sc ← scopeField "scope"
      let id ← metricOf step (some rule)
      let b' := b.fold sc id (← intField step "n")
      pure (.ok (.record [("value", .int (b'.value sc id).2.toInt)]), b')
    | "value" =>
      let sc ← scopeField "scope"
      let (b', v) := b.value sc (← metricOf step none)
      pure (.ok (.record [("value", .int v.toInt)]), b')
    | "merge" =>
      let dst ← scopeField "dst"
      let b' := b.merge dst (← scopeField "src")
      pure (.ok (metricsDoc (b'.scope dst)), b')
    | "reset" =>
      let dst ← scopeField "dst"
      let src ← if step.has "src" then some <$> scopeField "src" else pure none
      let b' := b.reset dst src
      pure (.ok (metricsDoc (b'.scope dst)), b')
    | "each" =>
      let each := (b.scope (← scopeField "scope")).each
      let d : Doc := if each.isEmpty then .null
        else .list (each.map fun (n, v) => .list [.str n, .int v.toInt])
      pure (.ok (.record [("each", d)]), b)
    | "context" => pure (.ok (.record [("same", .bool true)]), b)
    | "context_missing" => .error (.panic "metrics: context does not provide metrics")
    | "collect" =>
      pure (.ok (.record [("families", .list ((collect (b.scope (← scopeField "scope"))).map familyDoc))]), b)
    | "declare_dup" =>
      let name ← textField step "metric"
      if (find? name).isSome then .error (.panic (declaredTwice name))
      else refuse ("metric " ++ name ++ " is not declared")
    | other => refuse ("unknown step " ++ other)
  match attempt with
  | .ok r => r
  | .error e => (.error e, b)

/-- A metrics scenario. -/
def metricsScenario (req : Doc) : Attempt Doc := do
  let (out, _) := runSteps metricsStep Board.empty (← need req "steps").items
  pure (.record [("steps", .list out)])

end Lanes.Scenario
