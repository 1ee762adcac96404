import Lanes.Scenario.Accumulators
import Lanes.Scenario.Hosts
import Lanes.Scenario.Devices
import Lanes.Scenario.Metrics
import Lanes.Scenario.Regions
import Lanes.Scenario.Pipelines
import Lanes.Scenario.Configs
import Lanes.Scenario.Cli

/-!
Requests: a scenario of one of the library's parts, chosen by the field `op`, and its report.
-/

namespace Lanes.Scenario

/-- The report of a request. -/
def answer (req : Doc) : Doc :=
  report do
    match ← textField req "op" with
    | "acc" => accScenario req
    | "manifest" => manifestScenario req
    | "placement" => placementScenario req
    | "device" => deviceScenario req
    | "metrics" => metricsScenario req
    | "region" => regionScenario req
    | "table" => tableScenario req
    | "topology" => topologyScenario req
    | "hcl" => configScenario req
    | "cli" => cliScenario req
    | other => refuse ("unknown op " ++ other)

end Lanes.Scenario
