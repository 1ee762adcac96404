import Lanes.Scenario.Configs
import Lanes.Cli.Program

/-!
The command-line scenario: the program run on arguments, with files it may read.

The request gives the arguments and, optionally, the files of the directory the program runs
in, which is also its home; reports name that directory `$DIR`. The answer gives the exit code
and what the program wrote to its output and its error stream.
-/

namespace Lanes.Scenario

/-- The program's directory as reports name it. -/
def reportedHome : String := "$DIR"

/-- A command-line scenario. -/
def cliScenario (req : Doc) : Attempt Doc := do
  let args ← ((req.field? "args").map Doc.items |>.getD []).mapM fun d =>
    match d.text? with
    | some t => pure t
    | none => refuse "args must be texts"
  let vol ← volumeOf req
  let e := Cli.run reportedHome vol args
  pure (.record [("exit", .nat e.code), ("stdout", .str e.out), ("stderr", .str e.err)])

end Lanes.Scenario
