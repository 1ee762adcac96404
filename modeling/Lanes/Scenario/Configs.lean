import Lanes.Scenario.Pipelines
import Lanes.Pipeline.Load

/-!
The configuration scenario: a topology loaded from its description, and perhaps run.

The request gives the description's text and file name, or the path of a file holding it, the
inventory whose counts the description may use, and the files of the volume: texts by path, and
files of a number of `a` bytes. The answer gives the table's kind and the topology's stage after
loading and, when asked, the report of running it, which lists no sources.
-/

namespace Lanes.Scenario

open Pipeline Region

/-- The volume a request describes: its texts, then its runs of `a` bytes. -/
def volumeOf (req : Doc) : Attempt Volume := do
  let texts ← ((req.field? "files").map Doc.fields |>.getD []).mapM fun (path, d) => do
    match d.text? with
    | some t => pure (path, t.toUTF8)
    | none => refuse ("file " ++ path ++ " is not a text")
  let runs ← ((req.field? "long_files").map Doc.fields |>.getD []).mapM fun (path, d) => do
    let n ← intOf d
    pure (path, textWithRun [] n.toInt.toNat)
  pure (texts ++ runs)

/-- A configuration scenario. -/
def configScenario (req : Doc) : Attempt Doc := do
  let inv ← inventoryOf (← need req "inventory")
  let vol ← volumeOf req
  let loaded ← if req.has "load_file" then do
      pure (loadFile vol inv (← textField req "load_file"))
    else do
      pure (load vol inv (← textField req "filename") (← textField req "src"))
  let t ← ofFault loaded
  let base : List (String × Doc) := [("kind", .str t.table.kind), ("state", .str t.stage.text)]
  if boolField req "run" then
    let (t', _, ending) := t.run Executor.host
    pure (.record (base ++ [("run", runDoc t' none false ending)]))
  else pure (.record base)

end Lanes.Scenario
