import Lanes.Cli.Profile
import Lanes.Knapsack
import Lanes.Region.Shared
import Lanes.Pipeline.Load
import Lanes.Text.Columns
import Lanes.Text.Utf8

/-!
The commands of the command line.

* `max [-n values] [-seed seed]` runs one lane per core. Lane `i` draws `values` numbers below
  `2 ^ 32` from the stream of `seed + i`, and folds them into its copies of a largest-value
  accumulator and a mean. The command writes the number of cores, the largest value and the mean.
* `walk [-steps steps] [-seed seed]` needs simulated devices. It draws a knapsack problem of 40
  items from `seed`, searches it on every device with walks of `steps` steps, and writes the
  capacity and the best fill.
* `topology file.hcl` loads a topology description, runs it, logs how many records and keys it
  saw, and writes the table, key and value aligned in columns.

A command with flags writes its usage and exits with code 2 when a flag cannot be read, when its
usage is asked for, or when arguments follow its flags. A command that fails logs the error and
panics with it, prefixed by the command's name; the lanes of a region that failed are logged
first, one line each. A region asked for more lanes than a table can hold stops the program at
once.
-/

namespace Lanes.Cli

open Region Accumulator Pipeline

/-- Reads the flags of a command whose usage is `usage`: the settings, or how the program ends. -/
def commandFlags (flags : List Flag) (usage : String) (args : List String) : Except Exit Settings :=
  match parse flags args with
  | .ok st [] => .ok st
  | .ok _ _ => .error ⟨2, "", usage⟩
  | .help => .error ⟨2, "", usage⟩
  | .failed m => .error ⟨2, "", m ++ "\n" ++ usage⟩

/-- How a command ends after a region whose policy for `n` lanes is `policy n`, when it ends
badly: a refusal or failure logs the lanes' lines and panics with the error after the command's
name; a region that panicked stops the program with its message alone. None when the region
ended well. -/
def regionExit (name : String) (policy : Nat → Policy) : Outcome Fault → Option Exit
  | .ok | .waits => none
  | .refused f => some (Exit.panic "" "" (name ++ ": " ++ f.message))
  | .failed n fails => some (Exit.panic "" (failureLog (policy n) fails) (name ++ ": " ++ failuresText n fails))
  | .panicked m => some (Exit.crash m)

/-! ### max -/

/-- The flags of `max`. -/
def maxFlags : List Flag :=
  [⟨"n", .int, "number of values drawn by each lane", "1000000"⟩, ⟨"seed", .int, "random seed", "1"⟩]

/-- The usage of `max`. -/
def maxUsage : String := "usage: parlane max [-n values] [-seed seed]\n" ++ defaults maxFlags

/-- The bound of the values `max` draws, `2 ^ 32`: a power of two, so each value is the low bits
of one draw. -/
def drawBound : Nat := 4294967296

/-- Up to this bound, `2 ^ 53`, binary64 holds every whole number. -/
def exactBound : Nat := 9007199254740992

/-- Draws `k` more values below `2 ^ 32`, folding them into the largest value and the mean. -/
def drawValues : Nat → Random.Source → Int64 × Mean → Int64 × Mean
  | 0, _, acc => acc
  | k + 1, s, (best, mean) =>
    let (x, s) := Random.Source.masked Random.Source.int63 drawBound s
    let x := Int64.ofNat x
    drawValues k s (if x > best then x else best, mean.accumulate (Binary64.ofInt x.toInt))

/-- Draws `k` more values below `2 ^ 32` into the largest value, a whole-number sum and a count,
as long as the sum cannot pass `2 ^ 53`. Up to there binary64 holds every whole number, so
adding the values one by one as binary64 numbers gives exactly this sum. Gives back the draws
left. -/
def drawExact : Nat → Random.Source → Int64 → Nat → Int64 → Nat × Random.Source × Int64 × Nat × Int64
  | 0, s, best, sum, count => (0, s, best, sum, count)
  | k + 1, s, best, sum, count =>
    if sum + drawBound ≤ exactBound then
      let (x, s) := Random.Source.masked Random.Source.int63 drawBound s
      let v := Int64.ofNat x
      drawExact k s (if v > best then v else best) (sum + x) (count + 1)
    else (k + 1, s, best, sum, count)

/-- Draws `k` values into the largest value and the mean: by whole numbers while the mean's sum
is a positive zero and stays exact, then one binary64 addition at a time. -/
def drawAll (k : Nat) (s : Random.Source) (best : Int64) (m : Mean) : Int64 × Mean :=
  if m.sum = Binary64.zero then
    let (left, s, best, sum, count) := drawExact k s best 0 m.count
    drawValues left s (best, ⟨Binary64.ofInt sum, count⟩)
  else drawValues k s (best, m)

/-- One lane of `max`: draws from the stream of the seed plus the lane's index into the lane's
copies of the largest value and the mean. -/
def maxLane (seed : Int64) (n : Int) : LaneM Acc Unit Fault Unit := do
  let i ← LaneM.index
  let jl ← LaneM.localIndex 0 "long.max"
  let jm ← LaneM.localIndex 1 "double.mean"
  match ← LaneM.getLocal jl, ← LaneM.getLocal jm with
  | .long l, .mean m =>
    let (best, mean) := drawAll n.toNat (Random.Source.seeded (seed + Int64.ofNat i)) l.value m
    LaneM.setLocal jl (.long { l with value := best })
    LaneM.setLocal jm (.mean mean)
  | _, _ => LaneM.panic "max: shared values of unexpected kinds"

/-- The `max` command. -/
def maxCommand (rt : Runtime) (args : List String) : Exit :=
  match commandFlags maxFlags maxUsage args with
  | .error e => e
  | .ok st =>
    let seed := Int64.ofInt (st.int "seed" 1)
    let shared : List (Nat × Option Acc) :=
      [(0, some (.long (Long.identity .max))), (1, some (.mean Mean.empty))]
    let r := Region.run rt.executor (some .allCores) (some (maxLane seed (st.int "n" 1000000))) shared ()
    match regionExit "max" (fun _ => .allCores) r.outcome with
    | some e => e
    | none =>
      let (largest, mean) := match r.merged with
        | some [l, m] => (l, m)
        | _ => (.long (Long.identity .max), .mean Mean.empty)
      ⟨0, "lanes\t" ++ toString rt.inventory.cores ++ "\nmax\t" ++ largest.text ++ "\nmean\t" ++
        mean.text ++ "\n", ""⟩

/-! ### walk -/

/-- The flags of `walk`. -/
def walkFlags : List Flag :=
  [⟨"steps", .int, "number of steps in each device's walk", "1000000"⟩, ⟨"seed", .int, "random seed", "1"⟩]

/-- The usage of `walk`. -/
def walkUsage : String := "usage: parlane walk [-steps steps] [-seed seed]\n" ++ defaults walkFlags

/-- How many times each loop of random draws in `walk` may go round. A round of a drop loop drops
an item with probability at least one in forty, and forty drops make any fill fit, so a drop loop
still going after this many rounds comes with probability below `2 ^ -1000`; a rejection loop
ends sooner still. -/
def loopBound : Nat := 65536

/-- The `walk` command. -/
def walkCommand (rt : Runtime) (args : List String) : Exit :=
  match commandFlags walkFlags walkUsage args with
  | .error e => e
  | .ok st =>
    match rt.executor.accelerator with
    | .absent =>
      Exit.panic "" "" ("walk: " ++ (Fault.make .unavailable
        "walk requires accelerator devices; configure them with -set parlane.devices=N").message)
    | .sim s =>
      let seed := Int64.ofInt (st.int "seed" 1)
      match Knapsack.Problem.random loopBound seed Knapsack.itemCount with
      | none => Exit.panic "" "" "walk: random draws did not end within their bound"
      | some p =>
        match Knapsack.install loopBound s p with
        | .error m => Exit.panic "" "" m
        | .ok s =>
          let e := { rt.executor with accelerator := .sim s }
          let (_, best, outcome) := Knapsack.search e seed (Int64.ofInt (st.int "steps" 1000000))
          match regionExit "walk" (fun _ => .allDevices) outcome with
          | some e => e
          | none => ⟨0, "capacity\t" ++ toString p.capacity ++ "\nbest\t" ++ best.text ++ "\n", ""⟩

/-! ### topology -/

/-- How tables are written: columns at least four wide, one blank after the widest cell. -/
def tableColumns : Text.Columns := ⟨4, 1, ' '⟩

/-- The lines of a table: each key and its value, separated by a tab. -/
def tableText (t : Table) : String :=
  String.join (t.snapshot.map fun (k, a) => Text.Utf8.lossy k ++ "\t" ++ a.text ++ "\n")

/-- The `topology` command, reading descriptions from the volume. -/
def topologyCommand (rt : Runtime) (vol : Volume) (args : List String) : Exit :=
  match args with
  | [path] =>
    match loadFile vol rt.inventory path with
    | .error f => Exit.panic "" "" ("topology: " ++ f.message)
    | .ok t =>
      let (t, _, ending) := t.run rt.executor
      let failed : Option Exit := match ending with
        | .refused f => some (Exit.panic "" "" ("topology: " ++ f.message))
        | .ran outcome => regionExit "topology" (fun n => .lanes n) outcome
      match failed with
      | some e => e
      | none =>
        ⟨0, tableColumns.align (tableText t.table),
          logLine ("topology " ++ path ++ ": " ++ toString t.records ++ " records, " ++
            toString t.table.size ++ " keys")⟩
  | _ => ⟨2, "", "usage: parlane topology file.hcl\n"⟩

end Lanes.Cli
