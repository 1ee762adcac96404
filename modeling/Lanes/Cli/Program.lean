import Lanes.Cli.Commands

/-!
The command line: `parlane [flags] command args...`.

The program reads its own flags first. A flag that cannot be read, or a request for the usage,
writes the usage and exits with code 2. The profile is then read: each file named with
`-profile` in order or, without that flag, the file `.parlane/config` of the home directory
when there is one; then each `-set path=value` in order. A file that cannot be opened or read,
and a setting that cannot be applied, stop the program. Whatever reading the files warned about
is written first, however the program ends. `-profiledump` writes the profile to
the error stream and exits successfully. A profile whose `parlane` instance cannot be made, as
one that asks for a negative count, logs the error and exits with code 1.
Without a command the usage is written; an unknown command is named before the usage.

`-metrics-addr` and `-wait` are read but change nothing here: the first serves metrics to
other programs and the second only keeps the program from exiting.

Main statement: a flag that cannot be read ends the program with the message, the usage and
code 2 (`run_failed`).
-/

namespace Lanes.Cli

open Pipeline

/-- Where the profile is read from when no `-profile` flag is given. -/
def defaultProfile (home : String) : String := home ++ "/.parlane/config"

/-- The program's own flags, for a home directory. -/
def mainFlags (home : String) : List Flag :=
  [⟨"metrics-addr", .text, "serve Prometheus metrics on this address", ""⟩,
   ⟨"wait", .switch, "don't exit after completion", "false"⟩,
   ⟨"profile", .repeated, "load the profile at the provided path; may be repeated", defaultProfile home⟩,
   ⟨"set", .repeated, "set a profile parameter; may be repeated", ""⟩,
   ⟨"profiledump", .switch, "dump the profile to stderr and exit", "false"⟩]

/-- What the usage says before the flags. -/
def usageHead : String :=
  "usage: parlane [-metrics-addr addr] [-wait] command args...\n\n" ++
  "Command parlane runs parallel regions and pipeline topologies on the\n" ++
  "local host. The runtime is configured by the profile at\n" ++
  "$HOME/.parlane/config; for example, -set parlane.devices=4 configures\n" ++
  "four simulated accelerator devices.\n\n" ++
  "Available commands are:\n\n" ++
  "\tmax [-n values] [-seed seed]\n" ++
  "\t\tRun one lane per core, each drawing random values, and print\n" ++
  "\t\ttheir maximum and mean.\n" ++
  "\ttopology file.hcl\n" ++
  "\t\tLoad, run, and print the table of an HCL topology.\n" ++
  "\twalk [-steps steps] [-seed seed]\n" ++
  "\t\tRun one lane per accelerator device, each searching for the\n" ++
  "\t\tbest knapsack fill, and print the best fill found.\n"

/-- The program's usage, for a home directory. -/
def usage (home : String) : String := usageHead ++ defaults (mainFlags home)

/-- The profile file read when no `-profile` flag is given, in the home directory. -/
def homeProfile : String := ".parlane/config"

/-- Adds the profile file at a path to a profile: the warnings reading it wrote, and the
profile or why the file could not be read. -/
def loadProfile (vol : Volume) (p : Profile) (path : String) : String × Except String Profile :=
  match resolve vol path with
  | .error e => ("", .error ("open " ++ path ++ ": " ++ e.text))
  | .ok .directory => ("", .error ("read " ++ path ++ ": is a directory"))
  | .ok (.file d) =>
    let r := readProfileFile path (Text.Utf8.lossy d.toList)
    (r.warnings, r.clauses.map (·.foldl Profile.merge p))

/-- Adds profile files in order, after the warnings written so far; the first file that cannot
be read stops. -/
def loadProfiles (vol : Volume) (warned : String) (p : Profile) : List String → String × Except String Profile
  | [] => (warned, .ok p)
  | path :: rest =>
    match loadProfile vol p path with
    | (w, .ok p') => loadProfiles vol (warned ++ w) p' rest
    | (w, .error m) => (warned ++ w, .error m)

/-- The profile read from the flags: the profile files, or the home profile when there is one
and no file is named, then the settings; with the warnings reading the files wrote. -/
def readProfile (vol : Volume) (st : Settings) : String × Except String Profile :=
  let (warned, read) : String × Except String Profile := match st.repeated "profile" with
    | [] =>
      match resolve vol homeProfile with
      | .error .missing => ("", .ok Profile.empty)
      | _ => loadProfile vol Profile.empty homeProfile
    | paths => loadProfiles vol "" Profile.empty paths
  (warned, read.bind (·.applyAll (st.repeated "set")))

/-- How the program ends once its profile is read, without the warnings of its files. -/
def runWith (home : String) (vol : Volume) (st : Settings) (rest : List String) :
    Except String Profile → Exit
  | .error m => Exit.panic "" "" m
  | .ok profile =>
    if st.switch "profiledump" then ⟨0, "", profile.text⟩
    else match profile.counts with
    | .error m => ⟨1, "", logLine m⟩
    | .ok counts =>
    match Runtime.create counts with
    | .error (.refused f) => ⟨1, "", logLine f.message⟩
    | .error (.tooLarge m) => Exit.crash m
    | .ok rt =>
      match rest with
      | [] => ⟨2, "", usage home⟩
      | "max" :: args => maxCommand rt args
      | "topology" :: args => topologyCommand rt vol args
      | "walk" :: args => walkCommand rt args
      | cmd :: _ => ⟨2, "", "unknown command " ++ cmd ++ "\n" ++ usage home⟩

/-- Runs the program with a home directory, files to read and its arguments. -/
def run (home : String) (vol : Volume) (args : List String) : Exit :=
  match parse (mainFlags home) args with
  | .failed m => ⟨2, "", m ++ "\n" ++ usage home⟩
  | .help => ⟨2, "", usage home⟩
  | .ok st rest =>
    let (warned, read) := readProfile vol st
    let e := runWith home vol st rest read
    { e with err := warned ++ e.err }

theorem run_failed (home : String) (vol : Volume) (args : List String) (m : String)
    (h : parse (mainFlags home) args = .failed m) : run home vol args = ⟨2, "", m ++ "\n" ++ usage home⟩ := by
  simp [run, h]

end Lanes.Cli
