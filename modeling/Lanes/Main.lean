import Lanes.Cli.Program

/-!
The program: the command line run on the process's arguments, in its working directory.

Before the run, the files the program may read are gathered: every argument that names a file,
and the files the sources of such a description read. The program then writes its output and
its error stream and exits with its code.
-/

open Lanes

/-- A file's bytes, or none when it cannot be read. -/
def readIfPresent (path : String) : IO (Option ByteArray) := do
  try
    let bytes ← IO.FS.readBinFile path
    pure (some bytes)
  catch _ =>
    pure none

/-- Adds the files of `paths` that can be read to the volume. -/
def gather (vol : Pipeline.Volume) (paths : List String) : IO Pipeline.Volume := do
  let mut vol := vol
  for p in paths do
    if (vol.lookup p).isNone then
      if let some bytes ← readIfPresent p then
        vol := vol ++ [(p, bytes)]
  pure vol

/-- Runs the command line. -/
def main (args : List String) : IO UInt32 := do
  let home := (← IO.getEnv "HOME").getD ""
  let named ← gather [] args
  let sources := named.flatMap fun (p, b) => Pipeline.filePaths p ((String.fromUTF8? b).getD "")
  let vol ← gather named sources
  let e := Cli.run home vol args
  IO.print e.out
  IO.eprint e.err
  pure e.code.toUInt32
