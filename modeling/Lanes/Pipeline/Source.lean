import Lanes.Fault
import Lanes.Pipeline.Volume
import Lanes.Text.Utf8

/-!
Sources of records, and how they are read.

A record has an identifier and its content in bytes. A source gives its records one at a time,
then says it is at the end, or fails:

- a list of records, in order;
- the lines of a text, identified by their number from 1: lines end at a line feed, a carriage
  return before it is dropped, and a last line without a line feed still counts. A line must be
  shorter than 16 MiB (`maxLine`, counting its line feed); a longer one fails the source, and
  every later read fails the same way;
- `n` records of one content, identified by their number from 0;
- the lines of files in a volume, one file after another, identified by `path:line`. A file
  whose line is too long fails that read, and reading goes on with the next file. A file source
  must name at least one path, and every path must name a file of the volume (`resolve`).

-/

namespace Lanes.Pipeline

/-- A record: its identifier and content. -/
structure Record where
  id : String
  content : ByteArray

instance : Inhabited Record := ⟨⟨"", ByteArray.empty⟩⟩

/-- The longest line a source accepts is one byte shorter than this. -/
def maxLine : Nat := 16 * 1024 * 1024

/-- The refusal of a line that is too long. -/
def tooLong : Fault := .text "bufio.Scanner: token too long"

/-- The position of the first line feed at or after `i`, if any, looking at most `fuel` bytes. -/
def findNewline (data : ByteArray) (i : Nat) : Nat → Option Nat
  | 0 => none
  | fuel + 1 =>
    if h : i < data.size then
      if data[i] = 10 then some i else findNewline data (i + 1) fuel
    else none

/-- One line of a text from `pos`: the line without its end, and where the next line starts;
`none` at the end of the text; a failure for a line that is too long. -/
def scanLine (data : ByteArray) (pos : Nat) : Option (Except Fault (ByteArray × Nat)) :=
  if pos ≥ data.size then none
  else
    let dropCR (stop : Nat) : ByteArray :=
      if stop > pos ∧ data.get! (stop - 1) = 13 then data.extract pos (stop - 1) else data.extract pos stop
    match findNewline data pos (data.size - pos) with
    | some nl =>
      if nl + 1 - pos > maxLine then some (.error tooLong)
      else some (.ok (dropCR nl, nl + 1))
    | none =>
      if data.size - pos ≥ maxLine then some (.error tooLong)
      else some (.ok (dropCR data.size, data.size))

/-- The line reader of one text: where it is, how many lines it gave, and the failure that
stopped it. -/
structure LineCursor where
  data : ByteArray
  pos : Nat
  line : Nat
  broken : Option Fault

/-- What one read gives. -/
inductive Read where
  | record (r : Record)
  | done
  | failed (f : Fault)

/-- Reads a line of a text. -/
def LineCursor.read (c : LineCursor) : Read × LineCursor :=
  match c.broken with
  | some f => (.failed f, c)
  | none =>
    match scanLine c.data c.pos with
    | none => (.done, c)
    | some (.error f) => (.failed f, { c with broken := some f })
    | some (.ok (content, next)) =>
      (.record ⟨toString (c.line + 1), content⟩, { c with pos := next, line := c.line + 1 })

/-- A source as it is read. -/
inductive Reader where
  | records (rs : List Record)
  | lines (c : LineCursor)
  | count (n i : Nat) (content : ByteArray)
  /-- The file being read with its path, the paths still to read, and the volume. -/
  | files (current : Option (String × LineCursor)) (rest : List String) (volume : Volume)

/-- A source of the lines of a text. -/
def Reader.ofText (data : ByteArray) : Reader := .lines ⟨data, 0, 0, none⟩

/-- The failure of looking at a path, as the file library gives it for `op` (`stat` or
`open`): a missing path is marked as a missing resource around the system's text, while a path
through a file is only the system's text. -/
def pathFault (op path : String) : PathProblem → Fault
  | .missing => .coded "" .notExist .unknown (some (.text (op ++ " " ++ path ++ ": " ++ PathProblem.missing.text)))
  | e => .text (op ++ " " ++ path ++ ": " ++ e.text)

/-- Why a file source cannot read a path: a missing path or a path through a file, or a path
that names a directory. -/
def statFault (v : Volume) (path : String) : Option Fault :=
  match resolve v path with
  | .ok (.file _) => none
  | .ok .directory => some (.text ("stat " ++ path ++ ": is a directory"))
  | .error e => some (pathFault "stat" path e)

/-- A bound on the records still to come: each record consumes at least one byte of its text,
and each file one more unit. -/
def Reader.bound : Reader → Nat
  | .records rs => rs.length
  | .lines c => c.data.size - c.pos
  | .count n i _ => n - i
  | .files cur rest v =>
    let open_ := match cur with
      | some (_, c) => c.data.size - c.pos + 1
      | none => 0
    open_ + (rest.map fun p => ((fileOf v p).map ByteArray.size).getD 0 + 1).foldr (· + ·) 0

/-- Reads the next line of the files: the open file's next line, or, at its end, the first line
of the next file that has one. A file that cannot be opened fails the read and stays next. -/
def readFiles (v : Volume) : Option (String × LineCursor) → List String → Read × Reader
  | some (name, c), rest =>
    match c.read with
    | (.record r, c') => (.record { r with id := name ++ ":" ++ r.id }, .files (some (name, c')) rest v)
    | (.failed f, _) => (.failed f, .files none rest v)
    | (.done, _) => readFiles v none rest
  | none, [] => (.done, .files none [] v)
  | none, p :: ps =>
    match resolve v p with
    | .ok (.file data) => readFiles v (some (p, ⟨data, 0, 0, none⟩)) ps
    | .ok .directory => (.failed (.text ("read " ++ p ++ ": is a directory")), .files none (p :: ps) v)
    | .error e => (.failed (pathFault "open" p e), .files none (p :: ps) v)
termination_by cur rest => 2 * rest.length + (if cur.isSome then 2 else 1)

/-- Reads the next record. -/
def Reader.read : Reader → Read × Reader
  | .records [] => (.done, .records [])
  | .records (r :: rs) => (.record r, .records rs)
  | .lines c => let (r, c') := c.read; (r, .lines c')
  | .count n i content =>
    if i < n then (.record ⟨toString i, content⟩, .count n (i + 1) content)
    else (.done, .count n i content)
  | .files cur rest v => readFiles v cur rest

/-- A source of the lines of files, which must be named and must all exist. -/
def fileSource (v : Volume) (paths : List String) : Except Fault Reader :=
  if paths.isEmpty then .error (Fault.make .invalid "pipeline: file source without paths")
  else match paths.findSome? (statFault v) with
    | some f => .error (Fault.within "pipeline: file source" f)
    | none => .ok (.files none paths v)

end Lanes.Pipeline
