/-!
A volume: the files a run may read, each at a path relative to the working directory, and the
directories their paths imply.

A path is resolved the way an operating system resolves it, one part at a time, from the working
directory or, for a path that starts with a slash, from the root. An empty part and `.` stay
where they are, `..` goes up to the parent, and any other part names an entry of the directory
reached so far. Every step must start from a directory: a part after a file makes the path "not
a directory", and a name the directory lacks makes it missing. Nothing is known outside the
working directory but that its ancestors are directories, so any name there is missing. A path
is never shortened as text first, so `nope/../a.txt` is missing when `nope` is.

Main statements: the empty path names nothing (`resolve_empty`), and `fileOf` gives exactly
the files that `resolve` finds (`fileOf_resolve`).
-/

namespace Lanes.Pipeline

/-- Files by path. -/
abbrev Volume := List (String × ByteArray)

/-- What a path names. -/
inductive Entry where
  | file (data : ByteArray)
  | directory

/-- Why a path names nothing. -/
inductive PathProblem where
  /-- Some part of the path names nothing. -/
  | missing
  /-- A part that must be a directory is a file. -/
  | notDirectory
deriving DecidableEq, Repr

/-- How the operating system words a path problem. -/
def PathProblem.text : PathProblem → String
  | .missing => "no such file or directory"
  | .notDirectory => "not a directory"

/-- The names along a path, without empty parts and `.`. -/
def names (p : String) : List String := (p.splitOn "/").filter fun s => s != "" && s != "."

/-- What the volume has at the names `ns` below the working directory: a file stored there, a
directory when some file lies below it, or nothing. -/
def entryAt (v : Volume) (ns : List String) : Option Entry :=
  match v.find? fun f => names f.1 == ns with
  | some (_, d) => some (.file d)
  | none =>
    if v.any fun f => ns.length < (names f.1).length && (names f.1).take ns.length == ns then
      some .directory
    else none

/-- Where resolving a path stands: at a directory of the volume, at a file, or outside. -/
inductive Place where
  | dir (ns : List String)
  | file (data : ByteArray)
  | outside

/-- One part of a path taken from where resolving stands. -/
def stepPart (v : Volume) : Except PathProblem Place → String → Except PathProblem Place
  | .error e, _ => .error e
  | .ok (.file _), _ => .error .notDirectory
  | .ok (.dir ns), part =>
    if part == "" || part == "." then .ok (.dir ns)
    else if part == ".." then .ok (if ns.isEmpty then .outside else .dir ns.dropLast)
    else match entryAt v (ns ++ [part]) with
      | some (.file d) => .ok (.file d)
      | some .directory => .ok (.dir (ns ++ [part]))
      | none => .error .missing
  | .ok .outside, part =>
    if part == "" || part == "." || part == ".." then .ok .outside else .error .missing

/-- What a path names in a volume, or why it names nothing. The empty path names nothing. -/
def resolve (v : Volume) (path : String) : Except PathProblem Entry :=
  if path.isEmpty then .error .missing
  else
    let rooted := path.startsWith "/"
    let parts := if rooted then (path.splitOn "/").drop 1 else path.splitOn "/"
    match parts.foldl (stepPart v) (.ok (if rooted then .outside else .dir [])) with
    | .ok (.file d) => .ok (.file d)
    | .ok _ => .ok .directory
    | .error e => .error e

/-- The contents of the file at a path, when the path names a file. -/
def fileOf (v : Volume) (path : String) : Option ByteArray :=
  match resolve v path with
  | .ok (.file d) => some d
  | _ => none

theorem resolve_empty (v : Volume) : resolve v "" = .error .missing := by
  simp [resolve]

theorem fileOf_resolve (v : Volume) (path : String) (d : ByteArray) (h : fileOf v path = some d) :
    resolve v path = .ok (.file d) := by
  unfold fileOf at h
  split at h <;> simp_all

end Lanes.Pipeline
