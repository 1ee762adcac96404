import Lanes.Cli.ProfileSyntax
import Lanes.Region.Run
import Lanes.Placement

/-!
The profile of the command line: named instances with parameters, the executor they give, and
how a run of the program ends.

Every profile has the instance `parlane` with two whole-number parameters, `cores` and
`devices`, both zero. Profile files add instances and parameters clause by clause: a clause
changes the parameters it names, and an `instance` clause also sets the instance its instance
derives from. A parameter an instance lacks is looked up in the instance it derives from.

A setting `path=value` names an instance and a parameter, `inst.key`, where more names between
them follow parameters that name instances. The value is read as the parameter's present kind:
whole numbers as signed 64-bit numerals with a base prefix, switches and floating-point numbers
by their own grammars, texts as they are, and instance names as names. A path of one name makes
that instance derive from the named one.

The runtime is made from the parameters of `parlane`, which must be whole numbers; another kind
of value, or the name of an instance, is refused. Zero cores means every core of the host. A
positive number of devices gives a simulated accelerator of that many devices, and no devices
none at all. A negative count is refused, and more than `2 ^ 45` devices stop the program at
once, as no table of that many devices can be made. The executor places its units on the whole
inventory.

A run ends with an exit code and what it wrote to its output and its error stream. A log
message takes a line of the error stream. A program that stops on an error logs the message
and then panics with it: the panic repeats the message with each new line indented by a tab,
and exits with code 2. A runtime panic is written alone, with code 2.

Main statement: counts with no negative count give a runtime whose inventory has as many
devices as they ask for (`create_devices`).
-/

namespace Lanes.Cli

open Region

/-- An instance of a profile: the instance it derives from, if any, and its own parameters. -/
structure Instance where
  parent : Option String
  params : List (String × ParamValue)
  deriving DecidableEq, Repr

/-- An instance with a parameter set, in place when it had one. -/
def Instance.put (i : Instance) (key : String) (v : ParamValue) : Instance :=
  if i.params.any (·.1 == key) then
    { i with params := i.params.map fun kv => if kv.1 == key then (key, v) else kv }
  else { i with params := i.params ++ [(key, v)] }

/-- A profile: its instances by name. -/
structure Profile where
  instances : List (String × Instance)
  deriving DecidableEq, Repr

/-- The profile before any file or setting. -/
def Profile.empty : Profile := ⟨[("parlane", ⟨none, [("cores", .int 0), ("devices", .int 0)]⟩)]⟩

/-- The instance of a name. -/
def Profile.find? (p : Profile) (name : String) : Option Instance := p.instances.lookup name

/-- The profile with the instance of a name replaced, or added when it had none. -/
def Profile.update (p : Profile) (name : String) (i : Instance) : Profile :=
  if p.instances.any (·.1 == name) then
    ⟨p.instances.map fun ni => if ni.1 == name then (name, i) else ni⟩
  else ⟨p.instances ++ [(name, i)]⟩

/-- Adds a clause of a profile file. -/
def Profile.merge (p : Profile) (c : Clause) : Profile :=
  let base := (p.find? c.name).getD ⟨none, []⟩
  let base := match c.parent with
    | some q => { base with parent := some q }
    | none => base
  p.update c.name (c.params.foldl (fun i kv => i.put kv.1 kv.2) base)

/-- A parameter of an instance, or of the instances it derives from, `fuel` of them at most. -/
def Profile.paramOf (p : Profile) : Nat → String → String → Option ParamValue
  | 0, _, _ => none
  | fuel + 1, inst, key =>
    match p.find? inst with
    | none => none
    | some i =>
      match i.params.lookup key with
      | some v => some v
      | none =>
        match i.parent with
        | some q => p.paramOf fuel q key
        | none => none

/-- A parameter of an instance, through every instance it derives from. -/
def Profile.param (p : Profile) (inst key : String) : Option ParamValue :=
  p.paramOf (p.instances.length + 1) inst key

/-- The instance a setting's path reaches, following from the instance `inst` the parameters
`via`, each of which must name an instance. -/
def Profile.reach (p : Profile) (path : String) : String → List String → Except String String
  | inst, [] => if (p.find? inst).isSome then .ok inst else .error (path ++ ": path not found: instance not found")
  | inst, key :: via =>
    if (p.find? inst).isNone then .error (path ++ ": path not found: instance not found")
    else match p.param inst key with
      | some (.ref target) => p.reach path target via
      | some _ => .error (path ++ ": path not found: " ++ key ++ " is not an instance")
      | none => .error (path ++ ": no such parameter")

/-- Reads a setting's value as the kind of the parameter's present value. -/
def readAs (path value : String) : ParamValue → Except String ParamValue
  | .int _ =>
    match readInt value with
    | .ok i => .ok (.int i)
    | .error e =>
      let why := if e = .range then "value out of range" else "invalid syntax"
      .error ("param " ++ path ++ " is an int, but could not parse " ++ value ++
        " into int: strconv.ParseInt: parsing " ++ Text.quote value ++ ": " ++ why)
  | .float _ =>
    match Numeral.readFloat value.toUTF8.toList with
    | some (_, false) => .ok (.float value)
    | r =>
      let why := if r.isSome then "value out of range" else "invalid syntax"
      .error ("param " ++ path ++ " is a float, but could not parse " ++ value ++
        " into float: strconv.ParseFloat: parsing " ++ Text.quote value ++ ": " ++ why)
  | .switch _ =>
    match readSwitch value with
    | some b => .ok (.switch b)
    | none =>
      .error ("param " ++ path ++ " is a bool, but could not parse " ++ value ++
        " into bool: strconv.ParseBool: parsing " ++ Text.quote value ++ ": invalid syntax")
  | .text _ => .ok (.text value)
  | .ref _ => .ok (.ref value)

/-- Sets the parameter at a path to a value. -/
def Profile.set (p : Profile) (path value : String) : Except String Profile :=
  match path.splitOn "." with
  | [name] => .ok (p.update name ⟨some value, []⟩)
  | names =>
    let key := names.getLastD ""
    match names with
    | inst :: _ => do
      let target ← p.reach path inst ((names.drop 1).dropLast)
      match p.param target key with
      | none => .error (path ++ ": no such parameter")
      | some old =>
        let v ← readAs path value old
        pure (p.update target (((p.find? target).getD ⟨none, []⟩).put key v))
    | [] => .error (path ++ ": no such parameter")

/-- Applies one `path=value` setting. -/
def Profile.apply (p : Profile) (setting : String) : Except String Profile :=
  match setting.splitOn "=" with
  | path :: value :: more => p.set path ("=".intercalate (value :: more))
  | _ => .error ("invalid parameter setting " ++ Text.quote setting)

/-- Applies settings in order; the first that cannot be applied stops. -/
def Profile.applyAll (p : Profile) : List String → Except String Profile
  | [] => .ok p
  | s :: rest => do (← p.apply s).applyAll rest

/-- The name of the type of a parameter value, as errors give it. -/
def ParamValue.typeName : ParamValue → String
  | .int _ => "int"
  | .float _ => "float64"
  | .text _ => "string"
  | .switch _ => "bool"
  | .ref _ => "config.indirect"

/-- A parameter value as a profile file writes it. -/
def ParamValue.written : ParamValue → String
  | .int i => toString i
  | .float s => s
  | .text s => Text.quote s
  | .switch b => if b then "true" else "false"
  | .ref name => name

/-- Sorts names. -/
def sortNamed {α : Type} (xs : List (String × α)) : List (String × α) :=
  xs.mergeSort fun a b => decide (a.1 ≤ b.1)

/-- The profile as the program writes it out: each instance with its parameters, by name. -/
def Profile.text (p : Profile) : String :=
  "\n".intercalate ((sortNamed p.instances).map fun (name, i) =>
    let head := match i.parent with
      | some q => "instance " ++ name ++ " " ++ q
      | none => "param " ++ name
    head ++ " (\n" ++ String.join ((sortNamed i.params).map fun (k, v) => "\t" ++ k ++ " = " ++ v.written ++ "\n") ++ ")\n")

/-- The counts a runtime is made from. -/
structure Counts where
  cores : Int
  devices : Int
  deriving DecidableEq, Repr

/-- The instance names along the chain of `parlane`, for at most `fuel` instances: every name
must be an instance. -/
def Profile.chainOk (p : Profile) : Nat → String → Except String Unit
  | 0, _ => .ok ()
  | fuel + 1, name =>
    match p.find? name with
    | none => .error ("no instance named " ++ Text.quote name)
    | some i =>
      match i.parent with
      | some q => p.chainOk fuel q
      | none => .ok ()

/-- The counts of the profile's `parlane` instance. -/
def Profile.counts (p : Profile) : Except String Counts := do
  p.chainOk (p.instances.length + 1) "parlane"
  let count (key : String) : Except String Int :=
    match p.param "parlane" key with
    | none => .ok 0
    | some (.int i) => .ok i
    | some (.ref _) =>
      .error ("resolving parlane." ++ key ++ ": cannot indirect parameters of type config.indirect")
    | some v => .error ("parlane." ++ key ++ ": wrong parameter type: expected int, got " ++ v.typeName)
  pure ⟨← count "cores", ← count "devices"⟩

/-- What regions run on: the executor and the inventory it was made for. -/
structure Runtime where
  executor : Executor
  inventory : Inventory

/-- The most devices a simulated accelerator can have: its table of devices, eight bytes each,
can take at most `2 ^ 48` bytes. -/
def deviceLimit : Nat := Nat.pow 2 45

/-- Why a runtime could not be made: counts it refuses, or a table too large to make, which
stops the program at once with the message. -/
inductive Unmade where
  | refused (f : Fault)
  | tooLarge (message : String)

/-- The message of a table asked for with a length no table can have. -/
def lengthOutOfRange : String := "runtime error: makeslice: len out of range"

/-- The runtime for counts. -/
def Runtime.create (p : Counts) : Except Unmade Runtime :=
  if p.cores < 0 then
    .error (.refused (Fault.make .invalid ("regionconfig: invalid core count " ++ toString p.cores)))
  else if p.devices < 0 then
    .error (.refused (Fault.make .invalid ("regionconfig: invalid device count " ++ toString p.devices)))
  else if p.devices > deviceLimit then .error (.tooLarge lengthOutOfRange)
  else
    let acc : Accelerator := if p.devices > 0 then .sim (Sim.create p.devices.toNat) else .absent
    let inv : Inventory := ⟨if p.cores > 0 then p.cores else hostCores, acc.deviceCount⟩
    .ok ⟨⟨acc, inv, some (Placement.ofInventory inv), Metrics.Scope.empty⟩, inv⟩

/-- How a run of the program ends: the exit code and what it wrote to its two streams. -/
structure Exit where
  code : Nat
  out : String
  err : String
  deriving DecidableEq, Repr

/-- The line a log message takes. -/
def logLine (message : String) : String :=
  if message.endsWith "\n" then message else message ++ "\n"

/-- Stops the program on an error, after it wrote `out` and `err`: the message is logged, then
the program panics with it. -/
def Exit.panic (out err message : String) : Exit :=
  ⟨2, out, err ++ logLine message ++ "panic: " ++ "\n\t".intercalate (message.splitOn "\n") ++ "\n\n"⟩

/-- Stops the program at once on a runtime panic with a message, nothing logged before it. -/
def Exit.crash (message : String) : Exit := ⟨2, "", "panic: " ++ message ++ "\n\n"⟩

/-- The log lines of the failed lanes of a region run under a policy. -/
def failureLog (policy : Policy) (fails : List (Nat × LaneFailure Fault)) : String :=
  String.join (fails.map fun (i, f) =>
    logLine ("region: " ++ policy.text ++ ": lane " ++ toString i ++ " failed: " ++ f.text))

theorem create_devices (p : Counts) (rt : Runtime) (h : Runtime.create p = .ok rt) :
    rt.inventory.accelerators = p.devices := by
  unfold Runtime.create at h
  split at h
  · cases h
  · split at h
    · cases h
    · split at h
      · cases h
      · cases h
        show Accelerator.deviceCount _ = p.devices
        split
        · simp [Accelerator.deviceCount, Sim.deviceCount, Sim.create]; omega
        · simp [Accelerator.deviceCount]; omega

end Lanes.Cli
