import Lanes.Text.Quote

/-!
Command-line flags: named settings before the arguments of a command.

Arguments are read as flags until the first one that is not: a lone `-`, anything that does not
start with `-`, or `--`, which is dropped. A flag is `-name` or `--name`, with its value after `=`
or, for a flag that is not a switch, in the next argument. A switch alone means true. A flag
given twice keeps the last value, except a repeated flag, which keeps every value in order.
`-h` and `-help` ask for the usage unless a flag of that name exists.

Whole numbers are read with an optional sign and a base prefix: `0b`, `0o` and `0x` name bases
2, 8 and 16, a leading `0` alone base 8; underscores may separate digits when a prefix or a digit
stands on either side. They must fit in 64 signed bits. Switches read `1`, `t`, `T`, `TRUE`,
`true`, `True` and the same spellings of false.

The usage of a flag set lists its flags by name, each with the kind of value it takes, its
description, and its default unless the default is the zero value.

Main statement: reading stops at the first argument that is no flag (`parse_stop`).
-/

namespace Lanes.Cli

/-- What a flag takes. -/
inductive FlagKind where
  /-- A switch: on or off. -/
  | switch
  /-- A whole number of 64 signed bits. -/
  | int
  /-- A text. -/
  | text
  /-- A text that may be given many times, each use adding one. -/
  | repeated
  deriving DecidableEq, Repr

/-- A flag: its name, what it takes, its description and its default as the usage shows it. -/
structure Flag where
  name : String
  kind : FlagKind
  usage : String
  default : String

/-- The value of a flag that was given. -/
inductive Setting where
  | switch (on : Bool)
  | int (i : Int)
  | text (s : String)
  | repeated (values : List String)
  deriving DecidableEq, Repr

/-- The flags given, by name. -/
abbrev Settings := List (String × Setting)

/-- How reading flags ended. -/
inductive Parsed where
  /-- The settings and the arguments after the flags. -/
  | ok (settings : Settings) (rest : List String)
  /-- The usage was asked for. -/
  | help
  /-- A flag could not be read; the message says why. -/
  | failed (message : String)
  deriving DecidableEq, Repr

/-! ### Whole numbers -/

/-- Why a numeral was refused. -/
inductive NumeralError where
  | malformed
  | range
  deriving DecidableEq, Repr

/-- The text of a refusal, as flag messages give it. -/
def NumeralError.text : NumeralError → String
  | .malformed => "parse error"
  | .range => "value out of range"

/-- A letter made lower case. -/
def lowerChar (c : Char) : Char := if 'A' ≤ c ∧ c ≤ 'Z' then Char.ofNat (c.toNat + 32) else c

/-- The value of a digit in bases up to 36. -/
def digitValue (c : Char) : Option Nat :=
  if '0' ≤ c ∧ c ≤ '9' then some (c.toNat - 48)
  else if 'a' ≤ lowerChar c ∧ lowerChar c ≤ 'z' then some ((lowerChar c).toNat - 87)
  else none

/-- Reads digits of a base into a value below `2 ^ 64`, skipping underscores when `under`;
a digit that takes the value past `2 ^ 64 - 1` refuses the numeral as out of range at once. -/
def readDigits (base : Nat) (under : Bool) (acc : Nat) : List Char → Except NumeralError Nat
  | [] => .ok acc
  | c :: rest =>
    if c = '_' ∧ under then readDigits base under acc rest
    else match digitValue c with
      | some d =>
        if d < base then
          if acc * base + d ≥ Nat.pow 2 64 then .error .range
          else readDigits base under (acc * base + d) rest
        else .error .malformed
      | none => .error .malformed

/-- Whether underscores stand only between digits, or after a base prefix. `saw` is what came
last: 0 for a digit or prefix, 1 for an underscore, 2 for anything else, 3 at the start. -/
def underscoresFit (hex : Bool) : Nat → List Char → Bool
  | saw, [] => saw != 1
  | saw, c :: rest =>
    if ('0' ≤ c ∧ c ≤ '9') ∨ (hex ∧ 'a' ≤ lowerChar c ∧ lowerChar c ≤ 'f') then underscoresFit hex 0 rest
    else if c = '_' then saw == 0 && underscoresFit hex 1 rest
    else saw != 1 && underscoresFit hex 2 rest

/-- Whether the underscores of an unsigned numeral are well placed. -/
def underscoresOk (s : List Char) : Bool :=
  match s with
  | '0' :: p :: rest =>
    if lowerChar p = 'b' ∨ lowerChar p = 'o' ∨ lowerChar p = 'x' then
      underscoresFit (lowerChar p = 'x') 0 rest
    else underscoresFit false 3 s
  | _ => underscoresFit false 3 s

/-- An unsigned numeral with its base prefix, below `2 ^ 64`. -/
def readUnsigned (s : List Char) : Except NumeralError Nat :=
  let (base, digits) : Nat × List Char := match s with
    | '0' :: p :: d :: rest =>
      if lowerChar p = 'b' then (2, d :: rest)
      else if lowerChar p = 'o' then (8, d :: rest)
      else if lowerChar p = 'x' then (16, d :: rest)
      else (8, p :: d :: rest)
    | '0' :: rest => (8, rest)
    | _ => (10, s)
  if s.isEmpty then .error .malformed
  else match readDigits base true 0 digits with
    | .error e => .error e
    | .ok n =>
      if s.contains '_' && !underscoresOk s then .error .malformed else .ok n

/-- A signed numeral of 64 bits. -/
def readInt (s : String) : Except NumeralError Int :=
  let (neg, body) : Bool × List Char := match s.toList with
    | '+' :: rest => (false, rest)
    | '-' :: rest => (true, rest)
    | cs => (false, cs)
  if s.isEmpty then .error .malformed
  else match readUnsigned body with
    | .error e => .error e
    | .ok n =>
      if !neg && n ≥ Nat.pow 2 63 then .error .range
      else if neg && n > Nat.pow 2 63 then .error .range
      else .ok (if neg then -(n : Int) else n)

/-- A switch's value. -/
def readSwitch (s : String) : Option Bool :=
  if ["1", "t", "T", "TRUE", "true", "True"].contains s then some true
  else if ["0", "f", "F", "FALSE", "false", "False"].contains s then some false
  else none

/-! ### Reading flags -/

/-- Records a flag's value: a repeated flag adds it to those before, others replace theirs. -/
def record (st : Settings) (name : String) (v : Setting) : Settings :=
  match v, st.lookup name with
  | .repeated [x], some (.repeated xs) => (name, .repeated (xs ++ [x])) :: st.filter (·.1 != name)
  | _, _ => (name, v) :: st.filter (·.1 != name)

/-- The name of a flag and the value written after `=`, if any. -/
def splitValue (n : List Char) : String × Option String :=
  match n.idxOf? '=' with
  | some i => (String.ofList (n.take i), some (String.ofList (n.drop (i + 1))))
  | none => (String.ofList n, none)

/-- Reads the flag `arg`, whose name and value are `n`, then the flags after it. -/
def readFlag (flags : List Flag) (arg : String) (n : List Char) (st : Settings)
    (rest : List String) (next : Settings → List String → Parsed) : Parsed :=
  match n with
  | [] | '-' :: _ | '=' :: _ => .failed ("bad flag syntax: " ++ arg)
  | _ =>
    let (name, value?) := splitValue n
    match flags.find? (·.name == name) with
    | none =>
      if name == "help" || name == "h" then .help
      else .failed ("flag provided but not defined: -" ++ name)
    | some f =>
      match f.kind with
      | .switch =>
        match value? with
        | none => next (record st name (.switch true)) rest
        | some v =>
          match readSwitch v with
          | some b => next (record st name (.switch b)) rest
          | none => .failed ("invalid boolean value " ++ Text.quote v ++ " for -" ++ name ++ ": parse error")
      | kind =>
        let (value?, rest) : Option String × List String := match value?, rest with
          | some v, r => (some v, r)
          | none, a :: r => (some a, r)
          | none, [] => (none, [])
        match value? with
        | none => .failed ("flag needs an argument: -" ++ name)
        | some v =>
          match kind with
          | .int =>
            match readInt v with
            | .ok i => next (record st name (.int i)) rest
            | .error e =>
              .failed ("invalid value " ++ Text.quote v ++ " for flag -" ++ name ++ ": " ++ e.text)
          | .repeated => next (record st name (.repeated [v])) rest
          | _ => next (record st name (.text v)) rest

/-- Reads flags from the arguments, at most `fuel` of them. -/
def parseWithin (flags : List Flag) : Nat → Settings → List String → Parsed
  | 0, st, args => .ok st args
  | _ + 1, st, [] => .ok st []
  | fuel + 1, st, arg :: rest =>
    match arg.toList with
    | ['-', '-'] => .ok st rest
    | '-' :: '-' :: n => readFlag flags arg n st rest (parseWithin flags fuel)
    | '-' :: c :: n => readFlag flags arg (c :: n) st rest (parseWithin flags fuel)
    | _ => .ok st (arg :: rest)

/-- Reads flags from the arguments. -/
def parse (flags : List Flag) (args : List String) : Parsed := parseWithin flags args.length [] args

/-! ### Settings -/

/-- A whole-number setting, or its default. -/
def Settings.int (st : Settings) (name : String) (default : Int) : Int :=
  match st.lookup name with
  | some (.int i) => i
  | _ => default

/-- A switch, off unless given. -/
def Settings.switch (st : Settings) (name : String) : Bool :=
  match st.lookup name with
  | some (.switch b) => b
  | _ => false

/-- A text setting, empty unless given. -/
def Settings.text (st : Settings) (name : String) : String :=
  match st.lookup name with
  | some (.text s) => s
  | _ => ""

/-- The values of a repeated flag, in order. -/
def Settings.repeated (st : Settings) (name : String) : List String :=
  match st.lookup name with
  | some (.repeated xs) => xs
  | _ => []

/-! ### Usage -/

/-- What the usage calls the value of a flag. -/
def FlagKind.valueName : FlagKind → String
  | .switch => ""
  | .int => "int"
  | .text => "string"
  | .repeated => "value"

/-- Whether a default is the zero value of its kind, which the usage leaves out. -/
def Flag.zeroDefault (f : Flag) : Bool :=
  match f.kind with
  | .switch => f.default == "false"
  | .int => f.default == "0"
  | _ => f.default.isEmpty

/-- The usage lines of a flag. -/
def Flag.help (f : Flag) : String :=
  let head := "  -" ++ f.name ++ (if f.kind.valueName.isEmpty then "" else " " ++ f.kind.valueName)
  let sep := if head.length ≤ 4 then "\t" else "\n    \t"
  let default :=
    if f.zeroDefault then ""
    else if f.kind = .text then " (default " ++ Text.quote f.default ++ ")"
    else " (default " ++ f.default ++ ")"
  head ++ sep ++ "\n    \t".intercalate (f.usage.splitOn "\n") ++ default ++ "\n"

/-- The usage lines of flags, sorted by name. -/
def defaults (flags : List Flag) : String :=
  String.join ((flags.mergeSort fun a b => decide (a.name ≤ b.name)).map Flag.help)

theorem parse_stop (flags : List Flag) (arg : String) (rest : List String)
    (h : arg.toList.head? ≠ some '-') : parse flags (arg :: rest) = .ok [] (arg :: rest) := by
  unfold parse
  simp only [List.length_cons, parseWithin]
  split <;> simp_all

end Lanes.Cli
