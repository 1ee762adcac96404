import Lanes.Doc
import Lanes.Fault
import Lanes.Numeral.Floating
import Lanes.Numeral.Integer
import Lanes.Bytes.Hex

/-!
Scenarios: scripted uses of the library, written as documents, whose outcomes are reported as
documents.

A step of a scenario either gives a report, or stops with a failure of the library, a stop of
the program (a broken promise of the caller, with its message), a deadline that passed while a
step waited for something that never came, or a scenario that asks for something it cannot
(`malformed`). A stopped step is reported as a record of the failure's kind and text.

Values in scenarios are read by the library's own rules: whole numbers as 64-bit decimal
numerals, binary64 values as floating-point numerals (a value out of range becomes an infinity or
a zero), and bytes as text or, under the field's name with `_hex` after it, as hexadecimal.
-/

namespace Lanes.Scenario

/-- Why a step of a scenario gave no report. -/
inductive Failure where
  | fault (f : Fault)
  | panic (message : String)
  | deadline
  | malformed (message : String)
  deriving Inhabited

/-- A step that reports an `α` or fails. -/
abbrev Attempt := Except Failure

/-- Stops a step as one that asks for something it cannot. -/
def refuse {α : Type} (message : String) : Attempt α := .error (.malformed message)

/-- A result of the library as a step. -/
def ofFault {α : Type} : Except Fault α → Attempt α
  | .ok a => .ok a
  | .error f => .error (.fault f)

/-- The name a failure is reported under: its kind, or `Error` for a failure of text only. -/
def faultName (f : Fault) : String :=
  match f.kindOf with
  | some k => k.name
  | none => "Error"

/-- A failure's report fields. -/
def faultFields (f : Fault) : List (String × Doc) :=
  [("error", .str (faultName f)), ("message", .str f.message)]

/-- The report fields of a stopped step. -/
def Failure.fields : Failure → List (String × Doc)
  | .fault f => faultFields f
  | .panic m => [("error", .str "Panic"), ("message", .str m)]
  | .deadline => [("error", .str "DeadlineExceeded"), ("message", .str "context deadline exceeded")]
  | .malformed m => [("error", .str "BadInput"), ("message", .str m)]

/-- The report of a step. -/
def report (r : Attempt Doc) : Doc :=
  match r with
  | .ok d => d
  | .error e => .record e.fields

/-! ### Reading fields -/

/-- A field that must be present. -/
def need (d : Doc) (k : String) : Attempt Doc :=
  match d.field? k with
  | some v => pure v
  | none => refuse ("missing field " ++ k)

/-- A text field. -/
def textField (d : Doc) (k : String) : Attempt String := do
  match (← need d k).text? with
  | some s => pure s
  | none => refuse ("field " ++ k ++ " must be a string")

/-- Bytes from hexadecimal text. -/
def hexBytes (s : String) : Attempt (List UInt8) :=
  match Bytes.ofHex? s.toLower with
  | some bs => pure bs
  | none => refuse ("bad hex " ++ s)

/-- A byte field: `k_hex` in hexadecimal when present, else the text of `k`. -/
def bytesField (d : Doc) (k : String) : Attempt (List UInt8) := do
  match d.field? (k ++ "_hex") with
  | some v =>
    match v.text? with
    | some s => hexBytes s
    | none => refuse ("bad hex in " ++ k ++ "_hex")
  | none => pure (← textField d k).toUTF8.toList

/-- A 64-bit whole number. -/
def intOf (v : Doc) : Attempt Int64 :=
  match v.text? with
  | some s =>
    match Numeral.readInt64 s.toUTF8.toList with
    | .ok i => pure i
    | .error _ => refuse ("bad integer " ++ s)
  | none => refuse "integer expected"

/-- A 64-bit whole-number field. -/
def intField (d : Doc) (k : String) : Attempt Int64 := do intOf (← need d k)

/-- A 64-bit whole-number field, or a default when absent or null. -/
def intFieldOr (d : Doc) (k : String) (dflt : Int64) : Attempt Int64 :=
  if d.has k then intField d k else pure dflt

/-- A field holding a whole number that is not negative. -/
def natField (d : Doc) (k : String) : Attempt Nat := do
  let i ← intField d k
  if i.toInt < 0 then refuse ("field " ++ k ++ " must not be negative") else pure i.toInt.toNat

/-- A binary64 value. -/
def floatOf (v : Doc) : Attempt Binary64 :=
  match v.text? with
  | some s =>
    match Numeral.readFloat s.toUTF8.toList with
    | some (x, _) => pure x
    | none => refuse ("bad float " ++ s)
  | none => refuse "float expected"

/-- A truth-value field; absent or null is false. -/
def boolField (d : Doc) (k : String) : Bool :=
  match d.field? k with
  | some (.bool b) => b
  | _ => false

/-- Runs the steps of a scenario in order, threading a state; a stopped step is reported and the
next step runs on the state as it was. -/
def runSteps {σ : Type} (step : σ → Doc → Attempt Doc × σ) (init : σ) (steps : List Doc) :
    List Doc × σ :=
  let (out, s) := steps.foldl (fun (acc : Array Doc × σ) d =>
    let (r, s') := step acc.2 d
    (acc.1.push (report r), s')) (#[], init)
  (out.toList, s)

end Lanes.Scenario
