import Lanes.Scenario.Basic
import Lanes.Accumulator.Codec

/-!
Scenarios over named accumulators.

An accumulator is reported as its kind, its value's text and its binary form in hexadecimal.
An accumulator can be described by a spec: a kind name, with a first value (`value`) or values to
reduce (`values`); a tuple of specs (`compose`), where a null element stops the program; an
envelope in hexadecimal (`hex`); or null, for no accumulator at all.

A scenario of steps works on a register of accumulators by name (`Register`); each step reports
an accumulator, a fact about one, or its failure, and the next step runs on what the step left.
-/

namespace Lanes.Scenario

open Lanes.Accumulator

/-- The report of an accumulator: kind, value and binary form. -/
def stateDoc (a : Acc) : Doc :=
  .record [("kind", .str a.kind), ("string", .str a.text), ("hex", .str (Bytes.toHex a.marshal))]

/-- The bits of a binary64 value as sixteen hexadecimal digits, most significant first. -/
def bitsText (x : Binary64) : String := Bytes.toHex (Bytes.le64 x.bits).reverse

/-- An operation code, given by name or by a number below 256. -/
def opCodeOf (v : Doc) : Attempt Nat :=
  let byNumber (s : String) : Attempt Nat :=
    match s.toNat? with
    | some n => if n < 256 then pure n else refuse ("bad op " ++ s)
    | none => refuse ("bad op " ++ s)
  match v with
  | .str s => match Op.ofName? s with
    | some op => pure op.code
    | none => byNumber s
  | .num s => byNumber s
  | _ => refuse "bad op"

/-- Reduces a value into an accumulator by the rule of its type: a whole number into a
whole-number accumulator, a binary64 value into a floating-point one or a mean. -/
def reduceValue (a : Acc) (v : Doc) : Attempt Acc := do
  match a with
  | .long l => pure (.long (← ofFault (l.reduce (← intOf v))))
  | .double d => pure (.double (← ofFault (d.reduce (← floatOf v))))
  | .mean m => pure (.mean (m.accumulate (← floatOf v)))
  | .composed _ => refuse "reduce needs a long or double"

/-- Gives a whole-number or floating-point accumulator a value, or adds one to a mean. -/
def firstValue (a : Acc) (v : Doc) : Attempt Acc := do
  match a with
  | .long l => pure (.long { l with value := ← intOf v })
  | .double d => pure (.double { d with value := ← floatOf v })
  | .mean m => pure (.mean (m.accumulate (← floatOf v)))
  | .composed _ => refuse ("cannot set " ++ a.kind)

/-- The accumulator a spec describes, looking at most `fuel` tuples deep; `none` for null. -/
def buildWithin : Nat → Doc → Attempt (Option Acc)
  | _, .null => pure none
  | 0, _ => refuse "spec nested too deeply"
  | fuel + 1, spec => do
    match spec.field? "compose" with
    | some parts =>
      let accs ← parts.items.mapM (buildWithin fuel)
      match Acc.compose accs with
      | .ok a => pure (some a)
      | .error p => .error (.panic p.message)
    | none =>
      if spec.has "hex" then
        let raw ← hexBytes (← textField spec "hex")
        pure (some (← ofFault (decode raw)))
      else
        let a ← ofFault (ofKind (← bytesField spec "kind"))
        let a ← match spec.field? "value" with
          | some v => firstValue a v
          | none => pure a
        let a ← ((spec.field? "values").map Doc.items |>.getD []).foldlM reduceValue a
        pure (some a)

/-- The accumulator a spec describes; `none` for null. -/
def build (spec : Doc) : Attempt (Option Acc) := buildWithin (spec.depth + 1) spec

/-- A spec that must describe an accumulator. -/
def buildSome (spec : Doc) : Attempt Acc := do
  match ← build spec with
  | some a => pure a
  | none => refuse "nil spec"

/-- Named accumulators; a later name hides an earlier one. -/
abbrev Register := List (String × Acc)

/-- The accumulator of a name. -/
def Register.get (reg : Register) (name : String) : Attempt Acc :=
  match reg.find? (·.1 == name) with
  | some (_, a) => pure a
  | none => refuse ("no accumulator " ++ Text.quote name)

/-- Names an accumulator. -/
def Register.put (reg : Register) (name : String) (a : Acc) : Register :=
  (name, a) :: reg.filter (·.1 != name)

/-- The accumulator named by a text field. -/
def Register.named (reg : Register) (step : Doc) (k : String) : Attempt Acc := do
  reg.get (← textField step k)

/-- The accumulator named by the field `src`, or none for null. -/
def Register.source (reg : Register) (step : Doc) : Attempt (Option Acc) := do
  match ← need step "src" with
  | .null => pure none
  | v => match v.text? with
    | some n => pure (some (← reg.get n))
    | none => refuse "bad src"

/-- Whether a result failed with a kind. -/
def failedWith {α : Type} (e : Except Fault α) (k : FaultKind) : Bool :=
  match e with
  | .error f => f.isKind k
  | .ok _ => false

/-- What a look at an accumulator's parts reports. -/
def inspectDoc : Acc → Doc
  | .long l => .record [("op", .nat l.op.code), ("value", .str (toString l.value.toInt))]
  | .double d => .record [("op", .nat d.op.toOp.code), ("value_bits", .str (bitsText d.value))]
  | .mean m => .record [("sum_bits", .str (bitsText m.sum)),
      ("count", .str (toString m.count.toInt)), ("value_bits", .str (bitsText m.value))]
  | .composed parts => .record [("len", .nat parts.length)]

/-- A step that changes the accumulator under `name` to what `r` gives, reporting it. -/
def Register.update (reg : Register) (name : String) (r : Attempt Acc) : Attempt Doc × Register :=
  match r with
  | .ok a => (.ok (stateDoc a), reg.put name a)
  | .error e => (.error e, reg)

/-- A step that folds or copies one accumulator into another; a failure reports the target as
it was left. -/
def Register.into (reg : Register) (name : String) (dst : Acc) (r : Except Fault Acc) :
    Attempt Doc × Register :=
  match r with
  | .ok a => (.ok (stateDoc a), reg.put name a)
  | .error f => (.ok (.record (faultFields f ++ [("dst", stateDoc dst)])), reg)

/-- One step on named accumulators. -/
def accStep (reg : Register) (step : Doc) : Attempt Doc × Register :=
  let attempt : Attempt (Attempt Doc × Register) := do
    let what ← textField step "do"
    let fixed (d : Doc) : Attempt (Attempt Doc × Register) := pure (.ok d, reg)
    match what with
    | "new" => pure (reg.update (← textField step "name") (ofFault (ofKind (← bytesField step "kind"))))
    | "long" =>
      let code ← opCodeOf (← need step "op")
      let value ← match Op.ofCode? code with
        | some op => intFieldOr step "value" op.unit
        | none => intFieldOr step "value" 0
      pure (reg.update (← textField step "name")
        (match Long.ofCode code value with
          | .ok l => pure (.long l)
          | .error p => .error (.panic p.message)))
    | "double" =>
      let code ← opCodeOf (← need step "op")
      let made : Except Panic Double ← if step.has "value" then
          pure (Double.ofCode code (← floatOf (← need step "value")))
        else pure ((Double.ofCode code Binary64.zero).map (fun d => Double.identity d.op))
      pure (reg.update (← textField step "name")
        (match made with
          | .ok d => pure (.double d)
          | .error p => .error (.panic p.message)))
    | "mean" => pure (reg.update (← textField step "name") (pure (.mean Mean.empty)))
    | "build" => pure (reg.update (← textField step "name") (buildSome (← need step "spec")))
    | "compose" =>
      let parts ← (← need step "of").items.mapM (fun v => match v.text? with
        | some n => reg.get n
        | none => refuse "bad name")
      pure (reg.update (← textField step "name")
        (match Acc.compose (parts.map some) with
          | .ok a => pure a
          | .error p => .error (.panic p.message)))
    | "reduce" =>
      let name ← textField step "name"
      match ← reg.get name with
      | .long l => pure (reg.update name (reduceValue (.long l) (← need step "value")))
      | .double d => pure (reg.update name (reduceValue (.double d) (← need step "value")))
      | _ => refuse "reduce needs a long or double"
    | "accumulate" =>
      let name ← textField step "name"
      match ← reg.get name with
      | .mean m => pure (reg.update name (pure (.mean (m.accumulate (← floatOf (← need step "value"))))))
      | _ => refuse "accumulate needs a mean"
    | "set" =>
      let name ← textField step "name"
      match ← reg.get name with
      | .mean _ => refuse "cannot set double.mean"
      | a => pure (reg.update name (firstValue a (← need step "value")))
    | "combine" =>
      let name ← textField step "dst"
      let dst ← reg.get name
      pure (reg.into name dst (dst.combine (← reg.source step)))
    | "assign" =>
      let name ← textField step "dst"
      let dst ← reg.get name
      pure (reg.into name dst (dst.assign (← reg.source step)))
    | "clone" => pure (reg.update (← textField step "name") (reg.named step "src"))
    | "identity" => pure (reg.update (← textField step "name") ((reg.named step "src").map Acc.identity))
    | "show" => fixed (stateDoc (← reg.named step "name"))
    | "at" =>
      match ← reg.named step "name" with
      | .composed parts =>
        match Acc.part parts (← intField step "index").toInt with
        | .ok e => fixed (.record [("len", .nat parts.length), ("elem", stateDoc e)])
        | .error p => .error (.panic p.message)
      | _ => refuse "at needs a composed accumulator"
    | "marshal" => fixed (.record [("hex", .str (Bytes.toHex (← reg.named step "name").marshal))])
    | "encode" => fixed (.record [("hex", .str (Bytes.toHex (← reg.named step "name").encode))])
    | "unmarshal" =>
      let name ← textField step "name"
      let a ← reg.get name
      let raw ← hexBytes (← textField step "hex")
      match a.unmarshal raw with
      | (a', none) => pure (.ok (stateDoc a'), reg.put name a')
      | (a', some f) => pure (.ok (.record (faultFields f ++ [("dst", stateDoc a')])), reg.put name a')
    | "decode" =>
      let raw ← hexBytes (← textField step "hex")
      pure (reg.update (← textField step "name") (ofFault (decode raw)))
    | "kinds" => fixed (.record [("kinds", .list (kinds.map Doc.str))])
    | "op_string" => fixed (.record [("string", .str (opName (← natField step "op")))])
    | "predicates" =>
      let e := (← reg.named step "dst").combine (← reg.source step)
      fixed (.record [("mismatch", .bool (failedWith e .precondition)),
        ("unsupported", .bool (failedWith e .notSupported))])
    | "inspect" => fixed (inspectDoc (← reg.named step "name"))
    | "register_dup" =>
      let kind ← textField step "kind"
      if isNamed kind then .error (.panic (registeredTwice kind).message)
      else refuse ("kind " ++ kind ++ " is not registered")
    | other => refuse ("unknown step " ++ other)
  match attempt with
  | .ok r => r
  | .error e => (.error e, reg)

/-- A scenario of steps on named accumulators, starting from none. -/
def accScenario (req : Doc) : Attempt Doc := do
  let (out, _) := runSteps accStep [] (← need req "steps").items
  pure (.record [("steps", .list out)])

end Lanes.Scenario
