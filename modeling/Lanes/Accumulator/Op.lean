/-!
Reduction operations of accumulators, and their names and codes.

An operation has a one-byte code: none, sum, min, max, and, or and xor are 0 to 6. Whole-number
accumulators take all seven; floating-point accumulators take the first four (`FloatOp`). Any
other byte names no operation and is written `op(N)`.

- `Op.ofCode?` reads a code back (`ofCode?_code`).
- `opName` names every byte: the operation's name below seven, `op(N)` from there on.
-/

namespace Lanes.Accumulator

/-- A reduction operation of whole-number accumulators. `none` holds a value but cannot reduce. -/
inductive Op where
  | none
  | sum
  | min
  | max
  | and
  | or
  | xor
  deriving DecidableEq, Repr, Inhabited

/-- A reduction operation of floating-point accumulators. -/
inductive FloatOp where
  | none
  | sum
  | min
  | max
  deriving DecidableEq, Repr, Inhabited

namespace Op

/-- The operation's code. -/
def code : Op → Nat
  | .none => 0
  | .sum => 1
  | .min => 2
  | .max => 3
  | .and => 4
  | .or => 5
  | .xor => 6

/-- The operation with a code, if any. -/
def ofCode? : Nat → Option Op
  | 0 => some .none
  | 1 => some .sum
  | 2 => some .min
  | 3 => some .max
  | 4 => some .and
  | 5 => some .or
  | 6 => some .xor
  | _ => Option.none

/-- The operation's lower-case name. -/
def name : Op → String
  | .none => "none"
  | .sum => "sum"
  | .min => "min"
  | .max => "max"
  | .and => "and"
  | .or => "or"
  | .xor => "xor"

/-- The operation with a name, if any. -/
def ofName? (s : String) : Option Op :=
  [Op.none, .sum, .min, .max, .and, .or, .xor].find? (·.name == s)

theorem ofCode?_code (op : Op) : ofCode? op.code = some op := by
  cases op <;> rfl

theorem code_lt (op : Op) : op.code < 7 := by
  cases op <;> decide

end Op

namespace FloatOp

/-- The same operation among those of whole numbers. -/
def toOp : FloatOp → Op
  | .none => .none
  | .sum => .sum
  | .min => .min
  | .max => .max

/-- The floating-point operation that an operation is, if it is one. -/
def ofOp? : Op → Option FloatOp
  | .none => some .none
  | .sum => some .sum
  | .min => some .min
  | .max => some .max
  | _ => Option.none

theorem ofOp?_toOp (op : FloatOp) : ofOp? op.toOp = some op := by
  cases op <;> rfl

end FloatOp

/-- The name of an operation code: its operation's name, or `op(N)` for a code that names none. -/
def opName (n : Nat) : String :=
  match Op.ofCode? n with
  | some op => op.name
  | Option.none => "op(" ++ toString n ++ ")"

theorem opName_code (op : Op) : opName op.code = op.name := by
  simp [opName, Op.ofCode?_code]

end Lanes.Accumulator
