import Lanes.Accumulator.Op
import Lanes.Binary64.Text
import Lanes.Fault

/-!
Accumulators: values with an associative, commutative way to combine two of them.

An accumulator is a 64-bit whole number with a reduction (`Long`), a binary64 number with a
reduction (`Double`), a running mean that keeps its sum and count (`Mean`), or a fixed tuple of
accumulators combined element by element (`composed`). Its kind names its type and reduction
(`long.sum`, `double.mean`, `composed(long.max,double.min)`); two accumulators combine only when
their kinds are the same text.

- `Acc.combine` folds one accumulator into another; a tuple combines all its elements or none.
- `Acc.assign` replaces an accumulator by another of its kind.
- `Acc.identity` is the unit of `combine`: every reduction starts from it.
- `Acc.text` writes the value: whole numbers in decimal, binary64 numbers in shortest form,
  tuples in parentheses.

Main statement: the identity has the kind of the accumulator it came from (`kind_identity`).
-/

namespace Lanes.Accumulator

open Lanes.Binary64 (text)

/-- A 64-bit whole number with its reduction; sums wrap around. -/
structure Long where
  op : Op
  value : Int64
  deriving DecidableEq, Repr, Inhabited

/-- A binary64 number with its reduction. -/
structure Double where
  op : FloatOp
  value : Binary64
  deriving DecidableEq, Repr, Inhabited

/-- A running mean: the sum of the values seen and how many there were. -/
structure Mean where
  sum : Binary64
  count : Int64
  deriving DecidableEq, Repr, Inhabited

/-- An accumulator. -/
inductive Acc where
  | long (l : Long)
  | double (d : Double)
  | mean (m : Mean)
  | composed (parts : List Acc)
  deriving Repr, Inhabited

/-- The message of a failure that stops the program: a broken promise of the caller. -/
structure Panic where
  message : String
  deriving Repr, Inhabited

/-! ### Failures -/

/-- Two accumulators of different kinds met; `arg` is `<nil>` when there was no second one. -/
def mismatch (verb recv arg : String) : Fault :=
  Fault.make .precondition ("vbl: cannot " ++ verb ++ " " ++ recv ++ " with " ++ arg)

/-- A reduction was asked of an accumulator whose operation is `none`. -/
def unsupported (kind : String) : Fault :=
  Fault.make .notSupported
    ("vbl: reduction not defined for base kind " ++ kind ++ "; use a specialized operation")

/-- An encoding had the wrong length for its kind. -/
def corrupt (kind : String) (length want : Nat) : Fault :=
  Fault.make .integrity
    ("vbl: " ++ kind ++ ": decoded " ++ toString length ++ " bytes, expected " ++ toString want)

/-- The second operand's kind, or `<nil>` when there is none. -/
def kindOrNil (kind : Option String) : String := kind.getD "<nil>"

/-! ### Reductions -/

namespace Op

/-- The unit of the reduction. -/
def unit : Op → Int64
  | .min => Int64.maxValue
  | .max => Int64.minValue
  | .and => -1
  | _ => 0

/-- Reduces `x` into `acc`; `none` for the operation that does not reduce. -/
def combineValue? (op : Op) (acc x : Int64) : Option Int64 :=
  match op with
  | .none => Option.none
  | .sum => some (acc + x)
  | .min => some (if x < acc then x else acc)
  | .max => some (if x > acc then x else acc)
  | .and => some (acc &&& x)
  | .or => some (acc ||| x)
  | .xor => some (acc ^^^ x)

end Op

namespace FloatOp

/-- The unit of the reduction. -/
def unit : FloatOp → Binary64
  | .min => Binary64.posInf
  | .max => Binary64.negInf
  | _ => Binary64.zero

/-- Reduces `x` into `acc`; `none` for the operation that does not reduce. -/
def combineValue? (op : FloatOp) (acc x : Binary64) : Option Binary64 :=
  match op with
  | .none => Option.none
  | .sum => some (acc.add x)
  | .min => some (acc.min x)
  | .max => some (acc.max x)

end FloatOp

namespace Long

/-- The kind of a whole-number accumulator. -/
def kind (l : Long) : String := "long." ++ l.op.name

/-- The accumulator holding the unit of the reduction. -/
def identity (op : Op) : Long := ⟨op, op.unit⟩

/-- Reduces `x` into the value. -/
def reduce (l : Long) (x : Int64) : Except Fault Long :=
  match l.op.combineValue? l.value x with
  | some v => .ok { l with value := v }
  | none => .error (unsupported l.kind)

/-- A whole-number accumulator from an operation code; codes that name no operation are refused. -/
def ofCode (code : Nat) (value : Int64) : Except Panic Long :=
  match Op.ofCode? code with
  | some op => .ok ⟨op, value⟩
  | none => .error ⟨"vbl.NewLong: invalid op " ++ opName code⟩

end Long

namespace Double

/-- The kind of a floating-point accumulator. -/
def kind (d : Double) : String := "double." ++ d.op.toOp.name

/-- The accumulator holding the unit of the reduction. -/
def identity (op : FloatOp) : Double := ⟨op, op.unit⟩

/-- Reduces `x` into the value. -/
def reduce (d : Double) (x : Binary64) : Except Fault Double :=
  match d.op.combineValue? d.value x with
  | some v => .ok { d with value := v }
  | none => .error (unsupported d.kind)

/-- A floating-point accumulator from an operation code; only none, sum, min and max are taken. -/
def ofCode (code : Nat) (value : Binary64) : Except Panic Double :=
  match Op.ofCode? code >>= FloatOp.ofOp? with
  | some op => .ok ⟨op, value⟩
  | none => .error ⟨"vbl.NewDouble: op " ++ opName code ++ " not defined for doubles"⟩

end Double

namespace Mean

/-- The mean of nothing. -/
def empty : Mean := ⟨Binary64.zero, 0⟩

/-- Adds one value. -/
def accumulate (m : Mean) (x : Binary64) : Mean := ⟨m.sum.add x, m.count + 1⟩

/-- Joins two means: sums add and counts add, so each mean weighs as many values as it saw. -/
def merge (m n : Mean) : Mean := ⟨m.sum.add n.sum, m.count + n.count⟩

/-- The mean of the values seen; NaN when there were none. -/
def value (m : Mean) : Binary64 :=
  if m.count = 0 then Binary64.nan else m.sum.div (Binary64.ofInt m.count.toInt)

end Mean

namespace Acc

/-! ### Kinds -/

mutual

/-- The kind: type and reduction, and for a tuple the kinds of its elements. -/
def kind : Acc → String
  | .long l => l.kind
  | .double d => d.kind
  | .mean _ => "double.mean"
  | .composed parts => "composed(" ++ kindList parts ++ ")"

/-- The kinds of a tuple's elements, separated by commas. -/
def kindList : List Acc → String
  | [] => ""
  | [a] => kind a
  | a :: b :: rest => kind a ++ "," ++ kindList (b :: rest)

end

mutual

/-- The accumulator of the same kind holding the unit of its reduction. -/
def identity : Acc → Acc
  | .long l => .long (Long.identity l.op)
  | .double d => .double (Double.identity d.op)
  | .mean _ => .mean Mean.empty
  | .composed parts => .composed (identityList parts)

/-- The identities of a tuple's elements. -/
def identityList : List Acc → List Acc
  | [] => []
  | a :: rest => identity a :: identityList rest

end

/-! ### Combining -/

mutual

/-- Combines two accumulators of one kind; a tuple combines element by element and keeps
nothing of a failed attempt. -/
def combineSame : Acc → Acc → Except Fault Acc
  | .long l, .long m =>
    if l.op = m.op then Long.reduce l m.value |>.map .long
    else .error (mismatch "combine" l.kind m.kind)
  | .double d, .double e =>
    if d.op = e.op then Double.reduce d e.value |>.map .double
    else .error (mismatch "combine" d.kind e.kind)
  | .mean m, .mean n => .ok (.mean (m.merge n))
  | .composed ps, .composed qs => combineList ps qs |>.map .composed
  | a, b => .error (mismatch "combine" a.kind b.kind)

/-- Combines the elements of two tuples pairwise. -/
def combineList : List Acc → List Acc → Except Fault (List Acc)
  | [], _ => .ok []
  | a :: as, b :: bs => do
    let c ← combineSame a b
    let cs ← combineList as bs
    pure (c :: cs)
  | a :: _, [] => .error (mismatch "combine" a.kind "<nil>")

end

/-- Folds `src` into `dst`. Accumulators combine only when their kinds are the same text; on a
failure `dst` is as it was. -/
def combine (dst : Acc) (src : Option Acc) : Except Fault Acc :=
  match src with
  | some s => if dst.kind = s.kind then combineSame dst s else .error (mismatch "combine" dst.kind s.kind)
  | none => .error (mismatch "combine" dst.kind "<nil>")

/-- Replaces `dst` by `src`, which must be of the same kind. -/
def assign (dst : Acc) (src : Option Acc) : Except Fault Acc :=
  match src with
  | some s => if dst.kind = s.kind then .ok s else .error (mismatch "assign" dst.kind s.kind)
  | none => .error (mismatch "assign" dst.kind "<nil>")

/-- The element of a tuple at an index; an index outside the tuple stops the program. -/
def part (parts : List Acc) (i : Int) : Except Panic Acc :=
  match i.toNat?, parts[i.toNat]? with
  | some _, some a => .ok a
  | some _, none =>
    .error ⟨"runtime error: index out of range [" ++ toString i ++ "] with length " ++
      toString parts.length⟩
  | none, _ => .error ⟨"runtime error: index out of range [" ++ toString i ++ "]"⟩

/-- A tuple of accumulators; a missing element stops the program. -/
def compose (parts : List (Option Acc)) : Except Panic Acc :=
  let rec go (i : Nat) : List (Option Acc) → Except Panic (List Acc)
    | [] => .ok []
    | some a :: rest => (go (i + 1) rest).map (a :: ·)
    | none :: _ => .error ⟨"vbl.Compose: accumulator " ++ toString i ++ " is nil"⟩
  (go 0 parts).map .composed

/-! ### Text -/

mutual

/-- The value as text: a whole number in decimal, a binary64 number or mean in shortest form,
a tuple as its elements in parentheses. -/
def text : Acc → String
  | .long l => toString l.value.toInt
  | .double d => Binary64.text d.value
  | .mean m => Binary64.text m.value
  | .composed parts => "(" ++ textList parts ++ ")"

/-- The texts of a tuple's elements, separated by a comma and a blank. -/
def textList : List Acc → String
  | [] => ""
  | [a] => text a
  | a :: b :: rest => text a ++ ", " ++ textList (b :: rest)

end

/-! ### Laws -/

mutual

theorem kind_identity : ∀ a : Acc, a.identity.kind = a.kind
  | .long _ => rfl
  | .double _ => rfl
  | .mean _ => rfl
  | .composed parts => by
    simp only [identity, kind, kindList_identityList parts]

theorem kindList_identityList : ∀ parts : List Acc, kindList (identityList parts) = kindList parts
  | [] => rfl
  | [a] => by simp only [identityList, kindList, kind_identity a]
  | a :: b :: rest => by
    have h := kindList_identityList (b :: rest)
    simp only [identityList] at h ⊢
    simp only [kindList, kind_identity a, h]

end

end Acc

end Lanes.Accumulator
