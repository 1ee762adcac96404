import Lanes.Accumulator.Basic
import Lanes.Text.Quote

/-!
Accumulators by kind name.

Twelve kinds are known by name: `long.` with each of the seven reductions, `double.` with none,
sum, min and max, and `double.mean`. A kind `composed(k1,...,kn)` names the tuple of the kinds
`ki`, split at the commas outside parentheses; `composed()` is the empty tuple. Any other name is
refused.

Kind names arrive as bytes, since they may come out of an encoding; a refusal quotes them.

- `ofKind` builds the identity accumulator of a kind name.
- `kinds` lists the named kinds in byte order.
-/

namespace Lanes.Accumulator

open Lanes.Text (quoteBytes)

/-- The identity accumulators of the kinds known by name. -/
def named : List Acc :=
  [Op.none, .sum, .min, .max, .and, .or, .xor].map (fun op => .long (Long.identity op)) ++
    [FloatOp.none, .sum, .min, .max].map (fun op => .double (Double.identity op)) ++
    [.mean Mean.empty]

/-- Byte order on text. -/
def bytesLE (a b : String) : Bool :=
  let rec go : List UInt8 → List UInt8 → Bool
    | [], _ => true
    | _ :: _, [] => false
    | x :: xs, y :: ys => if x < y then true else if y < x then false else go xs ys
  go a.toUTF8.toList b.toUTF8.toList

/-- The kinds known by name, in byte order. -/
def kinds : List String := (named.map Acc.kind).mergeSort bytesLE

/-- The text of registering a kind that is already known. -/
def registeredTwice (kind : String) : Panic :=
  ⟨"vbl.Register: kind " ++ kind ++ " already registered"⟩

/-- Whether a kind is known by name. -/
def isNamed (kind : String) : Bool := kinds.contains kind

/-- The bytes of the prefix of tuple kinds. -/
def tuplePrefix : List UInt8 := "composed(".toUTF8.toList

/-- Splits a byte string at the commas outside parentheses; `none` when the parentheses do not
balance. -/
def splitTopLevel (s : List UInt8) : Option (List (List UInt8)) :=
  -- `depth` counts the open parentheses, `cur` holds the current piece reversed
  let rec go (depth : Nat) (cur : List UInt8) (done : List (List UInt8)) :
      List UInt8 → Option (List (List UInt8))
    | [] => if depth = 0 then some (done.reverse ++ [cur.reverse]) else none
    | b :: bs =>
      if b = 40 then go (depth + 1) (b :: cur) done bs
      else if b = 41 then
        if depth = 0 then none else go (depth - 1) (b :: cur) done bs
      else if b = 44 ∧ depth = 0 then go depth [] (cur.reverse :: done) bs
      else go depth (b :: cur) done bs
  go 0 [] [] s

/-- The element kinds of a tuple kind name; `none` for a name that is no tuple kind. -/
def tupleParts (kind : List UInt8) : Option (List (List UInt8)) :=
  if tuplePrefix.isPrefixOf kind ∧ kind.getLast? = some 41 ∧ tuplePrefix.length < kind.length then
    let inner := (kind.drop tuplePrefix.length).dropLast
    if inner.isEmpty then some [] else splitTopLevel inner
  else none

/-- The refusal of a kind name. -/
def unknownKind (kind : List UInt8) : Fault :=
  Fault.make .invalid ("vbl: unknown accumulator kind " ++ quoteBytes kind)

/-- The identity accumulator of a kind name, looking at most `fuel` levels of tuples deep. -/
def ofKindWithin : Nat → List UInt8 → Except Fault Acc
  | 0, kind => .error (unknownKind kind)
  | fuel + 1, kind =>
    match named.find? (fun a => a.kind.toUTF8.toList == kind) with
    | some a => .ok a
    | none =>
      match tupleParts kind with
      | some parts => (parts.mapM (ofKindWithin fuel)).map .composed
      | none => .error (unknownKind kind)

/-- The identity accumulator of a kind name. Each element kind is shorter than the tuple's name,
so the name's length bounds the depth. -/
def ofKind (kind : List UInt8) : Except Fault Acc := ofKindWithin (kind.length + 1) kind

theorem named_length : named.length = 12 := rfl

end Lanes.Accumulator
