import Lanes.Accumulator.Registry
import Lanes.Bytes.Varint
import Lanes.Bytes.Word

/-!
The binary form of accumulators.

A whole-number or floating-point accumulator is nine bytes: the operation code, then the value
(two's complement or binary64 bits) as a little-endian word. A mean is sixteen: the sum's bits,
then the count. A tuple is its element count as a varint, then each element's form behind its
length as a varint. An envelope puts the kind name, behind its length, in front of the form, so
that a reader who does not know the kind can rebuild the accumulator (`decode`).

Reading a form into an accumulator (`unmarshal`) checks lengths, operation codes and counts. A
tuple reads its elements in order and keeps those read before a failure.
-/

namespace Lanes.Accumulator

open Lanes.Bytes

namespace Acc

mutual

/-- The binary form. -/
def marshal : Acc → List UInt8
  | .long l => l.op.code.toUInt8 :: le64 l.value.toUInt64
  | .double d => d.op.toOp.code.toUInt8 :: le64 d.value.bits
  | .mean m => le64 m.sum.bits ++ le64 m.count.toUInt64
  | .composed parts => Varint.encode parts.length ++ marshalList parts

/-- The elements of a tuple, each behind its length. -/
def marshalList : List Acc → List UInt8
  | [] => []
  | a :: rest => Varint.encode (marshal a).length ++ marshal a ++ marshalList rest

end

/-- The refusal of a tuple's form whose element count is wrong or unreadable. -/
def badCount (kind : String) : Fault :=
  Fault.make .integrity ("vbl: " ++ kind ++ ": bad element count")

/-- The refusal of a tuple's form that ends inside an element. -/
def truncatedElement (kind : String) : Fault :=
  Fault.make .integrity ("vbl: " ++ kind ++ ": truncated element")

/-- The refusal of a tuple's form with bytes after its last element. -/
def trailingBytes (kind : String) (n : Nat) : Fault :=
  Fault.make .integrity ("vbl: " ++ kind ++ ": " ++ toString n ++ " trailing bytes")

/-- Reads a whole-number accumulator's form; the operation code must be its own. -/
def unmarshalLong (l : Long) (p : List UInt8) : Except Fault Long :=
  match p with
  | [op, b0, b1, b2, b3, b4, b5, b6, b7] =>
    if op.toNat = l.op.code then .ok { l with value := (readLe64 [b0, b1, b2, b3, b4, b5, b6, b7]).toInt64 }
    else .error (mismatch "decode" l.kind ("long." ++ opName op.toNat))
  | _ => .error (corrupt l.kind p.length 9)

/-- Reads a floating-point accumulator's form; the operation code must be its own. -/
def unmarshalDouble (d : Double) (p : List UInt8) : Except Fault Double :=
  match p with
  | [op, b0, b1, b2, b3, b4, b5, b6, b7] =>
    if op.toNat = d.op.toOp.code then .ok { d with value := ⟨readLe64 [b0, b1, b2, b3, b4, b5, b6, b7]⟩ }
    else .error (mismatch "decode" d.kind ("double." ++ opName op.toNat))
  | _ => .error (corrupt d.kind p.length 9)

/-- Reads a mean's form. -/
def unmarshalMean (p : List UInt8) : Except Fault Mean :=
  if p.length = 16 then .ok ⟨⟨readLe64 p⟩, (readLe64 (p.drop 8)).toInt64⟩
  else .error (corrupt "double.mean" p.length 16)

mutual

/-- Reads a form into an accumulator of its kind. The result holds what was read, also when a
failure stopped the reading part way through a tuple. -/
def unmarshal : Acc → List UInt8 → Acc × Option Fault
  | .long l, p =>
    match unmarshalLong l p with
    | .ok l' => (.long l', none)
    | .error e => (.long l, some e)
  | .double d, p =>
    match unmarshalDouble d p with
    | .ok d' => (.double d', none)
    | .error e => (.double d, some e)
  | .mean m, p =>
    match unmarshalMean p with
    | .ok m' => (.mean m', none)
    | .error e => (.mean m, some e)
  | .composed parts, p =>
    let kind := (Acc.composed parts).kind
    match Varint.read p with
    | some (n, rest) =>
      if n = parts.length then
        match unmarshalList kind parts rest with
        | (parts', _, some e) => (.composed parts', some e)
        | (parts', [], none) => (.composed parts', none)
        | (parts', left, none) => (.composed parts', some (trailingBytes kind left.length))
      else (.composed parts, some (badCount kind))
    | none => (.composed parts, some (badCount kind))

/-- Reads the elements of a tuple of kind `kind` in order, each behind its length, and returns
the elements, the bytes after the last one read, and the failure that stopped the reading. -/
def unmarshalList (kind : String) : List Acc → List UInt8 → List Acc × List UInt8 × Option Fault
  | [], p => ([], p, none)
  | a :: rest, p =>
    match Varint.read p with
    | some (m, q) =>
      if q.length < m then (a :: rest, p, some (truncatedElement kind))
      else
        match unmarshal a (q.take m) with
        | (a', some e) => (a' :: rest, p, some e)
        | (a', none) =>
          match unmarshalList kind rest (q.drop m) with
          | (rest', left, e) => (a' :: rest', left, e)
    | none => (a :: rest, p, some (truncatedElement kind))

end

/-- The envelope: the kind name behind its length, then the form. -/
def encode (a : Acc) : List UInt8 :=
  Varint.encode a.kind.utf8ByteSize ++ a.kind.toUTF8.toList ++ a.marshal

end Acc

/-- The refusal of an envelope that ends inside its kind name. -/
def truncatedKind : Fault := Fault.make .integrity "vbl: truncated kind"

/-- Rebuilds an accumulator from its envelope. -/
def decode (p : List UInt8) : Except Fault Acc :=
  match Varint.read p with
  | some (n, rest) =>
    if rest.length < n then .error truncatedKind
    else do
      let a ← ofKind (rest.take n)
      match a.unmarshal (rest.drop n) with
      | (a', none) => .ok a'
      | (_, some e) => .error e
  | none => .error truncatedKind

end Lanes.Accumulator
