import Lanes.Pipeline.Table
import Lanes.Pipeline.Source
import Lanes.Text.Space
import Lanes.Numeral.Floating
import Lanes.Numeral.Integer

/-!
Transforms: what replicas do with each record.

A transform maps a record to keyed updates, emitted in order; it may fail part way through.
Three are known by name, each made from its arguments:

- `wordcount` (no arguments): a `long.sum` of one for each word of the content, words being the
  runs of characters that are not white space;
- `constant key value`: a `long.sum` of the whole number `value` under `key` for every record;
- `fieldmean key sep index`: the content split at `sep` (or into characters when `sep` is
  empty); the field at `index`, without surrounding white space, read as a binary64 value and
  added to a mean under `key`. A record with too few fields gives nothing; a field that is no
  number, or is out of range, fails the record.
-/

namespace Lanes.Pipeline

open Lanes.Accumulator Lanes.Text

/-- A transform. -/
inductive Transform where
  | wordCount
  | constant (key : Key) (value : Int64)
  | fieldMean (key : Key) (sep : List UInt8) (index : Nat)
  deriving Inhabited

/-- The names of the known transforms, in byte order. -/
def transformNames : List String := ["constant", "fieldmean", "wordcount"]

/-- Refuses a transform its name. -/
def lookupTransform (name : String) : Except Fault String :=
  if transformNames.contains name then .ok name
  else .error (Fault.make .invalid ("pipeline: unknown transform " ++ quote name))

/-- The text of registering a transform under a known name. -/
def transformTwice (name : String) : String :=
  "pipeline.RegisterTransform: transform " ++ name ++ " already registered"

/-- The text of registering no transform. -/
def transformMissing (name : String) : String :=
  "pipeline.RegisterTransform: nil factory for " ++ name

/-- Checks the number of arguments. -/
def expectArgs (name : String) (args : List String) (n : Nat) : Except Fault Unit :=
  if args.length = n then .ok ()
  else .error (Fault.make .invalid ("pipeline: " ++ name ++ ": expected " ++ toString n ++
    " arguments, got " ++ toString args.length))

/-- The bytes of a text. -/
def bytesOf (s : String) : List UInt8 := s.toUTF8.toList

/-- Makes a known transform from its arguments. -/
def Transform.make (name : String) (args : List String) : Except Fault Transform := do
  match name with
  | "wordcount" =>
    expectArgs "wordcount" args 0
    pure .wordCount
  | "constant" =>
    expectArgs "constant" args 2
    let raw := bytesOf (args.getD 1 "")
    match Numeral.readInt64 raw with
    | .ok v => pure (.constant (bytesOf (args.getD 0 "")) v)
    | .error r => .error (Fault.wrap .invalid .unknown "pipeline: constant: bad value" (Numeral.intFault raw r))
  | "fieldmean" =>
    expectArgs "fieldmean" args 3
    let idx := args.getD 2 ""
    match Numeral.readInt64 (bytesOf idx) with
    | .ok i =>
      if i.toInt < 0 then .error (Fault.make .invalid ("pipeline: fieldmean: bad field index " ++ quote idx))
      else pure (.fieldMean (bytesOf (args.getD 0 "")) (bytesOf (args.getD 1 "")) i.toInt.toNat)
    | .error _ => .error (Fault.make .invalid ("pipeline: fieldmean: bad field index " ++ quote idx))
  | other => .error (Fault.make .invalid ("pipeline: unknown transform " ++ quote other))

/-- Whether a decoded piece is white space. -/
def pieceIsSpace : Utf8.Step → Bool
  | .char c _ => isSpace c.toNat
  | .invalid _ => false

/-- The words of a byte string: the runs of pieces that are not white space. -/
def words (bs : List UInt8) : List (List UInt8) :=
  -- the word being read is kept reversed
  let (done, cur) := (Utf8.pieces bs).foldl (fun (acc : List (List UInt8) × List UInt8) (s, b) =>
    if pieceIsSpace s then
      (if acc.2.isEmpty then acc.1 else acc.2.reverse :: acc.1, [])
    else (acc.1, b.reverse ++ acc.2)) ([], [])
  (if cur.isEmpty then done else cur.reverse :: done).reverse

/-- The pieces of a byte string split at every occurrence of a non-empty separator. -/
def splitAt (sep : List UInt8) (bs : List UInt8) : List (List UInt8) :=
  let rec go (fuel : Nat) (cur : List UInt8) (rest : List UInt8) : List (List UInt8) :=
    match fuel with
    | 0 => [cur.reverse ++ rest]
    | fuel + 1 =>
      match rest with
      | [] => [cur.reverse]
      | b :: bs' =>
        if sep.isPrefixOf rest then cur.reverse :: go fuel [] (rest.drop sep.length)
        else go fuel (b :: cur) bs'
  go (bs.length + 1) [] bs

/-- The fields of a byte string: split at `sep`, or into its characters when `sep` is empty. -/
def fieldsOf (sep bs : List UInt8) : List (List UInt8) :=
  if sep.isEmpty then (Utf8.pieces bs).map (·.2) else splitAt sep bs

/-- A byte string without white space at either end. -/
def trimSpace (bs : List UInt8) : List UInt8 :=
  let ps := (Utf8.pieces bs).dropWhile (fun p => pieceIsSpace p.1)
  let ps := (ps.reverse.dropWhile (fun p => pieceIsSpace p.1)).reverse
  (ps.map (·.2)).flatten

/-- A whole-number sum of a value. -/
def sumOf (v : Int64) : Acc := .long ⟨.sum, v⟩

/-- The updates a transform emits for a record, and the failure that stopped it, if any. -/
def Transform.map (t : Transform) (rec : Record) : List (Key × Acc) × Option Fault :=
  match t with
  | .wordCount => ((words rec.content.toList).map (·, sumOf 1), none)
  | .constant key v => ([(key, sumOf v)], none)
  | .fieldMean key sep index =>
    let fields := fieldsOf sep rec.content.toList
    match fields[index]? with
    | none => ([], none)
    | some field =>
      let text := trimSpace field
      let failed (r : Numeral.Refusal) : List (Key × Acc) × Option Fault :=
        ([], some (Fault.wrap .invalid .unknown ("pipeline: fieldmean: record " ++ rec.id)
          (Numeral.floatFault text r)))
      match Numeral.readFloat text with
      | some (x, false) => ([(key, .mean (Mean.empty.accumulate x))], none)
      | some (_, true) => failed .range
      | none => failed .malformed

end Lanes.Pipeline
