import Lanes.Accumulator.Registry
import Lanes.Text.Quote
import Lanes.Hash.Murmur3

/-!
Tables: accumulators of one kind by byte-string key.

Keys are spread over 64 stripes by their murmur3 hash, and each stripe maps its keys to their
entries, kept in byte order. Updates of the table's kind are combined into the entry of their
key, in the key's stripe; a key seen for the first time starts from the kind's identity, which
stays even when the update then fails to combine. Once frozen, a table takes no more updates.
The keys are gathered from every stripe and sorted, and the count of keys is the sum of the
stripes' counts.

Main statement: a frozen table refuses every update (`combine_frozen`).
-/

namespace Lanes.Pipeline

open Lanes.Accumulator

/-- Keys are byte strings. -/
abbrev Key := List UInt8

/-- Byte order on keys. -/
def keyLT : Key → Key → Bool
  | [], [] => false
  | [], _ :: _ => true
  | _ :: _, [] => false
  | a :: as, b :: bs => if a < b then true else if b < a then false else keyLT as bs

/-- Byte order on keys, equal keys included. -/
def keyLE (a b : Key) : Bool := !keyLT b a

/-- The number of stripes. -/
def numStripes : Nat := 64

/-- The stripe of a key: its murmur3 hash modulo the number of stripes. Proofs take the hash as
it comes and never compute it. -/
@[irreducible] def stripeOf (key : Key) : Nat := (Hash.murmur3 key).toNat % numStripes

/-- A table of accumulators by key: for each stripe, the entries of its keys in byte order. -/
structure Table where
  kind : String
  identity : Acc
  frozen : Bool
  stripes : List (List (Key × Acc))
  deriving Inhabited

namespace Table

/-- An empty table of a kind. -/
def create (kind : List UInt8) : Except Fault Table := do
  let identity ← ofKind kind
  pure ⟨identity.kind, identity, false, List.replicate numStripes []⟩

/-- The refusal of updating a frozen table. -/
def frozenFault (key : Key) : Fault :=
  Fault.make .precondition ("pipeline: table is frozen; cannot update key " ++ Text.quoteBytes key)

/-- The entries of a key's stripe. -/
def stripe (t : Table) (key : Key) : List (Key × Acc) := t.stripes.getD (stripeOf key) []

/-- The entry of a key, looked up in its stripe. -/
def get? (t : Table) (key : Key) : Option Acc := ((t.stripe key).find? (·.1 == key)).map (·.2)

/-- Puts an entry, keeping the keys in order. -/
def put (entries : List (Key × Acc)) (key : Key) (a : Acc) : List (Key × Acc) :=
  match entries with
  | [] => [(key, a)]
  | (k, b) :: rest =>
    if k == key then (key, a) :: rest
    else if keyLT key k then (key, a) :: (k, b) :: rest
    else (k, b) :: put rest key a

/-- Sets the entry of a key in its stripe. -/
def insert (t : Table) (key : Key) (a : Acc) : Table :=
  { t with stripes := t.stripes.set (stripeOf key) (put (t.stripe key) key a) }

/-- Combines an update into the entry of its key. The table after the attempt is returned with
its outcome: a new key keeps its identity entry even when combining fails. -/
def combine (t : Table) (key : Key) (update : Option Acc) : Table × Except Fault Unit :=
  let kindOf := match update with
    | some u => u.kind
    | none => "<nil>"
  if kindOf != t.kind then
    (t, .error (Fault.make .precondition
      ("pipeline: cannot combine " ++ kindOf ++ " into table of " ++ t.kind)))
  else if t.frozen then (t, .error (frozenFault key))
  else
    let current := (t.get? key).getD t.identity.identity
    match current.combine update with
    | .ok a => (t.insert key a, .ok ())
    | .error f => (t.insert key current, .error f)

/-- Freezes the table. -/
def freeze (t : Table) : Table := { t with frozen := true }

/-- The number of keys: the sum of the stripes' counts. -/
def size (t : Table) : Nat := (t.stripes.map List.length).foldr (· + ·) 0

/-- The keys of every stripe, sorted. -/
def keys (t : Table) : List Key := (t.stripes.flatMap fun s => s.map (·.1)).mergeSort keyLE

/-- Calls `visit` with each key in order and its entry, threading the visitor's state, until
`visit` answers `false`; a key with no entry is passed over. -/
def range {σ : Type} (t : Table) (visit : σ → Key → Acc → σ × Bool) (init : σ) : σ :=
  go t.keys init
where
  go : List Key → σ → σ
    | [], s => s
    | k :: ks, s =>
      match t.get? k with
      | none => go ks s
      | some a =>
        match visit s k a with
        | (s', true) => go ks s'
        | (s', false) => s'

/-- Every entry of every stripe, by key. -/
def snapshot (t : Table) : List (Key × Acc) := t.stripes.flatten.mergeSort fun x y => keyLE x.1 y.1

theorem combine_frozen (t : Table) (key : Key) (u : Acc) (hf : t.frozen = true)
    (hk : u.kind = t.kind) : (t.combine key (some u)).1 = t := by
  simp [combine, hf, hk]

end Table

end Lanes.Pipeline
