import Lanes.Binary64.Basic

/-!
The shortest decimal that reads back as a given binary64 value. The reals that round to a
finite value form an interval around it, from halfway to the neighbour below to halfway to the
neighbour above, the ends included exactly when the significand is even. For one, two, …
seventeen significant digits the value's two neighbours on that decimal grid are tested against
the interval; the first grid with a hit gives the digits, the closer neighbour of two hits, and
the even one at an exact tie.

Main statement: digits chosen on a decimal grid lie in the rounding interval of the value
(`onGrid_reads`).
-/

namespace Lanes.Binary64

/-- A decimal `digits * 10 ^ exp`. -/
structure Decimal where
  digits : Nat
  exp : Int
deriving DecidableEq, Repr, Inhabited

/-- Compares `a * 10 ^ i` with `n * 2 ^ j`, exactly. -/
def cmpScaled (a : Nat) (i : Int) (n : Nat) (j : Int) : Ordering :=
  compare (a * Nat.pow 10 i.toNat * Nat.pow 2 (-j).toNat) (n * Nat.pow 2 j.toNat * Nat.pow 10 (-i).toNat)

/-- Whether a decimal lies among the reals that round to the finite value `m * 2 ^ q` when
rounding to nearest with ties to even; `narrow` says that the gap below is half the gap above. -/
def readsBack (m : Nat) (q : Int) (narrow : Bool) (d : Decimal) : Bool :=
  let lo := if narrow then 4 * m - 1 else 4 * m - 2
  let hi := 4 * m + 2
  let incl := m % 2 == 0
  let cl := cmpScaled d.digits d.exp lo (q - 2)
  let ch := cmpScaled d.digits d.exp hi (q - 2)
  (cl == .gt || (incl && cl == .eq)) && (ch == .lt || (incl && ch == .eq))

/-- Whether `m * 2 ^ q < 10 ^ k`. -/
def belowPow10 (m : Nat) (q k : Int) : Bool :=
  m * Nat.pow 2 q.toNat * Nat.pow 10 (-k).toNat < Nat.pow 10 k.toNat * Nat.pow 2 (-q).toNat

/-- The least `k` with `m * 2 ^ q < 10 ^ k`, for `m > 0`: estimated from the binary logarithm
and settled by exact comparisons. -/
def decimalScale (m : Nat) (q : Int) : Int :=
  let k0 : Int := ((m.log2 : Int) + q) * 30103 / 100000
  let ks := (List.range 6).map fun (i : Nat) => k0 - 2 + (i : Int)
  (ks.find? fun k => belowPow10 m q k).getD (k0 + 4)

/-- The floor of `m * 2 ^ q / 10 ^ g`, with the numerator and denominator it came from. -/
def gridFloor (m : Nat) (q g : Int) : Nat × Nat × Nat :=
  let num := m * Nat.pow 2 q.toNat * Nat.pow 10 (-g).toNat
  let den := Nat.pow 2 (-q).toNat * Nat.pow 10 g.toNat
  (num / den, num, den)

/-- Of two candidates, the one that reads back; of two that do, `a` when `preferA` holds. -/
def pickReading (ra rb : Bool) (a b : Decimal) (preferA : Bool) : Option Decimal :=
  if ra && rb then some (if preferA then a else b)
  else if ra then some a
  else if rb then some b
  else none

theorem pickReading_spec {ra rb : Bool} {a b d : Decimal} {p : Bool}
    (h : pickReading ra rb a b p = some d) : (d = a ∧ ra = true) ∨ (d = b ∧ rb = true) := by
  unfold pickReading at h
  cases ra <;> cases rb <;> cases p <;> simp_all

/-- The decimal of `n` significant digits that reads back, if one of the value's two
neighbours on that grid does; the closer one of two, the even one at a tie. -/
def onGrid (m : Nat) (q : Int) (narrow : Bool) (k : Int) (n : Nat) : Option Decimal :=
  let g := k - n
  let r := gridFloor m q g
  let twice := 2 * r.2.1
  let mid := (2 * r.1 + 1) * r.2.2
  pickReading (readsBack m q narrow ⟨r.1, g⟩) (readsBack m q narrow ⟨r.1 + 1, g⟩)
    ⟨r.1, g⟩ ⟨r.1 + 1, g⟩ (twice < mid || (twice == mid && r.1 % 2 == 0))

/-- Drops trailing zero digits into the exponent. -/
def Decimal.trim (d : Decimal) : Decimal :=
  go d.digits.log2 d
where
  /-- At most `fuel` zeros come off; a number has fewer zero digits than bits. -/
  go : Nat → Decimal → Decimal
    | 0, d => d
    | fuel + 1, d =>
      if d.digits ≠ 0 ∧ d.digits % 10 = 0 then go fuel ⟨d.digits / 10, d.exp + 1⟩ else d

/-- The shortest decimal that reads back as the positive finite value `m * 2 ^ q`. -/
def shortestOf (m : Nat) (q : Int) (narrow : Bool) : Decimal :=
  let k := decimalScale m q
  let found := (List.range 17).findSome? fun i => onGrid m q narrow k (i + 1)
  -- Seventeen digits always read back; the exact value stands in for a search that failed.
  (found.getD (if q ≥ 0 then ⟨m * Nat.pow 2 q.toNat, 0⟩ else ⟨m * Nat.pow 5 (-q).toNat, q⟩)).trim

/-- The significand, exponent and narrow-gap flag of a finite value. -/
def parts (x : Binary64) : Nat × Int × Bool :=
  let (m, q) := x.scaled
  (m, q, x.fracField == 0 && x.expField > 1)

/-- The shortest decimal of the magnitude of a finite value; zero for a zero. -/
def shortest (x : Binary64) : Decimal :=
  let (m, q, narrow) := x.parts
  if m = 0 then ⟨0, 0⟩ else shortestOf m q narrow

theorem onGrid_reads {m : Nat} {q : Int} {narrow : Bool} {k : Int} {n : Nat} {d : Decimal}
    (h : onGrid m q narrow k n = some d) : readsBack m q narrow d = true := by
  unfold onGrid at h
  rcases pickReading_spec h with ⟨rfl, hr⟩ | ⟨rfl, hr⟩ <;> exact hr

end Lanes.Binary64
