/-!
IEEE 754 binary64 values held as their bit patterns, with the arithmetic the library needs
computed exactly: a result is the value nearest to the exact rational result, ties to the even
neighbour, as the standard asks for rounding to nearest.

* `Binary64.ofRatio` rounds a non-negative rational to the nearest value.
* `add` and `div` are the standard's operations; a NaN operand comes back quieted (the first
  NaN operand wins), and an invalid operation gives the default NaN with its sign bit set.
* `min` and `max` follow the rule that an infinity in the direction asked for wins, then any
  NaN gives `Binary64.nan`, then two zeros give the negative one for `min` and the positive
  one for `max`.

Main statement: rounding a quotient moves it by at most one unit, up only when the remainder
is at least half the divisor (`roundHalfEven_cases`).
-/

namespace Lanes

/-- An IEEE 754 binary64 value, held as its bit pattern. -/
structure Binary64 where
  bits : UInt64
deriving DecidableEq, Inhabited, Repr

namespace Binary64

/-- The biased exponent field. -/
def expField (x : Binary64) : Nat := ((x.bits >>> 52) &&& 0x7FF).toNat

/-- The fraction field. -/
def fracField (x : Binary64) : Nat := (x.bits &&& 0xFFFFFFFFFFFFF).toNat

/-- Whether the sign bit is set. -/
def negative (x : Binary64) : Bool := x.bits >>> 63 == 1

/-- Whether the value is a NaN. -/
def isNaN (x : Binary64) : Bool := x.expField == 2047 && x.fracField != 0

/-- Whether the value is an infinity. -/
def isInf (x : Binary64) : Bool := x.expField == 2047 && x.fracField == 0

/-- Whether the value is a zero of either sign. -/
def isZero (x : Binary64) : Bool := x.expField == 0 && x.fracField == 0

/-- The positive infinity. -/
def posInf : Binary64 := ⟨0x7FF0000000000000⟩

/-- The negative infinity. -/
def negInf : Binary64 := ⟨0xFFF0000000000000⟩

/-- The positive zero. -/
def zero : Binary64 := ⟨0⟩

/-- The NaN that the library gives for an undefined value: quiet, with the lowest fraction bit
set. -/
def nan : Binary64 := ⟨0x7FF8000000000001⟩

/-- The NaN an invalid operation produces: quiet, sign bit set, no payload. -/
def invalidNaN : Binary64 := ⟨0xFFF8000000000000⟩

/-- The same NaN made quiet. -/
def quiet (x : Binary64) : Binary64 := ⟨x.bits ||| 0x0008000000000000⟩

/-- The value with its sign bit flipped. -/
def negate (x : Binary64) : Binary64 := ⟨x.bits ^^^ 0x8000000000000000⟩

/-- The value with the sign bit as given. -/
def withSign (neg : Bool) (x : Binary64) : Binary64 :=
  if neg then ⟨x.bits ||| 0x8000000000000000⟩ else ⟨x.bits &&& 0x7FFFFFFFFFFFFFFF⟩

/-- A finite value's magnitude as `m * 2 ^ q`. -/
def scaled (x : Binary64) : Nat × Int :=
  if x.expField == 0 then (x.fracField, -1074)
  else (Nat.pow 2 52 + x.fracField, (x.expField : Int) - 1075)

/-! ### Rounding a ratio -/

/-- `num / (den * 2 ^ e)` as a quotient, remainder and divisor. -/
def divScaled (num den : Nat) (e : Int) : Nat × Nat × Nat :=
  let n := num * Nat.pow 2 (-e).toNat
  let d := den * Nat.pow 2 e.toNat
  (n / d, n % d, d)

/-- The quotient rounded to nearest, ties to even, from its floor, remainder and divisor. -/
def roundHalfEven (q r d : Nat) : Nat :=
  if 2 * r > d then q + 1 else if 2 * r < d then q else if q % 2 == 1 then q + 1 else q

/-- The bit pattern of a rounded value `q * 2 ^ e`, where `q < 2 ^ 53` and `-1074 ≤ e`, or
the infinity when the exponent is out of range. -/
def pack (q : Nat) (e : Int) : UInt64 :=
  if q < Nat.pow 2 52 then q.toUInt64
  else
    let biased := e + 1075
    if biased ≥ 2047 then 0x7FF0000000000000
    else ((biased.toNat <<< 52) ||| (q - Nat.pow 2 52)).toUInt64

/-- The bits of the non-negative value nearest to `num / den`, ties to even; zero when `num` is
zero, and the infinity when the value is too large. -/
def ratioBits (num den : Nat) : UInt64 :=
  if num = 0 ∨ den = 0 then 0
  else
    let l : Int := (num.log2 : Int) - (den.log2 : Int)
    let e0 : Int := max (l - 53) (-1074)
    let (q0, _, _) := divScaled num den e0
    let e := if q0 ≥ Nat.pow 2 53 then e0 + 1 else e0
    let (q, r, d) := divScaled num den e
    let q' := roundHalfEven q r d
    if q' ≥ Nat.pow 2 53 then pack (q' / 2) (e + 1) else pack q' e

/-- The value nearest to `± num / den`, ties to even. -/
def ofRatio (neg : Bool) (num den : Nat) : Binary64 :=
  withSign neg ⟨ratioBits num den⟩

/-- The value nearest to an integer. -/
def ofInt (i : Int) : Binary64 := ofRatio (i < 0) i.natAbs 1

theorem ratioBits_zero (den : Nat) : ratioBits 0 den = 0 := by
  simp [ratioBits]

/-- Rounding keeps the floor when the remainder is under half the divisor, and takes the next
value when it is over half; at exactly half it takes the even one of the two. -/
theorem roundHalfEven_cases (q r d : Nat) :
    (2 * r < d → roundHalfEven q r d = q) ∧ (d < 2 * r → roundHalfEven q r d = q + 1) ∧
      (2 * r = d → roundHalfEven q r d % 2 = 0) := by
  refine ⟨fun h => ?_, fun h => ?_, fun h => ?_⟩
  · simp [roundHalfEven, show ¬ (2 * r > d) by omega, h]
  · simp [roundHalfEven, show 2 * r > d by omega]
  · simp only [roundHalfEven, show ¬ (2 * r > d) by omega, show ¬ (2 * r < d) by omega,
      if_false]
    split <;> simp_all
    omega

/-- The exact sum of two finite values as a sign and a ratio of naturals. -/
def exactSum (x y : Binary64) : Bool × Nat × Nat :=
  let (mx, qx) := x.scaled
  let (my, qy) := y.scaled
  let lo := min qx qy
  let sx : Int := (if x.negative then -1 else 1) * (mx * Nat.pow 2 (qx - lo).toNat : Nat)
  let sy : Int := (if y.negative then -1 else 1) * (my * Nat.pow 2 (qy - lo).toNat : Nat)
  let s := sx + sy
  (s < 0, s.natAbs * Nat.pow 2 lo.toNat, Nat.pow 2 (-lo).toNat)

/-- The sum, rounded to nearest. -/
def add (x y : Binary64) : Binary64 :=
  if x.isNaN then x.quiet
  else if y.isNaN then y.quiet
  else if x.isInf && y.isInf then (if x.negative == y.negative then x else invalidNaN)
  else if x.isInf then x
  else if y.isInf then y
  else if x.isZero && y.isZero then withSign (x.negative && y.negative) zero
  else
    let (neg, num, den) := exactSum x y
    if num = 0 then zero else ofRatio neg num den

/-- The quotient, rounded to nearest. -/
def div (x y : Binary64) : Binary64 :=
  let neg := x.negative != y.negative
  if x.isNaN then x.quiet
  else if y.isNaN then y.quiet
  else if x.isInf && y.isInf then invalidNaN
  else if x.isInf then withSign neg posInf
  else if y.isInf then withSign neg zero
  else if x.isZero && y.isZero then invalidNaN
  else if y.isZero then withSign neg posInf
  else if x.isZero then withSign neg zero
  else
    let (mx, qx) := x.scaled
    let (my, qy) := y.scaled
    -- x / y = (mx * 2 ^ qx) / (my * 2 ^ qy)
    let e := qx - qy
    ofRatio neg (mx * Nat.pow 2 e.toNat) (my * Nat.pow 2 (-e).toNat)

/-- The product, rounded to nearest. -/
def mul (x y : Binary64) : Binary64 :=
  let neg := x.negative != y.negative
  if x.isNaN then x.quiet
  else if y.isNaN then y.quiet
  else if (x.isInf && y.isZero) || (x.isZero && y.isInf) then invalidNaN
  else if x.isInf || y.isInf then withSign neg posInf
  else if x.isZero || y.isZero then withSign neg zero
  else
    let (mx, qx) := x.scaled
    let (my, qy) := y.scaled
    let e := qx + qy
    ofRatio neg (mx * my * Nat.pow 2 e.toNat) (Nat.pow 2 (-e).toNat)

/-! ### Order, minimum and maximum -/

/-- Strict order of two values that are not NaN; the two zeros are equal. -/
def lt (x y : Binary64) : Bool :=
  let mx := x.bits &&& 0x7FFFFFFFFFFFFFFF
  let my := y.bits &&& 0x7FFFFFFFFFFFFFFF
  if mx == 0 && my == 0 then false
  else match x.negative, y.negative with
    | false, false => mx < my
    | true, true => my < mx
    | true, false => true
    | false, true => false

/-- The smaller value: the negative infinity if either is one, else `nan` if either is a NaN,
else of two zeros the negative one, else the lesser. -/
def min (x y : Binary64) : Binary64 :=
  if x == negInf || y == negInf then negInf
  else if x.isNaN || y.isNaN then nan
  else if x.isZero && y.isZero then ⟨x.bits ||| y.bits⟩
  else if lt x y then x else y

/-- The larger value: the positive infinity if either is one, else `nan` if either is a NaN,
else of two zeros the positive one, else the greater. -/
def max (x y : Binary64) : Binary64 :=
  if x == posInf || y == posInf then posInf
  else if x.isNaN || y.isNaN then nan
  else if x.isZero && y.isZero then ⟨x.bits &&& y.bits⟩
  else if lt y x then x else y

end Binary64

end Lanes
