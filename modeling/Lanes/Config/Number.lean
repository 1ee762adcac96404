/-!
Numbers of the configuration language: binary floating-point values that carry their precision
in bits and a sign even when zero, or a signed infinity.

A number read from text has 512 bits; a count given to the language has 64. The result of an
operation has the larger precision of its operands and is rounded to nearest, ties to even.
Exponents stay within the 32-bit range: a result too large for it is an infinity and one too
small is zero. A sum that cancels exactly is positive zero; otherwise the sign of a zero follows
the signs of the operands.

Text is read as its digits times a power of ten, split into a power of two, which is exact, and
a power of five. A power of five beyond the 27th is built by squaring with 64 bits more than
the result (128 bits more for the squares), and the digits are then multiplied or divided by it
with one last rounding.

A number is written out with the fewest decimal digits that still tell it apart from every
other number of its precision: the digits are walked against those of the halfway points to its
two neighbours until they differ, then rounded down, up or to nearest, and the result is written
without an exponent.

Two numbers are equal when they are written the same, negative zero counting as zero.

Main statement: a count in range reads back as itself (`ofInt_toInt64`).
-/

namespace Lanes.Config

/-- A number: `(-1) ^ neg * mant * 2 ^ exp` with its precision in bits, zero when `mant = 0`, or
an infinity, which keeps a precision too. -/
inductive Number where
  | finite (neg : Bool) (mant : Nat) (exp : Int) (prec : Nat)
  | inf (neg : Bool) (prec : Nat)
deriving Inhabited

namespace Number

/-! ### Rounding -/

/-- The largest exponent `e` of a finite number, whose magnitude is below `2 ^ e`. -/
def maxExp : Int := 2147483647

/-- The smallest exponent of a finite number other than zero. -/
def minExp : Int := -2147483648

/-- The number of binary digits of `m`. -/
def bitLen (m : Nat) : Nat := if m = 0 then 0 else m.log2 + 1

/-- Whether `2 ^ l ≤ n / d`. -/
def pow2Le (l : Int) (n d : Nat) : Bool :=
  if l ≥ 0 then d * Nat.pow 2 l.toNat ≤ n else d ≤ n * Nat.pow 2 (-l).toNat

/-- The floor of the binary logarithm of `n / d`, for positive `n` and `d`. -/
def log2Floor (n d : Nat) : Int :=
  let l : Int := (n.log2 : Int) - (d.log2 : Int)
  if pow2Le l n d then l else l - 1

/-- The quotient rounded to nearest, ties to even, from its floor, remainder and divisor. -/
def roundHalfEven (q r d : Nat) : Nat :=
  if 2 * r > d then q + 1 else if 2 * r < d then q else if q % 2 == 1 then q + 1 else q

/-- The signed value `n / d * 2 ^ e` rounded to `prec` bits: zero when `n = 0` or when the
exponent falls below the range, an infinity when it rises above it. -/
def roundQuot (prec : Nat) (neg : Bool) (n d : Nat) (e : Int) : Number :=
  if n = 0 then .finite neg 0 0 prec
  else
    let l := log2Floor n d
    if l + 1 + e < minExp then .finite neg 0 0 prec
    else
      let s : Int := (prec : Int) - 1 - l
      let num := if s ≥ 0 then n * Nat.pow 2 s.toNat else n
      let den := if s ≥ 0 then d else d * Nat.pow 2 (-s).toNat
      let q := roundHalfEven (num / den) (num % den) den
      let (q, s) := if q = Nat.pow 2 prec then (q / 2, s - 1) else (q, s)
      if (prec : Int) + e - s > maxExp then .inf neg prec
      else .finite neg q (e - s) prec

/-- A count, with 64 bits. -/
def ofInt (i : Int) : Number := .finite (i < 0) i.natAbs 0 64

/-- The precision of a number. -/
def precision : Number → Nat
  | .finite _ _ _ p => p
  | .inf _ p => p

/-- The number at precision `p`, rounded when `p` is below its own. -/
def setAt (p : Nat) : Number → Number
  | .finite neg m e _ => if m = 0 then .finite neg 0 0 p else roundQuot p neg m 1 e
  | .inf neg _ => .inf neg p

/-- Whether a number is zero, of either sign. -/
def isZero : Number → Bool
  | .finite _ m _ _ => m == 0
  | .inf .. => false

/-- Whether a number carries the minus sign; negative zero does. -/
def isNeg : Number → Bool
  | .finite neg .. => neg
  | .inf neg _ => neg

/-! ### Arithmetic -/

/-- The negation: the sign flips, also on zero and the infinities. -/
def neg : Number → Number
  | .finite n m e p => .finite (!n) m e p
  | .inf n p => .inf (!n) p

/-- The sum at precision `p`, with `what` as the failure for infinities of opposite signs. -/
def addAt (p : Nat) (what : String) (a b : Number) : Except String Number :=
  match a, b with
  | .finite n₁ m₁ e₁ _, .finite n₂ m₂ e₂ _ =>
    if m₁ = 0 && m₂ = 0 then .ok (.finite (n₁ && n₂) 0 0 p)
    else if m₂ = 0 then .ok (a.setAt p)
    else if m₁ = 0 then .ok (b.setAt p)
    else
      let e := min e₁ e₂
      let x : Int := (m₁ * Nat.pow 2 (e₁ - e).toNat : Nat)
      let y : Int := (m₂ * Nat.pow 2 (e₂ - e).toNat : Nat)
      let sum := (if n₁ then -x else x) + (if n₂ then -y else y)
      if sum = 0 then .ok (.finite false 0 0 p)
      else .ok (roundQuot p (sum < 0) sum.natAbs 1 e)
  | .inf n₁ _, .inf n₂ _ => if n₁ == n₂ then .ok (a.setAt p) else .error what
  | .inf .., .finite .. => .ok (a.setAt p)
  | .finite .., .inf .. => .ok (b.setAt p)

/-- The sum. -/
def add (a b : Number) : Except String Number :=
  addAt (max a.precision b.precision) "can't compute sum of opposing infinities" a b

/-- The difference: the sum with the negation. -/
def sub (a b : Number) : Except String Number :=
  addAt (max a.precision b.precision) "can't subtract infinity from itself" a b.neg

/-- The product at precision `p`; zero times an infinity has no value. -/
def mulAt (p : Nat) (a b : Number) : Except String Number :=
  let neg := a.isNeg != b.isNeg
  match a, b with
  | .finite _ m₁ e₁ _, .finite _ m₂ e₂ _ =>
    if m₁ = 0 || m₂ = 0 then .ok (.finite neg 0 0 p)
    else .ok (roundQuot p neg (m₁ * m₂) 1 (e₁ + e₂))
  | _, _ =>
    if a.isZero || b.isZero then .error "can't multiply zero by infinity"
    else .ok (.inf neg p)

/-- The product. -/
def mul (a b : Number) : Except String Number := mulAt (max a.precision b.precision) a b

/-- The quotient at precision `p`; a finite number over zero is an infinity, and zero over zero
or an infinity over an infinity has no value. -/
def divAt (p : Nat) (a b : Number) : Except String Number :=
  let neg := a.isNeg != b.isNeg
  let none := "can't divide zero by zero or infinity by infinity"
  match a, b with
  | .finite _ m₁ e₁ _, .finite _ m₂ e₂ _ =>
    if m₁ = 0 && m₂ = 0 then .error none
    else if m₁ = 0 then .ok (.finite neg 0 0 p)
    else if m₂ = 0 then .ok (.inf neg p)
    else .ok (roundQuot p neg m₁ m₂ (e₁ - e₂))
  | .inf .., .inf .. => .error none
  | .finite .., .inf .. => .ok (.finite neg 0 0 p)
  | .inf .., .finite .. => .ok (.inf neg p)

/-- The quotient. -/
def div (a b : Number) : Except String Number := divAt (max a.precision b.precision) a b

/-- The whole part, cut toward zero, of a finite number. -/
def truncate (neg : Bool) (m : Nat) (e : Int) : Int :=
  let w := if e ≥ 0 then m * Nat.pow 2 e.toNat else m / Nat.pow 2 (-e).toNat
  if neg then -(w : Int) else w

/-- The remainder `a - b * t`, where `t` is the quotient `a / b` cut toward zero, and `t`, the
product and the difference are each rounded to the precision of `a`. A remainder by zero is `a`
itself, and an infinite divisor meets a zero product. An infinite quotient has no whole part,
and taking one fails outright. -/
def modulo (a b : Number) : Except String Number :=
  let none := "can't use modulo with zero and infinity"
  if b.isZero then .ok a
  else
    match div a b with
    | .error _ => .error none
    | .ok (.inf ..) => .error
      "panic in function implementation: runtime error: invalid memory address or nil pointer dereference"
    | .ok (.finite qn qm qe _) =>
      let t := truncate qn qm qe
      let p := a.precision
      let w := roundQuot p (t < 0) t.natAbs 1 0
      match mulAt p b w with
      | .error _ => .error none
      | .ok bw => addAt p none a bw.neg

/-- The magnitudes compared, for finite numbers other than zero. -/
def cmpMag (m₁ : Nat) (e₁ : Int) (m₂ : Nat) (e₂ : Int) : Ordering :=
  let l₁ := (bitLen m₁ : Int) + e₁
  let l₂ := (bitLen m₂ : Int) + e₂
  if l₁ < l₂ then .lt
  else if l₂ < l₁ then .gt
  else
    let e := min e₁ e₂
    compare (m₁ * Nat.pow 2 (e₁ - e).toNat) (m₂ * Nat.pow 2 (e₂ - e).toNat)

/-- Where a number stands among the five classes: negative infinity, below zero, zero, above
zero and positive infinity. -/
def rank : Number → Int
  | .inf neg _ => if neg then -2 else 2
  | .finite neg m _ _ => if m = 0 then 0 else if neg then -1 else 1

/-- The order of numbers; the two zeros are equal. -/
def cmp (a b : Number) : Ordering :=
  if a.rank < b.rank then .lt
  else if b.rank < a.rank then .gt
  else
    match a, b with
    | .finite n m₁ e₁ _, .finite _ m₂ e₂ _ =>
      if m₁ = 0 then .eq else if n then cmpMag m₂ e₂ m₁ e₁ else cmpMag m₁ e₁ m₂ e₂
    | _, _ => .eq

/-- Strict order of numbers. -/
def lt (a b : Number) : Bool := a.cmp b == .lt

/-! ### Reading -/

/-- The value of decimal digits. -/
def digitsValue (ds : List Char) : Nat :=
  ds.foldl (fun acc c => acc * 10 + (c.toNat - 48)) 0

/-- Splits off the leading decimal digits. -/
def spanDigits (cs : List Char) : List Char × List Char :=
  (cs.takeWhile fun c => '0' ≤ c && c ≤ '9', cs.dropWhile fun c => '0' ≤ c && c ≤ '9')

/-- An exponent: whether it is of two (rather than ten) and its value, `(false, 0)` when there
is none, or `none` when it has no digits or does not fit in 64 bits. -/
def readExponent : List Char → Option (Bool × Int)
  | [] => some (false, 0)
  | c :: rest =>
    let base := if c == 'e' || c == 'E' then some false
      else if c == 'p' || c == 'P' then some true else none
    match base with
    | none => none
    | some two =>
      let (neg, r) := match rest with
        | '-' :: r => (true, r)
        | '+' :: r => (false, r)
        | r => (false, r)
      let (ds, after) := spanDigits r
      let v : Int := digitsValue ds
      let v := if neg then -v else v
      if ds.isEmpty || !after.isEmpty then none
      else if v < -9223372036854775808 || v > 9223372036854775807 then none
      else some (two, v)

/-- `5 ^ n` at 576 bits: exact up to the 27th power, and beyond it built from the 27th by
multiplying in squares of five kept at 640 bits. -/
def pow5 (n : Nat) : Number :=
  if n ≤ 27 then .finite false (Nat.pow 5 n) 0 576
  else
    let rec go : Nat → Nat → Number → Number → Number
      | 0, _, z, _ => z
      | fuel + 1, k, z, f =>
        if k = 0 then z
        else
          let z := if k % 2 = 1 then (mulAt 576 z f).toOption.getD z else z
          go fuel (k / 2) z ((mulAt 640 f f).toOption.getD f)
    go 70 (n - 27) (.finite false (Nat.pow 5 27) 0 576) (.finite false 5 0 640)

/-- A number read from decimal text with 512 bits: an optional sign, then `Inf` or `inf`, or
digits with at most one point and an optional exponent `e` (of ten) or `p` (of two). Text whose
binary exponent leaves the 32-bit range is refused. -/
def parse (s : String) : Option Number :=
  let cs := s.toList
  let (neg, body) := match cs with
    | '-' :: r => (true, r)
    | '+' :: r => (false, r)
    | r => (false, r)
  if body == ['I', 'n', 'f'] || body == ['i', 'n', 'f'] then some (.inf neg 512)
  else
    let (whole, r1) := spanDigits body
    let (frac, r2) := match r1 with
      | '.' :: r => spanDigits r
      | r => ([], r)
    if whole.isEmpty && frac.isEmpty then none
    else
      match readExponent r2 with
      | none => none
      | some (two, x) =>
        let mant := digitsValue (whole ++ frac)
        if mant = 0 then some (.finite neg 0 0 512)
        else
          let e5 : Int := -(frac.length : Int) + (if two then 0 else x)
          let e2 : Int := -(frac.length : Int) + x
          let top := (bitLen mant : Int) + e2
          if top < minExp || top > maxExp then none
          else if e5 = 0 then some (roundQuot 512 neg mant 1 e2)
          else
            let z : Number := .finite neg mant e2 512
            let r := if e5 > 0 then mulAt 512 z (pow5 e5.toNat) else divAt 512 z (pow5 (-e5).toNat)
            r.toOption

/-! ### Writing -/

/-- Decimal digits `0.d₁d₂… * 10 ^ exp`, with no zero at the end. -/
structure Decimal where
  mant : List Nat
  exp : Int
deriving Inhabited

/-- The decimal digits of a natural number. -/
def natDigits (n : Nat) : List Nat := (toString n).toList.map fun c => c.toNat - 48

/-- Drops the zeros at the end. -/
def trimZeros (ds : List Nat) : List Nat := (ds.reverse.dropWhile (· == 0)).reverse

/-- The exact decimal of `m * 2 ^ e`, for `m > 0`. -/
def Decimal.ofDyadic (m : Nat) (e : Int) : Decimal :=
  if e ≥ 0 then
    let ds := natDigits (m * Nat.pow 2 e.toNat)
    ⟨trimZeros ds, ds.length⟩
  else
    let ds := natDigits (m * Nat.pow 5 (-e).toNat)
    ⟨trimZeros ds, (ds.length : Int) + e⟩

/-- The digit at a place, zero past the end. -/
def Decimal.at (d : Decimal) (i : Nat) : Nat := d.mant.getD i 0

/-- Cuts the digits to `n`. -/
def Decimal.roundDown (d : Decimal) (n : Nat) : Decimal :=
  if n < d.mant.length then { d with mant := trimZeros (d.mant.take n) } else d

/-- The digits through place `n - 1` increased by one in their last place. -/
def Decimal.roundUp (d : Decimal) (n : Nat) : Decimal :=
  if n < d.mant.length then
    let kept := d.mant.take n
    let nines := (kept.reverse.takeWhile (· ≥ 9)).length
    let k := n - nines
    if k = 0 then ⟨[1], d.exp + 1⟩
    else ⟨(kept.take (k - 1)) ++ [kept.getD (k - 1) 0 + 1], d.exp⟩
  else d

/-- The digits rounded to `n`, half to even. -/
def Decimal.roundNearest (d : Decimal) (n : Nat) : Decimal :=
  if n < d.mant.length then
    let up := if d.at n == 5 && n + 1 == d.mant.length then n > 0 && d.at (n - 1) % 2 == 1
      else d.at n ≥ 5
    if up then d.roundUp n else d.roundDown n
  else d

/-- The fewest digits that still tell a positive value `m * 2 ^ e` of `prec` bits apart. -/
def shortest (prec : Nat) (m : Nat) (e : Int) : Decimal :=
  let d := Decimal.ofDyadic m e
  if d.mant.length ≤ 1 then d
  else
    let l : Int := (m.log2 : Int) + e
    let s : Int := (prec : Int) - 1 - l
    -- the value is `sig * 2 ^ (-s)` with `sig` of `prec` bits
    let t := e + s
    let sig := if t ≥ 0 then m * Nat.pow 2 t.toNat else m / Nat.pow 2 (-t).toNat
    let lower := Decimal.ofDyadic (2 * sig - 1) (-s - 1)
    let upper := Decimal.ofDyadic (2 * sig + 1) (-s - 1)
    let inclusive := sig % 2 == 0
    let rec walk : List Nat → Nat → Decimal
      | [], _ => d
      | digit :: rest, i =>
        let lo := lower.at i
        let up := upper.at i
        let okDown := lo != digit || (inclusive && i + 1 == lower.mant.length)
        let okUp := digit != up && (inclusive || digit + 1 < up || i + 1 < upper.mant.length)
        if okDown && okUp then d.roundNearest (i + 1)
        else if okDown then d.roundDown (i + 1)
        else if okUp then d.roundUp (i + 1)
        else walk rest (i + 1)
    walk d.mant 0

/-- Digits written without an exponent, with as many places after the point as they need. -/
def Decimal.fixed (d : Decimal) : String :=
  let digit (n : Nat) : Char := Char.ofNat (48 + n)
  let places := (d.mant.length : Int) - d.exp
  let whole := if d.exp > 0 then
      String.ofList ((List.range d.exp.toNat).map fun (i : Nat) => digit (d.at i))
    else "0"
  if places > 0 then
    whole ++ "." ++ String.ofList ((List.range places.toNat).map fun (i : Nat) =>
      let k := d.exp + (i : Int)
      digit (if k < 0 then 0 else d.at k.toNat))
  else whole

/-- A number as text: the fewest digits that tell it apart at its precision, with a minus
sign when it carries one (`-0` included), or `+Inf` or `-Inf`. -/
def text : Number → String
  | .inf neg _ => if neg then "-Inf" else "+Inf"
  | .finite neg m e prec =>
    (if neg then "-" else "") ++ (if m = 0 then "0" else (shortest prec m e).fixed)

/-- Equality of values: the same text, negative zero counting as zero. -/
def eq (a b : Number) : Bool :=
  let plain (t : String) : String := if t == "-0" then "0" else t
  plain a.text == plain b.text

/-- The number as a whole number, when it is one; `none` for fractions, infinities and numbers
of more than `bits` binary digits. -/
def whole? (bits : Nat) : Number → Option Int
  | .finite neg m e _ =>
    if m = 0 then some 0
    else if (bitLen m : Int) + e > bits then none
    else if e ≥ 0 then some (truncate neg m e)
    else if m % Nat.pow 2 (-e).toNat = 0 then some (truncate neg m e)
    else none
  | .inf .. => none

/-- Whether a finite number has a fractional part. -/
def isFraction : Number → Bool
  | .finite _ m e _ => e < 0 && m != 0 && ((-e).toNat > bitLen m || m % Nat.pow 2 (-e).toNat != 0)
  | .inf .. => false

/-- The number as a 64-bit integer, when it is a whole number in range. -/
def toInt64? (n : Number) : Option Int :=
  match n.whole? 64 with
  | some i => if -9223372036854775808 ≤ i ∧ i ≤ 9223372036854775807 then some i else none
  | none => none

theorem ofInt_toInt64 (i : Int) (h1 : -9223372036854775808 ≤ i) (h2 : i ≤ 9223372036854775807) :
    (ofInt i).toInt64? = some i := by
  have hb : (bitLen i.natAbs : Int) + 0 ≤ 64 := by
    unfold bitLen
    split
    · omega
    · have hlt : i.natAbs < 2 ^ 64 := by omega
      have := (Nat.log2_lt (by omega)).2 hlt
      omega
  have hw : (ofInt i).whole? 64 = some i := by
    simp only [ofInt, whole?, truncate]
    split
    · congr; omega
    · rw [if_neg (by omega)]
      simp only [ge_iff_le, Int.le_refl, ↓reduceIte, Int.toNat_zero, Nat.pow_eq, Nat.pow_zero, Nat.mul_one]
      congr 1
      by_cases hn : i < 0
      · simp only [hn, decide_true, ↓reduceIte]
        omega
      · simp only [hn, decide_false, Bool.false_eq_true, ↓reduceIte]
        omega
  simp [toInt64?, hw, h1, h2]

end Number

end Lanes.Config
