import Lanes.Binary64.Shortest

/-!
The text of a binary64 value in the library's reports: the shortest digits that read back,
written positionally when the decimal exponent is small and in scientific form otherwise.

The decisions of the format are one `Layout` value, `Layout.report`: exponents from -4 up to 5
are written positionally, a scientific exponent carries its sign and at least two digits, and
the special values read `NaN`, `+Inf` and `-Inf`. Main statement: a finite negative value is
written as a minus before the digits of its magnitude (`render_finite_negative`).
-/

namespace Lanes.Binary64

/-- The decisions of a number format. -/
structure Layout where
  /-- The least decimal exponent written positionally. -/
  lowest : Int
  /-- Decimal exponents from this one up are written in scientific form. -/
  highest : Int
  /-- The least number of digits of a scientific exponent. -/
  expDigits : Nat
  nanText : String
  posInfText : String
  negInfText : String

/-- The library's report format: positional for decimal exponents -4 to 5, otherwise
`d.ddde±XX`; `NaN`, `+Inf`, `-Inf`. -/
def Layout.report : Layout :=
  { lowest := -4, highest := 6, expDigits := 2,
    nanText := "NaN", posInfText := "+Inf", negInfText := "-Inf" }

/-- The decimal digits of a natural number, most significant first. -/
def digitChars (n : Nat) : List Char := (Nat.toDigits 10 n)

/-- `n` zeros. -/
def zeros (n : Nat) : List Char := List.replicate n '0'

/-- Digits `ds` with the decimal point after `dp` of them (`dp` may lie outside the digits),
written positionally. -/
def positional (ds : List Char) (dp : Int) : List Char :=
  let whole :=
    if dp > 0 then ds.take dp.toNat ++ zeros (dp.toNat - ds.length) else ['0']
  let frac :=
    if dp ≥ 0 then ds.drop dp.toNat else zeros (-dp).toNat ++ ds
  if frac.isEmpty then whole else whole ++ '.' :: frac

/-- Digits `ds` as `d.ddd` followed by the exponent `e`, signed and padded to `width` digits. -/
def scientific (ds : List Char) (e : Int) (width : Nat) : List Char :=
  let lead := match ds with
    | [] => ['0']
    | d :: rest => if rest.isEmpty then [d] else d :: '.' :: rest
  let ed := digitChars e.natAbs
  lead ++ ['e', if e < 0 then '-' else '+'] ++ zeros (width - ed.length) ++ ed

/-- The text of a finite non-negative decimal in a layout. -/
def Layout.decimal (l : Layout) (d : Decimal) : List Char :=
  if d.digits = 0 then ['0']
  else
    let ds := digitChars d.digits
    let dp : Int := ds.length + d.exp
    let e := dp - 1
    if e < l.lowest ∨ e ≥ l.highest then scientific ds e l.expDigits else positional ds dp

/-- The text of a value in a layout. -/
def Layout.render (l : Layout) (x : Binary64) : String :=
  if x.isNaN then l.nanText
  else if x.isInf then (if x.negative then l.negInfText else l.posInfText)
  else
    let body := l.decimal x.shortest
    String.ofList (if x.negative then '-' :: body else body)

/-- The text of a value in the library's reports. -/
def text (x : Binary64) : String := Layout.report.render x

theorem render_finite_negative (l : Layout) (x : Binary64) (hn : x.isNaN = false)
    (hi : x.isInf = false) (hneg : x.negative = true) :
    l.render x = String.ofList ('-' :: l.decimal x.shortest) := by
  simp [Layout.render, hn, hi, hneg]

end Lanes.Binary64
