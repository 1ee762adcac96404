import Lanes.Numeral.Refusal
import Lanes.Binary64.Basic

/-!
Floating-point numerals read into binary64 values, rounded to nearest with ties to even.

The grammar: an optional sign, then either `inf`, `infinity` or (unsigned) `nan` in any case, or
a significand of decimal digits with at most one point and an optional exponent `e±digits`, or
`0x` and a significand of hexadecimal digits with a binary exponent `p±digits`, which is then
required. Underscores may separate digits (or follow the `0x` prefix); one may not start or end
the numeral, stand next to another, or touch anything that is no digit. The whole text must be
the numeral.

A numeral too large for binary64 reads as the infinity of its sign and is reported out of range;
one too small reads as a zero of its sign.
-/

namespace Lanes.Numeral

open Lanes.Binary64 (ofRatio)

/-- The length of the common prefix of a byte string and a lower-case word, ignoring case. -/
def prefixIgnoringCase : List UInt8 → List Char → Nat
  | b :: bs, c :: cs => if lowerByte b = c.toNat.toUInt8 then 1 + prefixIgnoringCase bs cs else 0
  | _, _ => 0

/-- Whether the whole text spells the word, ignoring case. -/
def spells (s : List UInt8) (word : String) : Bool :=
  s.length = word.length && prefixIgnoringCase s word.toList = word.length

/-- The special numerals: an infinity, with an optional sign, or a NaN. -/
def special? (s : List UInt8) : Option Binary64 :=
  let (neg, body) : Bool × List UInt8 := match s with
    | 43 :: rest => (false, rest)
    | 45 :: rest => (true, rest)
    | _ => (false, s)
  if spells body "inf" || spells body "infinity" then
    some (if neg then Binary64.negInf else Binary64.posInf)
  else if spells s "nan" then some Binary64.nan
  else none

/-- Whether the underscores of a numeral each stand between two digits (a `0x` prefix counts as
a digit). -/
def underscoresFit (s : List UInt8) : Bool :=
  let body := match s with
    | 43 :: rest => rest
    | 45 :: rest => rest
    | _ => s
  let (hex, start, digits) : Bool × Nat × List UInt8 := match body with
    | 48 :: x :: rest =>
      if lowerByte x = 120 then (true, 0, rest)
      else if lowerByte x = 98 || lowerByte x = 111 then (false, 0, rest)
      else (false, 1, body)
    | _ => (false, 1, body)
  -- `saw`: 0 a digit or prefix, 1 an underscore, 2 anything else, 3 the start
  let isDig (b : UInt8) : Bool := isDigit b || (hex && 97 ≤ lowerByte b && lowerByte b ≤ 102)
  let step (st : Option Nat) (b : UInt8) : Option Nat :=
    match st with
    | none => none
    | some saw =>
      if isDig b then some 0
      else if b = 95 then (if saw = 0 then some 1 else none)
      else if saw = 1 then none
      else some 2
  let final := digits.foldl step (some (if start = 0 then 0 else 3))
  match final with
  | some 1 => false
  | some _ => true
  | none => false

/-- A significand: its digits as one number, how many came after the point, whether there was
a digit at all, whether an underscore was seen, and the bytes after it. -/
structure Significand where
  value : Nat
  fracDigits : Nat
  sawDigits : Bool
  sawUnderscore : Bool
  rest : List UInt8

/-- The digit value of a byte in base 10 or 16. -/
def digitValue? (hex : Bool) (b : UInt8) : Option Nat :=
  if isDigit b then some (b.toNat - 48)
  else if hex && 97 ≤ lowerByte b && lowerByte b ≤ 102 then some ((lowerByte b).toNat - 87)
  else none

/-- Reads a significand; `afterPoint` tells whether the point has been passed. -/
def readSignificand (hex : Bool) (afterPoint : Bool) (acc : Significand) :
    List UInt8 → Significand
  | [] => { acc with rest := [] }
  | b :: bs =>
    if b = 95 then readSignificand hex afterPoint { acc with sawUnderscore := true } bs
    else if b = 46 then
      if afterPoint then { acc with rest := b :: bs }
      else readSignificand hex true acc bs
    else match digitValue? hex b with
      | some d =>
        readSignificand hex afterPoint
          { acc with value := acc.value * (if hex then 16 else 10) + d,
                     fracDigits := if afterPoint then acc.fracDigits + 1 else acc.fracDigits,
                     sawDigits := true } bs
      | none => { acc with rest := b :: bs }

/-- Reads exponent digits, with underscores, keeping the value once it passes ten thousand
(a larger exponent decides nothing more). Returns the value, whether an underscore was seen,
and the rest. -/
def readExponentDigits (acc : Nat) (us : Bool) : List UInt8 → Nat × Bool × List UInt8
  | [] => (acc, us, [])
  | b :: bs =>
    if b = 95 then readExponentDigits acc true bs
    else if isDigit b then
      readExponentDigits (if acc < 10000 then acc * 10 + (b.toNat - 48) else acc) us bs
    else (acc, us, b :: bs)

/-- The value `± m * base ^ e` rounded, with `base` 10 or 2, and whether it overflowed. -/
def scaledValue (neg : Bool) (m : Nat) (ten : Bool) (e : Int) : Binary64 × Bool :=
  if m = 0 then (ofRatio neg 0 1, false)
  else
    let mag : Int := if ten then (Nat.toDigits 10 m).length + e else (m.log2 : Int) + 1 + e
    let tooBig := if ten then mag > 310 else mag > 1030
    let tooSmall := if ten then mag < -330 else mag < -1100
    if tooBig then (if neg then Binary64.negInf else Binary64.posInf, true)
    else if tooSmall then (ofRatio neg 0 1, false)
    else
      let b := if ten then 10 else 2
      let v := ofRatio neg (m * Nat.pow b e.toNat) (Nat.pow b (-e).toNat)
      (v, v.isInf)

/-- A floating-point numeral: the value and whether it was out of range; `none` for text that is
no numeral. -/
def readFloat (s : List UInt8) : Option (Binary64 × Bool) :=
  match special? s with
  | some v => some (v, false)
  | none =>
    let (neg, afterSign) : Bool × List UInt8 := match s with
      | 43 :: rest => (false, rest)
      | 45 :: rest => (true, rest)
      | _ => (false, s)
    let (hex, body) : Bool × List UInt8 := match afterSign with
      | 48 :: x :: r@(_ :: _) => if lowerByte x = 120 then (true, r) else (false, afterSign)
      | _ => (false, afterSign)
    let sig := readSignificand hex false ⟨0, 0, false, false, []⟩ body
    if !sig.sawDigits then none
    else
      let expMark : UInt8 := if hex then 112 else 101
      let expPart : Option (Int × Bool × List UInt8) :=
        match sig.rest with
        | b :: r =>
          if lowerByte b = expMark then
            let (esign, r') : Int × List UInt8 := match r with
              | 43 :: r'' => (1, r'')
              | 45 :: r'' => (-1, r'')
              | _ => (1, r)
            match r' with
            | d :: _ =>
              if isDigit d then
                let (e, us, rest) := readExponentDigits 0 false r'
                some (esign * e, us, rest)
              else none
            | [] => none
          else some (0, false, b :: r)
        | [] => some (0, false, [])
      match expPart with
      | none => none
      | some (e, us, rest) =>
        let hasExp := match sig.rest with
          | b :: _ => lowerByte b = expMark
          | [] => false
        if hex && !hasExp then none
        else if !rest.isEmpty then none
        else if (sig.sawUnderscore || us) && !underscoresFit s then none
        else if hex then some (scaledValue neg sig.value false (e - 4 * sig.fracDigits))
        else some (scaledValue neg sig.value true (e - sig.fracDigits))

/-- The failure for a refused floating-point numeral. -/
def floatFault (input : List UInt8) (r : Refusal) : Fault := r.fault "ParseFloat" input

end Lanes.Numeral
