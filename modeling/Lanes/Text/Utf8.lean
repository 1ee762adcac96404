/-!
UTF-8 decoding of byte strings, one scalar value at a time. A byte that does not start a
well-formed sequence (a stray continuation byte, an overlong form, a surrogate, a value past
U+10FFFF, or a sequence cut short) decodes as itself, one byte wide, marked invalid.

Every step consumes at least one byte, so the length of a string bounds the number of steps.
-/

namespace Lanes.Text.Utf8

/-- What the front of a byte string decodes to: a character and its width in bytes, or a byte
that starts no well-formed sequence. -/
inductive Step where
  | char (c : Char) (width : Nat)
  | invalid (b : UInt8)
deriving DecidableEq, Repr

/-- Whether a byte continues a sequence. -/
def isCont (b : UInt8) : Bool := b &&& 0xC0 == 0x80

/-- The low six bits of a continuation byte. -/
def low6 (b : UInt8) : Nat := (b &&& 0x3F).toNat

/-- The first step of decoding a byte string; `none` for the empty string. -/
def next : List UInt8 → Option Step
  | [] => none
  | b0 :: rest =>
    let n0 := b0.toNat
    if n0 < 0x80 then some (.char (Char.ofNat n0) 1)
    else if n0 < 0xC2 then some (.invalid b0)
    else if n0 < 0xE0 then
      match rest with
      | b1 :: _ =>
        if isCont b1 then some (.char (Char.ofNat ((n0 - 0xC0) * 64 + low6 b1)) 2)
        else some (.invalid b0)
      | [] => some (.invalid b0)
    else if n0 < 0xF0 then
      match rest with
      | b1 :: b2 :: _ =>
        let lo : Nat := if n0 = 0xE0 then 0xA0 else 0x80
        let hi : Nat := if n0 = 0xED then 0x9F else 0xBF
        if lo ≤ b1.toNat ∧ b1.toNat ≤ hi ∧ isCont b2 then
          some (.char (Char.ofNat ((n0 - 0xE0) * 4096 + low6 b1 * 64 + low6 b2)) 3)
        else some (.invalid b0)
      | _ => some (.invalid b0)
    else if n0 < 0xF5 then
      match rest with
      | b1 :: b2 :: b3 :: _ =>
        let lo : Nat := if n0 = 0xF0 then 0x90 else 0x80
        let hi : Nat := if n0 = 0xF4 then 0x8F else 0xBF
        if lo ≤ b1.toNat ∧ b1.toNat ≤ hi ∧ isCont b2 ∧ isCont b3 then
          some (.char (Char.ofNat ((n0 - 0xF0) * 262144 + low6 b1 * 4096 + low6 b2 * 64
            + low6 b3)) 4)
        else some (.invalid b0)
      | _ => some (.invalid b0)
    else some (.invalid b0)

/-- The number of bytes a step consumes. -/
def Step.width : Step → Nat
  | .char _ w => w
  | .invalid _ => 1

/-- The steps of a byte string, at most `fuel` of them; each step consumes at least one byte,
so the length of the string is fuel enough. -/
def stepsWithin : Nat → List UInt8 → List Step
  | 0, _ => []
  | fuel + 1, bs =>
    match next bs with
    | none => []
    | some s => s :: stepsWithin fuel (bs.drop s.width)

/-- The steps of a whole byte string. -/
def steps (bs : List UInt8) : List Step := stepsWithin bs.length bs

/-- The steps of a byte string with the bytes each consumed, at most `fuel` of them. -/
def piecesWithin : Nat → List UInt8 → List (Step × List UInt8)
  | 0, _ => []
  | fuel + 1, bs =>
    match next bs with
    | none => []
    | some s => (s, bs.take s.width) :: piecesWithin fuel (bs.drop s.width)

/-- The steps of a whole byte string with the bytes each consumed. -/
def pieces (bs : List UInt8) : List (Step × List UInt8) := piecesWithin bs.length bs

/-- Whether a byte string is well-formed UTF-8. -/
def valid (bs : List UInt8) : Bool :=
  (steps bs).all fun
    | .char .. => true
    | .invalid _ => false

/-- The text of a byte string, each byte that starts no well-formed sequence read as U+FFFD. -/
def lossy (bs : List UInt8) : String :=
  String.ofList ((steps bs).map fun
    | .char c _ => c
    | .invalid _ => Char.ofNat 0xFFFD)

end Lanes.Text.Utf8
