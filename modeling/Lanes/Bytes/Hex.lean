/-!
Hexadecimal text of byte strings: two lower-case digits a byte, and the reader that takes
either case back. Main statement: reading what was written gives the bytes back.
-/

namespace Lanes.Bytes

/-- The digit of a value below sixteen, lower case. -/
def hexDigit (n : Nat) : Char :=
  if n < 10 then Char.ofNat (48 + n) else Char.ofNat (87 + n)

/-- The value of a hexadecimal digit of either case. -/
def hexValue? (c : Char) : Option Nat :=
  if '0' ≤ c ∧ c ≤ '9' then some (c.toNat - 48)
  else if 'a' ≤ c ∧ c ≤ 'f' then some (c.toNat - 87)
  else if 'A' ≤ c ∧ c ≤ 'F' then some (c.toNat - 55)
  else none

/-- The two digits of a byte, high digit first. -/
def byteHex (b : UInt8) : List Char :=
  [hexDigit (b.toNat / 16), hexDigit (b.toNat % 16)]

/-- The lower-case hexadecimal text of a byte string. -/
def toHex (bs : List UInt8) : String :=
  String.ofList (bs.flatMap byteHex)

/-- The bytes that pairs of digits spell; `none` for an odd count or a character that is no
digit. -/
def ofHexChars : List Char → Option (List UInt8)
  | [] => some []
  | [_] => none
  | hi :: lo :: rest => do
    let h ← hexValue? hi
    let l ← hexValue? lo
    let tail ← ofHexChars rest
    pure ((16 * h + l).toUInt8 :: tail)

/-- The bytes of a hexadecimal text of either case. -/
def ofHex? (s : String) : Option (List UInt8) :=
  ofHexChars s.toList

theorem hexValue_hexDigit : ∀ n, n < 16 → hexValue? (hexDigit n) = some n := by
  decide

theorem ofHexChars_byteHex (bs : List UInt8) : ofHexChars (bs.flatMap byteHex) = some bs := by
  induction bs with
  | nil => rfl
  | cons b rest ih =>
    have h1 : b.toNat / 16 < 16 := by have := b.toNat_lt; omega
    have h2 : b.toNat % 16 < 16 := Nat.mod_lt _ (by omega)
    simp only [List.flatMap_cons, byteHex, List.cons_append, List.nil_append, ofHexChars,
      hexValue_hexDigit _ h1, hexValue_hexDigit _ h2, ih]
    have e : (16 * (b.toNat / 16) + b.toNat % 16).toUInt8 = b := by
      rw [show 16 * (b.toNat / 16) + b.toNat % 16 = b.toNat by omega]
      exact UInt8.ofNat_toNat
    simp only [Option.bind_eq_bind, Option.bind_some, e]
    rfl

/-- Reading the written text gives the bytes back. -/
theorem ofHex_toHex (bs : List UInt8) : ofHex? (toHex bs) = some bs := by
  simp [ofHex?, toHex, ofHexChars_byteHex]

end Lanes.Bytes
