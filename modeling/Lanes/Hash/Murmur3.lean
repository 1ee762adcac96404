/-!
The 32-bit murmur3 hash of a byte string, with seed zero.

The bytes are taken four at a time as little-endian words. Each word is mixed in by multiplying,
rotating and multiplying again, and the running hash is then rotated and stepped. The one to
three bytes left over are mixed in the same way, without the step; the length is folded in, and
a last avalanche spreads every bit over the whole word.
-/

namespace Lanes.Hash

/-- Rotates a word left by `r` bits, `0 < r < 32`. -/
def rotl (x r : UInt32) : UInt32 := (x <<< r) ||| (x >>> (32 - r))

/-- A word of input, mixed. -/
def mixWord (k : UInt32) : UInt32 := rotl (k * 0xcc9e2d51) 15 * 0x1b873593

/-- The running hash after a whole word. -/
def step (h k : UInt32) : UInt32 := rotl (h ^^^ mixWord k) 13 * 5 + 0xe6546b64

/-- The last avalanche. -/
def fmix (h : UInt32) : UInt32 :=
  let h := h ^^^ (h >>> 16)
  let h := h * 0x85ebca6b
  let h := h ^^^ (h >>> 13)
  let h := h * 0xc2b2ae35
  h ^^^ (h >>> 16)

/-- Four bytes as a little-endian word. -/
def word (a b c d : UInt8) : UInt32 :=
  a.toUInt32 ||| (b.toUInt32 <<< 8) ||| (c.toUInt32 <<< 16) ||| (d.toUInt32 <<< 24)

/-- The running hash after the whole words of the input, then its last one to three bytes. -/
def blocks (h : UInt32) : List UInt8 → UInt32
  | a :: b :: c :: d :: rest => blocks (step h (word a b c d)) rest
  | [a, b, c] => h ^^^ mixWord (a.toUInt32 ||| (b.toUInt32 <<< 8) ||| (c.toUInt32 <<< 16))
  | [a, b] => h ^^^ mixWord (a.toUInt32 ||| (b.toUInt32 <<< 8))
  | [a] => h ^^^ mixWord a.toUInt32
  | [] => h

/-- The murmur3 hash of a byte string. -/
def murmur3 (bs : List UInt8) : UInt32 := fmix (blocks 0 bs ^^^ bs.length.toUInt32)

example : murmur3 [] = 0 := by decide +kernel

example : murmur3 "test".toUTF8.toList = 0xba6bd213 := by decide +kernel

example : murmur3 "The quick brown fox jumps over the lazy dog".toUTF8.toList = 0x2e4ff723 := by
  decide +kernel

end Lanes.Hash
