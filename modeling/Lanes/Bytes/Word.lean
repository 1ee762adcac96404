/-!
Little-endian words: a number as base-256 digits, lowest first. Main statement: the 64-bit word
read from its eight bytes is the word written.
-/

namespace Lanes.Bytes

/-- The lowest `k` base-256 digits of `n`, lowest first. -/
def leBytes : Nat → Nat → List UInt8
  | 0, _ => []
  | k + 1, n => (n % 256).toUInt8 :: leBytes k (n / 256)

/-- The number whose base-256 digits, lowest first, are the bytes. -/
def leValue : List UInt8 → Nat
  | [] => 0
  | b :: rest => b.toNat + 256 * leValue rest

/-- The eight bytes of a word, lowest first. -/
def le64 (w : UInt64) : List UInt8 := leBytes 8 w.toNat

/-- The word of the first eight bytes, lowest first. -/
def readLe64 (bs : List UInt8) : UInt64 := (leValue (bs.take 8)).toUInt64

theorem leValue_leBytes (k : Nat) : ∀ n, leValue (leBytes k n) = n % Nat.pow 256 k := by
  simp only [Nat.pow_eq]
  induction k with
  | zero => intro n; simp [leBytes, leValue, Nat.mod_one]
  | succ k ih =>
    intro n
    simp only [leBytes, leValue, ih]
    have h : (n % 256).toUInt8.toNat = n % 256 := by simp
    rw [h, Nat.pow_succ', Nat.mod_mul]

theorem leBytes_length (k n : Nat) : (leBytes k n).length = k := by
  induction k generalizing n with
  | zero => rfl
  | succ k ih => simp [leBytes, ih]

/-- The word read from its eight bytes is the word written. -/
theorem readLe64_le64 (w : UInt64) : readLe64 (le64 w) = w := by
  have hlen : (le64 w).take 8 = le64 w :=
    List.take_of_length_le (by simp [le64, leBytes_length])
  rw [readLe64, hlen, le64, leValue_leBytes, Nat.mod_eq_of_lt (by simpa using w.toNat_lt)]
  exact UInt64.ofNat_toNat

theorem le64_length (w : UInt64) : (le64 w).length = 8 := leBytes_length 8 _

theorem readLe64_append (w : UInt64) (rest : List UInt8) : readLe64 (le64 w ++ rest) = w := by
  have h : (le64 w ++ rest).take 8 = le64 w := by
    rw [List.take_append_of_le_length (by simp [le64_length])]
    exact List.take_of_length_le (by simp [le64_length])
  unfold readLe64
  rw [h]
  exact readLe64_le64 w

end Lanes.Bytes
