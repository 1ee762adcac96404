/-!
Unsigned varints: a number as groups of seven bits, lowest first, every byte but the last with
its high bit set. A reader stops at the first byte below 128 and refuses input that ends inside a
number or that runs past ten bytes (the tenth may hold only the top bit of a 64-bit word).

Main statements: reading what was written gives the number and the untouched rest back, and what
the reader leaves is shorter than what it was given.
-/

namespace Lanes.Bytes.Varint

/-- The bytes of `n`, seven bits a byte, lowest group first. -/
def encode (n : Nat) : List UInt8 :=
  if n < 128 then [n.toUInt8] else (n % 128 + 128).toUInt8 :: encode (n / 128)
termination_by n
decreasing_by omega

/-- The number at the start of the bytes and the bytes after it, where `i` bytes of the number
were read before; `none` when the bytes end inside the number or it overflows 64 bits. -/
def readFrom (i : Nat) : List UInt8 → Option (Nat × List UInt8)
  | [] => none
  | b :: rest =>
    if 9 ≤ i ∧ 1 < b.toNat then none
    else if b.toNat < 128 then some (b.toNat, rest)
    else (readFrom (i + 1) rest).map fun (v, r) => (b.toNat - 128 + 128 * v, r)

/-- The number at the start of the bytes and the bytes after it. -/
def read (bs : List UInt8) : Option (Nat × List UInt8) := readFrom 0 bs

theorem toNat_toUInt8 {n : Nat} (h : n < 256) : n.toUInt8.toNat = n := by
  simp [Nat.mod_eq_of_lt h]

theorem readFrom_shortens : ∀ {i : Nat} {bs : List UInt8} {n : Nat} {rest : List UInt8},
    readFrom i bs = some (n, rest) → rest.length < bs.length
  | _, [], _, _, h => by simp [readFrom] at h
  | i, b :: tail, n, rest, h => by
    simp only [readFrom] at h
    split at h
    · simp at h
    · split at h
      · simp only [Option.some.injEq, Prod.mk.injEq] at h
        simp [← h.2]
      · cases hd : readFrom (i + 1) tail with
        | none => simp [hd] at h
        | some p =>
          obtain ⟨m, r⟩ := p
          simp only [hd, Option.map_some, Option.some.injEq, Prod.mk.injEq] at h
          have := readFrom_shortens hd
          simp only [List.length_cons, ← h.2]
          omega

theorem read_shortens {bs : List UInt8} {n : Nat} {rest : List UInt8}
    (h : read bs = some (n, rest)) : rest.length < bs.length :=
  readFrom_shortens h

theorem encode_lt (n : Nat) : ∀ b ∈ encode n, b.toNat < 256 := by
  intro b _
  exact b.toNat_lt

theorem readFrom_encode (n : Nat) : ∀ (i : Nat) (rest : List UInt8), n < Nat.pow 2 (7 * (9 - i)) * 2 →
    i ≤ 9 → readFrom i (encode n ++ rest) = some (n, rest) := by
  simp only [Nat.pow_eq]
  induction n using Nat.strongRecOn with
  | ind n ih =>
    intro i rest hn hi
    rw [encode]
    split
    · rename_i small
      have hb := toNat_toUInt8 (show n < 256 by omega)
      simp only [List.cons_append, List.nil_append, readFrom, hb]
      by_cases h9 : 9 ≤ i
      · have : i = 9 := by omega
        subst this
        have : n < 2 := by simpa using hn
        simp [show ¬ (1 < n) by omega, small]
      · simp [h9, small]
    · rename_i big
      have hb := toNat_toUInt8 (show n % 128 + 128 < 256 by omega)
      by_cases h9 : i = 9
      · subst h9
        simp at hn
        omega
      · have hi' : i + 1 ≤ 9 := by omega
        have hrec := ih (n / 128) (by omega) (i + 1) rest (by
          have h2 : 2 ^ (7 * (9 - i)) = 2 ^ (7 * (9 - (i + 1))) * 128 := by
            rw [show 7 * (9 - i) = 7 * (9 - (i + 1)) + 7 by omega, Nat.pow_add]
          rw [h2] at hn
          omega) hi'
        simp only [List.cons_append, readFrom, hb, hrec]
        simp only [show ¬ (9 ≤ i ∧ 1 < n % 128 + 128) by omega, if_false,
          show ¬ (n % 128 + 128 < 128) by omega, Option.map_some, Option.some.injEq,
          Prod.mk.injEq, and_true]
        omega

/-- A 64-bit number read back from its bytes, with the bytes after it untouched. -/
theorem read_encode (n : Nat) (rest : List UInt8) (h : n < Nat.pow 2 64) :
    read (encode n ++ rest) = some (n, rest) :=
  readFrom_encode n 0 rest (by simpa using h) (by omega)

end Lanes.Bytes.Varint
