import Lanes.Random.Cooked

/-!
Seeded streams of random numbers: an additive lagged generator of 607 words of 64 bits.

The generator keeps its words and two places in them, `feed` and `tap`, 273 words apart. A step
moves both places back by one, wrapping at the start, adds the word at `tap` to the word at
`feed` modulo `2 ^ 64`, keeps the sum at `feed` and gives it.

A seed is first brought into `1 … 2 ^ 31 - 2`: its remainder by `2 ^ 31 - 1` taken toward zero,
made non-negative, with zero replaced by 89482311. The multiplicative generator
`x ↦ 48271 x mod (2 ^ 31 - 1)` then runs from it: twenty values are dropped, and each word takes
the next three values, shifted left by 40, 20 and 0 bits, joined by exclusive or, and whitened
with the word of `cooked` at its place.

A 63-bit draw is a step with its top bit cleared, and a 31-bit draw is the top 31 bits of a
63-bit one. A draw below a power of two `n` keeps the low bits of one draw. A draw below any
other `n` rejects draws past the largest multiple of `n` that fits, so every value below `n` is
as likely as every other, then takes the remainder. Rejection goes on until a draw is kept; each
happens with probability below one half, so the loop ends with probability one, but no number of
rounds is enough for every stream. The loop is therefore given a bound, a number of draws, and
gives no value when every draw within it is rejected; a draw it does give is the one the
unbounded loop gives, whatever the bound.

Main statements: a step keeps the number of words and keeps both places among them
(`next_size`, `next_feed_lt`), a seeded stream has all 607 words (`seeded_size`), a bounded
draw is below its bound (`intn_lt`), and a draw within a bound is the same within every larger
bound (`intn_mono`).
-/

namespace Lanes.Random

/-- The number of words. -/
def words : Nat := 607

/-- How far `tap` starts behind `feed`, going backwards. -/
def lag : Nat := 273

/-- The modulus of the multiplicative generator, `2 ^ 31 - 1`. -/
def modulus : Nat := 2147483647

/-- One step of the multiplicative generator. -/
def lehmer (x : Nat) : Nat := 48271 * x % modulus

/-- The multiplicative generator run `k` times. -/
def lehmerIter : Nat → Nat → Nat
  | 0, x => x
  | k + 1, x => lehmerIter k (lehmer x)

/-- Where the multiplicative generator starts for a seed. -/
def start (seed : Int) : Nat :=
  let r := seed.tmod modulus
  let r := if r < 0 then r + modulus else r
  if r = 0 then 89482311 else r.toNat

/-- Fills `k` more words from place `i` on, the multiplicative generator standing at `x`. -/
def fill (x i : Nat) (acc : Array UInt64) : Nat → Array UInt64
  | 0 => acc
  | k + 1 =>
    let a := lehmer x
    let b := lehmer a
    let c := lehmer b
    let w := (a.toUInt64 <<< 40) ^^^ (b.toUInt64 <<< 20) ^^^ c.toUInt64 ^^^ cooked.getD i 0
    fill c (i + 1) (acc.push w) k

/-- A stream of random numbers: the generator's words and its two places. -/
structure Source where
  state : Array UInt64
  feed : Nat
  tap : Nat

namespace Source

/-- The stream of a seed. -/
def seeded (seed : Int64) : Source :=
  ⟨fill (lehmerIter 20 (start seed.toInt)) 0 #[] words, words - lag, 0⟩

/-- The place before a place, wrapping at the start. -/
def back (i : Nat) : Nat := if i = 0 then words - 1 else i - 1

/-- One step: the next word and the stream after it. -/
def next (s : Source) : UInt64 × Source :=
  let feed := back s.feed
  let tap := back s.tap
  let x := s.state.getD feed 0 + s.state.getD tap 0
  (x, ⟨s.state.setIfInBounds feed x, feed, tap⟩)

/-- A draw of 63 bits. -/
def int63 (s : Source) : Nat × Source :=
  let (x, s) := s.next
  ((x &&& 0x7FFFFFFFFFFFFFFF).toNat, s)

/-- A draw of 31 bits. -/
def int31 (s : Source) : Nat × Source :=
  let (x, s) := s.int63
  (x / Nat.pow 2 32, s)

/-- Draws until a value at most `top` comes, drawing at most `k` times: none when every one of
the `k` draws is past `top`. -/
def drawAtMost (draw : Source → Nat × Source) (top : Nat) : Nat → Source → Option (Nat × Source)
  | 0, _ => none
  | k + 1, s => if (draw s).1 ≤ top then some (draw s) else drawAtMost draw top k (draw s).2

/-- The low bits of one draw: a draw below a power of two `n`. -/
def masked (draw : Source → Nat × Source) (n : Nat) (s : Source) : Nat × Source :=
  ((draw s).1 % n, (draw s).2)

/-- A draw of `bits` bits below `n`, for `0 < n < 2 ^ bits`, drawing at most `bound` times. Below
a power of two it keeps the low bits of one draw; below any other `n` it rejects draws past
`2 ^ bits - 1 - 2 ^ bits % n`, the largest value before the last incomplete run of `n`. -/
def below (draw : Source → Nat × Source) (bits bound n : Nat) (s : Source) : Option (Nat × Source) :=
  if n &&& (n - 1) = 0 then some (masked draw n s)
  else (drawAtMost draw (Nat.pow 2 bits - 1 - Nat.pow 2 bits % n) bound s).map fun d => (d.1 % n, d.2)

/-- A 63-bit draw below `n`, for `0 < n < 2 ^ 63`. -/
def int63n (bound n : Nat) (s : Source) : Option (Nat × Source) := below int63 63 bound n s

/-- A 31-bit draw below `n`, for `0 < n < 2 ^ 31`. -/
def int31n (bound n : Nat) (s : Source) : Option (Nat × Source) := below int31 31 bound n s

/-- A draw below `n`: of 31 bits when `n` fits in them, else of 63. -/
def intn (bound n : Nat) (s : Source) : Option (Nat × Source) :=
  if n ≤ Nat.pow 2 31 - 1 then s.int31n bound n else s.int63n bound n

theorem fill_size (x i : Nat) (acc : Array UInt64) (k : Nat) :
    (fill x i acc k).size = acc.size + k := by
  induction k generalizing x i acc with
  | zero => rfl
  | succ k ih => simp only [fill, ih, Array.size_push]; omega

theorem seeded_size (seed : Int64) : (seeded seed).state.size = words := by
  simp [seeded, fill_size]

theorem next_size (s : Source) : s.next.2.state.size = s.state.size := by
  simp [next]

theorem back_lt (i : Nat) (h : i < words) : back i < words := by
  unfold back; unfold words at *; split <;> omega

theorem next_feed_lt (s : Source) (hf : s.feed < words) (ht : s.tap < words) :
    s.next.2.feed < words ∧ s.next.2.tap < words :=
  ⟨back_lt _ hf, back_lt _ ht⟩

theorem below_lt {draw : Source → Nat × Source} {bits bound n : Nat} {s : Source} {d : Nat × Source}
    (h : below draw bits bound n s = some d) (hn : 0 < n) : d.1 < n := by
  unfold below at h
  split at h
  · cases h
    exact Nat.mod_lt _ hn
  · obtain ⟨e, -, rfl⟩ := Option.map_eq_some_iff.1 h
    exact Nat.mod_lt _ hn

/-- A bounded draw that gives a value gives one below its bound. -/
theorem intn_lt {bound n : Nat} {s : Source} {d : Nat × Source} (h : s.intn bound n = some d)
    (hn : 0 < n) : d.1 < n := by
  unfold intn int31n int63n at h
  split at h
  · exact below_lt h hn
  · exact below_lt h hn

theorem drawAtMost_mono {draw : Source → Nat × Source} {top : Nat} :
    ∀ {k k' : Nat} {s : Source} {d : Nat × Source}, k ≤ k' → drawAtMost draw top k s = some d →
      drawAtMost draw top k' s = some d := by
  intro k
  induction k with
  | zero => intro k' s d _ h; cases h
  | succ k ih =>
    intro k' s d hk h
    obtain ⟨k', rfl⟩ : ∃ j, k' = j + 1 := ⟨k' - 1, by omega⟩
    rw [drawAtMost] at h ⊢
    split
    · rwa [if_pos ‹_›] at h
    · rw [if_neg ‹_›] at h
      exact ih (by omega) h

theorem below_mono {draw : Source → Nat × Source} {bits bound bound' n : Nat} {s : Source}
    {d : Nat × Source} (hb : bound ≤ bound') (h : below draw bits bound n s = some d) :
    below draw bits bound' n s = some d := by
  unfold below at h ⊢
  split
  · rwa [if_pos ‹_›] at h
  · rw [if_neg ‹_›] at h
    obtain ⟨e, he, rfl⟩ := Option.map_eq_some_iff.1 h
    rw [drawAtMost_mono hb he]
    rfl

/-- A draw within a bound is the same draw within every larger bound. -/
theorem intn_mono {bound bound' n : Nat} {s : Source} {d : Nat × Source} (hb : bound ≤ bound')
    (h : s.intn bound n = some d) : s.intn bound' n = some d := by
  unfold intn int31n int63n at h ⊢
  split
  · rw [if_pos ‹_›] at h
    exact below_mono hb h
  · rw [if_neg ‹_›] at h
    exact below_mono hb h

/-- Below a power of two, a draw takes one draw and no bound. -/
theorem below_pow2 (draw : Source → Nat × Source) (bits bound : Nat) {n : Nat}
    (hn : n &&& (n - 1) = 0) (s : Source) :
    below draw bits bound n s = some (masked draw n s) := by
  rw [below, if_pos hn]

end Source

end Lanes.Random
