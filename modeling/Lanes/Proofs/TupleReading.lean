import Lanes.Proofs.Envelope

/-!
Reading a tuple's form, and where a failed read stops.

A tuple's form is its element count as a varint, then each element's form behind its length as
a varint, and nothing after. A varint here is any run of bytes the reader takes (`Varint.Spells`),
the longer forms with groups of zero bits at the top included; `Varint.read_eq_some_iff` says the
reader takes exactly those. `Framed` strings payloads together, each behind its length.

Reading a tuple succeeds exactly on such a form whose payloads its elements each accept, and then
holds what each element read from its payload. A read that fails stops at the first fault: the
elements before it hold what they read, the element it stops at holds what its own failed read
left (nothing changes for a single value, and a tuple obeys this same law), and the elements after
it are untouched. A count that is missing or wrong replaces nothing; bytes after the last element
fail the read with every element replaced.

Main statement: `tuple_reading_law`.
-/

namespace Lanes.Bytes.Varint

/-! ### Varints as the reader takes them -/

/-- The number varint bytes hold: the low seven bits of each byte, lowest group first. -/
def digits : List UInt8 → Nat
  | [] => 0
  | b :: rest => b.toNat % 128 + 128 * digits rest

/-- `u` is a varint of `n`: every byte but the last has its high bit set and the last has it
clear, there are at most ten bytes and the tenth holds only the top bit of a 64-bit word, and the
low seven bits of the bytes, lowest group first, make `n`. -/
def Spells (u : List UInt8) (n : Nat) : Prop :=
  ∃ hs last, u = hs ++ [last] ∧ (∀ b ∈ hs, 128 ≤ b.toNat) ∧ last.toNat < 128 ∧
    hs.length ≤ 9 ∧ (hs.length = 9 → last.toNat ≤ 1) ∧ n = digits u

/-- The bytes `p` start with a varint of `n` of which `i` bytes were read before, and `rest`
follows it. -/
def SpellsFrom (i : Nat) (p : List UInt8) (n : Nat) (rest : List UInt8) : Prop :=
  ∃ hs last, p = hs ++ last :: rest ∧ (∀ b ∈ hs, 128 ≤ b.toNat) ∧ last.toNat < 128 ∧
    i + hs.length ≤ 9 ∧ (i + hs.length = 9 → last.toNat ≤ 1) ∧ n = digits (hs ++ [last])

theorem not_spellsFrom_nil (i : Nat) (n : Nat) (rest : List UInt8) : ¬ SpellsFrom i [] n rest := by
  rintro ⟨hs, last, hp, -⟩
  simp at hp

theorem spellsFrom_cons {i : Nat} {b : UInt8} {tail rest : List UInt8} {n : Nat} :
    SpellsFrom i (b :: tail) n rest ↔
      (b.toNat < 128 ∧ i ≤ 9 ∧ (i = 9 → b.toNat ≤ 1) ∧ n = b.toNat ∧ tail = rest) ∨
      (128 ≤ b.toNat ∧ ∃ v, SpellsFrom (i + 1) tail v rest ∧ n = b.toNat - 128 + 128 * v) := by
  have hbyte := b.toNat_lt
  constructor
  · rintro ⟨hs, last, hp, hcont, hlast, hlen, htop, hn⟩
    rcases hs with _ | ⟨c, hs⟩
    · simp only [List.nil_append, List.cons.injEq] at hp
      obtain ⟨rfl, rfl⟩ := hp
      exact .inl ⟨hlast, by simpa using hlen, fun h => htop (by simpa using h),
        by simp [hn, digits, Nat.mod_eq_of_lt hlast], rfl⟩
    · simp only [List.cons_append, List.cons.injEq] at hp
      obtain ⟨rfl, rfl⟩ := hp
      have hb := hcont b (by simp)
      refine .inr ⟨hb, digits (hs ++ [last]),
        ⟨hs, last, rfl, fun x hx => hcont x (by simp [hx]), hlast, by simp at hlen; omega,
          fun h => htop (by simp; omega), rfl⟩, ?_⟩
      simp only [hn, List.cons_append, digits]
      omega
  · rintro (⟨hb, hi, htop, rfl, rfl⟩ | ⟨hb, v, ⟨hs, last, rfl, hcont, hlast, hlen, htop, rfl⟩, rfl⟩)
    · exact ⟨[], b, rfl, by simp, hb, by simpa using hi, fun h => htop (by simpa using h),
        by simp [digits, Nat.mod_eq_of_lt hb]⟩
    · refine ⟨b :: hs, last, rfl, ?_, hlast, by simp; omega,
        fun h => htop (by simp at h; omega), ?_⟩
      · intro x hx
        simp only [List.mem_cons] at hx
        rcases hx with rfl | hx
        · exact hb
        · exact hcont x hx
      · simp only [List.cons_append, digits]
        omega

/-- The reader, `i` bytes into a varint, takes exactly a varint. -/
theorem readFrom_eq_some_iff {p : List UInt8} : ∀ {i : Nat} {rest : List UInt8} {n : Nat}, i ≤ 9 →
    (readFrom i p = some (n, rest) ↔ SpellsFrom i p n rest) := by
  induction p with
  | nil => simp [readFrom, not_spellsFrom_nil]
  | cons b tail ih =>
    intro i rest n hi
    have hb := b.toNat_lt
    rw [spellsFrom_cons]
    simp only [readFrom]
    by_cases hstop : 9 ≤ i ∧ 1 < b.toNat
    · -- a tenth byte past the top bit
      rw [if_pos hstop]
      constructor
      · intro h
        cases h
      · rintro (⟨-, -, htop, -⟩ | ⟨-, v, hv, -⟩)
        · have := htop (by omega)
          omega
        · -- no eleventh byte
          obtain ⟨hs, last, -, -, -, hlen, -⟩ := hv
          omega
    rw [if_neg hstop]
    by_cases hlow : b.toNat < 128
    · -- the last byte
      rw [if_pos hlow, Option.some.injEq, Prod.mk.injEq]
      constructor
      · rintro ⟨rfl, rfl⟩
        exact .inl ⟨hlow, hi, fun h => by omega, rfl, rfl⟩
      · rintro (⟨-, -, -, rfl, rfl⟩ | ⟨h, -⟩)
        · exact ⟨rfl, rfl⟩
        · omega
    · -- a continuation byte: the rest of the varint follows it
      rw [if_neg hlow, Option.map_eq_some_iff]
      have hi' : i + 1 ≤ 9 := by omega
      constructor
      · rintro ⟨⟨v, r⟩, hr, hvr⟩
        simp only [Prod.mk.injEq] at hvr
        obtain ⟨rfl, rfl⟩ := hvr
        exact .inr ⟨by omega, v, (ih hi').1 hr, rfl⟩
      · rintro (⟨h, -⟩ | ⟨-, v, hv, rfl⟩)
        · omega
        · exact ⟨(v, rest), (ih hi').2 hv, rfl⟩

/-- **The reader takes exactly the varints**: it reads `n` and leaves `rest` exactly when the
bytes are a varint of `n` followed by `rest`. -/
theorem read_eq_some_iff {p rest : List UInt8} {n : Nat} :
    read p = some (n, rest) ↔ ∃ u, Spells u n ∧ p = u ++ rest := by
  rw [read, readFrom_eq_some_iff (by omega), SpellsFrom]
  constructor
  · rintro ⟨hs, last, rfl, hcont, hlast, hlen, htop, rfl⟩
    exact ⟨hs ++ [last], ⟨hs, last, rfl, hcont, hlast, by omega, fun h => htop (by omega), rfl⟩,
      by simp⟩
  · rintro ⟨u, ⟨hs, last, rfl, hcont, hlast, hlen, htop, rfl⟩, rfl⟩
    exact ⟨hs, last, by simp, hcont, hlast, by omega, fun h => htop (by omega), rfl⟩

theorem read_spells {u : List UInt8} {n : Nat} (h : Spells u n) (rest : List UInt8) :
    read (u ++ rest) = some (n, rest) :=
  read_eq_some_iff.2 ⟨u, h, rfl⟩

theorem spells_of_lt {n : Nat} (h : n < 128) : Spells [n.toUInt8] n :=
  ⟨[], n.toUInt8, rfl, by simp, by simp; omega, by simp, by simp, by simp [digits]; omega⟩

end Lanes.Bytes.Varint

namespace Lanes.Accumulator

open Lanes.Bytes

/-! ### Frames -/

/-- Payloads one after another, each behind a varint of its length. -/
inductive Framed : List (List UInt8) → List UInt8 → Prop
  | nil : Framed [] []
  | cons {u q : List UInt8} {qs : List (List UInt8)} {p : List UInt8} :
      Varint.Spells u q.length → Framed qs p → Framed (q :: qs) (u ++ q ++ p)

/-- Bytes that hold no payload at their front: no varint, or the varint of a length greater
than what follows it. -/
def Unframed (r : List UInt8) : Prop := ¬ ∃ v q r', Varint.Spells v q.length ∧ r = v ++ q ++ r'

theorem eq_frame_of_read {r s : List UInt8} {m : Nat} (hr : Varint.read r = some (m, s))
    (hm : m ≤ s.length) :
    ∃ v, Varint.Spells v (s.take m).length ∧ r = v ++ s.take m ++ s.drop m := by
  obtain ⟨v, hv, rfl⟩ := Varint.read_eq_some_iff.1 hr
  refine ⟨v, by rwa [List.length_take_of_le hm], ?_⟩
  rw [List.append_assoc, List.take_append_drop]

namespace Acc

/-- Whether an accumulator reads a payload without failing. -/
def Accepts (a : Acc) (q : List UInt8) : Prop := (a.unmarshal q).2 = none

/-- The elements after each has read its payload, in order. -/
def readEach (parts : List Acc) (qs : List (List UInt8)) : List Acc :=
  List.zipWith (fun a q => (a.unmarshal q).1) parts qs

/-! ### One element of a tuple -/

section Element

variable (kind : String) (a : Acc) (rest : List Acc)

theorem unmarshalList_unframed {r : List UInt8} (h : Unframed r) :
    unmarshalList kind (a :: rest) r = (a :: rest, r, some (truncatedElement kind)) := by
  rw [unmarshalList]
  cases hr : Varint.read r with
  | none => rfl
  | some ms =>
    obtain ⟨m, s⟩ := ms
    by_cases hm : s.length < m
    · simp [hm]
    · obtain ⟨v, hv, hrv⟩ := eq_frame_of_read hr (by omega)
      exact absurd ⟨v, s.take m, s.drop m, hv, hrv⟩ h

variable {v q : List UInt8} (hv : Varint.Spells v q.length) (r : List UInt8)
include hv

theorem read_frame : Varint.read (v ++ q ++ r) = some (q.length, q ++ r) := by
  rw [List.append_assoc]
  exact Varint.read_spells hv _

theorem unmarshalList_refused {e : Fault} (he : (a.unmarshal q).2 = some e) :
    unmarshalList kind (a :: rest) (v ++ q ++ r) =
      ((a.unmarshal q).1 :: rest, v ++ q ++ r, some e) := by
  rw [unmarshalList, read_frame hv r]
  simp only [List.length_append, Nat.not_lt.2 (Nat.le_add_right _ _), if_false,
    List.take_left', List.drop_left']
  cases hq : a.unmarshal q with
  | mk a' e' =>
    rw [hq] at he
    cases he
    rfl

theorem unmarshalList_accepted (ha : a.Accepts q) :
    unmarshalList kind (a :: rest) (v ++ q ++ r) =
      ((a.unmarshal q).1 :: (unmarshalList kind rest r).1, (unmarshalList kind rest r).2) := by
  rw [unmarshalList, read_frame hv r]
  simp only [List.length_append, Nat.not_lt.2 (Nat.le_add_right _ _), if_false,
    List.take_left', List.drop_left']
  cases hq : a.unmarshal q with
  | mk a' e' =>
    rw [Accepts, hq] at ha
    cases ha
    rfl

end Element

/-! ### The elements of a tuple -/

/-- Reading through framed payloads that the first elements accept replaces those elements by
what they read, and goes on after them as it would from there. -/
theorem unmarshalList_framed (kind : String) {qs : List (List UInt8)} {f : List UInt8}
    (hf : Framed qs f) : ∀ {pre : List Acc}, List.Forall₂ Accepts pre qs →
      ∀ (post : List Acc) (r : List UInt8),
      unmarshalList kind (pre ++ post) (f ++ r) =
        (readEach pre qs ++ (unmarshalList kind post r).1, (unmarshalList kind post r).2) := by
  induction hf with
  | nil =>
    intro pre hacc post r
    cases hacc
    rfl
  | @cons u q qs p hu _ ih =>
    intro pre hacc post r
    cases hacc with
    | @cons a q' pre' qs' ha hrest =>
      rw [List.cons_append, List.append_assoc, List.append_assoc, ← List.append_assoc u,
        unmarshalList_accepted kind a (pre' ++ post) hu (p ++ r) ha, ih hrest post r]
      rfl

/-- A reading of the elements that did not fail went through framed payloads that they
accepted. -/
theorem framed_of_unmarshalList (kind : String) (parts : List Acc) : ∀ (p : List UInt8),
    (unmarshalList kind parts p).2.2 = none →
      ∃ qs f, Framed qs f ∧ p = f ++ (unmarshalList kind parts p).2.1 ∧
        List.Forall₂ Accepts parts qs := by
  induction parts with
  | nil => exact fun p _ => ⟨[], [], .nil, rfl, .nil⟩
  | cons a rest ih =>
    intro p h
    by_cases hu : Unframed p
    · rw [unmarshalList_unframed kind a rest hu] at h
      cases h
    · obtain ⟨v, q, r, hv, rfl⟩ := Classical.not_not.1 hu
      by_cases ha : a.Accepts q
      · rw [unmarshalList_accepted kind a rest hv r ha] at h ⊢
        obtain ⟨qs, f, hf, hr, hacc⟩ := ih r h
        refine ⟨q :: qs, v ++ q ++ f, .cons hv hf, ?_, .cons ha hacc⟩
        rw [List.append_assoc (v ++ q), ← hr]
      · obtain ⟨e, he⟩ := Option.ne_none_iff_exists'.1 ha
        rw [unmarshalList_refused kind a rest hv r he] at h
        cases h

/-! ### A tuple -/

section Tuple

variable (parts : List Acc)

theorem unmarshal_composed_uncounted {p : List UInt8}
    (h : ¬ ∃ u f, Varint.Spells u parts.length ∧ p = u ++ f) :
    unmarshal (.composed parts) p = (.composed parts, some (badCount (Acc.composed parts).kind)) := by
  rw [unmarshal]
  cases hr : Varint.read p with
  | none => rfl
  | some ns =>
    obtain ⟨n, s⟩ := ns
    have hn : n ≠ parts.length := by
      rintro rfl
      obtain ⟨u, hu, hp⟩ := Varint.read_eq_some_iff.1 hr
      exact h ⟨u, s, hu, hp⟩
    simp [hn]

theorem unmarshal_composed_counted {u : List UInt8} (hu : Varint.Spells u parts.length)
    (s : List UInt8) :
    let x := unmarshalList (Acc.composed parts).kind parts s
    unmarshal (.composed parts) (u ++ s) =
      (.composed x.1, x.2.2.or
        (if x.2.1 = [] then none else some (trailingBytes (Acc.composed parts).kind x.2.1.length))) := by
  intro x
  rw [unmarshal, Varint.read_spells hu s]
  simp only [if_true]
  cases hx : unmarshalList (Acc.composed parts).kind parts s with
  | mk parts' le =>
    obtain ⟨left, e⟩ := le
    have hx' : x = (parts', left, e) := hx
    rw [hx']
    rcases e with _ | e
    · cases left <;> rfl
    · rfl

/-- Through framed payloads that every element accepts, the tuple holds what its elements read;
it fails when bytes are left after them. -/
theorem unmarshal_composed_framed {u : List UInt8} (hu : Varint.Spells u parts.length)
    {qs : List (List UInt8)} {f : List UInt8} (hf : Framed qs f)
    (hacc : List.Forall₂ Accepts parts qs) (r : List UInt8) :
    unmarshal (.composed parts) (u ++ f ++ r) =
      (.composed (readEach parts qs),
        if r = [] then none else some (trailingBytes (Acc.composed parts).kind r.length)) := by
  have hl := unmarshalList_framed (Acc.composed parts).kind hf hacc [] r
  rw [List.append_nil] at hl
  rw [List.append_assoc, unmarshal_composed_counted parts hu, hl]
  by_cases hr : r = [] <;> simp [hr, unmarshalList]

/-- A tuple whose reading did not fail was read from a count and framed payloads that its
elements accepted. -/
theorem framed_of_unmarshal_composed {p : List UInt8}
    (h : (unmarshal (.composed parts) p).2 = none) :
    ∃ u qs f, Varint.Spells u parts.length ∧ Framed qs f ∧ p = u ++ f ∧
      List.Forall₂ Accepts parts qs := by
  by_cases hc : ∃ u s, Varint.Spells u parts.length ∧ p = u ++ s
  · obtain ⟨u, s, hu, rfl⟩ := hc
    rw [unmarshal_composed_counted parts hu] at h
    have he : (unmarshalList (Acc.composed parts).kind parts s).2.2 = none := by
      cases hx : (unmarshalList (Acc.composed parts).kind parts s).2.2 with
      | none => rfl
      | some e => simp [hx] at h
    have hleft : (unmarshalList (Acc.composed parts).kind parts s).2.1 = [] := by
      by_contra hne
      simp [he, hne] at h
    obtain ⟨qs, f, hf, hs, hacc⟩ := framed_of_unmarshalList _ parts s he
    exact ⟨u, qs, f, hu, hf, by rw [hs, hleft, List.append_nil], hacc⟩
  · rw [unmarshal_composed_uncounted parts hc] at h
    cases h

theorem unmarshal_composed_stops {pre post : List Acc} {a : Acc} (hparts : parts = pre ++ a :: post)
    {u : List UInt8} (hu : Varint.Spells u parts.length) {qs : List (List UInt8)} {f : List UInt8}
    (hf : Framed qs f) (hacc : List.Forall₂ Accepts pre qs) (r : List UInt8) :
    (Unframed r → unmarshal (.composed parts) (u ++ f ++ r) =
        (.composed (readEach pre qs ++ a :: post),
          some (truncatedElement (Acc.composed parts).kind))) ∧
    (∀ v q r' e, Varint.Spells v q.length → r = v ++ q ++ r' → (a.unmarshal q).2 = some e →
        unmarshal (.composed parts) (u ++ f ++ r) =
          (.composed (readEach pre qs ++ (a.unmarshal q).1 :: post), some e)) := by
  rw [List.append_assoc, unmarshal_composed_counted parts hu]
  have hl := unmarshalList_framed (Acc.composed parts).kind hf hacc (a :: post) r
  rw [← hparts] at hl
  rw [hl]
  refine ⟨fun hr => ?_, fun v q r' e hv hr he => ?_⟩
  · rw [unmarshalList_unframed _ a post hr]
    rfl
  · subst hr
    rw [unmarshalList_refused _ a post hv r' he]
    rfl

end Tuple

/-! ### Single values -/

theorem unmarshal_single_refused (b : Acc) (q : List UInt8) (hb : ∀ ps, b ≠ .composed ps)
    (h : (b.unmarshal q).2 ≠ none) : (b.unmarshal q).1 = b := by
  cases b with
  | long l =>
    cases hl : unmarshalLong l q with
    | ok l' => simp [unmarshal, hl] at h
    | error e => simp [unmarshal, hl]
  | double d =>
    cases hd : unmarshalDouble d q with
    | ok d' => simp [unmarshal, hd] at h
    | error e => simp [unmarshal, hd]
  | mean m =>
    cases hm : unmarshalMean q with
    | ok m' => simp [unmarshal, hm] at h
    | error e => simp [unmarshal, hm]
  | composed ps => exact absurd rfl (hb ps)

/-! ### The law -/

/-- **How reading a tuple's form ends.** Reading a tuple's form succeeds exactly when the bytes
are a varint of the element count followed by framed payloads, one for each element, that the
elements accept; each element then holds what it read, and bytes left after the last payload
fail the reading with every element replaced. A count that is not there replaces nothing. A
reading that stops at an element, because no payload is framed for it or because it refuses
its payload, leaves the elements before it holding what they read, that element as it was or as
its own failed read left it, and the elements after it untouched. A single value that refuses its
payload keeps its state, so the law goes down through nested tuples. -/
theorem tuple_reading_law (parts : List Acc) (p : List UInt8) :
    let kind := (Acc.composed parts).kind
    ((unmarshal (.composed parts) p).2 = none ↔
      ∃ u qs f, Varint.Spells u parts.length ∧ Framed qs f ∧ p = u ++ f ∧
        List.Forall₂ Accepts parts qs) ∧
    (∀ u qs f r, Varint.Spells u parts.length → Framed qs f → p = u ++ f ++ r →
      List.Forall₂ Accepts parts qs →
      unmarshal (.composed parts) p =
        (.composed (readEach parts qs), if r = [] then none else some (trailingBytes kind r.length))) ∧
    ((¬ ∃ u f, Varint.Spells u parts.length ∧ p = u ++ f) →
      unmarshal (.composed parts) p = (.composed parts, some (badCount kind))) ∧
    (∀ pre a post u qs f r, parts = pre ++ a :: post → Varint.Spells u parts.length →
      Framed qs f → p = u ++ f ++ r → List.Forall₂ Accepts pre qs →
      (Unframed r → unmarshal (.composed parts) p =
          (.composed (readEach pre qs ++ a :: post), some (truncatedElement kind))) ∧
      (∀ v q r' e, Varint.Spells v q.length → r = v ++ q ++ r' → (a.unmarshal q).2 = some e →
          unmarshal (.composed parts) p =
            (.composed (readEach pre qs ++ (a.unmarshal q).1 :: post), some e))) ∧
    (∀ (b : Acc) (q : List UInt8), (∀ ps, b ≠ .composed ps) → (b.unmarshal q).2 ≠ none →
      (b.unmarshal q).1 = b) := by
  intro kind
  refine ⟨⟨framed_of_unmarshal_composed parts, ?_⟩, ?_, unmarshal_composed_uncounted parts, ?_,
    unmarshal_single_refused⟩
  · rintro ⟨u, qs, f, hu, hf, rfl, hacc⟩
    have h := unmarshal_composed_framed parts hu hf hacc []
    rw [List.append_nil] at h
    simp [h]
  · rintro u qs f r hu hf rfl hacc
    exact unmarshal_composed_framed parts hu hf hacc r
  · rintro pre a post u qs f r hparts hu hf rfl hacc
    exact unmarshal_composed_stops parts hparts hu hf hacc r

/-- A tuple whose second element, itself a tuple, refuses the operation code of its own second
element: the first element holds what it read, and the inner tuple holds its first element read
and its second as it was. -/
theorem tuple_reading_law_nested :
    (Acc.composed [.long ⟨.sum, 5⟩, .composed [.long ⟨.sum, 1⟩, .long ⟨.sum, 2⟩]]).unmarshal
        [2, 9, 1, 3, 0, 0, 0, 0, 0, 0, 0, 21, 2, 9, 1, 4, 0, 0, 0, 0, 0, 0, 0, 9, 3, 2, 0, 0, 0, 0, 0,
          0, 0] =
      (.composed [.long ⟨.sum, 3⟩, .composed [.long ⟨.sum, 4⟩, .long ⟨.sum, 2⟩]],
        some (mismatch "decode" "long.sum" "long.max")) := by
  have h := ((tuple_reading_law [.long ⟨.sum, 5⟩, .composed [.long ⟨.sum, 1⟩, .long ⟨.sum, 2⟩]]
    [2, 9, 1, 3, 0, 0, 0, 0, 0, 0, 0, 21, 2, 9, 1, 4, 0, 0, 0, 0, 0, 0, 0, 9, 3, 2, 0, 0, 0, 0, 0,
      0, 0]).2.2.2.1
    [.long ⟨.sum, 5⟩] (.composed [.long ⟨.sum, 1⟩, .long ⟨.sum, 2⟩]) [] [2]
    [[1, 3, 0, 0, 0, 0, 0, 0, 0]] ([9] ++ [1, 3, 0, 0, 0, 0, 0, 0, 0] ++ [])
    [21, 2, 9, 1, 4, 0, 0, 0, 0, 0, 0, 0, 9, 3, 2, 0, 0, 0, 0, 0, 0, 0] rfl
    (Varint.spells_of_lt (by decide)) (.cons (Varint.spells_of_lt (by decide)) .nil) rfl
    (.cons rfl .nil)).2
    [21] [2, 9, 1, 4, 0, 0, 0, 0, 0, 0, 0, 9, 3, 2, 0, 0, 0, 0, 0, 0, 0] []
    (mismatch "decode" "long.sum" "long.max") (Varint.spells_of_lt (by decide)) rfl rfl
  rw [h]
  rfl

end Acc

end Lanes.Accumulator
