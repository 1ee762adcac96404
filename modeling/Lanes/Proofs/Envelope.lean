import Lanes.Accumulator.Codec
import Lanes.Proofs.KindNames

/-!
The envelope read back.

Writing an accumulator and reading it back gives the accumulator: its kind name rebuilds the
identity of its kind (`ofKind_kind`), and reading the form into that identity restores every
value, through nested tuples of any depth and arity. The varints of the envelope count up to
`2 ^ 64`, so the envelope is bounded by that; every byte string a program holds is shorter.

Reading accepts more than writing produces: a varint may be written with more bytes than it
needs. On the bytes whose varints are all in their shortest form (`MinimalEnvelope`), reading
is the inverse of writing.

Main statement: `envelope_round_trip`.
-/

namespace Lanes.Bytes

/-! ### Little-endian words -/

theorem leValue_lt : ∀ bs : List UInt8, leValue bs < 256 ^ bs.length
  | [] => by simp [leValue]
  | b :: rest => by
    have hb := b.toNat_lt
    have ih := leValue_lt rest
    simp only [leValue, List.length_cons, Nat.pow_succ']
    omega

theorem leBytes_leValue : ∀ bs : List UInt8, leBytes bs.length (leValue bs) = bs
  | [] => rfl
  | b :: rest => by
    have hb := b.toNat_lt
    have hmod : (b.toNat + 256 * leValue rest) % 256 = b.toNat := by omega
    have hdiv : (b.toNat + 256 * leValue rest) / 256 = leValue rest := by omega
    simp only [leValue, List.length_cons, leBytes, hmod, hdiv, leBytes_leValue rest]
    simp

theorem le64_readLe64 {bs : List UInt8} (h : bs.length = 8) : le64 (readLe64 bs) = bs := by
  have hlt := leValue_lt bs
  rw [h] at hlt
  have h64 : leValue bs < 2 ^ 64 := by omega
  have hw : (leValue bs).toUInt64.toNat = leValue bs := by
    rw [Nat.toUInt64_eq, UInt64.toNat_ofNat', Nat.mod_eq_of_lt h64]
  rw [le64, readLe64, List.take_of_length_le (by omega), hw, ← h, leBytes_leValue]

namespace Varint

theorem encode_ne_nil (n : Nat) : encode n ≠ [] := by
  rw [encode]
  split <;> simp

/-- The varint at the front of the bytes is written in its shortest form. -/
def Minimal (bs : List UInt8) : Prop :=
  ∀ n rest, read bs = some (n, rest) → bs = encode n ++ rest

theorem minimal_encode {n : Nat} (h : n < 2 ^ 64) (rest : List UInt8) :
    Minimal (encode n ++ rest) := by
  intro m rest' hm
  rw [read_encode n rest h, Option.some.injEq, Prod.mk.injEq] at hm
  rw [← hm.1, ← hm.2]

end Varint

end Lanes.Bytes

namespace Lanes.Accumulator

open Lanes.Bytes

namespace Acc

/-! ### Forms of single values -/

theorem unmarshalLong_le64 (l : Long) (op : UInt8) (w : UInt64) :
    unmarshalLong l (op :: le64 w) =
      if op.toNat = l.op.code then .ok { l with value := w.toInt64 }
      else .error (mismatch "decode" l.kind ("long." ++ opName op.toNat)) := by
  have h := readLe64_le64 w
  simp only [le64, leBytes] at h ⊢
  simp only [unmarshalLong, h]

theorem unmarshalDouble_le64 (d : Double) (op : UInt8) (w : UInt64) :
    unmarshalDouble d (op :: le64 w) =
      if op.toNat = d.op.toOp.code then .ok { d with value := ⟨w⟩ }
      else .error (mismatch "decode" d.kind ("double." ++ opName op.toNat)) := by
  have h := readLe64_le64 w
  simp only [le64, leBytes] at h ⊢
  simp only [unmarshalDouble, h]

theorem code_toUInt8 (op : Op) : op.code.toUInt8.toNat = op.code :=
  Varint.toNat_toUInt8 (by have := op.code_lt; omega)

theorem length_identityList (ps : List Acc) : (identityList ps).length = ps.length := by
  induction ps with
  | nil => rfl
  | cons _ rest ih => simp [identityList, ih]

/-! ### Lengths inside a tuple's form -/

theorem length_le_marshalList (ps : List Acc) : ps.length ≤ (marshalList ps).length := by
  induction ps with
  | nil => exact Nat.le_refl _
  | cons a rest ih =>
    have h1 : 0 < (Varint.encode (marshal a).length).length :=
      List.length_pos_iff.2 (Varint.encode_ne_nil _)
    simp only [marshalList, List.length_cons, List.length_append]
    omega

theorem marshalList_cons_length (a : Acc) (rest : List Acc) :
    (marshal a).length ≤ (marshalList (a :: rest)).length ∧
      (marshalList rest).length ≤ (marshalList (a :: rest)).length := by
  simp only [marshalList, List.length_append]
  omega

theorem marshal_composed_length (ps : List Acc) :
    ps.length ≤ (marshal (.composed ps)).length ∧
      (marshalList ps).length ≤ (marshal (.composed ps)).length := by
  have := length_le_marshalList ps
  simp only [marshal, List.length_append]
  omega

/-! ### Reading what was written -/

mutual

/-- Reading the form of an accumulator into the identity of its kind gives it back. -/
theorem unmarshal_marshal : ∀ a : Acc, (marshal a).length < 2 ^ 64 →
    unmarshal a.identity a.marshal = (a, none)
  | .long l, _ => by
    simp only [identity, marshal, unmarshal, unmarshalLong_le64, Long.identity, code_toUInt8]
    simp
  | .double d, _ => by
    simp only [identity, marshal, unmarshal, unmarshalDouble_le64, Double.identity, code_toUInt8]
    simp
  | .mean m, _ => by
    have hl : (le64 m.sum.bits ++ le64 m.count.toUInt64).length = 16 := by simp [le64_length]
    have hd : (le64 m.sum.bits ++ le64 m.count.toUInt64).drop 8 = le64 m.count.toUInt64 := by
      simp [le64_length]
    simp only [identity, marshal, unmarshal, unmarshalMean, if_pos hl, hd, readLe64_append,
      readLe64_le64]
    simp
  | .composed ps, h => by
    obtain ⟨hn, hm⟩ := marshal_composed_length ps
    have hread : Varint.read (Varint.encode ps.length ++ marshalList ps) =
        some (ps.length, marshalList ps) := Varint.read_encode _ _ (show _ < 2 ^ 64 by omega)
    have hlist := unmarshalList_marshalList ps (Acc.composed (identityList ps)).kind [] (by omega)
    rw [List.append_nil] at hlist
    simp only [identity, marshal, unmarshal, hread, length_identityList, if_true, hlist]

theorem unmarshalList_marshalList : ∀ (ps : List Acc) (kind : String) (rest : List UInt8),
    (marshalList ps).length < 2 ^ 64 →
    unmarshalList kind (identityList ps) (marshalList ps ++ rest) = (ps, rest, none)
  | [], _, _, _ => rfl
  | a :: ps, kind, rest, h => by
    obtain ⟨ha, hps⟩ := marshalList_cons_length a ps
    have hread : Varint.read (marshalList (a :: ps) ++ rest) =
        some ((marshal a).length, marshal a ++ (marshalList ps ++ rest)) := by
      simp only [marshalList, List.append_assoc]
      exact Varint.read_encode _ _ (show _ < 2 ^ 64 by omega)
    have htake : (marshal a ++ (marshalList ps ++ rest)).take (marshal a).length = marshal a :=
      List.take_left' rfl
    have hdrop : (marshal a ++ (marshalList ps ++ rest)).drop (marshal a).length =
        marshalList ps ++ rest := List.drop_left' rfl
    simp only [identityList, unmarshalList, hread, List.length_append, htake, hdrop,
      unmarshal_marshal a (by omega), unmarshalList_marshalList ps kind rest (by omega)]
    simp

end

/-! ### Lengths fixed by the kind -/

mutual

theorem marshal_length_identity : ∀ a : Acc, a.identity.marshal.length = a.marshal.length
  | .long _ => by simp [identity, marshal, le64_length]
  | .double _ => by simp [identity, marshal, le64_length]
  | .mean _ => by simp [identity, marshal, le64_length]
  | .composed ps => by
    have h := marshalList_length_identityList ps
    simp only [identity, marshal, List.length_append, length_identityList, h]

theorem marshalList_length_identityList : ∀ ps : List Acc,
    (marshalList (identityList ps)).length = (marshalList ps).length
  | [] => rfl
  | a :: rest => by
    have h := marshalList_length_identityList rest
    simp only [identityList, marshalList, List.length_append, marshal_length_identity a, h]

end

theorem encode_length_of_kind_eq {a b : Acc} (h : a.kind = b.kind) :
    a.encode.length = b.encode.length := by
  have hm : a.marshal.length = b.marshal.length := by
    rw [← marshal_length_identity a, identity_eq_of_kind_eq h, marshal_length_identity]
  simp only [encode, List.length_append, h, hm]

end Acc

/-- Writing an envelope and reading it back gives the accumulator. -/
theorem decode_encode_acc (a : Acc) (h : a.encode.length < 2 ^ 64) : decode a.encode = .ok a := by
  have hlen : (a.kind.toUTF8.toList).length = a.kind.utf8ByteSize := utf8_length _
  have hk : a.kind.utf8ByteSize < 2 ^ 64 := by
    rw [Acc.encode, List.length_append, List.length_append, hlen] at h
    omega
  have hm : a.marshal.length < 2 ^ 64 := by
    rw [Acc.encode, List.length_append] at h
    omega
  have hread : Varint.read a.encode = some (a.kind.utf8ByteSize, a.kind.toUTF8.toList ++ a.marshal) := by
    simp only [Acc.encode, List.append_assoc]
    exact Varint.read_encode _ _ hk
  have hnot : ¬ (a.kind.toUTF8.toList ++ a.marshal).length < a.kind.utf8ByteSize := by
    rw [List.length_append, hlen]
    omega
  rw [decode, hread]
  simp only [if_neg hnot]
  rw [← hlen, List.take_left' rfl, List.drop_left' rfl, ofKind_kind]
  simp only [bind, Except.bind]
  rw [Acc.unmarshal_marshal a hm]

/-! ### Writing what was read -/

namespace Acc

theorem op_unmarshalLong {l l' : Long} {p : List UInt8} (h : unmarshalLong l p = .ok l') :
    l'.op = l.op := by
  unfold unmarshalLong at h
  split at h
  · split at h
    · cases h
      rfl
    · cases h
  · cases h

theorem op_unmarshalDouble {d d' : Double} {p : List UInt8} (h : unmarshalDouble d p = .ok d') :
    d'.op = d.op := by
  unfold unmarshalDouble at h
  split at h
  · split at h
    · cases h
      rfl
    · cases h
  · cases h

mutual

theorem identity_unmarshal : ∀ (a : Acc) (p : List UInt8), (unmarshal a p).1.identity = a.identity
  | .long l, p => by
    simp only [unmarshal]
    split
    · rename_i l' h
      simp [identity, Long.identity, op_unmarshalLong h]
    · rfl
  | .double d, p => by
    simp only [unmarshal]
    split
    · rename_i d' h
      simp [identity, Double.identity, op_unmarshalDouble h]
    · rfl
  | .mean m, p => by
    simp only [unmarshal]
    split <;> rfl
  | .composed parts, p => by
    simp only [unmarshal]
    split
    · split
      · rename_i n rest _ _
        have h := identityList_unmarshalList (Acc.composed parts).kind parts rest
        split <;> simp_all [identity]
      · rfl
    · rfl

theorem identityList_unmarshalList : ∀ (kind : String) (parts : List Acc) (p : List UInt8),
    identityList (unmarshalList kind parts p).1 = identityList parts
  | _, [], _ => rfl
  | kind, a :: rest, p => by
    simp only [unmarshalList]
    split
    · rename_i m q _
      split
      · rfl
      · have ha := identity_unmarshal a (q.take m)
        split
        · simp_all [identityList]
        · rename_i a' _
          have hr := identityList_unmarshalList kind rest (q.drop m)
          simp_all [identityList]
    · rfl

end

mutual

/-- Every varint of a form read for the accumulator `a` is in its shortest form: the element
count of each tuple and the length of each element. -/
def MinimalForm : Acc → List UInt8 → Prop
  | .composed parts, p =>
    Varint.Minimal p ∧ ∀ n rest, Varint.read p = some (n, rest) → MinimalElems parts rest
  | .long _, _ => True
  | .double _, _ => True
  | .mean _, _ => True

/-- Every varint of the elements' forms of a tuple is in its shortest form. -/
def MinimalElems : List Acc → List UInt8 → Prop
  | [], _ => True
  | a :: rest, p => Varint.Minimal p ∧ ∀ m q, Varint.read p = some (m, q) →
      MinimalForm a (q.take m) ∧ MinimalElems rest (q.drop m)

end

end Acc

/-- Every varint of an envelope is in its shortest form: the length of the kind name, and those
of the form read for that kind. -/
def MinimalEnvelope (p : List UInt8) : Prop :=
  Varint.Minimal p ∧ ∀ n rest a, Varint.read p = some (n, rest) → ofKind (rest.take n) = .ok a →
    Acc.MinimalForm a (rest.drop n)

namespace Acc

theorem op_byte {op : UInt8} {o : Op} (h : op.toNat = o.code) : o.code.toUInt8 = op :=
  UInt8.toNat_inj.1 (by rw [code_toUInt8, h])

mutual

theorem marshal_of_unmarshal : ∀ {a : Acc} {p : List UInt8} {b : Acc},
    unmarshal a p = (b, none) → MinimalForm a p → b.marshal = p
  | .long l, p, b, h, _ => by
    simp only [unmarshal] at h
    split at h
    · rename_i l' hl
      cases h
      unfold unmarshalLong at hl
      split at hl
      · split at hl
        · rename_i op b0 b1 b2 b3 b4 b5 b6 b7 _ hop
          cases hl
          simp only [marshal, UInt64.toUInt64_toInt64,
            le64_readLe64 (rfl : [b0, b1, b2, b3, b4, b5, b6, b7].length = 8), op_byte hop]
        · cases hl
      · cases hl
    · simp at h
  | .double d, p, b, h, _ => by
    simp only [unmarshal] at h
    split at h
    · rename_i d' hd
      cases h
      unfold unmarshalDouble at hd
      split at hd
      · split at hd
        · rename_i op b0 b1 b2 b3 b4 b5 b6 b7 _ hop
          cases hd
          simp only [marshal, le64_readLe64 (rfl : [b0, b1, b2, b3, b4, b5, b6, b7].length = 8),
            op_byte hop]
        · cases hd
      · cases hd
    · simp at h
  | .mean m, p, b, h, _ => by
    simp only [unmarshal] at h
    split at h
    · rename_i m' hm
      cases h
      unfold unmarshalMean at hm
      split at hm
      · rename_i hl
        cases hm
        have h8 : (p.take 8).length = 8 := by simp [hl]
        have h16 : (p.drop 8).length = 8 := by simp [hl]
        have hfront : readLe64 p = readLe64 (p.take 8) := by
          simp [readLe64, List.take_take]
        simp only [marshal, UInt64.toUInt64_toInt64]
        rw [hfront, le64_readLe64 h8, le64_readLe64 h16, List.take_append_drop]
      · cases hm
    · simp at h
  | .composed parts, p, b, h, hmin => by
    simp only [unmarshal] at h
    split at h
    · rename_i n rest hread
      split at h
      · rename_i hn
        rcases hl : unmarshalList (Acc.composed parts).kind parts rest with ⟨parts', left, e⟩
        rw [hl] at h
        cases e with
        | some f => simp at h
        | none =>
          cases left with
          | cons x xs => simp at h
          | nil =>
            simp only [Prod.mk.injEq] at h
            obtain ⟨rfl, -⟩ := h
            have hlist := marshalList_of_unmarshalList hl (hmin.2 n rest hread)
            have hlen : parts'.length = parts.length := by
              have := congrArg List.length
                (identityList_unmarshalList (Acc.composed parts).kind parts rest)
              rwa [hl, length_identityList, length_identityList] at this
            rw [List.append_nil] at hlist
            rw [marshal, hlen, ← hn, hlist]
            exact (hmin.1 n rest hread).symm
      · simp at h
    · simp at h

theorem marshalList_of_unmarshalList : ∀ {kind : String} {parts : List Acc} {p : List UInt8}
    {parts' : List Acc} {left : List UInt8},
    unmarshalList kind parts p = (parts', left, none) → MinimalElems parts p →
    marshalList parts' ++ left = p
  | _, [], p, parts', left, h, _ => by
    simp only [unmarshalList, Prod.mk.injEq] at h
    obtain ⟨rfl, rfl, -⟩ := h
    rfl
  | kind, a :: rest, p, parts', left, h, hmin => by
    simp only [unmarshalList] at h
    split at h
    · rename_i m q hread
      split at h
      · simp at h
      · rename_i hq
        split at h
        · simp at h
        · rename_i a' ha
          rcases hr : unmarshalList kind rest (q.drop m) with ⟨rest', left', e⟩
          rw [hr] at h
          simp only [Prod.mk.injEq] at h
          obtain ⟨rfl, rfl, rfl⟩ := h
          obtain ⟨hp, hmin'⟩ := hmin
          obtain ⟨hfa, hfr⟩ := hmin' m q hread
          have hma := marshal_of_unmarshal ha hfa
          have hmr := marshalList_of_unmarshalList hr hfr
          have hlen : (q.take m).length = m := by simp; omega
          rw [marshalList, hma, hlen, List.append_assoc, List.append_assoc, hmr,
            List.take_append_drop]
          exact (hp m q hread).symm
    · simp at h

end

end Acc

/-- An envelope read without failure, whose varints are all in their shortest form, is the
envelope written for what was read. -/
theorem encode_of_decode {p : List UInt8} {b : Acc} (h : decode p = .ok b)
    (hmin : MinimalEnvelope p) : b.encode = p := by
  unfold decode at h
  split at h
  · rename_i n rest hread
    split at h
    · cases h
    · rename_i hn
      cases ha : ofKind (rest.take n) with
      | error f =>
        simp [ha, bind, Except.bind] at h
      | ok a =>
        simp only [ha, bind, Except.bind] at h
        split at h
        · rename_i b' hb
          cases h
          have hk := kind_ofKind ha
          have hkind : b.kind = a.kind := by
            rw [← Acc.kind_identity b, ← Acc.kind_identity a]
            have := Acc.identity_unmarshal a (rest.drop n)
            rw [hb] at this
            exact congrArg Acc.kind this
          have hm := Acc.marshal_of_unmarshal hb (hmin.2 n rest a hread ha)
          have hsize : b.kind.utf8ByteSize = n := by
            rw [← utf8_length, hkind, hk]
            simp
            omega
          rw [Acc.encode, hsize, hkind, hk, hm, List.append_assoc, List.take_append_drop]
          exact (hmin.1 n rest hread).symm
        · cases h
  · cases h


/-! ### The envelopes that writing produces -/

namespace Acc

mutual

theorem minimalForm_marshal : ∀ a : Acc, (marshal a).length < 2 ^ 64 →
    MinimalForm a.identity a.marshal
  | .long _, _ => trivial
  | .double _, _ => trivial
  | .mean _, _ => trivial
  | .composed ps, h => by
    obtain ⟨hn, hm⟩ := marshal_composed_length ps
    simp only [identity, marshal]
    refine ⟨Varint.minimal_encode (by omega) _, fun n rest hread => ?_⟩
    rw [Varint.read_encode _ _ (show _ < 2 ^ 64 by omega), Option.some.injEq, Prod.mk.injEq] at hread
    rw [← hread.2, ← List.append_nil (marshalList ps)]
    exact minimalElems_marshalList ps [] (by omega)

theorem minimalElems_marshalList : ∀ (ps : List Acc) (rest : List UInt8),
    (marshalList ps).length < 2 ^ 64 → MinimalElems (identityList ps) (marshalList ps ++ rest)
  | [], _, _ => trivial
  | a :: ps, rest, h => by
    obtain ⟨ha, hps⟩ := marshalList_cons_length a ps
    have hform : marshalList (a :: ps) ++ rest =
        Varint.encode (marshal a).length ++ (marshal a ++ (marshalList ps ++ rest)) := by
      simp only [marshalList, List.append_assoc]
    rw [hform]
    refine ⟨Varint.minimal_encode (by omega) _, fun m q hread => ?_⟩
    rw [Varint.read_encode _ _ (show _ < 2 ^ 64 by omega), Option.some.injEq, Prod.mk.injEq] at hread
    rw [← hread.1, ← hread.2, List.take_left' rfl, List.drop_left' rfl]
    exact ⟨minimalForm_marshal a (by omega), minimalElems_marshalList ps rest (by omega)⟩

end

end Acc

/-- What writing produces has its varints in their shortest form. -/
theorem minimalEnvelope_encode (a : Acc) (h : a.encode.length < 2 ^ 64) :
    MinimalEnvelope a.encode := by
  have hlen : (a.kind.toUTF8.toList).length = a.kind.utf8ByteSize := utf8_length _
  have hk : a.kind.utf8ByteSize < 2 ^ 64 := by
    rw [Acc.encode, List.length_append, List.length_append, hlen] at h
    omega
  have hm : a.marshal.length < 2 ^ 64 := by
    rw [Acc.encode, List.length_append] at h
    omega
  have hform : a.encode = Varint.encode a.kind.utf8ByteSize ++ (a.kind.toUTF8.toList ++ a.marshal) := by
    simp only [Acc.encode, List.append_assoc]
  rw [hform]
  refine ⟨Varint.minimal_encode hk _, fun n rest b hread hb => ?_⟩
  rw [Varint.read_encode _ _ hk, Option.some.injEq, Prod.mk.injEq] at hread
  rw [← hread.1, ← hread.2, ← hlen, List.take_left' rfl, ofKind_kind, Except.ok.injEq] at *
  rw [← hb, List.drop_left' rfl]
  exact Acc.minimalForm_marshal a hm


/-- **Writing and reading envelopes are inverse.** Every accumulator, through nested tuples of
any depth and arity, reads back from its envelope. The envelopes that read without failure and
have every varint in its shortest form are exactly those that writing produces: each is the
envelope of what it reads as. -/
theorem envelope_round_trip :
    (∀ a : Acc, a.encode.length < 2 ^ 64 → decode a.encode = .ok a ∧ MinimalEnvelope a.encode) ∧
    (∀ (p : List UInt8) (b : Acc), decode p = .ok b → MinimalEnvelope p → b.encode = p) :=
  ⟨fun a h => ⟨decode_encode_acc a h, minimalEnvelope_encode a h⟩,
    fun _ _ h hmin => encode_of_decode h hmin⟩


/-- A tuple of a negative sum, a tuple holding a mean whose sum is a NaN with a payload, and a
maximum at negative zero reads back from its envelope, which is minimal. -/
theorem envelope_round_trip_nested :
    let a : Acc := .composed [.long ⟨.sum, -5⟩, .composed [.mean ⟨⟨0x7ff8000000000001⟩, 3⟩],
      .double ⟨.max, ⟨0x8000000000000000⟩⟩]
    a.encode.length < 2 ^ 64 ∧ decode a.encode = .ok a ∧ MinimalEnvelope a.encode := by
  intro a
  have hb : a.encode.length < 2 ^ 64 := by decide +kernel
  exact ⟨hb, envelope_round_trip.1 a hb⟩

end Lanes.Accumulator
