import Lanes.Accumulator.Registry
import Mathlib

/-!
Kind names read back.

The kind of an accumulator is text made of the twelve named kinds, commas and parentheses, and
`ofKind` reads such text back into the identity accumulator of its kind. Reading splits a tuple
kind at the commas outside parentheses; the kind of an element is balanced, so that the splitter
passes over it as a whole (`transparent_kind`) and the pieces it cuts are exactly the kinds of
the elements.

Main statements: the kind of every accumulator reads back to its identity (`ofKind_kind`), and
what `ofKind` reads has as its kind the text it was read from (`kind_ofKind`). Hence the kind
alone fixes the identity (`identity_eq_of_kind_eq`).
-/

namespace Lanes.Bytes

/-! ### Byte arrays as lists -/

theorem toList_loop (bs : ByteArray) (i : Nat) (r : List UInt8) :
    ByteArray.toList.loop bs i r = r.reverse ++ bs.data.toList.drop i := by
  fun_induction ByteArray.toList.loop bs i r with
  | case1 i r h ih =>
    have hi : i < bs.data.toList.length := by simpa using h
    rw [ih, List.drop_eq_getElem_cons hi]
    simp [ByteArray.get!, h]
  | case2 i r h =>
    rw [List.drop_eq_nil_of_le (by simpa using Nat.le_of_not_lt h)]
    simp

theorem toList_eq_data (bs : ByteArray) : bs.toList = bs.data.toList := by
  simp [ByteArray.toList, toList_loop]

theorem utf8_append (s t : String) :
    (s ++ t).toUTF8.toList = s.toUTF8.toList ++ t.toUTF8.toList := by
  simp [toList_eq_data]

theorem utf8_length (s : String) : s.toUTF8.toList.length = s.utf8ByteSize := by
  simp [toList_eq_data, ← String.size_toByteArray]

end Lanes.Bytes

namespace Lanes.Accumulator

open Lanes.Bytes

/-! ### The splitter -/

section Split

open splitTopLevel (go)

theorem go_open (d : Nat) (cur rest : List UInt8) (done : List (List UInt8)) :
    go d cur done (40 :: rest) = go (d + 1) (40 :: cur) done rest := by
  simp [go]

theorem go_close (d : Nat) (cur rest : List UInt8) (done : List (List UInt8)) :
    go (d + 1) cur done (41 :: rest) = go d (41 :: cur) done rest := by
  simp [go]

theorem go_comma_top (cur rest : List UInt8) (done : List (List UInt8)) :
    go 0 cur done (44 :: rest) = go 0 [] (cur.reverse :: done) rest := by
  simp [go]

theorem go_comma_inner (d : Nat) (cur rest : List UInt8) (done : List (List UInt8)) :
    go (d + 1) cur done (44 :: rest) = go (d + 1) (44 :: cur) done rest := by
  simp [go]

theorem go_other {b : UInt8} (h40 : b ≠ 40) (h41 : b ≠ 41) (h44 : b ≠ 44) (d : Nat)
    (cur rest : List UInt8) (done : List (List UInt8)) :
    go d cur done (b :: rest) = go d (b :: cur) done rest := by
  simp [go, h40, h41, h44]

/-- Bytes the splitter passes over whole, at every depth: after them it is back at the depth it
started from, with the bytes added to the piece it is cutting. -/
def Transparent (k : List UInt8) : Prop :=
  ∀ d cur done rest, go d cur done (k ++ rest) = go d (k.reverse ++ cur) done rest

theorem transparent_plain : ∀ {k : List UInt8}, (∀ b ∈ k, b ≠ 40 ∧ b ≠ 41 ∧ b ≠ 44) →
    Transparent k
  | [], _ => fun d cur done rest => rfl
  | b :: k, h => by
    intro d cur done rest
    obtain ⟨h40, h41, h44⟩ := h b (by simp)
    have ih := transparent_plain (k := k) (fun x hx => h x (by simp [hx]))
    rw [List.cons_append, go_other h40 h41 h44, ih]
    simp

theorem go_intercalate_inner {ks : List (List UInt8)} (hks : ∀ k ∈ ks, Transparent k) (d : Nat)
    (cur rest : List UInt8) (done : List (List UInt8)) :
    go (d + 1) cur done ([44].intercalate ks ++ rest) =
      go (d + 1) (([44].intercalate ks).reverse ++ cur) done rest := by
  induction ks generalizing cur with
  | nil => rfl
  | cons k ks ih =>
    cases ks with
    | nil => simpa using hks k (by simp) (d + 1) cur done rest
    | cons k' ks =>
      have hk := hks k (by simp)
      have ih' := ih (fun x hx => hks x (List.mem_cons_of_mem k hx))
      rw [List.intercalate_cons_cons, List.append_assoc, List.append_assoc, hk,
        List.singleton_append, go_comma_inner, ih']
      simp

theorem go_intercalate_top {k : List UInt8} {ks : List (List UInt8)} (hk : Transparent k)
    (hks : ∀ x ∈ ks, Transparent x) (done : List (List UInt8)) :
    go 0 [] done ([44].intercalate (k :: ks)) = some (done.reverse ++ k :: ks) := by
  induction ks generalizing k done with
  | nil =>
    have h := hk 0 [] done []
    simp only [List.append_nil] at h
    simp [h, go]
  | cons k' ks ih =>
    have h := hk 0 [] done (44 :: [44].intercalate (k' :: ks))
    rw [List.intercalate_cons_cons, List.append_assoc, List.singleton_append, h,
      List.append_nil, go_comma_top, List.reverse_reverse,
      ih (hks k' (by simp)) (fun x hx => hks x (List.mem_cons_of_mem k' hx))]
    simp

theorem intercalate_append_pair (sep : List UInt8) (u v : List UInt8) :
    ∀ xs : List (List UInt8),
      sep.intercalate (xs ++ [u, v]) = sep.intercalate (xs ++ [u ++ sep ++ v])
  | [] => by simp
  | x :: xs => by
    rw [List.cons_append, List.cons_append,
      List.intercalate_cons_of_ne_nil (by simp), List.intercalate_cons_of_ne_nil (by simp),
      intercalate_append_pair sep u v xs]

/-- What the splitter cuts joins back, at the commas, into what it read. -/
theorem go_some_intercalate : ∀ {bs : List UInt8} {d : Nat} {cur : List UInt8}
    {done parts : List (List UInt8)}, go d cur done bs = some parts →
      [44].intercalate parts = [44].intercalate (done.reverse ++ [cur.reverse ++ bs])
  | [], d, cur, done, parts, h => by
    simp only [go] at h
    split at h
    · simp_all
    · simp at h
  | b :: bs, d, cur, done, parts, h => by
    simp only [go] at h
    split at h
    · rw [go_some_intercalate h]
      simp_all
    · split at h
      · split at h
        · simp at h
        · rw [go_some_intercalate h]
          simp_all
      · split at h
        · rename_i hc
          rw [go_some_intercalate h, hc.1]
          simp only [List.reverse_cons, List.reverse_nil, List.nil_append]
          rw [List.append_assoc, List.singleton_append, intercalate_append_pair]
          simp
        · rw [go_some_intercalate h]
          simp

end Split

/-! ### The bytes of kinds -/

theorem tuplePrefix_eq : tuplePrefix = [99, 111, 109, 112, 111, 115, 101, 100] ++ [40] := by
  decide +kernel

theorem kindList_bytes (ps : List Acc) :
    (Acc.kindList ps).toUTF8.toList = [44].intercalate (ps.map fun a => a.kind.toUTF8.toList) := by
  induction ps with
  | nil => simp [Acc.kindList, toList_eq_data]
  | cons a rest ih =>
    cases rest with
    | nil => simp [Acc.kindList]
    | cons b rest =>
      have hc : ",".toUTF8.toList = [44] := by decide +kernel
      rw [Acc.kindList, utf8_append, utf8_append, ih, hc]
      simp

theorem kind_composed_bytes (ps : List Acc) :
    (Acc.composed ps).kind.toUTF8.toList =
      tuplePrefix ++ [44].intercalate (ps.map fun a => a.kind.toUTF8.toList) ++ [41] := by
  have hp : "composed(".toUTF8.toList = tuplePrefix := rfl
  have hc : ")".toUTF8.toList = [41] := by decide +kernel
  rw [Acc.kind, utf8_append, utf8_append, hp, hc, kindList_bytes]

/-- The kinds known by name have distinct texts, none with a parenthesis or a comma, and none
starting as a tuple kind does. -/
theorem named_kinds_nodup : (named.map fun a => a.kind.toUTF8.toList).Nodup := by
  decide +kernel

theorem named_kinds_plain : ∀ a ∈ named, ∀ b ∈ a.kind.toUTF8.toList, b ≠ 40 ∧ b ≠ 41 ∧ b ≠ 44 := by
  decide +kernel

theorem named_kinds_head :
    ∀ a ∈ named, a.kind.toUTF8.toList ≠ [] ∧ a.kind.toUTF8.toList.head? ≠ some 99 := by
  decide +kernel

theorem find?_named {x : Acc} (hx : x ∈ named) :
    named.find? (fun n => n.kind.toUTF8.toList == x.kind.toUTF8.toList) = some x := by
  cases h : named.find? (fun n => n.kind.toUTF8.toList == x.kind.toUTF8.toList) with
  | none =>
    have := List.find?_eq_none.1 h x hx
    simp at this
  | some y =>
    have hy : y ∈ named := List.mem_of_find?_eq_some h
    have hk : y.kind.toUTF8.toList = x.kind.toUTF8.toList := by
      simpa using List.find?_some h
    rw [List.inj_on_of_nodup_map named_kinds_nodup hy hx hk]

theorem find?_named_tuple (ps : List Acc) :
    named.find? (fun n => n.kind.toUTF8.toList == (Acc.composed ps).kind.toUTF8.toList) = none := by
  rw [List.find?_eq_none]
  intro n hn
  have hh := (named_kinds_head n hn).2
  rw [kind_composed_bytes, tuplePrefix_eq]
  intro he
  rw [beq_iff_eq.1 he] at hh
  simp at hh

theorem identity_mem_named : ∀ a : Acc, (∀ ps, a ≠ .composed ps) → a.identity ∈ named
  | .long l, _ => by cases l with | mk op v => cases op <;> simp [named, Acc.identity]
  | .double d, _ => by cases d with | mk op v => cases op <;> simp [named, Acc.identity]
  | .mean _, _ => by simp [named, Acc.identity]
  | .composed ps, h => absurd rfl (h ps)

theorem plain_of_base {a : Acc} (h : ∀ ps, a ≠ .composed ps) :
    ∀ b ∈ a.kind.toUTF8.toList, b ≠ 40 ∧ b ≠ 41 ∧ b ≠ 44 := by
  rw [← Acc.kind_identity a]
  exact named_kinds_plain _ (identity_mem_named a h)

/-! ### Kinds are balanced -/

mutual

/-- The splitter passes over a kind whole. -/
theorem transparent_kind : ∀ a : Acc, Transparent a.kind.toUTF8.toList
  | .composed ps => by
    intro d cur done rest
    have hp : Transparent [99, 111, 109, 112, 111, 115, 101, 100] := transparent_plain (by simp)
    rw [kind_composed_bytes, tuplePrefix_eq]
    simp only [List.append_assoc]
    rw [hp, List.singleton_append, go_open, go_intercalate_inner (transparent_kindList ps),
      List.singleton_append, go_close]
    simp
  | .long l => transparent_plain (plain_of_base (a := .long l) (by simp))
  | .double d => transparent_plain (plain_of_base (a := .double d) (by simp))
  | .mean m => transparent_plain (plain_of_base (a := .mean m) (by simp))

theorem transparent_kindList : ∀ ps : List Acc,
    ∀ k ∈ ps.map (fun a => a.kind.toUTF8.toList), Transparent k
  | [] => by simp
  | a :: rest => by
    intro k hk
    rcases List.mem_cons.1 hk with rfl | hk
    · exact transparent_kind a
    · exact transparent_kindList rest k hk

end

/-! ### Tuple kinds cut into their elements -/

theorem tupleParts_tuple (inner : List UInt8) :
    tupleParts (tuplePrefix ++ inner ++ [41]) = if inner = [] then some [] else splitTopLevel inner := by
  simp [tupleParts]

theorem kind_bytes_ne_nil (a : Acc) : a.kind.toUTF8.toList ≠ [] := by
  by_cases h : ∃ ps, a = .composed ps
  · obtain ⟨ps, rfl⟩ := h
    rw [kind_composed_bytes]
    simp
  · have hh := (named_kinds_head _ (identity_mem_named a (fun ps he => h ⟨ps, he⟩))).1
    rwa [Acc.kind_identity] at hh

/-- A tuple kind is cut into the kinds of its elements. -/
theorem tupleParts_kind (ps : List Acc) :
    tupleParts (Acc.composed ps).kind.toUTF8.toList = some (ps.map fun a => a.kind.toUTF8.toList) := by
  rw [kind_composed_bytes, tupleParts_tuple]
  cases ps with
  | nil => simp
  | cons a rest =>
    have hne : [44].intercalate ((a :: rest).map fun a => a.kind.toUTF8.toList) ≠ [] := by
      cases rest with
      | nil => simpa using kind_bytes_ne_nil a
      | cons b rest => simp
    rw [if_neg hne, splitTopLevel, List.map_cons,
      go_intercalate_top (transparent_kind a) (transparent_kindList rest)]
    simp

theorem eq_of_tupleParts {k : List UInt8} {parts : List (List UInt8)}
    (h : tupleParts k = some parts) : k = tuplePrefix ++ [44].intercalate parts ++ [41] := by
  unfold tupleParts at h
  split at h
  · rename_i hk
    obtain ⟨hpre, hlast, hlen⟩ := hk
    obtain ⟨s, rfl⟩ := List.isPrefixOf_iff_prefix.1 hpre
    have hs : s ≠ [] := by
      intro hs
      simp [hs] at hlen
    have hs41 : s.getLast hs = 41 := by
      rw [List.getLast?_append, List.getLast?_eq_some_getLast hs] at hlast
      simpa using hlast
    have hsplit : s = s.dropLast ++ [41] := by
      rw [← hs41, List.dropLast_concat_getLast]
    simp only [List.drop_left, List.append_assoc] at h ⊢
    split at h
    · rename_i he
      simp only [Option.some.injEq] at h
      subst h
      rw [hsplit, List.isEmpty_iff.1 he]
      simp
    · have hj := go_some_intercalate h
      simp only [List.reverse_nil, List.nil_append] at hj
      rw [hj, List.intercalate_singleton, ← hsplit]
  · simp at h

theorem length_le_intercalate (sep : List UInt8) :
    ∀ {xs : List (List UInt8)} {x : List UInt8}, x ∈ xs → x.length ≤ (sep.intercalate xs).length
  | [], _, hx => absurd hx List.not_mem_nil
  | [y], x, hx => by
    rw [List.mem_singleton.1 hx]
    simp
  | y :: z :: rest, x, hx => by
    rw [List.intercalate_cons_cons]
    rcases List.mem_cons.1 hx with rfl | hx
    · simp only [List.length_append]
      omega
    · have := length_le_intercalate sep hx
      simp only [List.length_append]
      omega

theorem kind_length_lt {a : Acc} {ps : List Acc} (ha : a ∈ ps) :
    a.kind.toUTF8.toList.length < (Acc.composed ps).kind.toUTF8.toList.length := by
  have hle := length_le_intercalate [44] (List.mem_map_of_mem (f := fun a => a.kind.toUTF8.toList) ha)
  rw [kind_composed_bytes]
  simp only [List.length_append, List.length_singleton]
  omega

/-! ### Reading kinds -/

mutual

/-- With fuel beyond the length of its text, a kind reads back to the identity. -/
theorem ofKindWithin_kind : ∀ (a : Acc) (fuel : Nat), a.kind.toUTF8.toList.length < fuel →
    ofKindWithin fuel a.kind.toUTF8.toList = .ok a.identity
  | _, 0, h => absurd h (Nat.not_lt_zero _)
  | .composed ps, fuel + 1, h => by
    have hparts : ∀ x ∈ ps, x.kind.toUTF8.toList.length < fuel := fun x hx => by
      have := kind_length_lt hx
      omega
    rw [ofKindWithin, find?_named_tuple, tupleParts_kind]
    dsimp only
    rw [mapM_ofKindWithin ps fuel hparts]
    rfl
  | .long l, fuel + 1, _ => by
    rw [ofKindWithin, ← Acc.kind_identity (.long l),
      find?_named (identity_mem_named (.long l) (by simp))]
  | .double d, fuel + 1, _ => by
    rw [ofKindWithin, ← Acc.kind_identity (.double d),
      find?_named (identity_mem_named (.double d) (by simp))]
  | .mean m, fuel + 1, _ => by
    rw [ofKindWithin, ← Acc.kind_identity (.mean m),
      find?_named (identity_mem_named (.mean m) (by simp))]

theorem mapM_ofKindWithin : ∀ (ps : List Acc) (fuel : Nat),
    (∀ a ∈ ps, a.kind.toUTF8.toList.length < fuel) →
    (ps.map fun a => a.kind.toUTF8.toList).mapM (ofKindWithin fuel) = .ok (Acc.identityList ps)
  | [], _, _ => rfl
  | a :: rest, fuel, h => by
    rw [List.map_cons, List.mapM_cons, ofKindWithin_kind a fuel (h a (by simp)),
      mapM_ofKindWithin rest fuel (fun x hx => h x (by simp [hx]))]
    rfl

end

/-- The kind of every accumulator reads back to its identity. -/
theorem ofKind_kind (a : Acc) : ofKind a.kind.toUTF8.toList = .ok a.identity :=
  ofKindWithin_kind a _ (Nat.lt_succ_self _)

theorem kinds_of_mapM {fuel : Nat} (ih : ∀ k a, ofKindWithin fuel k = .ok a → a.kind.toUTF8.toList = k) :
    ∀ {parts : List (List UInt8)} {as : List Acc}, parts.mapM (ofKindWithin fuel) = .ok as →
      as.map (fun a => a.kind.toUTF8.toList) = parts
  | [], as, h => by
    simp only [List.mapM_nil, pure, Except.pure, Except.ok.injEq] at h
    simp [← h]
  | k :: parts, as, h => by
    rw [List.mapM_cons] at h
    cases hk : ofKindWithin fuel k with
    | error f =>
      rw [hk] at h
      cases h
    | ok a =>
      cases hp : parts.mapM (ofKindWithin fuel) with
      | error f =>
        rw [hk, hp] at h
        cases h
      | ok as' =>
        rw [hk, hp] at h
        cases h
        rw [List.map_cons, ih k a hk, kinds_of_mapM ih hp]

/-- What is read from a text has that text as its kind. -/
theorem kind_ofKindWithin : ∀ {fuel : Nat} {k : List UInt8} {a : Acc},
    ofKindWithin fuel k = .ok a → a.kind.toUTF8.toList = k
  | 0, _, _, h => by simp [ofKindWithin] at h
  | fuel + 1, k, a, h => by
    rw [ofKindWithin] at h
    split at h
    · rename_i n hn
      cases h
      simpa using List.find?_some hn
    · split at h
      · rename_i parts hparts
        cases hm : parts.mapM (ofKindWithin fuel) with
        | error f =>
          rw [hm] at h
          cases h
        | ok as =>
          rw [hm] at h
          cases h
          rw [kind_composed_bytes, kinds_of_mapM (fun k a h => kind_ofKindWithin h) hm]
          exact (eq_of_tupleParts hparts).symm
      · cases h

/-- What `ofKind` reads has as its kind the text it was read from. -/
theorem kind_ofKind {k : List UInt8} {a : Acc} (h : ofKind k = .ok a) : a.kind.toUTF8.toList = k :=
  kind_ofKindWithin h

/-- The kind alone fixes the identity. -/
theorem identity_eq_of_kind_eq {a b : Acc} (h : a.kind = b.kind) : a.identity = b.identity := by
  have ha := ofKind_kind a
  rw [h, ofKind_kind b] at ha
  exact (Except.ok.inj ha).symm

end Lanes.Accumulator
