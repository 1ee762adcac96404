import Lanes.Pipeline.Table
import Lanes.Proofs.Reduction

/-!
Tables as finite maps.

A table stands for one finite map from keys to accumulators, `Table.toMap`: a key's entry is
looked up in the stripe its hash picks. Every table that updates and freezes reach from a new
table keeps its 64 stripes in order (`Table.Striped`): each stripe holds its keys in strictly
increasing byte order, and only keys that hash to it, so no key is in two stripes. Every entry is
of the table's kind (`Table.Valid`). On such a table, when the kind reduces, an update succeeds
exactly when it is of the table's kind and the table is not frozen; it then combines into the map
at its key, from the kind's identity for a new key. Every other update fails with a failed
precondition and leaves the table as it was. Looking a key up, the keys gathered from every
stripe and sorted, the sum of the stripes' counts, the visit and the snapshot all read that one
map (`Table.MapLaws`). Values are immutable, so what a read returns is a copy that no later
change of the table reaches.

Main statement: `table_refines_map`.
-/

namespace Lanes.Pipeline

open Lanes.Accumulator

/-! ### Byte order -/

theorem keyLT_cons {x y : UInt8} {a b : Key} :
    keyLT (x :: a) (y :: b) = true ↔ x < y ∨ x = y ∧ keyLT a b = true := by
  simp only [keyLT]
  by_cases hxy : x < y
  · simp [hxy]
  · by_cases hyx : y < x
    · have hne : x ≠ y := by grind
      simp [hyx, hne]
    · have heq : x = y := by grind
      simp [heq]

theorem keyLT_irrefl : ∀ k : Key, keyLT k k = false
  | [] => rfl
  | a :: k => by simp [keyLT, keyLT_irrefl k]

theorem keyLT_trans : ∀ {a b c : Key}, keyLT a b = true → keyLT b c = true → keyLT a c = true
  | [], _ :: _, _ :: _, _, _ => rfl
  | x :: a, y :: b, z :: c, h₁, h₂ => by
    rw [keyLT_cons] at h₁ h₂ ⊢
    rcases h₁ with hxy | ⟨rfl, hab⟩ <;> rcases h₂ with hyz | ⟨rfl, hbc⟩
    · exact .inl (UInt8.lt_trans hxy hyz)
    · exact .inl hxy
    · exact .inl hyz
    · exact .inr ⟨rfl, keyLT_trans hab hbc⟩
  | [], [], _, h, _ => by simp [keyLT] at h
  | _ :: _, [], _, h, _ => by simp [keyLT] at h
  | _, _ :: _, [], _, h => by simp [keyLT] at h

theorem keyLT_trichotomy : ∀ a b : Key, keyLT a b = true ∨ a = b ∨ keyLT b a = true
  | [], [] => .inr (.inl rfl)
  | [], _ :: _ => .inl rfl
  | _ :: _, [] => .inr (.inr rfl)
  | x :: a, y :: b => by
    rw [keyLT_cons, keyLT_cons]
    have hxy : x < y ∨ x = y ∨ y < x := by grind
    rcases hxy with hxy | rfl | hyx
    · exact .inl (.inl hxy)
    · rcases keyLT_trichotomy a b with h | rfl | h
      · exact .inl (.inr ⟨rfl, h⟩)
      · exact .inr (.inl rfl)
      · exact .inr (.inr (.inr ⟨rfl, h⟩))
    · exact .inr (.inr (.inl hyx))

theorem ne_of_keyLT {a b : Key} (h : keyLT a b = true) : a ≠ b := by
  rintro rfl
  simp [keyLT_irrefl] at h

theorem keyLT_asymm {a b : Key} (h : keyLT a b = true) : keyLT b a = false := by
  cases hba : keyLT b a
  · rfl
  · have := keyLT_trans h hba
    rw [keyLT_irrefl] at this
    cases this

theorem keyLE_iff {a b : Key} : keyLE a b = true ↔ keyLT a b = true ∨ a = b := by
  rw [keyLE, Bool.not_eq_true']
  constructor
  · intro hba
    rcases keyLT_trichotomy a b with h | h | h
    · exact .inl h
    · exact .inr h
    · rw [h] at hba
      cases hba
  · rintro (h | rfl)
    · exact keyLT_asymm h
    · exact keyLT_irrefl a

theorem keyLE_trans (a b c : Key) (h₁ : keyLE a b = true) (h₂ : keyLE b c = true) :
    keyLE a c = true := by
  rw [keyLE_iff] at h₁ h₂ ⊢
  rcases h₁ with h₁ | rfl
  · rcases h₂ with h₂ | rfl
    · exact .inl (keyLT_trans h₁ h₂)
    · exact .inl h₁
  · exact h₂

theorem keyLE_total (a b : Key) : (keyLE a b || keyLE b a) = true := by
  rw [Bool.or_eq_true, keyLE_iff, keyLE_iff]
  rcases keyLT_trichotomy a b with h | h | h
  · exact .inl (.inl h)
  · exact .inl (.inr h)
  · exact .inr (.inl h)

/-! ### Entries in key order -/

/-- Entries whose keys strictly increase. -/
def Sorted (es : List (Key × Acc)) : Prop := es.Pairwise fun x y => keyLT x.1 y.1 = true

theorem Sorted.nodup_keys {es : List (Key × Acc)} (h : Sorted es) : (es.map (·.1)).Nodup :=
  List.pairwise_map.2 (h.imp fun hxy => ne_of_keyLT hxy)

namespace Table

theorem mem_put {es : List (Key × Acc)} {key : Key} {a : Acc} {e : Key × Acc}
    (h : e ∈ put es key a) : e = (key, a) ∨ e ∈ es := by
  induction es with
  | nil => simpa [put] using h
  | cons x rest ih =>
    obtain ⟨k, b⟩ := x
    simp only [put] at h
    split at h
    · simp only [List.mem_cons] at h
      rcases h with rfl | h
      · exact .inl rfl
      · exact .inr (List.mem_cons_of_mem _ h)
    · split at h
      · simp only [List.mem_cons] at h
        rcases h with rfl | h
        · exact .inl rfl
        · exact .inr (List.mem_cons.2 h)
      · simp only [List.mem_cons] at h
        rcases h with rfl | h
        · exact .inr List.mem_cons_self
        · exact (ih h).imp_right (List.mem_cons_of_mem _)

theorem lookup_cons_ne {k k' : Key} {b : Acc} {es : List (Key × Acc)} (h : k ≠ k') :
    ((k', b) :: es).lookup k = es.lookup k := by
  have hb : (k == k') = false := by simpa using h
  simp [List.lookup, hb]

theorem lookup_put (es : List (Key × Acc)) (key : Key) (a : Acc) (k : Key) :
    (put es key a).lookup k = if k = key then some a else es.lookup k := by
  induction es with
  | nil =>
    by_cases hk : k = key
    · simp [put, hk]
    · simp [put, lookup_cons_ne hk, hk, List.lookup]
  | cons x rest ih =>
    obtain ⟨k', b⟩ := x
    simp only [put]
    split
    · rename_i hk'
      have hk' : k' = key := by simpa using hk'
      subst hk'
      by_cases hk : k = k'
      · simp [hk]
      · simp [lookup_cons_ne hk, hk]
    · rename_i hne
      have hne : k' ≠ key := by simpa using hne
      split
      · by_cases hk : k = key
        · simp [hk]
        · simp [lookup_cons_ne hk, hk]
      · by_cases hk : k = k'
        · subst hk
          simp [hne]
        · simp [lookup_cons_ne hk, ih]

theorem sorted_put {es : List (Key × Acc)} (h : Sorted es) (key : Key) (a : Acc) :
    Sorted (put es key a) := by
  induction es with
  | nil => simp [put, Sorted]
  | cons x rest ih =>
    obtain ⟨k, b⟩ := x
    simp only [Sorted, List.pairwise_cons] at h
    simp only [put]
    split
    · rename_i hk
      have hk : k = key := by simpa using hk
      subst hk
      exact List.pairwise_cons.2 ⟨h.1, h.2⟩
    · split
      · rename_i hlt
        refine List.pairwise_cons.2 ⟨?_, List.pairwise_cons.2 h⟩
        intro e he
        rcases List.mem_cons.1 he with rfl | he
        · exact hlt
        · exact keyLT_trans hlt (h.1 e he)
      · rename_i hne hnlt
        -- the key goes after `k`, so `k` stays first
        have hgt : keyLT k key = true := by
          rcases keyLT_trichotomy key k with hlt | heq | hgt
          · exact absurd hlt hnlt
          · exact absurd (by simp [heq]) hne
          · exact hgt
        refine List.pairwise_cons.2 ⟨?_, ih h.2⟩
        intro e he
        rcases mem_put he with rfl | he
        · exact hgt
        · exact h.1 e he


/-! ### The map a table stands for -/

/-- The finite map a table stands for: each key looked up in its stripe. -/
def toMap (t : Table) (k : Key) : Option Acc := (t.stripe k).lookup k

theorem find?_map_eq_lookup (es : List (Key × Acc)) (k : Key) :
    (es.find? (·.1 == k)).map (·.2) = es.lookup k := by
  induction es with
  | nil => rfl
  | cons x rest ih =>
    obtain ⟨k', b⟩ := x
    by_cases hk : k = k'
    · simp [List.find?, hk]
    · have hk' : (k' == k) = false := by simpa using Ne.symm hk
      simp [List.find?, hk', lookup_cons_ne hk, ih]

theorem get?_eq_toMap (t : Table) (k : Key) : t.get? k = t.toMap k :=
  find?_map_eq_lookup (t.stripe k) k

theorem mem_keys_iff (es : List (Key × Acc)) (k : Key) :
    k ∈ es.map (·.1) ↔ (es.lookup k).isSome := by
  induction es with
  | nil => simp [List.lookup]
  | cons x rest ih =>
    obtain ⟨k', b⟩ := x
    by_cases hk : k = k'
    · simp [hk]
    · simp [lookup_cons_ne hk, hk, ih]

theorem mem_iff_lookup {es : List (Key × Acc)} (h : (es.map (·.1)).Nodup) (k : Key) (a : Acc) :
    (k, a) ∈ es ↔ es.lookup k = some a := by
  induction es with
  | nil => simp [List.lookup]
  | cons x rest ih =>
    obtain ⟨k', b⟩ := x
    simp only [List.map_cons, List.nodup_cons] at h
    by_cases hk : k = k'
    · subst hk
      -- the first entry is the only one with its key
      have hnot : (k, a) ∉ rest := fun hm => h.1 (List.mem_map.2 ⟨_, hm, rfl⟩)
      simp [hnot, eq_comm]
    · simp [lookup_cons_ne hk, hk, ih h.2]

/-- Visits pairs in order, threading the visitor's state, until the visitor answers `false`. -/
def visitUntil {σ : Type} (visit : σ → Key → Acc → σ × Bool) : List (Key × Acc) → σ → σ
  | [], s => s
  | (k, a) :: rest, s =>
    match visit s k a with
    | (s', true) => visitUntil visit rest s'
    | (s', false) => s'

theorem range_go_eq {σ : Type} (t : Table) (visit : σ → Key → Acc → σ × Bool) :
    ∀ (es : List (Key × Acc)) (s : σ), (∀ e ∈ es, t.get? e.1 = some e.2) →
      range.go t visit (es.map (·.1)) s = visitUntil visit es s
  | [], _, _ => rfl
  | (k, a) :: rest, s, h => by
    have ha : t.get? k = some a := h (k, a) List.mem_cons_self
    have hrest : ∀ e ∈ rest, t.get? e.1 = some e.2 := fun e he => h e (List.mem_cons_of_mem _ he)
    simp only [List.map_cons, range.go, ha, visitUntil]
    rcases visit s k a with ⟨s', _ | _⟩
    · rfl
    · exact range_go_eq t visit rest s' hrest

/-! ### Stripes -/

theorem stripeOf_lt (key : Key) : stripeOf key < numStripes := by
  rw [stripeOf]
  exact Nat.mod_lt _ (by decide)

theorem stripe_eq (t : Table) (key : Key) : t.stripe key = (t.stripes[stripeOf key]?).getD [] :=
  List.getD_eq_getElem?_getD

theorem stripes_insert (t : Table) (key : Key) (a : Acc) :
    (t.insert key a).stripes = t.stripes.set (stripeOf key) (put (t.stripe key) key a) := rfl

theorem stripe_congr (t : Table) {key k : Key} (h : stripeOf key = stripeOf k) :
    t.stripe key = t.stripe k := by
  rw [stripe_eq, stripe_eq, h]

theorem keys_eq (t : Table) : t.keys = (t.stripes.flatten.map (·.1)).mergeSort keyLE := by
  rw [keys, List.flatMap_def, List.map_flatten]

theorem snapshot_keys (t : Table) : t.snapshot.map (·.1) = t.keys := by
  rw [keys_eq, snapshot]
  exact List.map_mergeSort fun _ _ _ _ => rfl

/-- How a table lays its entries out: one list for each of the 64 stripes, each in strictly
increasing key order and holding only keys that hash to it. -/
structure Striped (t : Table) : Prop where
  length : t.stripes.length = numStripes
  sorted : ∀ s ∈ t.stripes, Sorted s
  placed : ∀ i s, t.stripes[i]? = some s → ∀ e ∈ s, stripeOf e.1 = i

theorem striped_empty (kind : String) (identity : Acc) (frozen : Bool) :
    (⟨kind, identity, frozen, List.replicate numStripes []⟩ : Table).Striped where
  length := List.length_replicate
  sorted s hs := by
    rw [List.eq_of_mem_replicate hs]
    exact List.Pairwise.nil
  placed i s hi e he := by
    rw [List.getElem?_replicate] at hi
    split at hi
    · cases hi
      cases he
    · cases hi

theorem toMap_empty (kind : String) (identity : Acc) (frozen : Bool) (k : Key) :
    (⟨kind, identity, frozen, List.replicate numStripes []⟩ : Table).toMap k = none := by
  rw [toMap, stripe_eq, List.getElem?_replicate, if_pos (stripeOf_lt k)]
  rfl

namespace Striped

variable {t : Table} (h : t.Striped)
include h

theorem stripe_of_getElem? {i : Nat} {s : List (Key × Acc)} (hi : t.stripes[i]? = some s)
    {e : Key × Acc} (he : e ∈ s) : t.stripe e.1 = s := by
  rw [stripe_eq, h.placed i s hi e he, hi]
  rfl

theorem getElem?_stripe (key : Key) : t.stripes[stripeOf key]? = some (t.stripe key) := by
  have hlt : stripeOf key < t.stripes.length := h.length ▸ stripeOf_lt key
  rw [stripe_eq, List.getElem?_eq_getElem hlt]
  rfl

theorem stripe_mem (key : Key) : t.stripe key ∈ t.stripes :=
  List.mem_of_getElem? (h.getElem?_stripe key)

theorem stripeOf_of_mem_stripe {key : Key} {e : Key × Acc} (he : e ∈ t.stripe key) :
    stripeOf e.1 = stripeOf key :=
  h.placed _ _ (h.getElem?_stripe key) e he

/-- An entry is in the table exactly when it is in its key's stripe. -/
theorem mem_flatten_iff (e : Key × Acc) : e ∈ t.stripes.flatten ↔ e ∈ t.stripe e.1 := by
  constructor
  · intro he
    obtain ⟨s, hs, hes⟩ := List.mem_flatten.1 he
    obtain ⟨i, hi⟩ := List.mem_iff_getElem?.1 hs
    rw [h.stripe_of_getElem? hi hes]
    exact hes
  · intro he
    exact List.mem_flatten.2 ⟨_, h.stripe_mem e.1, he⟩

theorem nodup_stripe (key : Key) : ((t.stripe key).map (·.1)).Nodup :=
  (h.sorted _ (h.stripe_mem key)).nodup_keys

/-- No key is in two stripes, nor twice in one. -/
theorem nodup_keys : (t.stripes.flatten.map (·.1)).Nodup := by
  refine List.pairwise_map.2 (List.pairwise_flatten.2 ⟨fun s hs => (h.sorted s hs).imp ne_of_keyLT, ?_⟩)
  -- the keys of two stripes hash to the two stripes' places
  refine List.pairwise_iff_getElem.2 fun i j hi hj hij x hx y hy hxy => ?_
  have hx' := h.placed i _ (List.getElem?_eq_getElem hi) x hx
  have hy' := h.placed j _ (List.getElem?_eq_getElem hj) y hy
  rw [hxy] at hx'
  omega

theorem mem_map_flatten_iff (k : Key) :
    k ∈ t.stripes.flatten.map (·.1) ↔ (t.toMap k).isSome := by
  rw [toMap, ← mem_keys_iff, List.mem_map, List.mem_map]
  constructor
  · rintro ⟨e, he, rfl⟩
    exact ⟨e, (h.mem_flatten_iff e).1 he, rfl⟩
  · rintro ⟨e, he, rfl⟩
    exact ⟨e, (h.mem_flatten_iff e).2 he, rfl⟩

theorem mem_keys (k : Key) : k ∈ t.keys ↔ (t.toMap k).isSome := by
  rw [keys_eq, List.mem_mergeSort]
  exact h.mem_map_flatten_iff k

/-- The keys gathered from every stripe and sorted strictly increase. -/
theorem keys_sorted : t.keys.Pairwise fun a b => keyLT a b = true := by
  have hn : ((t.stripes.flatten.map (·.1)).mergeSort keyLE).Nodup :=
    (List.mergeSort_perm _ _).nodup_iff.2 h.nodup_keys
  rw [keys_eq]
  refine ((List.pairwise_mergeSort keyLE_trans keyLE_total _).and hn).imp fun hab => ?_
  rcases keyLE_iff.1 hab.1 with hlt | heq
  · exact hlt
  · exact absurd heq hab.2

/-- The sum of the stripes' counts is the number of keys of the map. -/
theorem size_eq (ks : List Key) (hks : ks.Nodup) (hmem : ∀ k, k ∈ ks ↔ (t.toMap k).isSome) :
    t.size = ks.length := by
  have hperm : (t.stripes.flatten.map (·.1)).Perm ks :=
    (List.perm_ext_iff_of_nodup h.nodup_keys hks).2 fun k =>
      (h.mem_map_flatten_iff k).trans (hmem k).symm
  rw [← hperm.length_eq, List.length_map, List.length_flatten]
  rfl

theorem mem_snapshot (k : Key) (a : Acc) : (k, a) ∈ t.snapshot ↔ t.toMap k = some a := by
  rw [snapshot, List.mem_mergeSort, h.mem_flatten_iff]
  exact mem_iff_lookup (h.nodup_stripe k) k a

theorem range_eq {σ : Type} (visit : σ → Key → Acc → σ × Bool) (init : σ) :
    t.range visit init = visitUntil visit t.snapshot init := by
  rw [range, ← snapshot_keys]
  refine range_go_eq t visit t.snapshot init fun e he => ?_
  rw [get?_eq_toMap]
  exact (h.mem_snapshot e.1 e.2).1 he

theorem getElem?_insert (key : Key) (a : Acc) (i : Nat) :
    (t.insert key a).stripes[i]? =
      if stripeOf key = i then some (put (t.stripe key) key a) else t.stripes[i]? := by
  have hlt : stripeOf key < t.stripes.length := h.length ▸ stripeOf_lt key
  rw [stripes_insert, List.getElem?_set, if_pos hlt]

theorem stripe_insert (key k : Key) (a : Acc) :
    (t.insert key a).stripe k =
      if stripeOf key = stripeOf k then put (t.stripe k) key a else t.stripe k := by
  rw [stripe_eq, h.getElem?_insert]
  split
  · rename_i hk
    rw [Option.getD_some, stripe_congr t hk]
  · rw [stripe_eq]

theorem toMap_insert (key : Key) (a : Acc) :
    (t.insert key a).toMap = Function.update t.toMap key (some a) := by
  funext k
  rw [toMap, h.stripe_insert key k a, Function.update]
  by_cases hk : k = key
  · subst hk
    simp [lookup_put]
  · -- another key reads its stripe as before, whether or not `key` shares it
    rw [dif_neg hk, toMap]
    split
    · rw [lookup_put, if_neg hk]
    · rfl

theorem insert (key : Key) (a : Acc) : (t.insert key a).Striped where
  length := by rw [stripes_insert, List.length_set, h.length]
  sorted s hs := by
    rw [stripes_insert] at hs
    rcases List.mem_or_eq_of_mem_set hs with hs | rfl
    · exact h.sorted s hs
    · exact sorted_put (h.sorted _ (h.stripe_mem key)) key a
  placed i s hi e he := by
    rw [h.getElem?_insert] at hi
    split at hi
    · -- the key's own stripe: the new entry, or one of the stripe's own
      rename_i hk
      cases hi
      rcases mem_put he with rfl | he
      · exact hk
      · exact (h.stripeOf_of_mem_stripe he).trans hk
    · exact h.placed i s hi e he

theorem mem_flatten_insert {key : Key} {a : Acc} {e : Key × Acc}
    (he : e ∈ (t.insert key a).stripes.flatten) : e = (key, a) ∨ e ∈ t.stripes.flatten := by
  rw [(h.insert key a).mem_flatten_iff, h.stripe_insert] at he
  rw [h.mem_flatten_iff]
  split at he
  · exact mem_put he
  · exact .inr he

theorem freeze : t.freeze.Striped :=
  ⟨h.length, h.sorted, h.placed⟩

end Striped

/-! ### What every reachable table keeps -/

/-- What every table reached from a new one keeps: its stripes in order, every entry of the
table's kind, the kind of the table's identity, and a kind that reduces. -/
structure Valid (t : Table) : Prop extends Striped t where
  kinds : ∀ e ∈ t.stripes.flatten, e.2.kind = t.kind
  identity_kind : t.identity.kind = t.kind
  reduces : t.identity.reduces = true

/-- The tables that a sequence of updates and freezes leads to from `t`. -/
inductive Reaches (t : Table) : Table → Prop
  | refl : Reaches t t
  | combine {s : Table} (key : Key) (update : Option Acc) :
      Reaches t s → Reaches t (s.combine key update).1
  | freeze {s : Table} : Reaches t s → Reaches t s.freeze

theorem create_kind (a : Acc) :
    create a.kind.toUTF8.toList =
      .ok ⟨a.identity.kind, a.identity, false, List.replicate numStripes []⟩ := by
  simp only [create, ofKind_kind]
  rfl

theorem create_ok {K : List UInt8} {t : Table} (h : create K = .ok t) :
    ∃ a, ofKind K = .ok a ∧ t = ⟨a.kind, a, false, List.replicate numStripes []⟩ := by
  simp only [create] at h
  rcases hk : ofKind K with f | a
  · rw [hk] at h
    cases h
  · rw [hk] at h
    exact ⟨a, rfl, (Except.ok.inj h).symm⟩

theorem valid_create {K : List UInt8} {t : Table} (h : create K = .ok t)
    (hr : t.identity.reduces = true) : t.Valid := by
  obtain ⟨a, -, rfl⟩ := create_ok h
  exact ⟨striped_empty _ _ _, by simp, rfl, hr⟩

theorem kind_ne_nil_text (a : Acc) : a.kind ≠ "<nil>" := by
  intro h
  have hk := ofKind_kind a
  rw [h] at hk
  -- no kind is spelt `<nil>`, the kind a missing update reports
  have hb : (ofKind "<nil>".toUTF8.toList).toBool = false := by decide +kernel
  rw [hk] at hb
  exact Bool.noConfusion hb

section Valid

variable {t : Table} (hv : t.Valid)
include hv

theorem Valid.current (key : Key) :
    ((t.toMap key).getD t.identity.identity).kind = t.kind ∧
      ((t.toMap key).getD t.identity.identity).reduces = true := by
  have hk : ((t.toMap key).getD t.identity.identity).kind = t.kind := by
    cases h : t.toMap key with
    | none => simp [Acc.kind_identity, hv.identity_kind]
    | some a =>
      have hm : (key, a) ∈ t.stripe key := (mem_iff_lookup (hv.nodup_stripe key) key a).2 h
      exact hv.kinds _ ((hv.mem_flatten_iff (key, a)).2 hm)
  refine ⟨hk, ?_⟩
  rw [← hv.reduces]
  exact Acc.reduces_eq_of_identity_eq (identity_eq_of_kind_eq (hk.trans hv.identity_kind.symm))

/-- What an update does to a table that reduces: it combines into the entry of its key when it
is of the table's kind and the table is not frozen, and fails with a failed precondition,
changing nothing, otherwise. -/
theorem Valid.combine_cases (key : Key) (u : Option Acc) :
    (∃ v c, u = some v ∧ v.kind = t.kind ∧ t.frozen = false ∧
      ((t.toMap key).getD t.identity.identity).combine (some v) = .ok c ∧ c.kind = t.kind ∧
      t.combine key u = (t.insert key c, .ok ())) ∨
    (¬ ((∃ v, u = some v ∧ v.kind = t.kind) ∧ t.frozen = false) ∧
      ∃ f, t.combine key u = (t, .error f) ∧ f.kindOf = some .precondition) := by
  cases u with
  | none =>
    have hne : ("<nil>" != t.kind) = true :=
      bne_iff_ne.2 fun h => kind_ne_nil_text t.identity (hv.identity_kind.trans h.symm)
    refine .inr ⟨by simp, Fault.make .precondition
      ("pipeline: cannot combine " ++ "<nil>" ++ " into table of " ++ t.kind), ?_,
      Fault.kindOf_make _ _⟩
    simp only [combine, hne, if_true]
  | some v =>
    by_cases hk : v.kind = t.kind
    · cases hf : t.frozen with
      | true =>
        refine .inr ⟨by simp, frozenFault key, ?_, Fault.kindOf_make _ _⟩
        simp [combine, hk, hf]
      | false =>
        obtain ⟨hck, hcr⟩ := hv.current key
        obtain ⟨c, hc, hck'⟩ := Acc.combine_ok_of_kind_eq hcr (hck.trans hk.symm)
        refine .inl ⟨v, c, rfl, hk, rfl, hc, hck'.trans hck, ?_⟩
        simp [combine, hk, hf, get?_eq_toMap, hc]
    · refine .inr ⟨by simp [hk], Fault.make .precondition
        ("pipeline: cannot combine " ++ v.kind ++ " into table of " ++ t.kind), ?_,
        Fault.kindOf_make _ _⟩
      simp [combine, hk]

theorem Valid.insert (key : Key) (c : Acc) (hc : c.kind = t.kind) : (t.insert key c).Valid where
  toStriped := hv.toStriped.insert key c
  kinds e he := by
    rcases hv.mem_flatten_insert he with rfl | he
    · exact hc
    · exact hv.kinds e he
  identity_kind := hv.identity_kind
  reduces := hv.reduces

theorem Valid.combine (key : Key) (u : Option Acc) : (t.combine key u).1.Valid := by
  rcases hv.combine_cases key u with ⟨v, c, -, -, -, -, hck, he⟩ | ⟨-, f, he, -⟩
  · rw [he]
    exact hv.insert key c hck
  · rw [he]
    exact hv

theorem Valid.freeze : t.freeze.Valid :=
  ⟨hv.toStriped.freeze, hv.kinds, hv.identity_kind, hv.reduces⟩

end Valid

theorem Reaches.valid {t₀ t : Table} (h : t₀.Reaches t) (h₀ : t₀.Valid) : t.Valid := by
  induction h with
  | refl => exact h₀
  | combine key u _ ih => exact ih.combine key u
  | freeze _ ih => exact ih.freeze

theorem combine_kind (s : Table) (key : Key) (u : Option Acc) :
    (s.combine key u).1.kind = s.kind := by
  dsimp only [combine]
  split_ifs
  · rfl
  · rfl
  · split <;> rfl

theorem Reaches.kind_eq {t₀ t : Table} (h : t₀.Reaches t) : t.kind = t₀.kind := by
  induction h with
  | refl => rfl
  | combine key u _ ih => rw [combine_kind, ih]
  | freeze _ ih => exact ih

/-! ### The laws of one finite map -/

/-- The laws that make a table the finite map `t.toMap`: how an update changes the map or
fails, and how every read returns the map. -/
structure MapLaws (t : Table) : Prop where
  combine_ok_iff : ∀ key u,
    (t.combine key u).2 = .ok () ↔ (∃ v, u = some v ∧ v.kind = t.kind) ∧ t.frozen = false
  toMap_combine : ∀ key v, v.kind = t.kind → t.frozen = false →
    ∃ c, ((t.toMap key).getD t.identity.identity).combine (some v) = .ok c ∧
      (t.combine key (some v)).1.toMap = Function.update t.toMap key (some c) ∧
      (t.combine key (some v)).1.frozen = false
  combine_error : ∀ key u f, (t.combine key u).2 = .error f →
    (t.combine key u).1 = t ∧ f.kindOf = some .precondition
  get? : ∀ k, t.get? k = t.toMap k
  keys_sorted : t.keys.Pairwise fun a b => keyLT a b = true
  mem_keys : ∀ k, k ∈ t.keys ↔ (t.toMap k).isSome
  size : ∀ ks : List Key, ks.Nodup → (∀ k, k ∈ ks ↔ (t.toMap k).isSome) → t.size = ks.length
  range : ∀ {σ : Type} (visit : σ → Key → Acc → σ × Bool) (init : σ),
    t.range visit init = visitUntil visit t.snapshot init
  snapshot_keys : t.snapshot.map (·.1) = t.keys
  mem_snapshot : ∀ k a, (k, a) ∈ t.snapshot ↔ t.toMap k = some a

section Laws

variable {t : Table} (hv : t.Valid)
include hv

theorem Valid.combine_ok_iff (key : Key) (u : Option Acc) :
    (t.combine key u).2 = .ok () ↔ (∃ v, u = some v ∧ v.kind = t.kind) ∧ t.frozen = false := by
  rcases hv.combine_cases key u with ⟨v, c, rfl, hk, hf, -, -, he⟩ | ⟨hnot, f, he, -⟩
  · simp [he, hk, hf]
  · simp only [he, reduceCtorEq, false_iff]
    exact hnot

theorem Valid.toMap_combine (key : Key) (v : Acc) (hk : v.kind = t.kind) (hf : t.frozen = false) :
    ∃ c, ((t.toMap key).getD t.identity.identity).combine (some v) = .ok c ∧
      (t.combine key (some v)).1.toMap = Function.update t.toMap key (some c) ∧
      (t.combine key (some v)).1.frozen = false := by
  rcases hv.combine_cases key (some v) with ⟨v', c, hv', -, -, hc, -, he⟩ | ⟨hnot, -⟩
  · obtain rfl : v = v' := Option.some.inj hv'
    rw [he]
    exact ⟨c, hc, hv.toMap_insert key c, hf⟩
  · exact absurd ⟨⟨v, rfl, hk⟩, hf⟩ hnot

theorem Valid.combine_error (key : Key) (u : Option Acc) (f : Fault)
    (h : (t.combine key u).2 = .error f) :
    (t.combine key u).1 = t ∧ f.kindOf = some .precondition := by
  rcases hv.combine_cases key u with ⟨_, _, -, -, -, -, -, he⟩ | ⟨-, f', he, hf'⟩
  · simp [he] at h
  · rw [he] at h ⊢
    cases h
    exact ⟨rfl, hf'⟩

/-- A table reached from a new one obeys the laws of its map. -/
theorem Valid.mapLaws : t.MapLaws where
  combine_ok_iff := hv.combine_ok_iff
  toMap_combine := hv.toMap_combine
  combine_error := hv.combine_error
  get? := get?_eq_toMap t
  keys_sorted := hv.keys_sorted
  mem_keys := hv.mem_keys
  size := hv.size_eq
  range := hv.range_eq
  snapshot_keys := snapshot_keys t
  mem_snapshot := hv.mem_snapshot

end Laws

end Table

/-- **A table is one finite map.** Take a new table of a kind `K` that reduces, and any
sequence of updates and freezes. The table keeps the kind it was made with and its 64 stripes,
each holding in key order only keys that hash to it; and, at every point, it obeys the laws of
the finite map `toMap`: an update succeeds exactly when it has the table's kind and the table is
not frozen, and then combines into the map at its key, from the identity for a new key; any
other update fails with a failed precondition and changes nothing; a lookup, the keys gathered
from every stripe and sorted without repeats, the sum of the stripes' counts, the visit in key
order and the snapshot all read that map. The map starts empty. -/
theorem table_refines_map {K : List UInt8} {t₀ t : Table} (hc : Table.create K = .ok t₀)
    (hr : t₀.identity.reduces = true) (ht : t₀.Reaches t) :
    (∀ k, t₀.toMap k = none) ∧ t.kind.toUTF8.toList = K ∧ t.Striped ∧ t.MapLaws := by
  have hv := ht.valid (Table.valid_create hc hr)
  obtain ⟨a, ha, rfl⟩ := Table.create_ok hc
  refine ⟨Table.toMap_empty _ _ _, ?_, hv.toStriped, hv.mapLaws⟩
  rw [ht.kind_eq]
  exact kind_ofKind ha

/-- A table of sums, updated at two keys and then frozen, is its map. -/
theorem table_refines_map_sums :
    let t₀ : Table := ⟨"long.sum", .long ⟨.sum, 0⟩, false, List.replicate numStripes []⟩
    let t := ((t₀.combine [1] (some (.long ⟨.sum, 5⟩))).1.combine [0]
      (some (.long ⟨.sum, 7⟩))).1.freeze
    Table.create "long.sum".toUTF8.toList = .ok t₀ ∧ t₀.identity.reduces = true ∧ t₀.Reaches t ∧
      ((∀ k, t₀.toMap k = none) ∧ t.kind.toUTF8.toList = "long.sum".toUTF8.toList ∧ t.Striped ∧
        t.MapLaws) := by
  intro t₀ t
  have hc : Table.create "long.sum".toUTF8.toList = .ok t₀ := Table.create_kind (.long ⟨.sum, 0⟩)
  have hr : t₀.identity.reduces = true := rfl
  have ht : t₀.Reaches t := .freeze (.combine _ _ (.combine _ _ .refl))
  exact ⟨hc, hr, ht, table_refines_map hc hr ht⟩

end Lanes.Pipeline
