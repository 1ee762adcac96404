import Lanes.Proofs.UpdateOrder
import Lanes.Proofs.KindErrors

/-!
What a failed update leaves in a table.

An update fails before it reaches the entries when it has another kind or the table is frozen.
Past those checks, an update of a new key starts from an entry that holds the kind's identity.
That entry is put in the table whether or not the update then combines. So a failed update
leaves the table as it was, with one exception: the key is new and the table's kind has no
reduction (`long.none`, say, or a tuple holding one). Then the key stays behind, holding the
identity.

Main statements: `failed_combine_keeps_table`, and `failed_combine_strands_identity_entry` for
one such update.
-/

namespace Lanes.Pipeline

open Lanes.Accumulator

namespace Table

/-- What every table keeps from its creation, whatever its kind: its stripes in order, and an
identity of the table's kind. -/
structure Ordered (t : Table) : Prop extends Striped t where
  identity_kind : t.identity.kind = t.kind

theorem ordered_create {K : List UInt8} {t : Table} (h : create K = .ok t) : t.Ordered := by
  obtain ⟨a, -, rfl⟩ := create_ok h
  exact ⟨striped_empty _ _ _, rfl⟩

theorem Ordered.combine {t : Table} (ho : t.Ordered) (key : Key) (u : Option Acc) :
    (t.combine key u).1.Ordered := by
  dsimp only [Table.combine]
  split_ifs
  · exact ho
  · exact ho
  · split
    · exact ⟨ho.toStriped.insert key _, ho.identity_kind⟩
    · exact ⟨ho.toStriped.insert key _, ho.identity_kind⟩

theorem Reaches.ordered {t₀ t : Table} (h : t₀.Reaches t) (h₀ : t₀.Ordered) : t.Ordered := by
  induction h with
  | refl => exact h₀
  | combine key u _ ih => exact ih.combine key u
  | freeze _ ih => exact ⟨ih.toStriped.freeze, ih.identity_kind⟩

theorem Striped.insert_of_toMap {t : Table} (h : t.Striped) {key : Key} {a : Acc}
    (hk : t.toMap key = some a) : t.insert key a = t := by
  have hs : t.stripes.set (stripeOf key) (put (t.stripe key) key a) = t.stripes :=
    (h.insert key a).stripes_eq h (by rw [h.toMap_insert, Function.update_eq_self_iff, hk])
  rw [Table.insert, hs]

/-- The one case where a failed update still changes a table: the key is new, the update has
the table's kind, the table is not frozen, and the kind has no reduction. -/
def StrandsIdentity (t : Table) (key : Key) (u : Option Acc) : Prop :=
  t.toMap key = none ∧ t.frozen = false ∧ (∃ v, u = some v ∧ v.kind = t.kind) ∧
    t.identity.reduces = false

section Failure

variable {t : Table} (ho : t.Ordered) (key : Key) (u : Option Acc)

include ho in
/-- A failed update leaves the table as it was, or strands the identity at a new key. -/
theorem combine_error_cases {f : Fault} (he : (t.combine key u).2 = .error f) :
    (t.combine key u).1 = t ∨
      (t.StrandsIdentity key u ∧
        (t.combine key u).1 = t.insert key t.identity.identity) := by
  cases u with
  | none =>
    -- a missing update is refused before the entries
    have hne : ("<nil>" != t.kind) = true :=
      bne_iff_ne.2 fun h => kind_ne_nil_text t.identity (ho.identity_kind.trans h.symm)
    exact .inl (by simp only [Table.combine, hne, if_true])
  | some v =>
    by_cases hk : v.kind = t.kind
    · cases hf : t.frozen with
      | true => exact .inl (by simp [Table.combine, hk, hf])
      | false =>
        cases hg : t.toMap key with
        | some a =>
          -- the key's own entry is put back unchanged
          left
          cases hc : a.combine (some v) with
          | ok c => simp [Table.combine, hk, hf, get?_eq_toMap, hg, hc] at he
          | error g =>
            simp only [Table.combine, hk, hf, get?_eq_toMap, hg, hc, bne_self_eq_false,
              Bool.false_eq_true, if_false, Option.getD_some]
            exact ho.insert_of_toMap hg
        | none =>
          cases hc : t.identity.identity.combine (some v) with
          | ok c => simp [Table.combine, hk, hf, get?_eq_toMap, hg, hc] at he
          | error g =>
            -- the identity did not combine, so the kind has no reduction
            have hr : t.identity.reduces = false := by
              by_contra hr
              have hk' : t.identity.identity.kind = v.kind := by
                rw [Acc.kind_identity, ho.identity_kind, hk]
              obtain ⟨c, hc', -⟩ := Acc.combine_ok_of_kind_eq
                (by rw [Acc.reduces_identity]; simpa using hr) hk'
              rw [hc] at hc'
              cases hc'
            refine .inr ⟨⟨hg, hf, ⟨v, rfl, hk⟩, hr⟩, ?_⟩
            simp [Table.combine, hk, hf, get?_eq_toMap, hg, hc]
    · exact .inl (by simp [Table.combine, hk])

include ho in
/-- In that case the update fails as unsupported, and the key is put in the table holding the
identity. -/
theorem combine_strands (hs : t.StrandsIdentity key u) :
    ∃ f, t.combine key u = (t.insert key t.identity.identity, .error f) ∧
      f.kindOf = some .notSupported := by
  obtain ⟨hg, hf, ⟨v, rfl, hk⟩, hr⟩ := hs
  have hk' : (some v).map Acc.kind = some t.identity.identity.kind := by
    simp [Acc.kind_identity, ho.identity_kind, hk]
  rcases Acc.combine_cases t.identity.identity (some v) with
    ⟨hne, -⟩ | ⟨-, -, f, hc, hfk⟩ | ⟨-, hr', -⟩
  · exact absurd hk' hne
  · exact ⟨f, by simp [Table.combine, hk, hf, get?_eq_toMap, hg, hc], hfk⟩
  · rw [Acc.reduces_identity, hr] at hr'
    cases hr'

end Failure

end Table

/-- **A failed update changes a table only by stranding the identity.** Take a table made by
`create`, of any kind it accepts, and brought to any state by updates and freezes. An update that
fails leaves it exactly as it was, with one exception. If the key is new, the update has the
table's kind, the table is not frozen and the kind has no reduction, then the key is added,
holding the kind's identity, and nothing else changes. Every such update does fail that way. -/
theorem failed_combine_keeps_table {K : List UInt8} {t₀ t : Table} (hc : Table.create K = .ok t₀)
    (ht : t₀.Reaches t) (key : Key) (u : Option Acc) :
    (∀ f, (t.combine key u).2 = .error f →
      (t.combine key u).1 = t ∨
        (t.StrandsIdentity key u ∧
          (t.combine key u).1 = t.insert key t.identity.identity ∧
          (t.combine key u).1.toMap = Function.update t.toMap key (some t.identity.identity))) ∧
    (t.StrandsIdentity key u → ∃ f,
      t.combine key u = (t.insert key t.identity.identity, .error f)) := by
  have ho : t.Ordered := ht.ordered (Table.ordered_create hc)
  refine ⟨fun f he => ?_, fun hs => ?_⟩
  · rcases Table.combine_error_cases ho key u he with h | ⟨hs, h⟩
    · exact .inl h
    · exact .inr ⟨hs, h, by rw [h, ho.toMap_insert]⟩
  · obtain ⟨f, h, -⟩ := Table.combine_strands ho key u hs
    exact ⟨f, h⟩

/-- A new table of `long.none`: an update of a new key strands the identity there. -/
theorem failed_combine_keeps_table_none :
    let t₀ : Table := ⟨"long.none", .long ⟨.none, 0⟩, false, List.replicate numStripes []⟩
    let u : Option Acc := some (.long ⟨.none, 1⟩)
    Table.create "long.none".toUTF8.toList = .ok t₀ ∧ t₀.StrandsIdentity "a".toUTF8.toList u ∧
      ∃ f, t₀.combine "a".toUTF8.toList u =
        (t₀.insert "a".toUTF8.toList t₀.identity.identity, .error f) := by
  intro t₀ u
  have hc : Table.create "long.none".toUTF8.toList = .ok t₀ := Table.create_kind (.long ⟨.none, 0⟩)
  have hs : t₀.StrandsIdentity "a".toUTF8.toList u :=
    ⟨Table.toMap_empty _ _ _ _, rfl, ⟨_, rfl, rfl⟩, rfl⟩
  exact ⟨hc, hs, (failed_combine_keeps_table hc .refl _ u).2 hs⟩

/-- A new table of `long.none`: an update of a new key fails as unsupported, and yet the table
goes from no key to one, holding the identity. -/
theorem failed_combine_strands_identity_entry :
    let t₀ : Table := ⟨"long.none", .long ⟨.none, 0⟩, false, List.replicate numStripes []⟩
    let r := t₀.combine "a".toUTF8.toList (some (.long ⟨.none, 1⟩))
    Table.create "long.none".toUTF8.toList = .ok t₀ ∧
      (∃ f, r.2 = .error f ∧ f.kindOf = some .notSupported) ∧
      t₀.size = 0 ∧ r.1.size = 1 ∧ r.1.keys = ["a".toUTF8.toList] := by
  intro t₀ r
  have hc : Table.create "long.none".toUTF8.toList = .ok t₀ := Table.create_kind (.long ⟨.none, 0⟩)
  obtain ⟨f, hr, hf⟩ := Table.combine_strands (Table.ordered_create hc) "a".toUTF8.toList
    (some (.long ⟨.none, 1⟩)) ⟨Table.toMap_empty _ _ _ _, rfl, ⟨_, rfl, rfl⟩, rfl⟩
  exact ⟨hc, ⟨f, congrArg Prod.snd hr, hf⟩, rfl, by decide +kernel, by decide +kernel⟩

end Lanes.Pipeline
