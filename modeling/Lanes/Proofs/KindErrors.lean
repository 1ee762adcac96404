import Lanes.Proofs.Reduction
import Lanes.Scenario.Accumulators

/-!
Combining and assigning fail on kind errors only.

Accumulators of one kind are built alike (`Acc.identity_eq_cases`), so combining two of them
fails only where some part of the target has no reduction, and then as unsupported
(`Acc.combineSame_unsupported`). Between different kinds, or with no second accumulator,
combining and assigning fail with a failed precondition.

Main statement: `combine_assign_fail_on_kind`.
-/

namespace Lanes.Accumulator

namespace Acc

/-! ### What combining and assigning do -/

/-- Combining fails with a failed precondition when the kinds differ or there is no second
accumulator; fails as unsupported when the kinds agree and some part has no reduction; and
otherwise gives an accumulator of the kind. -/
theorem combine_cases (r : Acc) (o : Option Acc) :
    (o.map kind ≠ some r.kind ∧ ∃ f, r.combine o = .error f ∧ f.kindOf = some .precondition) ∨
    (o.map kind = some r.kind ∧ r.reduces = false ∧
      ∃ f, r.combine o = .error f ∧ f.kindOf = some .notSupported) ∨
    (o.map kind = some r.kind ∧ r.reduces = true ∧ ∃ c, r.combine o = .ok c ∧ c.kind = r.kind) := by
  cases o with
  | none => exact .inl ⟨by simp, _, rfl, Fault.kindOf_make _ _⟩
  | some s =>
    by_cases hk : r.kind = s.kind
    · cases hr : r.reduces with
      | false =>
        obtain ⟨f, hf, hfk⟩ := combineSame_unsupported r hr (identity_eq_of_kind_eq hk)
        exact .inr (.inl ⟨by simp [hk], rfl, f, by simp [combine, hk, hf], hfk⟩)
      | true =>
        obtain ⟨c, hc, hck⟩ := combine_ok_of_kind_eq hr hk
        exact .inr (.inr ⟨by simp [hk], rfl, c, hc, hck⟩)
    · refine .inl ⟨by simpa [eq_comm] using hk, mismatch "combine" r.kind s.kind, ?_,
        Fault.kindOf_make _ _⟩
      simp [combine, hk]

/-- Assigning copies the second accumulator when the kinds agree, and fails with a failed
precondition when they differ or there is none. -/
theorem assign_cases (r : Acc) (o : Option Acc) :
    (∃ s, o = some s ∧ s.kind = r.kind ∧ r.assign o = .ok s) ∨
    (o.map kind ≠ some r.kind ∧ ∃ f, r.assign o = .error f ∧ f.kindOf = some .precondition) := by
  cases o with
  | none => exact .inr ⟨by simp, _, rfl, Fault.kindOf_make _ _⟩
  | some s =>
    by_cases hk : r.kind = s.kind
    · exact .inl ⟨s, rfl, hk.symm, by simp [assign, hk]⟩
    · refine .inr ⟨by simpa [eq_comm] using hk, mismatch "assign" r.kind s.kind, ?_,
        Fault.kindOf_make _ _⟩
      simp [assign, hk]

end Acc

end Lanes.Accumulator

namespace Lanes.Scenario

open Lanes.Accumulator

theorem failedWith_error (f : Fault) (k : FaultKind) :
    failedWith (.error f : Except Fault Acc) k = true ↔ f.kindOf = some k := by
  simp [failedWith, Fault.isKind]

theorem failedWith_ok (a : Acc) (k : FaultKind) : failedWith (.ok a : Except Fault Acc) k = false :=
  rfl

/-- **Combining and assigning fail exactly on kind errors.** Take any target `r` and any second
accumulator `o`, with none standing for a missing one. Combining fails with a failed
precondition exactly when the kinds differ. It fails as unsupported exactly when the kinds agree
and some part of the kind has no reduction. Otherwise it succeeds. Assigning succeeds exactly
when the kinds agree, and then the target holds the second accumulator's state. -/
theorem combine_assign_fail_on_kind (r : Acc) (o : Option Acc) :
    (failedWith (r.combine o) .precondition = true ↔ o.map Acc.kind ≠ some r.kind) ∧
    (failedWith (r.combine o) .notSupported = true ↔
      o.map Acc.kind = some r.kind ∧ r.reduces = false) ∧
    ((∃ c, r.combine o = .ok c) ↔ o.map Acc.kind = some r.kind ∧ r.reduces = true) ∧
    ((∃ c, r.assign o = .ok c) ↔ o.map Acc.kind = some r.kind) ∧
    (∀ c, r.assign o = .ok c → o = some c) := by
  have hpre : FaultKind.precondition ≠ .notSupported := by decide
  refine ⟨?_, ?_, ?_, ?_, ?_⟩
  · rcases Acc.combine_cases r o with ⟨hk, f, he, hf⟩ | ⟨hk, -, f, he, hf⟩ | ⟨hk, -, c, he, -⟩
    · simp [he, failedWith_error, hf, hk]
    · simp [he, failedWith_error, hf, hk, Ne.symm hpre]
    · simp [he, failedWith_ok, hk]
  · rcases Acc.combine_cases r o with ⟨hk, f, he, hf⟩ | ⟨hk, hr, f, he, hf⟩ | ⟨hk, hr, c, he, -⟩
    · simp [he, failedWith_error, hf, hk, hpre]
    · simp [he, failedWith_error, hf, hk, hr]
    · simp [he, failedWith_ok, hk, hr]
  · rcases Acc.combine_cases r o with ⟨hk, f, he, -⟩ | ⟨hk, hr, f, he, -⟩ | ⟨hk, hr, c, he, -⟩
    · simp [he, hk]
    · simp [he, hr]
    · simp [he, hk, hr]
  · rcases Acc.assign_cases r o with ⟨s, rfl, hk, he⟩ | ⟨hk, f, he, -⟩
    · simp [he, hk]
    · simp [he, hk]
  · intro c hc
    rcases Acc.assign_cases r o with ⟨s, rfl, -, he⟩ | ⟨-, f, he, -⟩
    · rw [he] at hc
      cases hc
      rfl
    · rw [he] at hc
      cases hc

/-- Two tuples of one kind whose second element has no reduction: combining one into the other
fails as unsupported, and assigning one to the other copies it. -/
theorem combine_assign_fail_on_kind_nested :
    let r : Acc := .composed [.long ⟨.sum, 1⟩, .long ⟨.none, 2⟩]
    let o : Acc := .composed [.long ⟨.sum, 5⟩, .long ⟨.none, 0⟩]
    failedWith (r.combine (some o)) .notSupported = true ∧ r.assign (some o) = .ok o := by
  intro r o
  have h := combine_assign_fail_on_kind r (some o)
  have hk : (some o).map Acc.kind = some r.kind := by decide
  obtain ⟨c, hc⟩ := h.2.2.2.1.2 hk
  exact ⟨h.2.1.2 ⟨hk, rfl⟩, hc.trans (congrArg Except.ok (Option.some.inj (h.2.2.2.2 c hc)).symm)⟩

end Lanes.Scenario
