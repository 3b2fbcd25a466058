import Mathlib.Data.BitVec
import Mathlib.Data.Nat.Basic
import Mathlib.Tactic.Common

/-! Bounded polling: the first round at which a decision is available. -/

namespace Polling

variable {ε : Type*}

/-- Poll rounds `k, k + 1, ...` and stop at the first decided one, or after `fuel`
rounds. -/
def firstDecided (verdict : ℕ → Option ε) : ℕ → ℕ → Option (ℕ × ε)
  | 0, _ => none
  | fuel + 1, k =>
    match verdict k with
    | some e => some (k, e)
    | none => firstDecided verdict fuel (k + 1)

@[simp] theorem firstDecided_zero (verdict : ℕ → Option ε) (k : ℕ) :
    firstDecided verdict 0 k = none := rfl

theorem firstDecided_succ_of_some {verdict : ℕ → Option ε} {k : ℕ} {e : ε}
    (h : verdict k = some e) (fuel : ℕ) :
    firstDecided verdict (fuel + 1) k = some (k, e) := by
  simp [firstDecided, h]

theorem firstDecided_succ_of_none {verdict : ℕ → Option ε} {k : ℕ}
    (h : verdict k = none) (fuel : ℕ) :
    firstDecided verdict (fuel + 1) k = firstDecided verdict fuel (k + 1) := by
  simp [firstDecided, h]

/-- Round `i` is the first decided one among the polled rounds. -/
structure DecidedAt (verdict : ℕ → Option ε) (fuel k i : ℕ) (e : ε) : Prop where
  start_le : k ≤ i
  lt_stop : i < k + fuel
  decided : verdict i = some e
  undecided : ∀ j, k ≤ j → j < i → verdict j = none

theorem firstDecided_eq_some_iff (verdict : ℕ → Option ε) (fuel k i : ℕ) (e : ε) :
    firstDecided verdict fuel k = some (i, e) ↔ DecidedAt verdict fuel k i e := by
  induction fuel generalizing k with
  | zero =>
      refine ⟨by simp, ?_⟩
      intro h
      have := h.start_le
      have := h.lt_stop
      omega
  | succ fuel ih =>
      cases hk : verdict k with
      | some e' =>
          rw [firstDecided_succ_of_some hk]
          constructor
          · intro h
            obtain ⟨rfl, rfl⟩ : k = i ∧ e' = e := by simpa using h
            exact ⟨le_rfl, by omega, hk, fun j hj hlt => absurd hj (by omega)⟩
          · intro h
            have hki : k = i := by
              by_contra hne
              have hlt : k < i := lt_of_le_of_ne h.start_le hne
              simp [h.undecided k le_rfl hlt] at hk
            subst hki
            have he : e' = e := by simpa [hk] using h.decided
            rw [he]
      | none =>
          rw [firstDecided_succ_of_none hk, ih]
          constructor
          · intro h
            refine ⟨by have := h.start_le; omega, by have := h.lt_stop; omega, h.decided, ?_⟩
            intro j hj hlt
            by_cases hjk : j = k
            · rw [hjk]
              exact hk
            · exact h.undecided j (by omega) hlt
          · intro h
            have hne : i ≠ k := by
              rintro rfl
              simpa [hk] using h.decided
            have hle := h.start_le
            refine ⟨by omega, by have := h.lt_stop; omega, h.decided, ?_⟩
            intro j hj hlt
            exact h.undecided j (by omega) hlt

/-- Two rounds cannot both be the first decided one. -/
theorem DecidedAt.unique {verdict : ℕ → Option ε} {fuel k i i' : ℕ} {e e' : ε}
    (h : DecidedAt verdict fuel k i e) (h' : DecidedAt verdict fuel k i' e') :
    i = i' ∧ e = e' := by
  rw [← firstDecided_eq_some_iff] at h h'
  simpa using h.symm.trans h'

theorem firstDecided_eq_none_iff (verdict : ℕ → Option ε) (fuel k : ℕ) :
    firstDecided verdict fuel k = none ↔ ∀ j, k ≤ j → j < k + fuel → verdict j = none := by
  induction fuel generalizing k with
  | zero => simp; intro j hj hlt; omega
  | succ fuel ih =>
      cases hk : verdict k with
      | some e =>
          rw [firstDecided_succ_of_some hk]
          refine ⟨by simp, ?_⟩
          intro h
          have := h k le_rfl (by omega)
          simp [hk] at this
      | none =>
          rw [firstDecided_succ_of_none hk, ih]
          constructor
          · intro h j hj hlt
            by_cases hjk : j = k
            · rw [hjk]
              exact hk
            · exact h j (by omega) (by omega)
          · intro h j hj hlt
            exact h j (by omega) (by omega)

end Polling
