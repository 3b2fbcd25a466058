import Mathlib.Order.Monotone.Basic
import Mathlib.Data.Nat.Find
import TeeIoValidator.Library.Polling

/-! Loops whose body either goes on with a new state or leaves with a result. -/

namespace Iteration

open Polling

variable {σ ρ : Type*}

/-- At most `fuel` rounds of the loop. -/
def run (body : σ → σ ⊕ ρ) : ℕ → σ → Option ρ
  | 0, _ => none
  | fuel + 1, s =>
    match body s with
    | .inl s => run body fuel s
    | .inr r => some r

/-- The loop leaves with the result `r`. -/
def Returns (body : σ → σ ⊕ ρ) (s : σ) (r : ρ) : Prop := ∃ fuel, run body fuel s = some r

def Terminates (body : σ → σ ⊕ ρ) (s : σ) : Prop := ∃ r, Returns body s r

/-- The states at the start of the rounds are known in advance, and so is the round that
leaves: `exitAt n` is what round `n` returns, if anything. -/
def Unrolls (body : σ → σ ⊕ ρ) (state : ℕ → σ) (exitAt : ℕ → Option ρ) : Prop :=
  ∀ n, body (state n) =
    match exitAt n with
    | none => .inl (state (n + 1))
    | some r => .inr r

section

variable {body : σ → σ ⊕ ρ} {state : ℕ → σ} {exitAt : ℕ → Option ρ}

theorem Unrolls.run_eq (h : Unrolls body state exitAt) (fuel k : ℕ) :
    run body fuel (state k) = (firstDecided exitAt fuel k).map Prod.snd := by
  induction fuel generalizing k with
  | zero => rfl
  | succ fuel ih =>
      have hk := h k
      cases he : exitAt k with
      | none =>
          rw [he] at hk
          rw [run, hk, firstDecided_succ_of_none he]
          exact ih (k + 1)
      | some r =>
          rw [he] at hk
          rw [run, hk, firstDecided_succ_of_some he]
          rfl

theorem Unrolls.returns_iff (h : Unrolls body state exitAt) (r : ρ) :
    Returns body (state 0) r ↔ ∃ n, exitAt n = some r ∧ ∀ m < n, exitAt m = none := by
  constructor
  · rintro ⟨fuel, hrun⟩
    rw [h.run_eq, Option.map_eq_some_iff] at hrun
    obtain ⟨⟨n, e⟩, hfirst, rfl⟩ := hrun
    have hat := (firstDecided_eq_some_iff _ _ _ _ _).mp hfirst
    exact ⟨n, hat.decided, fun m hm => hat.undecided m (Nat.zero_le m) hm⟩
  · rintro ⟨n, hexit, hbefore⟩
    have hat : DecidedAt exitAt (n + 1) 0 n r :=
      ⟨Nat.zero_le n, by omega, hexit, fun m _ hm => hbefore m hm⟩
    refine ⟨n + 1, ?_⟩
    rw [h.run_eq, (firstDecided_eq_some_iff _ _ _ _ _).mpr hat]
    rfl

theorem Unrolls.terminates_iff (h : Unrolls body state exitAt) :
    Terminates body (state 0) ↔ ∃ n, exitAt n ≠ none := by
  constructor
  · rintro ⟨r, hr⟩
    obtain ⟨n, hexit, -⟩ := (h.returns_iff r).mp hr
    exact ⟨n, by simp [hexit]⟩
  · rintro ⟨n, hn⟩
    classical
    have hex : ∃ n, exitAt n ≠ none := ⟨n, hn⟩
    obtain ⟨r, hr⟩ := Option.ne_none_iff_exists'.mp (Nat.find_spec hex)
    refine ⟨r, (h.returns_iff r).mpr ⟨Nat.find hex, hr, fun m hm => ?_⟩⟩
    simpa using Nat.find_min hex hm

end

/-- Two runs of one loop cannot leave with different results. -/
theorem run_mono {body : σ → σ ⊕ ρ} {fuel : ℕ} {s : σ} {r : ρ}
    (h : run body fuel s = some r) (extra : ℕ) : run body (fuel + extra) s = some r := by
  induction fuel generalizing s with
  | zero => simp [run] at h
  | succ fuel ih =>
      rw [Nat.add_right_comm, run]
      rw [run] at h
      cases hb : body s with
      | inl s' =>
          rw [hb] at h
          exact ih h
      | inr r' =>
          rw [hb] at h
          exact h

theorem Returns.unique {body : σ → σ ⊕ ρ} {s : σ} {r r' : ρ}
    (h : Returns body s r) (h' : Returns body s r') : r = r' := by
  obtain ⟨fuel, hr⟩ := h
  obtain ⟨fuel', hr'⟩ := h'
  have h₁ := run_mono hr fuel'
  have h₂ := run_mono hr' fuel
  rw [Nat.add_comm fuel' fuel, h₁] at h₂
  exact Option.some.inj h₂

/-- A bounded sequence of non-decreasing sums is constant from some index on. -/
theorem eventually_constant (f : ℕ → ℕ) (hmono : ∀ n, f n ≤ f (n + 1)) (bound : ℕ)
    (hbound : ∀ n, f n ≤ bound) : ∃ N, ∀ n, N ≤ n → f (n + 1) = f n := by
  by_contra hnot
  push Not at hnot
  have hgrow : ∀ k, ∃ n, k ≤ f n := by
    intro k
    induction k with
    | zero => exact ⟨0, Nat.zero_le _⟩
    | succ k ih =>
        obtain ⟨n, hn⟩ := ih
        obtain ⟨m, hm, hne⟩ := hnot n
        have hle : f n ≤ f m := monotone_nat_of_le_succ hmono hm
        have := hmono m
        exact ⟨m + 1, by omega⟩
  obtain ⟨n, hn⟩ := hgrow (bound + 1)
  have := hbound n
  omega

/-! ## One round -/

section

variable {body : σ → σ ⊕ ρ} {s s' : σ} {r r' : ρ}

theorem returns_of_inl (h : body s = .inl s') : Returns body s r ↔ Returns body s' r := by
  constructor
  · rintro ⟨fuel, hrun⟩
    cases fuel with
    | zero => cases hrun
    | succ fuel =>
        rw [run, h] at hrun
        exact ⟨fuel, hrun⟩
  · rintro ⟨fuel, hrun⟩
    refine ⟨fuel + 1, ?_⟩
    rw [run, h]
    exact hrun

theorem returns_of_inr (h : body s = .inr r') : Returns body s r' := by
  refine ⟨1, ?_⟩
  rw [run, h]

/-- The rule of the loop: what every round passes on to the next or to the result. -/
theorem Returns.invariant {P : σ → Prop} {Q : ρ → Prop} (h : Returns body s r) (hs : P s)
    (hround : ∀ s, P s → Sum.elim P Q (body s)) : Q r := by
  obtain ⟨fuel, hrun⟩ := h
  induction fuel generalizing s with
  | zero => cases hrun
  | succ fuel ih =>
      have hkept := hround s hs
      rw [run] at hrun
      cases hb : body s with
      | inl s' =>
          rw [hb] at hrun hkept
          exact ih hkept hrun
      | inr r' =>
          rw [hb] at hrun hkept
          cases hrun
          exact hkept

/-- A loop whose rounds decrease a measure ends. -/
theorem terminates_of_measure {P : σ → Prop} (μ : σ → ℕ) (hs : P s)
    (hround : ∀ s, P s → Sum.elim (fun s' => P s' ∧ μ s' < μ s) (fun _ => True) (body s)) :
    Terminates body s := by
  induction hn : μ s using Nat.strong_induction_on generalizing s with
  | _ n ih =>
      subst hn
      have hnext := hround s hs
      cases hb : body s with
      | inr r => exact ⟨r, returns_of_inr hb⟩
      | inl s' =>
          rw [hb] at hnext
          obtain ⟨hs', hlt⟩ := hnext
          obtain ⟨r, hr⟩ := ih (μ s') hlt hs' rfl
          exact ⟨r, (returns_of_inl hb).mpr hr⟩

/-- A loop that always goes on does not end. -/
theorem not_terminates_of_forall {P : σ → Prop} (hs : P s)
    (hround : ∀ s, P s → Sum.elim P (fun _ => False) (body s)) : ¬Terminates body s := by
  rintro ⟨r, hr⟩
  exact hr.invariant hs hround

end

end Iteration
