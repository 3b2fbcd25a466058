import Mathlib.Data.BitVec
import Mathlib.Data.Nat.Notation

/-! Computations that may fail: how they are taken apart, and loops that count up. -/

namespace Checked

universe u

variable {ε : Type*} {α β σ : Type u}

theorem bind_eq_ok {step : Except ε α} {next : α → Except ε β} {b : β} :
    (step >>= next) = .ok b ↔ ∃ a, step = .ok a ∧ next a = .ok b := by
  cases step with
  | error e => simp [bind, Except.bind]
  | ok a => simp [bind, Except.bind]

theorem bind_eq_error {step : Except ε α} {next : α → Except ε β} {e : ε} :
    (step >>= next) = .error e ↔ step = .error e ∨ ∃ a, step = .ok a ∧ next a = .error e := by
  cases step with
  | error e => simp [bind, Except.bind]
  | ok a => simp [bind, Except.bind]

@[simp] theorem ok_bind (a : α) (next : α → Except ε β) : (.ok a >>= next) = next a := rfl

@[simp] theorem error_bind (e : ε) (next : α → Except ε β) : (.error e >>= next) = .error e := rfl

/-- Two computations, one after the other, end just when each of them does. -/
theorem exists_both_eq_ok {first : Except ε α} {second : Except ε β} {combine : α → β → σ} :
    (∃ s, (first >>= fun a => second >>= fun b => .ok (combine a b)) = .ok s) ↔
      (∃ a, first = .ok a) ∧ ∃ b, second = .ok b := by
  cases first with
  | error e => simp
  | ok a =>
      cases second with
      | error e => simp
      | ok b => simp

/-! ## Postconditions -/

/-- A result satisfies `post`, and a failure is one of `faults`. -/
def Ends (faults : ε → Prop) (post : α → Prop) : Except ε α → Prop
  | .ok a => post a
  | .error e => faults e

section

variable {faults : ε → Prop} {post : α → Prop} {c : Except ε α}

@[simp] theorem ends_ok {a : α} : Ends faults post (.ok a) ↔ post a := Iff.rfl

@[simp] theorem ends_error {e : ε} : Ends faults post (.error e) ↔ faults e := Iff.rfl

theorem ends_iff : Ends faults post c ↔
    (∀ a, c = .ok a → post a) ∧ ∀ e, c = .error e → faults e := by
  cases c with
  | ok a => simp
  | error e => simp

theorem Ends.mono {post' : α → Prop} (h : Ends faults post c) (himp : ∀ a, post a → post' a) :
    Ends faults post' c := by
  cases c with
  | ok a => exact himp a h
  | error e => exact h

theorem Ends.weaken {faults' : ε → Prop} (h : Ends faults post c)
    (himp : ∀ e, faults e → faults' e) : Ends faults' post c := by
  cases c with
  | ok a => exact h
  | error e => exact himp e h

theorem Ends.bind {post' : β → Prop} {next : α → Except ε β} (h : Ends faults post c)
    (hnext : ∀ a, post a → Ends faults post' (next a)) : Ends faults post' (c >>= next) := by
  cases c with
  | ok a => exact hnext a h
  | error e => exact h

end

/-! ## Loops -/

/-- The steps `0, …, n - 1`, one after the other. -/
def upTo (step : ℕ → σ → Except ε σ) : ℕ → σ → Except ε σ
  | 0, s => .ok s
  | n + 1, s => upTo step n s >>= step n

section

variable {step : ℕ → σ → Except ε σ} {n : ℕ} {s t : σ}

@[simp] theorem upTo_zero : upTo step 0 s = .ok s := rfl

theorem upTo_succ_eq_ok : upTo step (n + 1) s = .ok t ↔
    ∃ mid, upTo step n s = .ok mid ∧ step n mid = .ok t := bind_eq_ok

/-- The rule of the loop, with what each step passes on to the next as the invariant. -/
theorem ends_upTo {faults : ε → Prop} {P : ℕ → σ → Prop} (hinit : P 0 s)
    (hstep : ∀ k < n, ∀ a, P k a → Ends faults (P (k + 1)) (step k a)) :
    Ends faults (P n) (upTo step n s) := by
  induction n with
  | zero => exact hinit
  | succ n ih =>
      have hbefore : Ends faults (P n) (upTo step n s) :=
        ih fun k hk => hstep k (Nat.lt_succ_of_lt hk)
      exact hbefore.bind (hstep n (Nat.lt_succ_self n))

/-- What each step passes on to the next holds at the end. -/
theorem upTo_invariant {P : ℕ → σ → Prop} (h : upTo step n s = .ok t) (hinit : P 0 s)
    (hstep : ∀ k < n, ∀ a b, P k a → step k a = .ok b → P (k + 1) b) : P n t := by
  induction n generalizing t with
  | zero =>
      cases h
      exact hinit
  | succ n ih =>
      obtain ⟨mid, hmid, hlast⟩ := upTo_succ_eq_ok.mp h
      refine hstep n (Nat.lt_succ_self n) mid t ?_ hlast
      exact ih hmid fun k hk => hstep k (Nat.lt_succ_of_lt hk)

end

end Checked
