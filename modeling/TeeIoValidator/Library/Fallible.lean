import Mathlib.Data.BitVec
import Mathlib.Data.Nat.Notation

/-! Steps on a state that may fail or stop the program: sequences of them, steps that are undone
when they fail, and how the result follows from the checks that are made. -/

/-- None when the program stops, otherwise whether the step succeeded. -/
abbrev Fallible (σ : Type*) := σ → Option (Bool × σ)

namespace Fallible

variable {σ π : Type*}

/-- A check that changes nothing. -/
def check (outcome : Option Bool) : Fallible σ := fun s => outcome.map fun b => (b, s)

/-- The second step is made when the first one succeeds. -/
def andThen (first second : Fallible σ) : Fallible σ := fun s =>
  match first s with
  | none => none
  | some (false, s) => some (false, s)
  | some (true, s) => second s

/-- A failure is followed by `undo`. -/
def undoing (undo : σ → Option σ) (step : Fallible σ) : Fallible σ := fun s =>
  match step s with
  | none => none
  | some (false, s) => (undo s).map fun s => (false, s)
  | some (true, s) => some (true, s)

/-! ## Outcomes -/

/-- The outcome of two steps, the second one of which needs the success of the first one. -/
def both : Option Bool → Option Bool → Option Bool
  | some true, outcome => outcome
  | outcome, _ => outcome

/-- The outcome of labelled checks, one after the other. -/
def all : List (π × Option Bool) → Option Bool
  | [] => some true
  | c :: cs => both c.2 (all cs)

/-- The label of the check that fails. -/
def failure : List (π × Option Bool) → Option π
  | [] => none
  | (_, some true) :: cs => failure cs
  | (point, some false) :: _ => some point
  | (_, none) :: _ => none

section Outcomes

variable {cs ds : List (π × Option Bool)}

@[simp] theorem both_true (outcome : Option Bool) : both (some true) outcome = outcome := rfl

@[simp] theorem both_right_true (outcome : Option Bool) : both outcome (some true) = outcome := by
  cases outcome with
  | none => rfl
  | some b => cases b <;> rfl

theorem both_assoc (a b c : Option Bool) : both (both a b) c = both a (both b c) := by
  cases a with
  | none => rfl
  | some x => cases x <;> rfl

theorem all_append : all (cs ++ ds) = both (all cs) (all ds) := by
  induction cs with
  | nil => rfl
  | cons c cs ih => rw [List.cons_append, all, all, ih, both_assoc]

theorem failure_append_of_true (h : all cs = some true) : failure (cs ++ ds) = failure ds := by
  induction cs with
  | nil => rfl
  | cons c cs ih =>
      obtain ⟨point, outcome⟩ := c
      match outcome, h with
      | some true, h => exact ih h
      | some false, h => cases h
      | none, h => cases h

theorem failure_append_of_ne (h : all cs ≠ some true) : failure (cs ++ ds) = failure cs := by
  induction cs with
  | nil => exact absurd rfl h
  | cons c cs ih =>
      obtain ⟨point, outcome⟩ := c
      match outcome, h with
      | some true, h => exact ih h
      | some false, _ => rfl
      | none, _ => rfl

theorem failure_eq_none_iff : failure cs = none ↔ all cs ≠ some false := by
  induction cs with
  | nil => simp [failure, all]
  | cons c cs ih =>
      obtain ⟨point, outcome⟩ := c
      match outcome with
      | some true => exact ih
      | some false => simp [failure, all, both]
      | none => simp [failure, all, both]

/-- The check that fails is one of the checks. -/
theorem mem_of_failure {point : π} (h : failure cs = some point) :
    (point, some false) ∈ cs := by
  induction cs with
  | nil => cases h
  | cons c cs ih =>
      obtain ⟨first, outcome⟩ := c
      match outcome, h with
      | some true, h => exact List.mem_cons_of_mem _ (ih h)
      | some false, h =>
          cases h
          exact List.mem_cons_self

theorem both_eq_true_iff {outcome outcome' : Option Bool} :
    both outcome outcome' = some true ↔ outcome = some true ∧ outcome' = some true := by
  match outcome with
  | none => simp [both]
  | some false => simp [both]
  | some true => simp

theorem all_eq_true_iff : all cs = some true ↔ ∀ c ∈ cs, c.2 = some true := by
  induction cs with
  | nil => simp [all]
  | cons c cs ih => rw [all, both_eq_true_iff, ih, List.forall_mem_cons]

/-- The first checks fail when the check that fails is one of theirs. -/
theorem all_eq_false_iff_failure {points : List π} (hcs : ∀ c ∈ cs, c.1 ∈ points)
    (hds : ∀ d ∈ ds, d.1 ∉ points) :
    all cs = some false ↔ ∃ point ∈ points, failure (cs ++ ds) = some point := by
  constructor
  · intro hall
    cases hfailure : failure cs with
    | none => exact absurd hall (failure_eq_none_iff.mp hfailure)
    | some point =>
        refine ⟨point, hcs _ (mem_of_failure hfailure), ?_⟩
        rw [failure_append_of_ne (by rw [hall]; nofun), hfailure]
  · intro ⟨point, hpoint, hfailure⟩
    match hall : all cs with
    | some false => rfl
    | some true =>
        rw [failure_append_of_true hall] at hfailure
        exact absurd hpoint (hds _ (mem_of_failure hfailure))
    | none =>
        rw [failure_append_of_ne (by rw [hall]; nofun),
          failure_eq_none_iff.mpr (by rw [hall]; nofun)] at hfailure
        cases hfailure

end Outcomes

/-! ## What a step returns -/

/-- The step ends with this outcome, in a state that satisfies the postcondition. -/
def Returns (step : Fallible σ) (s : σ) (outcome : Option Bool) (P : Bool → σ → Prop) : Prop :=
  match outcome with
  | none => step s = none
  | some b => ∃ s', step s = some (b, s') ∧ P b s'

section Rules

variable {step next : Fallible σ} {s s' : σ} {outcome outcome' : Option Bool}
  {P Q : Bool → σ → Prop}

theorem Returns.mono (h : step.Returns s outcome P) (himp : ∀ b s', P b s' → Q b s') :
    step.Returns s outcome Q := by
  cases outcome with
  | none => exact h
  | some b =>
      obtain ⟨s', hstep, hpost⟩ := h
      exact ⟨s', hstep, himp b s' hpost⟩

theorem Returns.eq_some {b : Bool} (h : step.Returns s outcome P)
    (hstep : step s = some (b, s')) : outcome = some b ∧ P b s' := by
  cases outcome with
  | none => exact absurd (hstep.symm.trans h) nofun
  | some b' =>
      obtain ⟨s'', hstep', hpost⟩ := h
      cases hstep.symm.trans hstep'
      exact ⟨rfl, hpost⟩

/-- The outcome joins what is known of the step's result. -/
theorem Returns.and_outcome (h : step.Returns s outcome P) :
    step.Returns s outcome fun b s' => P b s' ∧ outcome = some b := by
  cases outcome with
  | none => exact h
  | some b =>
      obtain ⟨s', hstep, hpost⟩ := h
      exact ⟨s', hstep, hpost, rfl⟩

theorem returns_check (h : ∀ b, outcome = some b → P b s) :
    (check outcome).Returns s outcome P := by
  cases outcome with
  | none => rfl
  | some b => exact ⟨s, rfl, h b rfl⟩

/-- A check that is followed by a step. -/
theorem returns_check_andThen (hfalse : outcome = some false → P false s)
    (htrue : outcome = some true → next.Returns s outcome' P) :
    ((check outcome).andThen next).Returns s (both outcome outcome') P := by
  match outcome with
  | none => rfl
  | some false => exact ⟨s, rfl, hfalse rfl⟩
  | some true => exact htrue rfl

theorem Returns.andThen (h : step.Returns s outcome P)
    (hfalse : ∀ s', P false s' → Q false s')
    (htrue : ∀ s', P true s' → next.Returns s' outcome' Q) :
    (step.andThen next).Returns s (both outcome outcome') Q := by
  match outcome, h with
  | none, h => simp only [Returns, both, Fallible.andThen, show step s = none from h]
  | some false, h =>
      obtain ⟨s', hstep, hpost⟩ := h
      exact ⟨s', by simp only [Fallible.andThen, hstep], hfalse s' hpost⟩
  | some true, h =>
      obtain ⟨s', hstep, hpost⟩ := h
      have hnext := htrue s' hpost
      have heq : step.andThen next s = next s' := by simp only [Fallible.andThen, hstep]
      simp only [both_true]
      cases outcome' with
      | none => exact heq.trans hnext
      | some b =>
          obtain ⟨s'', hrun, hpost'⟩ := hnext
          exact ⟨s'', heq.trans hrun, hpost'⟩

theorem Returns.undoing {undo : σ → Option σ} (h : step.Returns s outcome P)
    (hfalse : ∀ s', P false s' → ∃ s'', undo s' = some s'' ∧ Q false s'')
    (htrue : ∀ s', P true s' → Q true s') :
    (step.undoing undo).Returns s outcome Q := by
  match outcome, h with
  | none, h => simp only [Returns, Fallible.undoing, show step s = none from h]
  | some false, h =>
      obtain ⟨s', hstep, hpost⟩ := h
      obtain ⟨s'', hundo, hpost'⟩ := hfalse s' hpost
      exact ⟨s'', by simp only [Fallible.undoing, hstep, hundo, Option.map_some], hpost'⟩
  | some true, h =>
      obtain ⟨s', hstep, hpost⟩ := h
      exact ⟨s', by simp only [Fallible.undoing, hstep], htrue s' hpost⟩

/-- What holds in the state that is reached, as the step succeeds or fails. -/
def Preserves (inv : Bool → σ → Prop) (step : Fallible σ) : Prop :=
  ∀ s b s', inv true s → step s = some (b, s') → inv b s'

variable {inv : Bool → σ → Prop}

theorem Preserves.check (hweak : ∀ s, inv true s → inv false s) (outcome : Option Bool) :
    Preserves inv (check outcome) := by
  intro s b s' hs hstep
  rw [Fallible.check, Option.map_eq_some_iff] at hstep
  obtain ⟨_, -, heq⟩ := hstep
  cases heq
  cases b with
  | false => exact hweak s hs
  | true => exact hs

theorem Preserves.andThen (hstep : Preserves inv step) (hnext : Preserves inv next) :
    Preserves inv (step.andThen next) := by
  intro s b s' hs hrun
  rw [Fallible.andThen] at hrun
  split at hrun
  · cases hrun
  · rename_i hfirst
    cases hrun
    exact hstep _ _ _ hs hfirst
  · rename_i hfirst
    exact hnext _ _ _ (hstep _ _ _ hs hfirst) hrun

theorem Preserves.undoing {undo : σ → Option σ} (hstep : Preserves inv step)
    (hundo : ∀ s s', inv false s → undo s = some s' → inv false s') :
    Preserves inv (step.undoing undo) := by
  intro s b s' hs hrun
  rw [Fallible.undoing] at hrun
  split at hrun
  · cases hrun
  · rename_i hfirst
    rw [Option.map_eq_some_iff] at hrun
    obtain ⟨undone, hdone, heq⟩ := hrun
    cases heq
    exact hundo _ _ (hstep _ _ _ hs hfirst) hdone
  · rename_i hfirst
    cases hrun
    exact hstep _ _ _ hs hfirst

/-- The invariant joins what is known of the step's result. -/
theorem Returns.and_inv (h : step.Returns s outcome P) (hpreserves : Preserves inv step)
    (hs : inv true s) : step.Returns s outcome fun b s' => P b s' ∧ inv b s' := by
  cases outcome with
  | none => exact h
  | some b =>
      obtain ⟨s', hstep, hpost⟩ := h
      exact ⟨s', hstep, hpost, hpreserves _ _ _ hs hstep⟩

end Rules

end Fallible
