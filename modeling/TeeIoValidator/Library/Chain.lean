import Mathlib.Data.List.Infix
import TeeIoValidator.Library.Iteration

/-! Chains of links: each one names the next, until a stop. A chain that comes back to one of
its links never stops. -/

namespace Chain

open Iteration

variable {α β ρ : Type*}

/-- The links from `p` up to `q`; none of them is a stop. -/
inductive Path (next : α → α) (stop : α → Prop) : α → List α → α → Prop where
  | nil (p : α) : Path next stop p [] p
  | cons {p q : α} {ps : List α} (going : ¬stop p) (rest : Path next stop (next p) ps q) :
      Path next stop p (p :: ps) q

section Paths

variable {next : α → α} {stop : α → Prop} {p q q' : α} {ps ps' : List α}

theorem Path.append_singleton (h : Path next stop p ps q) (going : ¬stop q) :
    Path next stop p (ps ++ [q]) (next q) := by
  induction h with
  | nil p => exact Path.cons going (Path.nil _)
  | cons going' rest ih => exact Path.cons going' (ih going)

/-- Of two paths from one link the one that ends in a stop is the longer one. -/
theorem Path.prefix_of_stop (h : Path next stop p ps q) (h' : Path next stop p ps' q')
    (hstop : stop q') : ps <+: ps' := by
  induction h generalizing ps' with
  | nil p => exact List.nil_prefix
  | cons going rest ih =>
      cases h' with
      | nil p => exact absurd hstop going
      | cons going' rest' => exact (List.prefix_cons_inj _).mpr (ih rest')

/-- A path to the stop contains every link. -/
theorem Path.mem_of_stop (h : Path next stop p ps q) (hstop : stop q)
    (h' : Path next stop p ps' q') (going : ¬stop q') : q' ∈ ps := by
  have hprefix := (h'.append_singleton going).prefix_of_stop h hstop
  exact hprefix.subset (List.mem_append_right _ (List.mem_singleton_self q'))

/-- A link that names itself is never left. -/
theorem Path.of_self (h : Path next stop p ps q) (hself : next p = p) : q = p := by
  induction h with
  | nil p => rfl
  | cons going rest ih =>
      rw [hself] at ih
      exact ih hself

end Paths

/-! ## Loops over a chain -/

section Walk

variable (next : α → α) (stop : α → Prop) [DecidablePred stop] (visit : α → β → Except ρ β)
  (leave : β → ρ)

/-- One round of a loop that visits the links until a visit fails or the chain stops. -/
def walk (s : α × β) : (α × β) ⊕ ρ :=
  if stop s.1 then .inr (leave s.2)
  else match visit s.1 s.2 with
    | .ok b => .inl (next s.1, b)
    | .error r => .inr r

/-- The visits of several links. -/
def visits : List α → β → Except ρ β
  | [], b => .ok b
  | p :: ps, b =>
    match visit p b with
    | .ok b => visits ps b
    | .error r => .error r

/-- How a loop is left at `q`. -/
def Leaves (q : α) (b : β) (r : ρ) : Prop :=
  (stop q ∧ leave b = r) ∨ (¬stop q ∧ visit q b = .error r)

variable {next stop visit leave}

theorem walk_of_stop {p : α} {b : β} (h : stop p) :
    walk next stop visit leave (p, b) = .inr (leave b) :=
  if_pos h

theorem walk_of_ok {p : α} {b b' : β} (h : ¬stop p) (hvisit : visit p b = .ok b') :
    walk next stop visit leave (p, b) = .inl (next p, b') := by
  rw [walk, if_neg h, hvisit]

theorem walk_of_error {p : α} {b : β} {r : ρ} (h : ¬stop p) (hvisit : visit p b = .error r) :
    walk next stop visit leave (p, b) = .inr r := by
  rw [walk, if_neg h, hvisit]

theorem visits_cons_of_ok {p : α} {ps : List α} {b b' : β} (h : visit p b = .ok b') :
    visits visit (p :: ps) b = visits visit ps b' := by
  rw [visits, h]

theorem visits_cons_of_error {p : α} {ps : List α} {b : β} {r : ρ} (h : visit p b = .error r) :
    visits visit (p :: ps) b = .error r := by
  rw [visits, h]

theorem Path.run {p q : α} {ps : List α} {b b' : β} {r : ρ} (h : Path next stop p ps q)
    (hvisits : visits visit ps b = .ok b') (hleaves : Leaves stop visit leave q b' r) :
    run (walk next stop visit leave) (ps.length + 1) (p, b) = some r := by
  induction h generalizing b with
  | nil p =>
      cases hvisits
      rcases hleaves with ⟨hstop, rfl⟩ | ⟨hgoing, hvisit⟩
      · rw [Iteration.run, walk_of_stop hstop]
      · rw [Iteration.run, walk_of_error hgoing hvisit]
  | @cons p q ps going rest ih =>
      cases hvisit : visit p b with
      | error r' =>
          rw [visits_cons_of_error hvisit] at hvisits
          cases hvisits
      | ok b₁ =>
          rw [visits_cons_of_ok hvisit] at hvisits
          rw [List.length_cons, Iteration.run, walk_of_ok going hvisit]
          exact ih hvisits hleaves

theorem exists_path_of_run {fuel : ℕ} {p : α} {b : β} {r : ρ}
    (h : run (walk next stop visit leave) fuel (p, b) = some r) :
    ∃ ps q b', Path next stop p ps q ∧ visits visit ps b = .ok b' ∧
      Leaves stop visit leave q b' r := by
  induction fuel generalizing p b with
  | zero => cases h
  | succ fuel ih =>
      by_cases hstop : stop p
      · rw [run, walk_of_stop hstop] at h
        exact ⟨[], p, b, Path.nil p, rfl, Or.inl ⟨hstop, Option.some.inj h⟩⟩
      · cases hvisit : visit p b with
        | error r' =>
            rw [run, walk_of_error hstop hvisit] at h
            have hr := Option.some.inj h
            exact ⟨[], p, b, Path.nil p, rfl, Or.inr ⟨hstop, hr ▸ hvisit⟩⟩
        | ok b₁ =>
            rw [run, walk_of_ok hstop hvisit] at h
            rcases ih h with ⟨ps, q, b', hpath, hvisits, hleaves⟩
            exact ⟨p :: ps, q, b', Path.cons hstop hpath, (visits_cons_of_ok hvisit).trans hvisits,
              hleaves⟩

/-- A loop returns when the visits succeed up to a link where it is left. -/
theorem returns_iff {p : α} {b : β} {r : ρ} :
    Returns (walk next stop visit leave) (p, b) r ↔
      ∃ ps q b', Path next stop p ps q ∧ visits visit ps b = .ok b' ∧
        Leaves stop visit leave q b' r := by
  constructor
  · rintro ⟨fuel, h⟩
    exact exists_path_of_run h
  · rintro ⟨ps, q, b', hpath, hvisits, hleaves⟩
    exact ⟨ps.length + 1, hpath.run hvisits hleaves⟩

end Walk

/-! ## Loops that keep a log -/

section Logging

variable {γ : Type*} (look : α → Option ρ × List γ)

/-- A visit that looks at a link, which may end the loop; the log is kept in either case. -/
def logging (p : α) (log : List γ) : Except (ρ × List γ) (List γ) :=
  match (look p).1 with
  | none => .ok (log ++ (look p).2)
  | some r => .error (r, log ++ (look p).2)

variable {look}

theorem logging_of_none {p : α} {log : List γ} (h : (look p).1 = none) :
    logging look p log = .ok (log ++ (look p).2) := by
  rw [logging, h]

theorem logging_of_some {p : α} {log : List γ} {r : ρ} (h : (look p).1 = some r) :
    logging look p log = .error (r, log ++ (look p).2) := by
  rw [logging, h]

theorem visits_logging {ps : List α} {log log' : List γ} :
    visits (logging look) ps log = .ok log' ↔
      (∀ p ∈ ps, (look p).1 = none) ∧ log' = log ++ ps.flatMap fun p => (look p).2 := by
  induction ps generalizing log with
  | nil =>
      rw [visits, List.flatMap_nil, List.append_nil]
      exact ⟨fun h => ⟨List.forall_mem_nil _, (Except.ok.inj h).symm⟩, fun h => h.2 ▸ rfl⟩
  | cons p ps ih =>
      rw [List.forall_mem_cons, List.flatMap_cons, ← List.append_assoc]
      cases hlook : (look p).1 with
      | none =>
          rw [visits_cons_of_ok (logging_of_none hlook), ih]
          simp only [true_and]
      | some r =>
          rw [visits_cons_of_error (logging_of_some hlook)]
          constructor
          · intro h
            cases h
          · intro h
            cases h.1.1

/-- A loop with a log returns at the first link that ends it, or at the chain's stop. -/
theorem returns_logging_iff {next : α → α} {stop : α → Prop} [DecidablePred stop] {p : α}
    {r₀ r : ρ} {log log' : List γ} :
    Returns (walk next stop (logging look) fun log => (r₀, log)) (p, log) (r, log') ↔
      ∃ ps q, Path next stop p ps q ∧ (∀ x ∈ ps, (look x).1 = none) ∧
        ((stop q ∧ r = r₀ ∧ log' = log ++ ps.flatMap fun x => (look x).2) ∨
          (¬stop q ∧ (look q).1 = some r ∧
            log' = log ++ (ps.flatMap fun x => (look x).2) ++ (look q).2)) := by
  refine returns_iff.trans ?_
  constructor
  · rintro ⟨ps, q, seen, hpath, hvisits, hleaves⟩
    rcases visits_logging.mp hvisits with ⟨hnone, rfl⟩
    refine ⟨ps, q, hpath, hnone, ?_⟩
    rcases hleaves with ⟨hstop, hleave⟩ | ⟨hgoing, hvisit⟩
    · cases hleave
      exact Or.inl ⟨hstop, rfl, rfl⟩
    · cases hlook : (look q).1 with
      | none =>
          rw [logging_of_none hlook] at hvisit
          cases hvisit
      | some r' =>
          rw [logging_of_some hlook] at hvisit
          cases hvisit
          exact Or.inr ⟨hgoing, rfl, rfl⟩
  · rintro ⟨ps, q, hpath, hnone, hend⟩
    refine ⟨ps, q, _, hpath, visits_logging.mpr ⟨hnone, rfl⟩, ?_⟩
    rcases hend with ⟨hstop, rfl, rfl⟩ | ⟨hgoing, hlook, rfl⟩
    · exact Or.inl ⟨hstop, rfl⟩
    · exact Or.inr ⟨hgoing, logging_of_some hlook⟩

end Logging

end Chain
