import Mathlib.Data.BitVec
import Mathlib.Data.List.Basic

/-! Histories: what each action of a list has before it. -/

namespace History

variable {α : Type*}

/-- Every action stands in the relation to those before it. -/
def Each (P : List α → α → Prop) (actions : List α) : Prop :=
  ∀ before a after, actions = before ++ a :: after → P before a

section

variable {P Q : List α → α → Prop} {actions : List α} {a : α}

theorem each_nil : Each P [] := by
  intro before a after h
  exact absurd h.symm (List.append_ne_nil_of_right_ne_nil before (List.cons_ne_nil a after))

theorem each_append_singleton : Each P (actions ++ [a]) ↔ Each P actions ∧ P actions a := by
  constructor
  · intro h
    refine ⟨fun before b after hsplit => ?_, h actions a [] rfl⟩
    exact h before b (after ++ [a]) (by rw [hsplit, List.append_assoc, List.cons_append])
  · rintro ⟨hactions, ha⟩ before b after hsplit
    rcases List.eq_nil_or_concat after with rfl | ⟨after, c, rfl⟩
    · obtain ⟨rfl, hab⟩ := List.append_inj' hsplit rfl
      cases hab
      exact ha
    · rw [List.concat_eq_append, ← List.cons_append, ← List.append_assoc] at hsplit
      exact hactions before b after (List.append_inj' hsplit rfl).1

theorem each_cons : Each P (a :: actions) ↔
    P [] a ∧ Each (fun before b => P (a :: before) b) actions := by
  constructor
  · intro h
    refine ⟨h [] a actions rfl, fun before b after hsplit => ?_⟩
    exact h (a :: before) b after (by rw [hsplit, List.cons_append])
  · rintro ⟨ha, hactions⟩ before b after hsplit
    cases before with
    | nil =>
        obtain ⟨rfl, -⟩ := List.cons.inj hsplit
        exact ha
    | cons c before =>
        obtain ⟨rfl, hrest⟩ := List.cons.inj hsplit
        exact hactions before b after hrest

theorem each_congr (h : ∀ before b, P before b ↔ Q before b) : Each P actions ↔ Each Q actions := by
  obtain rfl : P = Q := funext fun before => funext fun b => propext (h before b)
  exact Iff.rfl

/-- Actions that may come after anything. -/
theorem Each.append_of_forall {more : List α} (h : Each P actions)
    (hmore : ∀ a ∈ more, ∀ before, P before a) : Each P (actions ++ more) := by
  induction more generalizing actions with
  | nil => simpa using h
  | cons b more ih =>
      rw [List.append_cons]
      refine ih (each_append_singleton.mpr ⟨h, hmore b List.mem_cons_self actions⟩) ?_
      exact fun a ha => hmore a (List.mem_cons_of_mem b ha)

theorem Each.mono (h : Each P actions) (himp : ∀ before a, P before a → Q before a) :
    Each Q actions :=
  fun before a after hsplit => himp before a (h before a after hsplit)

end

/-- No action comes after one that is marked. -/
def Stops (marked : α → Prop) : List α → Prop :=
  Each fun before _ => ∀ a ∈ before, ¬marked a

section

variable {marked : α → Prop} {actions : List α} {a : α}

theorem stops_append_singleton : Stops marked (actions ++ [a]) ↔ ∀ b ∈ actions, ¬marked b := by
  rw [Stops, each_append_singleton]
  refine ⟨And.right, fun h => ⟨fun before b after hsplit c hc => ?_, h⟩⟩
  exact h c (by rw [hsplit]; exact List.mem_append_left _ hc)

theorem stops_of_append {more : List α} (hsplit : actions ++ [a] = more)
    (h : ∀ b ∈ actions, ¬marked b) : Stops marked more :=
  hsplit ▸ stops_append_singleton.mpr h

/-- Without a marked action there is nothing to stop at. -/
theorem stops_of_forall (h : ∀ b ∈ actions, ¬marked b) : Stops marked actions := by
  intro before b after hsplit c hc
  exact h c (by rw [hsplit]; exact List.mem_append_left _ hc)

theorem Stops.append {more : List α} (hmore : Stops marked more)
    (hactions : ∀ b ∈ actions, ¬marked b) : Stops marked (actions ++ more) := by
  intro before b after hsplit c hc
  rcases List.append_eq_append_iff.mp hsplit with ⟨rest, rfl, hrest⟩ | ⟨rest, rfl, hrest⟩
  · rcases List.mem_append.mp hc with hc | hc
    · exact hactions c hc
    · exact hmore rest b after hrest c hc
  · exact hactions c (List.mem_append_left _ hc)

end

end History
