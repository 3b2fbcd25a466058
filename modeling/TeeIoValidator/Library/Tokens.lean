import Mathlib.Data.BitVec
import Mathlib.Data.List.Forall2
import Mathlib.Data.List.TakeWhile

/-! Lists cut at separators: the tokens are the pieces between the separators that are not
empty. -/

namespace TeeIoValidator.Tokens

variable {α : Type*} {p : α → Bool}

def tokens (p : α → Bool) (xs : List α) : List (List α) :=
  (xs.splitOnP p).filter fun piece => !piece.isEmpty

/-- The first token of a list that does not start with a separator. -/
def first (p : α → Bool) (xs : List α) : List α := xs.takeWhile fun x => !p x

/-- What is behind the separator at the end of the first token. -/
def behind (p : α → Bool) (xs : List α) : List α := (xs.dropWhile fun x => !p x).tail

theorem tokens_nil : tokens p [] = [] := by
  simp [tokens, List.splitOnP_nil]

theorem splitOnP_cons_of_separator {x : α} (hx : p x = true) (xs : List α) :
    (x :: xs).splitOnP p = [] :: xs.splitOnP p := by
  rw [List.splitOnP_cons_eq_if_modifyHead, if_pos hx]

/-- The pieces are the first one and those behind its separator. -/
theorem splitOnP_eq (xs : List α) :
    xs.splitOnP p = first p xs ::
      if xs.dropWhile (fun x => !p x) = [] then [] else (behind p xs).splitOnP p := by
  induction xs with
  | nil => rfl
  | cons x xs ih =>
      rw [List.splitOnP_cons_eq_if_modifyHead, first, behind]
      cases hx : p x with
      | true => simp [hx]
      | false => simp [hx, ih, first, behind]

theorem tokens_dropWhile (xs : List α) : tokens p (xs.dropWhile p) = tokens p xs := by
  induction xs with
  | nil => rfl
  | cons x xs ih =>
      cases hx : p x with
      | true =>
          rw [List.dropWhile_cons_of_pos hx, ih, tokens, tokens, splitOnP_cons_of_separator hx,
            List.filter_cons_of_neg (by simp)]
      | false => rw [List.dropWhile_cons_of_neg (by simp [hx])]

theorem first_ne_nil {xs : List α} (h : xs.dropWhile p ≠ []) : first p (xs.dropWhile p) ≠ [] := by
  have hhead := List.head_dropWhile_not p h
  cases hdrop : xs.dropWhile p with
  | nil => exact absurd hdrop h
  | cons y ys =>
      simp only [hdrop, List.head_cons] at hhead
      simp [first, hhead]

/-- Separators in front of a token are skipped. -/
theorem tokens_eq (xs : List α) :
    tokens p xs = if xs.dropWhile p = [] then []
      else first p (xs.dropWhile p) :: tokens p (behind p (xs.dropWhile p)) := by
  split_ifs with h
  · rw [← tokens_dropWhile, h, tokens_nil]
  · rw [← tokens_dropWhile, tokens, splitOnP_eq,
      List.filter_cons_of_pos (by simpa using first_ne_nil h)]
    split_ifs with hend
    · rw [behind, hend, List.tail_nil, tokens_nil, List.filter_nil]
    · rfl

/-- How far behind the start of a list its first token ends, and what is left then. -/
theorem length_behind (xs : List α) :
    (first p xs).length + (xs.dropWhile fun x => !p x).length = xs.length := by
  rw [first, ← List.length_append, List.takeWhile_append_dropWhile]

/-- There are no more tokens than elements, and none is longer than the list. -/
theorem tokens_bounded (xs : List α) :
    (tokens p xs).length ≤ xs.length ∧ ∀ token ∈ tokens p xs, token.length ≤ xs.length := by
  induction hn : xs.length using Nat.strong_induction_on generalizing xs with
  | _ n ih =>
      subst hn
      rw [tokens_eq]
      split_ifs with h
      · exact ⟨Nat.zero_le _, List.forall_mem_nil _⟩
      · have hdrop := List.length_dropWhile_le p xs
        have hfirst := List.length_pos_iff.mpr (first_ne_nil h)
        have hlength := length_behind (p := p) (xs.dropWhile p)
        have htail : (behind p (xs.dropWhile p)).length ≤
            ((xs.dropWhile p).dropWhile fun x => !p x).length := by
          rw [behind, List.length_tail]
          exact Nat.sub_le _ _
        obtain ⟨hcount, hlengths⟩ := ih _ (by omega) (behind p (xs.dropWhile p)) rfl
        rw [List.length_cons, List.forall_mem_cons]
        refine ⟨by omega, by omega, fun token htoken => ?_⟩
        have := hlengths token htoken
        omega

/-! ## Values of all pieces -/

variable {β : Type*} {f : α → Option β}

theorem mapM_eq_some_iff {xs : List α} {ys : List β} :
    xs.mapM f = some ys ↔ List.Forall₂ (fun x y => f x = some y) xs ys := by
  induction xs generalizing ys with
  | nil =>
      rw [List.forall₂_nil_left_iff, eq_comm (a := ys)]
      exact Option.some_inj
  | cons x xs ih =>
      rw [List.mapM_cons, List.forall₂_cons_left_iff]
      simp only [Option.bind_eq_bind, Option.bind_eq_some_iff, Option.pure_def, Option.some.injEq,
        ih]
      constructor
      · rintro ⟨y, hy, ys', hys', rfl⟩
        exact ⟨y, ys', hy, hys', rfl⟩
      · rintro ⟨y, ys', hy, hys', rfl⟩
        exact ⟨y, hy, ys', hys', rfl⟩

theorem length_of_mapM_eq_some {xs : List α} {ys : List β} (h : xs.mapM f = some ys) :
    ys.length = xs.length :=
  (mapM_eq_some_iff.mp h).length_eq.symm

/-- All pieces have values just when each of them has one. -/
theorem mapM_isSome_iff {xs : List α} :
    (xs.mapM f).isSome = true ↔ ∀ x ∈ xs, (f x).isSome = true := by
  induction xs with
  | nil => exact iff_of_true rfl (List.forall_mem_nil _)
  | cons x xs ih =>
      rw [List.mapM_cons, List.forall_mem_cons, ← ih]
      cases f x with
      | none => simp
      | some y =>
          cases xs.mapM f with
          | none => simp
          | some ys => simp

end TeeIoValidator.Tokens
