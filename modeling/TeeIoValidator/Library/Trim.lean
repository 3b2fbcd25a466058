import Mathlib.Data.BitVec
import Mathlib.Data.List.DropRight
import Mathlib.Data.List.TakeWhile

/-! Lists without the blanks around them, and lists up to a separator. -/

namespace TeeIoValidator.Trim

variable {α : Type*} {p : α → Bool}

/-- The list without the blanks at its end and at its start. -/
def trim (p : α → Bool) (xs : List α) : List α := (xs.rdropWhile p).dropWhile p

theorem rdropWhile_append {xs ys : List α} (h : xs.rdropWhile p = xs) :
    (xs ++ ys).rdropWhile p = xs ++ ys.rdropWhile p := by
  induction ys using List.reverseRecOn with
  | nil => rw [List.append_nil, h, List.rdropWhile_nil, List.append_nil]
  | append_singleton ys y ih =>
      rw [← List.append_assoc]
      by_cases hy : p y
      · rw [List.rdropWhile_concat_pos _ _ _ hy, ih, List.rdropWhile_concat_pos _ _ _ hy]
      · rw [List.rdropWhile_concat_neg _ _ _ hy, List.rdropWhile_concat_neg _ _ _ hy,
          List.append_assoc]

theorem rdropWhile_eq_nil {xs : List α} (h : ∀ x ∈ xs, p x) : xs.rdropWhile p = [] :=
  List.rdropWhile_eq_nil_iff.mpr h

theorem trim_eq_nil {xs : List α} (h : ∀ x ∈ xs, p x) : trim p xs = [] := by
  rw [trim, rdropWhile_eq_nil h, List.dropWhile_nil]

/-- Blanks at the end make no difference. -/
theorem trim_append_blanks (xs : List α) {ys : List α} (h : ∀ y ∈ ys, p y) :
    trim p (xs ++ ys) = trim p xs := by
  induction ys using List.reverseRecOn with
  | nil => rw [List.append_nil]
  | append_singleton ys y ih =>
      have hinit := ih fun z hz => h z (List.mem_append_left _ hz)
      have hlast := h y (List.mem_append_right _ (List.mem_singleton_self y))
      rw [← List.append_assoc, trim, List.rdropWhile_concat_pos _ _ _ hlast]
      exact hinit

/-- A list that starts and ends with no blank, or is empty. -/
def Trimmed (p : α → Bool) (xs : List α) : Prop := xs.dropWhile p = xs ∧ xs.rdropWhile p = xs

theorem Trimmed.of_forall {xs : List α} (h : ∀ x ∈ xs, ¬p x) : Trimmed p xs := by
  refine ⟨?_, ?_⟩
  · cases xs with
    | nil => rfl
    | cons x xs => exact List.dropWhile_cons_of_neg (h x List.mem_cons_self)
  · rw [List.rdropWhile_eq_self_iff]
    intro hne
    exact h _ (List.getLast_mem hne)

theorem Trimmed.of_ends {x y : α} {xs : List α} (hx : ¬p x) (hy : ¬p y) :
    Trimmed p (x :: xs ++ [y]) :=
  ⟨List.dropWhile_cons_of_neg hx, List.rdropWhile_concat_neg _ _ _ hy⟩

theorem dropWhile_append {xs ys : List α} (h : xs.dropWhile p = xs) (hne : xs ≠ []) :
    (xs ++ ys).dropWhile p = xs ++ ys := by
  cases xs with
  | nil => exact absurd rfl hne
  | cons x xs =>
      have hx : ¬p x := by
        intro hpx
        have hlen := congrArg List.length h
        rw [List.dropWhile_cons_of_pos hpx] at hlen
        have hle := List.length_dropWhile_le p xs
        rw [hlen, List.length_cons] at hle
        omega
      exact List.dropWhile_cons_of_neg hx

theorem rdropWhile_append_self {xs ys : List α} (h : ys.rdropWhile p = ys) (hne : ys ≠ []) :
    (xs ++ ys).rdropWhile p = xs ++ ys := by
  rw [List.rdropWhile_eq_self_iff]
  intro hne'
  rw [List.getLast_append_of_ne_nil _ hne]
  exact List.rdropWhile_eq_self_iff.mp h hne

/-- Anything may stand between two lists that are trimmed. -/
theorem Trimmed.append {xs ys : List α} (hxs : Trimmed p xs) (hne : xs ≠ []) (mid : List α)
    (hys : Trimmed p ys) (hne' : ys ≠ []) : Trimmed p (xs ++ (mid ++ ys)) := by
  refine ⟨dropWhile_append hxs.1 hne, ?_⟩
  rw [← List.append_assoc]
  exact rdropWhile_append_self hys.2 hne'

/-- What follows a list that starts and ends with no blank is trimmed at its end only. -/
theorem trim_word {blanks word : List α} (rest : List α) (hblanks : ∀ b ∈ blanks, p b)
    (hword : Trimmed p word) (hne : word ≠ []) :
    trim p (blanks ++ word ++ rest) = word ++ rest.rdropWhile p := by
  have hright : (blanks ++ word).rdropWhile p = blanks ++ word :=
    rdropWhile_append_self hword.2 hne
  rw [trim, rdropWhile_append hright, List.append_assoc, List.dropWhile_append_of_pos hblanks,
    dropWhile_append hword.1 hne]

theorem trim_word_blanks {blanks word blanks' : List α} (hblanks : ∀ b ∈ blanks, p b)
    (hword : Trimmed p word) (hne : word ≠ []) (hblanks' : ∀ b ∈ blanks', p b) :
    trim p (blanks ++ word ++ blanks') = word := by
  rw [trim_word _ hblanks hword hne, rdropWhile_eq_nil hblanks', List.append_nil]

theorem Trimmed.trim_append {word blanks : List α} (hword : Trimmed p word)
    (hblanks : ∀ b ∈ blanks, p b) : trim p (word ++ blanks) = word := by
  rw [trim_append_blanks word hblanks, trim, hword.2, hword.1]

/-- The part of a list before the first element that is asked for. -/
theorem takeWhile_append_cons {xs ys : List α} {c : α} (hxs : ∀ x ∈ xs, p x) (hc : ¬p c) :
    (xs ++ c :: ys).takeWhile p = xs := by
  rw [List.takeWhile_append_of_pos hxs, List.takeWhile_cons_of_neg hc, List.append_nil]

/-- A search that stops at a separator does not reach the end. -/
theorem length_ne_of_append_cons (xs : List α) (c : α) (ys : List α) :
    xs.length ≠ (xs ++ c :: ys).length := by
  rw [List.length_append, List.length_cons]
  omega

end TeeIoValidator.Trim
