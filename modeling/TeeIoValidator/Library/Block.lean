import Mathlib.Data.BitVec
import Mathlib.Data.List.Basic
import Mathlib.Logic.Function.Basic

/-! Blocks of consecutive words of a memory. -/

namespace TeeIoValidator.Block

variable {α : Type*}

/-- The words are written one after the other, from `dst` on. -/
def write (m : ℕ → α) (dst : ℕ) : List α → ℕ → α
  | [] => m
  | v :: vs => write (Function.update m dst v) (dst + 1) vs

def read (m : ℕ → α) (src n : ℕ) : List α := (List.range n).map fun i => m (src + i)

theorem write_of_lt (m : ℕ → α) {a dst : ℕ} (h : a < dst) (vs : List α) :
    write m dst vs a = m a := by
  induction vs generalizing m dst with
  | nil => rfl
  | cons v vs ih => rw [write, ih _ (Nat.lt_succ_of_lt h), Function.update_of_ne (Nat.ne_of_lt h)]

theorem write_of_le (m : ℕ → α) {a dst : ℕ} {vs : List α} (h : dst + vs.length ≤ a) :
    write m dst vs a = m a := by
  induction vs generalizing m dst with
  | nil => rfl
  | cons v vs ih =>
      rw [List.length_cons] at h
      rw [write, ih _ (by omega), Function.update_of_ne (by omega)]

theorem write_add (m : ℕ → α) (dst : ℕ) {vs : List α} {i : ℕ} (h : i < vs.length) :
    write m dst vs (dst + i) = vs[i] := by
  induction vs generalizing m dst i with
  | nil => cases h
  | cons v vs ih =>
      cases i with
      | zero =>
          have hfirst := write_of_lt (Function.update m dst v) (Nat.lt_succ_self dst) vs
          rw [Function.update_self] at hfirst
          exact hfirst
      | succ i =>
          have hrest := ih (Function.update m dst v) (dst + 1) (Nat.lt_of_succ_lt_succ h)
          rw [Nat.add_assoc, Nat.add_comm 1 i] at hrest
          exact hrest

/-- What a word holds after a block is written. -/
theorem write_apply (m : ℕ → α) (dst a : ℕ) (vs : List α) :
    write m dst vs a = if h : dst ≤ a ∧ a < dst + vs.length then vs[a - dst] else m a := by
  split_ifs with h
  · have hword := @write_add α m dst vs (a - dst) (by omega)
    rwa [Nat.add_sub_cancel' h.1] at hword
  · by_cases hlt : a < dst
    · exact write_of_lt m hlt vs
    · exact write_of_le m (by omega)

/-- Two blocks that share no address. -/
def Disjoint (a n b k : ℕ) : Prop := a + n ≤ b ∨ b + k ≤ a

theorem read_length (m : ℕ → α) (src n : ℕ) : (read m src n).length = n := by
  simp [read]

/-- Words that are followed by others. -/
theorem read_add (m : ℕ → α) (src n k : ℕ) :
    read m src (n + k) = read m src n ++ read m (src + n) k := by
  rw [read, List.range_add, List.map_append, List.map_map]
  refine congrArg (read m src n ++ ·) (List.map_congr_left fun i _ => ?_)
  rw [Function.comp_apply, Nat.add_assoc]

theorem read_write (m : ℕ → α) (dst : ℕ) (vs : List α) :
    read (write m dst vs) dst vs.length = vs := by
  apply List.ext_getElem
  · exact read_length _ _ _
  · intro i _ h
    simp only [read, List.getElem_map, List.getElem_range]
    exact write_add m dst h

theorem read_congr {m m' : ℕ → α} {src n : ℕ} (h : ∀ i < n, m (src + i) = m' (src + i)) :
    read m src n = read m' src n :=
  List.map_congr_left fun i hi => h i (List.mem_range.mp hi)

/-- The frame rule of a block. -/
theorem read_write_of_disjoint (m : ℕ → α) {src n dst : ℕ} {vs : List α}
    (h : Disjoint src n dst vs.length) : read (write m dst vs) src n = read m src n := by
  apply read_congr
  intro i hi
  rcases h with h | h
  · exact write_of_lt m (by omega) vs
  · exact write_of_le m (by omega)

theorem read_update_of_disjoint (m : ℕ → α) {src n a : ℕ} (h : Disjoint src n a 1) (v : α) :
    read (Function.update m a v) src n = read m src n := by
  apply read_congr
  intro i hi
  have hne : src + i ≠ a := by
    rcases h with h | h <;> omega
  exact Function.update_of_ne hne v m

end TeeIoValidator.Block
