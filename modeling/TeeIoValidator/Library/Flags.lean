import Mathlib.Data.BitVec
import Mathlib.Data.List.Basic

/-! Flags of a bit field, by their positions. -/

namespace TeeIoValidator.Flags

variable {w : ℕ}

/-- The mask of the flags at some positions. -/
def mask : List (Fin w) → BitVec w
  | [] => 0#w
  | i :: is => BitVec.twoPow w i ||| mask is

theorem getLsbD_mask (is : List (Fin w)) (i : Fin w) :
    (mask is).getLsbD i = true ↔ i ∈ is := by
  induction is with
  | nil => simp [mask]
  | cons j is ih =>
      rw [mask, BitVec.getLsbD_or, Bool.or_eq_true, ih, List.mem_cons, BitVec.getLsbD_twoPow]
      simp [Fin.ext_iff, eq_comm]

/-- A field and a mask have a flag in common. -/
theorem and_ne_zero_iff {v m : BitVec w} :
    v &&& m ≠ 0#w ↔ ∃ i : Fin w, v.getLsbD i = true ∧ m.getLsbD i = true := by
  constructor
  · intro h
    by_contra hnone
    refine h (BitVec.eq_of_getLsbD_eq fun i hi => ?_)
    rw [BitVec.getLsbD_and, BitVec.getLsbD_zero, Bool.and_eq_false_iff]
    by_contra hboth
    rw [not_or, Bool.not_eq_false, Bool.not_eq_false] at hboth
    exact hnone ⟨⟨i, hi⟩, hboth⟩
  · rintro ⟨i, hv, hm⟩ h
    have hbit := congrArg (fun u => u.getLsbD i) h
    simp only [BitVec.getLsbD_and, BitVec.getLsbD_zero, hv, hm] at hbit
    cases hbit

theorem and_mask_ne_zero_iff {v : BitVec w} {is : List (Fin w)} :
    v &&& mask is ≠ 0#w ↔ ∃ i ∈ is, v.getLsbD i = true := by
  simp only [and_ne_zero_iff, getLsbD_mask, and_comm]

/-- A flag among those that a field is restricted to is what it was. -/
theorem and_mask_and_mask {is js : List (Fin w)} (v : BitVec w) (h : js ⊆ is) :
    v &&& mask is &&& mask js = v &&& mask js := by
  refine BitVec.eq_of_getLsbD_eq fun i hi => ?_
  simp only [BitVec.getLsbD_and, Bool.and_assoc]
  cases hj : (mask js).getLsbD i with
  | false => simp
  | true =>
      have hmem := h ((getLsbD_mask js ⟨i, hi⟩).mp hj)
      have hi : (mask is).getLsbD i = true := (getLsbD_mask is ⟨i, hi⟩).mpr hmem
      rw [hi, Bool.true_and]

theorem and_mask_singleton (v : BitVec w) (i : Fin w) :
    v &&& mask [i] = if v.getLsbD i then mask [i] else 0#w := by
  cases hv : v.getLsbD i with
  | false =>
      by_contra hne
      obtain ⟨j, hj, hset⟩ := and_mask_ne_zero_iff.mp hne
      rw [List.mem_singleton.mp hj, hv] at hset
      cases hset
  | true =>
      refine BitVec.eq_of_getLsbD_eq fun j hj => ?_
      rw [BitVec.getLsbD_and, if_pos rfl]
      cases hm : (mask [i]).getLsbD j with
      | false => simp
      | true =>
          have hmem := (getLsbD_mask [i] ⟨j, hj⟩).mp hm
          rw [← List.mem_singleton.mp hmem] at hv
          simpa using hv

/-- Exclusive or of two masked flags is as good as their disjunction. -/
theorem xor_ne_zero_iff {v : BitVec w} {i j : Fin w} (hne : i ≠ j) :
    (v &&& mask [i]) ^^^ (v &&& mask [j]) ≠ 0#w ↔
      v.getLsbD i = true ∨ v.getLsbD j = true := by
  rw [Ne, BitVec.xor_eq_zero_iff]
  rw [and_mask_singleton, and_mask_singleton]
  have hmasks : mask [i] ≠ mask [j] := by
    intro h
    have hmem := (getLsbD_mask [j] i).mp (h ▸ (getLsbD_mask [i] i).mpr List.mem_cons_self)
    exact hne (List.mem_singleton.mp hmem)
  have hzero (k : Fin w) : mask [k] ≠ 0#w := by
    intro h
    have hbit := (getLsbD_mask [k] k).mpr List.mem_cons_self
    rw [h] at hbit
    simp at hbit
  cases v.getLsbD i with
  | false =>
      cases v.getLsbD j with
      | false => simp
      | true => simp [(hzero j).symm]
  | true =>
      cases v.getLsbD j with
      | false => simp [hzero i]
      | true => simp [hmasks]

/-- Clearing the low bits rounds it down. -/
theorem toNat_and_not_low (value : BitVec w) (k : ℕ) :
    (value &&& ~~~(BitVec.ofNat w (2 ^ k - 1))).toNat = value.toNat / 2 ^ k * 2 ^ k := by
  have hshift : value &&& ~~~(BitVec.ofNat w (2 ^ k - 1)) = (value >>> k) <<< k := by
    apply BitVec.eq_of_getLsbD_eq
    intro i hi
    simp only [BitVec.getLsbD_and, BitVec.getLsbD_not, BitVec.getLsbD_ofNat,
      BitVec.getLsbD_shiftLeft, BitVec.getLsbD_ushiftRight, Nat.testBit_two_pow_sub_one, hi,
      decide_true, Bool.true_and]
    by_cases hik : i < k
    · simp [hik]
    · simp [hik, Nat.add_sub_cancel' (Nat.le_of_not_lt hik)]
  have hle : value.toNat / 2 ^ k * 2 ^ k ≤ value.toNat := Nat.div_mul_le_self _ _
  rw [hshift, BitVec.toNat_shiftLeft, BitVec.toNat_ushiftRight, Nat.shiftRight_eq_div_pow,
    Nat.shiftLeft_eq, Nat.mod_eq_of_lt (Nat.lt_of_le_of_lt hle value.isLt)]

end TeeIoValidator.Flags
