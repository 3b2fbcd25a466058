import Mathlib.Data.BitVec
import Mathlib.Data.Fintype.Fin
import Mathlib.Data.List.FinRange

/-! Tables of fixed size with a count of the records in use. -/

structure Table (α : Type*) (n : ℕ) where
  cnt : ℕ
  records : Fin n → α

namespace Table

variable {α : Type*} {n : ℕ}

/-- The first record that satisfies `p`. -/
def first? (t : Table α n) (p : α → Bool) : Option (Fin n) :=
  (List.finRange n).find? fun i => p (t.records i)

/-- The first record below the count that satisfies `p`. -/
def firstInUse? (t : Table α n) (p : α → Bool) : Option (Fin n) :=
  (List.finRange n).find? fun i => decide (i.val < t.cnt) && p (t.records i)

def put (t : Table α n) (i : Fin n) (a : α) : Table α n :=
  { t with records := Function.update t.records i a }

/-- Writing behind the last record in use. -/
def push? (t : Table α n) (a : α) : Option (Table α n) :=
  if h : t.cnt < n then some { t.put ⟨t.cnt, h⟩ a with cnt := t.cnt + 1 } else none

/-- How many records are stored. -/
def storedCount (t : Table α n) (stored : α → Bool) : ℕ :=
  (Finset.univ.filter fun i => stored (t.records i) = true).card

section

variable {t : Table α n} {i j : Fin n} {a : α} {p stored : α → Bool}

@[simp] theorem put_cnt : (t.put i a).cnt = t.cnt := rfl

@[simp] theorem put_records_self : (t.put i a).records i = a := by
  simp only [put, Function.update_self]

theorem put_records_of_ne (h : j ≠ i) : (t.put i a).records j = t.records j := by
  simp only [put, Function.update_of_ne h]

theorem first?_eq_some (h : t.first? p = some i) : p (t.records i) = true := by
  rw [first?] at h
  exact List.find?_some (p := fun i => p (t.records i)) h

theorem firstInUse?_eq_some (h : t.firstInUse? p = some i) :
    i.val < t.cnt ∧ p (t.records i) = true := by
  have hfound := List.find?_some h
  rwa [Bool.and_eq_true, decide_eq_true_eq] at hfound

theorem exists_firstInUse? (hlt : i.val < t.cnt) (h : p (t.records i) = true) :
    ∃ j, t.firstInUse? p = some j := by
  rw [← Option.isSome_iff_exists, firstInUse?, List.find?_isSome]
  refine ⟨i, List.mem_finRange i, ?_⟩
  rw [Bool.and_eq_true, decide_eq_true_eq]
  exact ⟨hlt, h⟩

theorem firstInUse?_eq_some_of_unique (hlt : i.val < t.cnt) (h : p (t.records i) = true)
    (hunique : ∀ j : Fin n, j.val < t.cnt → p (t.records j) = true → j = i) :
    t.firstInUse? p = some i := by
  obtain ⟨j, hj⟩ := exists_firstInUse? hlt h
  have hfound := firstInUse?_eq_some hj
  rw [hj, hunique j hfound.1 hfound.2]

/-- Storing a record where there was none makes one more. -/
theorem storedCount_put (hold : stored (t.records i) = false) (hnew : stored a = true) :
    (t.put i a).storedCount stored = t.storedCount stored + 1 := by
  have hinsert : (Finset.univ.filter fun j => stored ((t.put i a).records j) = true) =
      insert i (Finset.univ.filter fun j => stored (t.records j) = true) := by
    ext j
    by_cases hj : j = i
    · subst hj
      simp [hnew]
    · simp [put_records_of_ne hj, hj]
  rw [storedCount, hinsert, Finset.card_insert_of_notMem (by simp [hold])]
  rfl

/-- The records below a bound, when just these are stored. -/
theorem storedCount_eq {k : ℕ} (hk : k ≤ n) (h : ∀ i, stored (t.records i) = decide (i.val < k)) :
    t.storedCount stored = k := by
  rw [storedCount]
  simp only [h, decide_eq_true_eq]
  rw [Fin.card_filter_val_lt]
  exact min_eq_right hk

/-- What holds of the records with a key holds of them when a record is written. -/
theorem put_stored (key : α → ℕ) {P : Fin n → α → Prop} (ha : key a ≠ 0 → P i a)
    (h : ∀ j, key (t.records j) ≠ 0 → P j (t.records j)) :
    ∀ j, key ((t.put i a).records j) ≠ 0 → P j ((t.put i a).records j) := by
  intro j hj
  by_cases heq : j = i
  · rw [heq, put_records_self] at hj ⊢
    exact ha hj
  · rw [put_records_of_ne heq] at hj ⊢
    exact h j hj

end

/-! ## Filling -/

/-- The records are stored one behind the other, under keys that differ and are at most
`bound`. A record whose key is 0 is not stored. -/
structure Packed (key : α → ℕ) (bound : ℕ) (t : Table α n) : Prop where
  cnt_le : t.cnt ≤ n
  inUse : ∀ i : Fin n, i.val < t.cnt → 0 < key (t.records i) ∧ key (t.records i) ≤ bound
  unique : ∀ i j : Fin n, i.val < t.cnt → j.val < t.cnt →
    key (t.records i) = key (t.records j) → i = j
  free : ∀ i : Fin n, t.cnt ≤ i.val → key (t.records i) = 0

/-- A record is stored at the position before its key, if at all; just the keys up to `bound` have
been in question. -/
structure Positioned (key : α → ℕ) (bound : ℕ) (t : Table α n) : Prop where
  position : ∀ i : Fin n, key (t.records i) = 0 ∨ key (t.records i) = i.val + 1
  free : ∀ i : Fin n, bound ≤ i.val → key (t.records i) = 0
  count : t.cnt = t.storedCount fun a => key a != 0

/-- The stored records have keys that differ, and the count says how many there are. -/
structure Keyed (key : α → ℕ) (t : Table α n) : Prop where
  cnt_le : t.cnt ≤ n
  unique : ∀ i j : Fin n, key (t.records i) ≠ 0 → key (t.records i) = key (t.records j) → i = j
  count : t.cnt = t.storedCount fun a => key a != 0

section

variable {t t' : Table α n} {key : α → ℕ} {bound bound' : ℕ} {a : α}

theorem packed_empty {empty : Fin n → α} (h : ∀ i, key (empty i) = 0) :
    Packed key bound ⟨0, empty⟩ where
  cnt_le := Nat.zero_le n
  inUse _ hi := absurd hi (Nat.not_lt_zero _)
  unique _ _ hi := absurd hi (Nat.not_lt_zero _)
  free i _ := h i

theorem Packed.mono (h : Packed key bound t) (hle : bound ≤ bound') : Packed key bound' t where
  cnt_le := h.cnt_le
  inUse i hi := ⟨(h.inUse i hi).1, (h.inUse i hi).2.trans hle⟩
  unique := h.unique
  free := h.free

/-- The next record has a key that is larger than those before. -/
theorem Packed.store (h : Packed key bound t) (hlt : t.cnt < n) (hkey : bound < key a)
    (hbound : key a ≤ bound') :
    Packed key bound' { t.put ⟨t.cnt, hlt⟩ a with cnt := t.cnt + 1 } := by
  have hself : ∀ i : Fin n, i.val = t.cnt → (t.put ⟨t.cnt, hlt⟩ a).records i = a := by
    intro i hi
    have heq : i = ⟨t.cnt, hlt⟩ := Fin.ext hi
    rw [heq, put_records_self]
  have hother : ∀ i : Fin n, i.val ≠ t.cnt →
      (t.put ⟨t.cnt, hlt⟩ a).records i = t.records i := by
    intro i hi
    exact put_records_of_ne fun heq => hi (congrArg Fin.val heq)
  have hsmaller : ∀ i : Fin n, i.val < t.cnt → key (t.records i) < key a := by
    intro i hi
    exact Nat.lt_of_le_of_lt (h.inUse i hi).2 hkey
  refine ⟨hlt, ?_, ?_, ?_⟩
  · intro i hi
    by_cases heq : i.val = t.cnt
    · rw [hself i heq]
      exact ⟨Nat.lt_of_le_of_lt (Nat.zero_le _) hkey, hbound⟩
    · rw [hother i heq]
      have hin := h.inUse i (Nat.lt_of_le_of_ne (Nat.lt_succ_iff.mp hi) heq)
      exact ⟨hin.1, (hin.2.trans hkey.le).trans hbound⟩
  · intro i j hi hj hkeys
    by_cases hieq : i.val = t.cnt
    · by_cases hjeq : j.val = t.cnt
      · exact Fin.ext (hieq.trans hjeq.symm)
      · rw [hself i hieq, hother j hjeq] at hkeys
        have hlt := hsmaller j (Nat.lt_of_le_of_ne (Nat.lt_succ_iff.mp hj) hjeq)
        omega
    · by_cases hjeq : j.val = t.cnt
      · rw [hother i hieq, hself j hjeq] at hkeys
        have hlt := hsmaller i (Nat.lt_of_le_of_ne (Nat.lt_succ_iff.mp hi) hieq)
        omega
      · rw [hother i hieq, hother j hjeq] at hkeys
        exact h.unique i j (Nat.lt_of_le_of_ne (Nat.lt_succ_iff.mp hi) hieq)
          (Nat.lt_of_le_of_ne (Nat.lt_succ_iff.mp hj) hjeq) hkeys
  · intro i hi
    have hle : t.cnt + 1 ≤ i.val := hi
    rw [hother i (by omega)]
    exact h.free i (by omega)

/-- Writing behind the stored records without storing one. -/
theorem Packed.scratch (h : Packed key bound t) (hlt : t.cnt < n) (hkey : key a = 0) :
    Packed key bound (t.put ⟨t.cnt, hlt⟩ a) := by
  have hother : ∀ i : Fin n, i.val < t.cnt →
      (t.put ⟨t.cnt, hlt⟩ a).records i = t.records i := by
    intro i hi
    exact put_records_of_ne fun heq => Nat.ne_of_lt hi (congrArg Fin.val heq)
  refine ⟨h.cnt_le, ?_, ?_, ?_⟩
  · intro i hi
    rw [hother i hi]
    exact h.inUse i hi
  · intro i j hi hj hkeys
    rw [hother i hi, hother j hj] at hkeys
    exact h.unique i j hi hj hkeys
  · intro i hi
    by_cases heq : i = ⟨t.cnt, hlt⟩
    · rw [heq, put_records_self, hkey]
    · rw [put_records_of_ne heq]
      exact h.free i hi

theorem Packed.stored_iff (h : Packed key bound t) (i : Fin n) :
    key (t.records i) ≠ 0 ↔ i.val < t.cnt := by
  constructor
  · intro hkey
    by_contra hlt
    exact hkey (h.free i (Nat.le_of_not_lt hlt))
  · intro hlt
    exact Nat.pos_iff_ne_zero.mp (h.inUse i hlt).1

/-- The count is the number of stored records. -/
theorem Packed.storedCount_eq (h : Packed key bound t) :
    (t.storedCount fun a => key a != 0) = t.cnt := by
  apply Table.storedCount_eq h.cnt_le
  intro i
  rw [Bool.eq_iff_iff, bne_iff_ne, decide_eq_true_eq]
  exact h.stored_iff i

theorem positioned_empty {empty : Fin n → α} (h : ∀ i, key (empty i) = 0) :
    Positioned key bound ⟨0, empty⟩ where
  position i := Or.inl (h i)
  free i _ := h i
  count := by
    symm
    apply storedCount_eq (Nat.zero_le n)
    intro i
    simp [h i]

theorem Positioned.mono (h : Positioned key bound t) (hle : bound ≤ bound') :
    Positioned key bound' t where
  position := h.position
  free i hi := h.free i (hle.trans hi)
  count := h.count

theorem Positioned.store (h : Positioned key bound t) (hlt : bound < n) (hkey : key a = bound + 1) :
    Positioned key (bound + 1) { t.put ⟨bound, hlt⟩ a with cnt := t.cnt + 1 } := by
  refine ⟨?_, ?_, ?_⟩
  · intro i
    by_cases heq : i = ⟨bound, hlt⟩
    · right
      rw [heq, put_records_self, hkey]
    · have hold := h.position i
      rwa [← put_records_of_ne heq] at hold
  · intro i hi
    have hne : i ≠ ⟨bound, hlt⟩ := by
      intro heq
      have hval := congrArg Fin.val heq
      have hle : bound + 1 ≤ i.val := hi
      simp only at hval
      omega
    rw [put_records_of_ne hne]
    exact h.free i ((Nat.le_succ bound).trans hi)
  · have hfree : (key (t.records ⟨bound, hlt⟩) != 0) = false := by
      simp [h.free ⟨bound, hlt⟩ le_rfl]
    have hcount : (t.put ⟨bound, hlt⟩ a).storedCount (fun a => key a != 0) =
        t.storedCount (fun a => key a != 0) + 1 := storedCount_put hfree (by simp [hkey])
    rw [h.count]
    exact hcount.symm

theorem Packed.keyed (h : Packed key bound t) : Keyed key t where
  cnt_le := h.cnt_le
  unique i j hi heq := by
    have hj : key (t.records j) ≠ 0 := heq ▸ hi
    exact h.unique i j ((h.stored_iff i).mp hi) ((h.stored_iff j).mp hj) heq
  count := h.storedCount_eq.symm

theorem Positioned.keyed (h : Positioned key bound t) : Keyed key t where
  cnt_le := by
    rw [h.count, storedCount]
    exact (Finset.card_le_univ _).trans_eq (Fintype.card_fin n)
  unique i j hi heq := by
    have hpos := (h.position i).resolve_left hi
    have hpos' := (h.position j).resolve_left (heq ▸ hi)
    exact Fin.ext (by omega)
  count := h.count

end

end Table
