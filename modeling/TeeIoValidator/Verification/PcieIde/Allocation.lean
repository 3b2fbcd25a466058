import Mathlib.Data.Finset.Card
import TeeIoValidator.Verification.PcieIde.Registers

/-! # The slots that `pcie_ide_alloc_slot_ids` finds

Each bit of the usage map stands for three slots, found through the PR slot of an enabled
stream's selected TX key set.
-/

namespace TeeIoValidator.PcieIde

/-! ## The usage map -/

/-- What the assertions of the walk say of an enabled stream. -/
structure Accounted (kcbar : Registers) (numKeyIvSlots : ℕ) (usageMap : BitVec 8) (i : ℕ)
    (ks : KeySet) : Prop where
  selected : selectedKeySet kcbar i = some ks
  pr_lt : namedSlot kcbar i .rx ks .pr < numKeyIvSlots
  marked : usageMap.getLsbD (namedSlot kcbar i .rx ks .pr / 3) = true

theorem getLsbD_one_shiftLeft {n : ℕ} (h : n < 8) :
    ((1 : BitVec 8) <<< n).getLsbD n = true := by
  rw [BitVec.getLsbD_shiftLeft]
  simp [h]

theorem Accounted.or {kcbar : Registers} {num i : ℕ} {usageMap : BitVec 8} {ks : KeySet}
    (h : Accounted kcbar num usageMap i ks) (bits : BitVec 8) :
    Accounted kcbar num (bits ||| usageMap) i ks :=
  ⟨h.selected, h.pr_lt, by rw [BitVec.getLsbD_or, h.marked, Bool.or_true]⟩

/-- Every enabled stream of the walk is accounted for. -/
theorem keyIvSlotUsageMap_accounted {kcbar : Registers} {num : ℕ} (hnum : num ≤ 24) (n : ℕ)
    {usageMap : BitVec 8} (h : keyIvSlotUsageMap kcbar num n = some usageMap) {i : ℕ}
    (hi : i < n) (henabled : Enabled kcbar i) : ∃ ks, Accounted kcbar num usageMap i ks := by
  induction n generalizing usageMap with
  | zero => cases hi
  | succ n ih =>
      rw [keyIvSlotUsageMap] at h
      split at h
      · cases h
      · rename_i earlier hearlier
        rcases Nat.lt_succ_iff_lt_or_eq.mp hi with hlt | rfl
        · rcases ih hearlier hlt with ⟨ks, haccounted⟩
          split at h
          · cases h
            exact ⟨ks, haccounted⟩
          · split at h
            · cases h
            · simp only at h
              split at h
              · cases h
                exact ⟨ks, haccounted.or _⟩
              · cases h
        · rw [mmioReadReg32, if_neg henabled] at h
          split at h
          · cases h
          · rename_i ks hselected
            simp only at h
            split at h
            · rename_i hasserts
              cases h
              have hpr : namedSlot kcbar i .rx ks .pr < num := hasserts.1
              refine ⟨ks, hselected, hpr, ?_⟩
              rw [BitVec.getLsbD_or]
              have hbit : namedSlot kcbar i .rx ks .pr / 3 < 8 := by omega
              exact (congrArg (· || _) (getLsbD_one_shiftLeft hbit)).trans (Bool.true_or _)
            · cases h

/-! ### The groups marked -/

/-- The groups that a usage map marks. -/
def marked (usageMap : BitVec 8) : Finset ℕ :=
  (Finset.range 8).filter fun g => usageMap.getLsbD g = true

theorem marked_or_subset (g : ℕ) (usageMap : BitVec 8) :
    marked (((1 : BitVec 8) <<< g) ||| usageMap) ⊆ insert g (marked usageMap) := by
  intro g' hg'
  rw [marked, Finset.mem_filter, BitVec.getLsbD_or, Bool.or_eq_true] at hg'
  rw [Finset.mem_insert, marked, Finset.mem_filter]
  rcases hg' with ⟨hlt, hshift | hmap⟩
  · left
    rw [BitVec.getLsbD_shiftLeft, Bool.and_eq_true, Bool.and_eq_true] at hshift
    have hbit : g' - g = 0 := by
      have hone := hshift.2
      rw [BitVec.ofNat_eq_ofNat, BitVec.getLsbD_one, Bool.and_eq_true, decide_eq_true_eq,
        decide_eq_true_eq] at hone
      exact hone.2
    have hle : ¬g' < g := by simpa using hshift.1.2
    omega
  · exact Or.inr ⟨hlt, hmap⟩

theorem marked_or_card_le (g : ℕ) (usageMap : BitVec 8) :
    (marked (((1 : BitVec 8) <<< g) ||| usageMap)).card ≤ (marked usageMap).card + 1 :=
  (Finset.card_le_card (marked_or_subset g usageMap)).trans (Finset.card_insert_le _ _)

/-- A stream marks at most one group. -/
theorem marked_card_le {kcbar : Registers} {num n : ℕ} {usageMap : BitVec 8}
    (h : keyIvSlotUsageMap kcbar num n = some usageMap) : (marked usageMap).card ≤ n := by
  induction n generalizing usageMap with
  | zero =>
      cases h
      decide
  | succ n ih =>
      rw [keyIvSlotUsageMap] at h
      split at h
      · cases h
      · rename_i earlier hearlier
        have hcard := ih hearlier
        split at h
        · cases h
          omega
        · split at h
          · cases h
          · simp only at h
            split at h
            · cases h
              exact (marked_or_card_le _ earlier).trans (Nat.succ_le_succ hcard)
            · cases h

/-! ## The slots found -/

/-- The numbers of slots that the allocation can handle. -/
def Admitted (cap : Dword) : Prop :=
  (numTxKeySlots.get cap + 1) % 3 = 0 ∧ numTxKeySlots.get cap + 1 ≤ 24

instance (cap : Dword) : Decidable (Admitted cap) := inferInstanceAs (Decidable (_ ∧ _))

/-- The last group that can be found: every stream may use one before it. -/
def lastGroup (cap : Dword) : ℕ :=
  min (numStreamSupported.get cap + 1) (numTxKeySlots.get cap / 3)

/-- The last slot that can be allocated. -/
def lastAllocated (cap : Dword) : ℕ := 3 * lastGroup cap + 2

/-- A group of slots that the allocation may find. -/
structure FreeGroup (kcbar : Registers) (g : ℕ) : Prop where
  admitted : Admitted (kcbar capabilities)
  le_lastGroup : g ≤ lastGroup (kcbar capabilities)
  free : ∀ i, StreamExists (kcbar capabilities) i → Enabled kcbar i →
    ∃ ks, selectedKeySet kcbar i = some ks ∧
      namedSlot kcbar i .rx ks .pr ≤ numTxKeySlots.get (kcbar capabilities) ∧
      namedSlot kcbar i .rx ks .pr / 3 ≠ g

theorem Admitted.lastAllocated_le {cap : Dword} (h : Admitted cap) :
    lastAllocated cap ≤ numTxKeySlots.get cap := by
  rcases h with ⟨hmod, -⟩
  have hlast : lastGroup cap ≤ numTxKeySlots.get cap / 3 := min_le_right _ _
  rw [lastAllocated]
  omega

section FreeGroup

variable {kcbar : Registers} {g : ℕ}

theorem FreeGroup.tx (h : FreeGroup kcbar g) :
    3 * g + 2 ≤ numTxKeySlots.get (kcbar capabilities) := by
  have hle := h.le_lastGroup
  have htx := h.admitted.lastAllocated_le
  rw [lastAllocated] at htx
  omega

theorem FreeGroup.lt (h : FreeGroup kcbar g) : g < 8 := by
  have htx := h.tx
  have hle := h.admitted.2
  omega

/-- An enabled stream has a group of its own. -/
theorem FreeGroup.several {i : ℕ} (h : FreeGroup kcbar g)
    (hi : StreamExists (kcbar capabilities) i) (henabled : Enabled kcbar i) :
    3 < numTxKeySlots.get (kcbar capabilities) + 1 := by
  rcases h.free i hi henabled with ⟨ks, -, hpr, hne⟩
  have htx := h.tx
  omega

end FreeGroup

/-- The first group that a usage map leaves free. -/
def FirstFree (usageMap : BitVec 8) (num g : ℕ) : Prop :=
  g < num / 3 ∧ usageMap.getLsbD g = false ∧ ∀ j < g, usageMap.getLsbD j = true

theorem find?_eq_some_iff_firstFree {usageMap : BitVec 8} {num g : ℕ} :
    ((List.range (num / 3)).find? fun i => !usageMap.getLsbD i) = some g ↔
      FirstFree usageMap num g := by
  rw [List.find?_range_eq_some, List.mem_range, FirstFree]
  simp only [Bool.not_eq_true', Bool.not_not]
  exact and_left_comm

theorem pcieIdeAllocSlotIds_eq_found_iff {kcbar : Registers} {kSet : IdeKeySet} :
    pcieIdeAllocSlotIds kcbar = .found kSet ↔
      Admitted (kcbar capabilities) ∧ ∃ usageMap g,
        keyIvSlotUsageMap kcbar (numTxKeySlots.get (kcbar capabilities) + 1)
          (numStreamSupported.get (kcbar capabilities) + 1) = some usageMap ∧
        FirstFree usageMap (numTxKeySlots.get (kcbar capabilities) + 1) g ∧
        kSet = slotGroup g := by
  constructor
  · intro h
    unfold pcieIdeAllocSlotIds at h
    simp only at h
    split at h
    · cases h
    · split at h
      · cases h
      · rename_i hmod hle
        split at h
        · cases h
        · rename_i usageMap hmap
          split at h
          · rename_i g hfind
            cases h
            exact ⟨⟨not_not.mp hmod, not_lt.mp hle⟩, usageMap, g, hmap,
              find?_eq_some_iff_firstFree.mp hfind, rfl⟩
          · cases h
  · rintro ⟨⟨hmod, hle⟩, usageMap, g, hmap, hfree, rfl⟩
    have hfind := find?_eq_some_iff_firstFree.mpr hfree
    simp only [pcieIdeAllocSlotIds, mmioReadReg32, ne_eq, hmod, not_true_eq_false, if_false,
      gt_iff_lt, if_neg (not_lt.mpr hle), hmap, hfind]

theorem pcieIdeAllocSlotIds_found {kcbar : Registers} {kSet : IdeKeySet}
    (h : pcieIdeAllocSlotIds kcbar = .found kSet) :
    ∃ g, kSet = slotGroup g ∧ FreeGroup kcbar g := by
  rcases pcieIdeAllocSlotIds_eq_found_iff.mp h with
    ⟨⟨hmod, hle⟩, usageMap, g, hmap, ⟨hg, hfree, hearlier⟩, rfl⟩
  have hused : Finset.range g ⊆ marked usageMap := by
    intro j hj
    rw [Finset.mem_range] at hj
    rw [marked, Finset.mem_filter, Finset.mem_range]
    exact ⟨by omega, hearlier j hj⟩
  have hstreams := (Finset.card_le_card hused).trans (marked_card_le hmap)
  rw [Finset.card_range] at hstreams
  refine ⟨g, rfl, ⟨hmod, hle⟩, ?_, ?_⟩
  · rw [lastGroup]
    omega
  · intro i hi henabled
    rcases keyIvSlotUsageMap_accounted hle _ hmap (Nat.lt_succ_of_le hi) henabled
      with ⟨ks, haccounted⟩
    refine ⟨ks, haccounted.selected, Nat.le_of_lt_succ haccounted.pr_lt, ?_⟩
    rintro rfl
    rw [haccounted.marked] at hfree
    cases hfree

theorem slotGroup_toNat {g : ℕ} (hg : g < 8) (direction : Direction) (subStream : SubStream) :
    ((slotGroup g direction subStream).setWidth 8).toNat = 3 * g + subStream.index := by
  have hindex : subStream.index < 3 := by cases subStream <;> decide
  rw [slotGroup, BitVec.toNat_setWidth, BitVec.toNat_ofNat]
  omega

theorem SubStream.index_inj {subStream subStream' : SubStream}
    (h : subStream.index = subStream'.index) : subStream = subStream' := by
  cases subStream <;> cases subStream' <;> first | rfl | cases h

theorem SubStream.index_lt (subStream : SubStream) : subStream.index < 3 := by
  cases subStream <;> decide

theorem slot_le_lastAllocated {cap : Dword} {g : ℕ} (hg : g ≤ lastGroup cap) (sub : SubStream) :
    3 * g + sub.index ≤ lastAllocated cap := by
  have hindex := sub.index_lt
  rw [lastAllocated]
  omega

end TeeIoValidator.PcieIde
