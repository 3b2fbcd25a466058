import Mathlib.Tactic.IntervalCases
import TeeIoValidator.Library.Tracked
import TeeIoValidator.Model.PcieIde.KeyManagement
import TeeIoValidator.Verification.PcieIde.Allocation

/-! # The mapped part of the key configuration unit

A fixed number of bytes is mapped, while the layout depends on three counts that the device
reports. The allocation of slots looks at one of them.
-/

namespace TeeIoValidator.PcieIde

/-! ## Accesses -/

def trackedKcbarSetKeySlot (t : Tracked Dword) (direction : Direction) (slotId : BitVec 8)
    (keyVal ivVal : List Dword) : Tracked Dword :=
  let (cap, t) := t.read capabilities
  let t := t.writeBlock (keySlot cap direction slotId.toNat) keyVal
  t.writeBlock (ivSlot cap direction slotId.toNat) ivVal

def trackedCfgRootportIdeKeys (t : Tracked Dword) (rpStreamIndex : ℕ) (direction : Direction)
    (ks : KeySet) (subStream : SubStream) (slotId : BitVec 8) (keyVal iv : List Dword) :
    Tracked Dword :=
  let t := trackedKcbarSetKeySlot t direction slotId keyVal iv
  let keysetSlotIdReg := keysetSlotId rpStreamIndex direction ks
  let (keyset, t) := t.read keysetSlotIdReg
  t.write keysetSlotIdReg ((slotIdField subStream).set keyset slotId.toNat)

def trackedInitializeKcbarRegisters (t : Tracked Dword) (stream : BitVec 8)
    (rpStreamIndex : ℕ) : Tracked Dword :=
  let t := t.write (txrxControl rpStreamIndex .rx) 0
  let t := t.write (txrxControl rpStreamIndex .tx) 0
  let t := t.write (txKeySet rpStreamIndex .ks0) 0
  let t := t.write (txKeySet rpStreamIndex .ks1) 0
  let t := t.write (rxKeySet rpStreamIndex .ks0) 0
  let t := t.write (rxKeySet rpStreamIndex .ks1) 0
  t.write (streamControl rpStreamIndex) (streamId.set 0 stream.toNat)

def trackedEnableIdeStreamInKcbar (t : Tracked Dword) (rpStreamIndex : ℕ) (enable : Bool) :
    Tracked Dword :=
  let ctrlReg := streamControl rpStreamIndex
  let (ctrl, t) := t.read ctrlReg
  t.write ctrlReg (en.set ctrl enable.toNat)

section Accesses

variable (t : Tracked Dword) {i : ℕ} {d : Direction} {ks : KeySet} {sub : SubStream}
  {slotId : BitVec 8} {key iv : List Dword} {size : ℕ}

/-! The record changes nothing. -/

theorem trackedKcbarSetKeySlot_mem :
    (trackedKcbarSetKeySlot t d slotId key iv).mem = kcbarSetKeySlot t.mem d slotId key iv := by
  simp only [trackedKcbarSetKeySlot, Tracked.writeBlock_mem, Tracked.read_fst,
    Tracked.read_snd_mem, kcbarSetKeySlot, regMemcpyDw, mmioReadReg32]

theorem trackedCfgRootportIdeKeys_mem :
    (trackedCfgRootportIdeKeys t i d ks sub slotId key iv).mem =
      cfgRootportIdeKeys t.mem i d ks sub slotId key iv := by
  simp only [trackedCfgRootportIdeKeys, Tracked.write_mem, Tracked.read_fst,
    Tracked.read_snd_mem, trackedKcbarSetKeySlot_mem, cfgRootportIdeKeys, mmioWriteReg32,
    mmioReadReg32]

theorem trackedInitializeKcbarRegisters_mem (stream : BitVec 8) :
    (trackedInitializeKcbarRegisters t stream i).mem = initializeKcbarRegisters t.mem stream i :=
  rfl

theorem trackedEnableIdeStreamInKcbar_mem (enable : Bool) :
    (trackedEnableIdeStreamInKcbar t i enable).mem = enableIdeStreamInKcbar t.mem i enable :=
  rfl

/-! Which part of the memory each function needs. -/

theorem within_trackedKcbarSetKeySlot (hkey : key.length = 8) (hiv : iv.length = 2) :
    (trackedKcbarSetKeySlot t d slotId key iv).Within size ↔
      t.Within size ∧ ivSlot (t.mem capabilities) d slotId.toNat + 2 ≤ size ∧
        keySlot (t.mem capabilities) d slotId.toNat + 8 ≤ size := by
  have hkeyNe : key ≠ [] := List.ne_nil_of_length_pos (by omega)
  have hivNe : iv ≠ [] := List.ne_nil_of_length_pos (by omega)
  have hcap : capabilities < keySlot (t.mem capabilities) d slotId.toNat :=
    Nat.lt_of_lt_of_le capabilities_lt txKeySlot_le_keySlot
  rw [trackedKcbarSetKeySlot]
  simp only [Tracked.within_writeBlock _ _ hkeyNe, Tracked.within_writeBlock _ _ hivNe,
    Tracked.within_read, Tracked.read_fst, hkey, hiv]
  constructor
  · rintro ⟨⟨⟨ht, -⟩, hkeyFits⟩, hivFits⟩
    exact ⟨ht, hivFits, hkeyFits⟩
  · rintro ⟨ht, hivFits, hkeyFits⟩
    exact ⟨⟨⟨ht, by omega⟩, hkeyFits⟩, hivFits⟩

theorem within_trackedCfgRootportIdeKeys :
    (trackedCfgRootportIdeKeys t i d ks sub slotId key iv).Within size ↔
      (trackedKcbarSetKeySlot t d slotId key iv).Within size ∧ keysetSlotId i d ks < size := by
  simp only [trackedCfgRootportIdeKeys, Tracked.within_write, Tracked.within_read, and_assoc,
    and_self]

theorem within_trackedInitializeKcbarRegisters (stream : BitVec 8) :
    (trackedInitializeKcbarRegisters t stream i).Within size ↔
      t.Within size ∧ getStreamCfgRegBlock i + 9 ≤ size := by
  simp only [trackedInitializeKcbarRegisters, Tracked.within_write, txrxControl, txKeySet,
    rxKeySet, streamControl, and_assoc]
  constructor
  · rintro ⟨ht, -, -, -, -, -, hlast, -⟩
    exact ⟨ht, hlast⟩
  · rintro ⟨ht, hlast⟩
    exact ⟨ht, by omega⟩

theorem within_trackedEnableIdeStreamInKcbar (enable : Bool) :
    (trackedEnableIdeStreamInKcbar t i enable).Within size ↔
      t.Within size ∧ streamControl i < size := by
  simp only [trackedEnableIdeStreamInKcbar, Tracked.within_write, Tracked.within_read, and_assoc,
    and_self]

end Accesses

/-! ## Regions -/

/-- The registers of a stream or of a slot; a slot holds a key and an IV. -/
inductive Region where
  | stream (rpStreamIndex : ℕ)
  | slot (direction : Direction) (slot : ℕ)
  deriving Repr, DecidableEq

namespace Region

def Exists (cap : Dword) : Region → Prop
  | .stream i => StreamExists cap i
  | .slot d n => SlotExists cap d n

/-- The first register and the length of each block. -/
def blocks (cap : Dword) : Region → List (ℕ × ℕ)
  | .stream i => [(getStreamCfgRegBlock i, 9)]
  | .slot d n => [(keySlot cap d n, 8), (ivSlot cap d n, 2)]

def Disjoint (cap : Dword) (r r' : Region) : Prop :=
  ∀ b ∈ r.blocks cap, ∀ b' ∈ r'.blocks cap, Block.Disjoint b.1 b.2 b'.1 b'.2

variable {cap : Dword}

theorem Disjoint.symm {r r' : Region} (h : r.Disjoint cap r') : r'.Disjoint cap r :=
  fun b hb b' hb' => (h b' hb' b hb).symm

theorem disjoint_stream {i j : ℕ} (hne : i ≠ j) :
    (Region.stream i).Disjoint cap (.stream j) := by
  simp only [Disjoint, blocks, List.forall_mem_singleton, Block.Disjoint, getStreamCfgRegBlock]
  omega

theorem disjoint_stream_slot {i n : ℕ} {d : Direction} (hi : StreamExists cap i) :
    (Region.stream i).Disjoint cap (.slot d n) := by
  have hend : getStreamCfgRegBlock i + 9 ≤ txKeySlot cap 0 := by
    rw [StreamExists] at hi
    simp only [txKeySlot, getStreamCfgRegBlock]
    omega
  simp only [Disjoint, blocks, List.forall_mem_cons, List.not_mem_nil, false_implies,
    implies_true, and_true]
  exact ⟨Or.inl (hend.trans txKeySlot_le_keySlot), Or.inl (hend.trans txKeySlot_le_ivSlot)⟩

theorem disjoint_slot {d d' : Direction} {n n' : ℕ} (hn : SlotExists cap d n)
    (hn' : SlotExists cap d' n') (hne : d = d' → n ≠ n') :
    (Region.slot d n).Disjoint cap (.slot d' n') := by
  simp only [Disjoint, blocks, List.forall_mem_cons, List.not_mem_nil, false_implies,
    implies_true, and_true]
  exact ⟨⟨keySlot_disjoint_keySlot hne hn hn', keySlot_disjoint_ivSlot hn hn'⟩,
    (keySlot_disjoint_ivSlot hn' hn).symm, ivSlot_disjoint_ivSlot hne hn hn'⟩

/-- The layout gives distinct streams and slots distinct registers. -/
theorem disjoint_of_ne {r r' : Region} (hr : r.Exists cap) (hr' : r'.Exists cap)
    (hne : r ≠ r') : r.Disjoint cap r' := by
  cases r with
  | stream i =>
      cases r' with
      | stream j => exact disjoint_stream fun h => hne (h ▸ rfl)
      | slot d n => exact disjoint_stream_slot hr
  | slot d n =>
      cases r' with
      | stream j => exact (disjoint_stream_slot hr').symm
      | slot d' n' =>
          refine disjoint_slot hr hr' ?_
          rintro rfl rfl
          exact hne rfl

end Region

/-! ## The groups that can be found -/

theorem findFreeRpStreamIndex_exists {kcbar : Registers} {i : ℕ}
    (h : findFreeRpStreamIndex kcbar = some i) : StreamExists (kcbar capabilities) i := by
  have hmem := List.mem_of_find?_eq_some h
  exact Nat.le_of_lt_succ (List.mem_range.mp hmem)

/-! ### Streams that use the groups in order -/

/-- The first `n` streams are enabled, with the first `n` groups. -/
def occupied (cap : Dword) (n : ℕ) : Registers := fun reg =>
  let i := (reg - 1) / 9
  if reg = capabilities then cap
  else if n ≤ i then 0
  else if reg = streamControl i ∨ reg = txrxControl i .rx then 1
  else if reg = txKeySet i .ks0 then
    BitVec.ofNat 32 (3 * i + (3 * i + 1) * 2 ^ 10 + (3 * i + 2) * 2 ^ 20)
  else 0

section Occupied

variable {cap : Dword} {n i : ℕ}

theorem occupied_of_le {reg : ℕ} (hcap : reg ≠ capabilities) (h : n ≤ (reg - 1) / 9) :
    occupied cap n reg = 0 := by
  simp only [occupied, if_neg hcap, if_pos h]

theorem occupied_streamControl_of_le (h : n ≤ i) : occupied cap n (streamControl i) = 0 := by
  apply occupied_of_le capabilities_ne_streamControl.symm
  simp only [streamControl, getStreamCfgRegBlock]
  omega

theorem occupied_streamControl (h : i < n) : occupied cap n (streamControl i) = 1 := by
  have hindex : (streamControl i - 1) / 9 = i := by
    simp only [streamControl, getStreamCfgRegBlock]
    omega
  simp only [occupied, if_neg capabilities_ne_streamControl.symm, hindex, if_neg (not_le.mpr h),
    true_or, if_true]

theorem occupied_txControl (h : i < n) : occupied cap n (txrxControl i .rx) = 1 := by
  have hindex : (txrxControl i .rx - 1) / 9 = i := by
    simp only [txrxControl, getStreamCfgRegBlock]
    omega
  simp only [occupied, if_neg capabilities_ne_txrxControl.symm, hindex, if_neg (not_le.mpr h),
    or_true, if_true]

theorem occupied_txKeySet (h : i < n) : occupied cap n (txKeySet i .ks0) =
    BitVec.ofNat 32 (3 * i + (3 * i + 1) * 2 ^ 10 + (3 * i + 2) * 2 ^ 20) := by
  have hindex : (txKeySet i .ks0 - 1) / 9 = i := by
    simp only [txKeySet, getStreamCfgRegBlock]
    omega
  have hcap : txKeySet i .ks0 ≠ capabilities :=
    (@capabilities_ne_keysetSlotId i .rx .ks0).symm
  have hctrl : ¬(txKeySet i .ks0 = streamControl i ∨ txKeySet i .ks0 = txrxControl i .rx) := by
    simp only [txKeySet, streamControl, txrxControl, getStreamCfgRegBlock]
    omega
  simp only [occupied, if_neg hcap, hindex, if_neg (not_le.mpr h), if_neg hctrl, if_true]

theorem slotIdField_get_occupied (h : i < 8) (sub : SubStream) :
    (slotIdField sub).get (BitVec.ofNat 32 (3 * i + (3 * i + 1) * 2 ^ 10 + (3 * i + 2) * 2 ^ 20)) =
      3 * i + sub.index := by
  interval_cases i <;> cases sub <;> decide

theorem keyIvSlotUsageMap_occupied {num : ℕ} (hn : n < 8) (hnum : 3 * n ≤ num) {k : ℕ}
    (hk : k ≤ n) :
    keyIvSlotUsageMap (occupied cap n) num k = some (BitVec.ofNat 8 (2 ^ k - 1)) := by
  induction k with
  | zero => rfl
  | succ k ih =>
      have hselected : selectedKeySet (occupied cap n) k = some .ks0 := by
        rw [selectedKeySet, mmioReadReg32, occupied_txControl hk]
        rfl
      have hslots := slotIdField_get_occupied (show k < 8 by omega)
      have hasserts : 3 * k + SubStream.pr.index < num ∧ (3 * k + SubStream.pr.index) % 3 = 0 ∧
          3 * k + SubStream.npr.index < num ∧ 3 * k + SubStream.cpl.index < num := by
        simp only [SubStream.index]
        omega
      have hgroup : (3 * k + SubStream.pr.index) / 3 = k := by
        simp only [SubStream.index]
        omega
      have hen : ¬en.get 1 = 0 := by decide
      simp only [keyIvSlotUsageMap, ih (Nat.le_of_succ_le hk), mmioReadReg32,
        occupied_streamControl hk, if_neg hen, hselected, occupied_txKeySet hk, hslots,
        if_pos hasserts, hgroup]
      have hk8 : k < 7 := by omega
      interval_cases k <;> rfl

/-- Later streams are not enabled. -/
theorem keyIvSlotUsageMap_occupied_add {num : ℕ} (hn : n < 8) (hnum : 3 * n ≤ num) (k : ℕ) :
    keyIvSlotUsageMap (occupied cap n) num (n + k) = some (BitVec.ofNat 8 (2 ^ n - 1)) := by
  induction k with
  | zero => exact keyIvSlotUsageMap_occupied hn hnum (Nat.le_refl n)
  | succ k ih =>
      have hen : en.get 0 = 0 := by decide
      rw [← Nat.add_assoc, keyIvSlotUsageMap, ih]
      simp only [mmioReadReg32, occupied_streamControl_of_le (Nat.le_add_right n k), if_pos hen]

theorem firstFree_two_pow_sub_one {num : ℕ} (hn : n < 8) (h : n < num / 3) :
    FirstFree (BitVec.ofNat 8 (2 ^ n - 1)) num n := by
  refine ⟨h, ?_, ?_⟩
  · rw [BitVec.getLsbD_ofNat, Nat.testBit_two_pow_sub_one]
    simp
  · intro j hj
    rw [BitVec.getLsbD_ofNat, Nat.testBit_two_pow_sub_one]
    simp [hj, hj.trans hn]

theorem pcieIdeAllocSlotIds_occupied (hadmitted : Admitted cap) :
    pcieIdeAllocSlotIds (occupied cap (lastGroup cap)) = .found (slotGroup (lastGroup cap)) := by
  rcases hadmitted with ⟨hmod, hle⟩
  have hlast : lastGroup cap ≤ numStreamSupported.get cap + 1 ∧
      lastGroup cap ≤ numTxKeySlots.get cap / 3 := le_min_iff.mp (Nat.le_refl _)
  have hlt : lastGroup cap < 8 := by omega
  rcases Nat.exists_eq_add_of_le hlast.1 with ⟨k, hk⟩
  refine pcieIdeAllocSlotIds_eq_found_iff.mpr
    ⟨⟨hmod, hle⟩, BitVec.ofNat 8 (2 ^ lastGroup cap - 1), lastGroup cap, ?_, ?_, rfl⟩
  · change keyIvSlotUsageMap _ _ (numStreamSupported.get cap + 1) = _
    rw [hk]
    exact keyIvSlotUsageMap_occupied_add hlt (show _ ≤ numTxKeySlots.get cap + 1 by omega) k
  · exact firstFree_two_pow_sub_one hlt (show _ < (numTxKeySlots.get cap + 1) / 3 by omega)

theorem findFreeRpStreamIndex_occupied_zero : findFreeRpStreamIndex (occupied cap 0) = some 0 := by
  rw [findFreeRpStreamIndex, List.find?_range_eq_some, mmioReadReg32,
    occupied_streamControl_of_le (Nat.zero_le 0)]
  refine ⟨by decide, List.mem_range.mpr (Nat.succ_pos _), ?_⟩
  intro j hj
  cases hj

end Occupied

/-! ## Safety -/

/-- The registers of four bytes that are mapped. -/
def mappedRegisters : ℕ := kcbarMemorySize / 4

/-- Accesses for a stream and its slots stay inside the mapped memory. -/
structure AccessesMapped (kcbar : Registers) (i : ℕ) (kSet : IdeKeySet) : Prop where
  setKeySlot : ∀ d sub (key iv : List Dword), key.length = 8 → iv.length = 2 →
    (trackedKcbarSetKeySlot (.start kcbar) d (slotId kSet d sub) key iv).Within mappedRegisters
  cfgKeys : ∀ d ks sub (key iv : List Dword), key.length = 8 → iv.length = 2 →
    (trackedCfgRootportIdeKeys (.start kcbar) i d ks sub (slotId kSet d sub) key iv).Within
      mappedRegisters
  initializeRegisters : ∀ stream,
    (trackedInitializeKcbarRegisters (.start kcbar) stream i).Within mappedRegisters
  enable : ∀ enable,
    (trackedEnableIdeStreamInKcbar (.start kcbar) i enable).Within mappedRegisters

/-- What is required for a stream and its slots. -/
structure KcbarSafe (cap : Dword) (i : ℕ) (kSet : IdeKeySet) : Prop where
  slots : ∀ d sub, SlotExists cap d (slotId kSet d sub).toNat
  accesses : ∀ kcbar, kcbar capabilities = cap → AccessesMapped kcbar i kSet
  regions : ∀ r r' : Region, r.Exists cap → r'.Exists cap → r ≠ r' → r.Disjoint cap r'

/-- Every stream found and all slots allocated are safe, in any states of the registers. -/
def KcbarLayoutSafe (cap : Dword) : Prop :=
  ∀ kcbar kcbar' : Registers, kcbar capabilities = cap → kcbar' capabilities = cap →
    ∀ i kSet, findFreeRpStreamIndex kcbar = some i → pcieIdeAllocSlotIds kcbar' = .found kSet →
      KcbarSafe cap i kSet

section Safety

variable {cap : Dword}

theorem slotId_slotGroup {g : ℕ} (hg : g < 8) (d : Direction) (sub : SubStream) :
    (slotId (slotGroup g) d sub).toNat = 3 * g + sub.index :=
  slotGroup_toNat hg d sub

/-! The IV of the root port's receiving direction lies behind everything else. -/

theorem ivSlot_le_rxIvSlot {d : Direction} {n : ℕ} (htx : d = .rx → SlotExists cap d n) :
    ivSlot cap d n ≤ rxIvSlot cap n := by
  cases d with
  | rx =>
      have hn := htx rfl
      simp only [SlotExists, lastSlot] at hn
      simp only [ivSlot, rxIvSlot, rxKeySlot, txIvSlot]
      omega
  | tx => exact Nat.le_refl _

theorem keySlot_le_rxIvSlot {d : Direction} {n : ℕ} (hn : SlotExists cap d n) :
    keySlot cap d n + 8 ≤ rxIvSlot cap n := by
  cases d <;>
  · simp only [SlotExists, lastSlot] at hn
    simp only [keySlot, rxIvSlot, rxKeySlot, txIvSlot, txKeySlot]
    omega

theorem rxIvSlot_mono {n n' : ℕ} (h : n ≤ n') : rxIvSlot cap n ≤ rxIvSlot cap n' := by
  simp only [rxIvSlot]
  omega

theorem getStreamCfgRegBlock_le_rxIvSlot {i n : ℕ} (hi : StreamExists cap i) :
    getStreamCfgRegBlock i + 9 ≤ rxIvSlot cap n := by
  rw [StreamExists] at hi
  simp only [rxIvSlot, rxKeySlot, txIvSlot, txKeySlot, getStreamCfgRegBlock]
  omega

theorem keysetSlotId_lt_getStreamCfgRegBlock {i : ℕ} {d : Direction} {ks : KeySet} :
    keysetSlotId i d ks < getStreamCfgRegBlock i + 9 := by
  cases d <;> cases ks <;>
  · simp only [keysetSlotId, txKeySet, rxKeySet]
    omega

theorem accessesMapped {kcbar : Registers} {i : ℕ} {kSet : IdeKeySet} {last : ℕ}
    (hi : StreamExists (kcbar capabilities) i)
    (hslots : ∀ d sub, SlotExists (kcbar capabilities) d (slotId kSet d sub).toNat)
    (hlast : ∀ d sub, (slotId kSet d sub).toNat ≤ last)
    (hfits : rxIvSlot (kcbar capabilities) last + 2 ≤ mappedRegisters) :
    AccessesMapped kcbar i kSet := by
  have hstream := getStreamCfgRegBlock_le_rxIvSlot (n := last) hi
  have hslot : ∀ d sub (key iv : List Dword), key.length = 8 → iv.length = 2 →
      (trackedKcbarSetKeySlot (.start kcbar) d (slotId kSet d sub) key iv).Within
        mappedRegisters := by
    intro d sub key iv hkey hiv
    have hkeyEnd := keySlot_le_rxIvSlot (hslots d sub)
    have hivEnd := ivSlot_le_rxIvSlot fun _ => hslots d sub
    have hmono : rxIvSlot (kcbar capabilities) _ ≤ rxIvSlot (kcbar capabilities) last :=
      rxIvSlot_mono (hlast d sub)
    refine (within_trackedKcbarSetKeySlot _ hkey hiv).mpr ⟨Tracked.within_start kcbar, ?_, ?_⟩
    · exact le_trans (Nat.add_le_add_right (hivEnd.trans hmono) 2) hfits
    · exact (hkeyEnd.trans hmono).trans (Nat.le_of_add_right_le hfits)
  refine ⟨hslot, ?_, ?_, ?_⟩
  · intro d ks sub key iv hkey hiv
    refine (within_trackedCfgRootportIdeKeys _).mpr ⟨hslot d sub key iv hkey hiv, ?_⟩
    have hreg := @keysetSlotId_lt_getStreamCfgRegBlock i d ks
    omega
  · intro stream
    refine (within_trackedInitializeKcbarRegisters _ stream).mpr ⟨Tracked.within_start kcbar, ?_⟩
    omega
  · intro enable
    refine (within_trackedEnableIdeStreamInKcbar _ enable).mpr ⟨Tracked.within_start kcbar, ?_⟩
    rw [streamControl]
    omega

theorem KcbarLayoutSafe.of_lastAllocated
    (h : Admitted cap → lastAllocated cap ≤ numRxKeySlots.get cap ∧
      rxIvSlot cap (lastAllocated cap) + 2 ≤ mappedRegisters) :
    KcbarLayoutSafe cap := by
  intro kcbar kcbar' hcap hcap' i kSet hstream hslots
  have hi := findFreeRpStreamIndex_exists hstream
  rw [hcap] at hi
  rcases pcieIdeAllocSlotIds_found hslots with ⟨g, rfl, hfree⟩
  have hg := hfree.lt
  have hadmitted := hcap' ▸ hfree.admitted
  have hlast := hcap' ▸ hfree.le_lastGroup
  rcases h hadmitted with ⟨hrx, hfits⟩
  have hle : ∀ d sub, (slotId (slotGroup g) d sub).toNat ≤ lastAllocated cap := by
    intro d sub
    rw [slotId_slotGroup hg]
    exact slot_le_lastAllocated hlast sub
  have htx : lastAllocated cap ≤ numTxKeySlots.get cap := hadmitted.lastAllocated_le
  have hexists : ∀ d sub, SlotExists cap d (slotId (slotGroup g) d sub).toNat := by
    intro d sub
    cases d with
    | rx => exact (hle .rx sub).trans htx
    | tx => exact (hle .tx sub).trans hrx
  refine ⟨hexists, ?_, fun _ _ => Region.disjoint_of_ne⟩
  rintro kcbar'' rfl
  exact accessesMapped hi hexists hle hfits

/-- The last group is allocated when the groups before it are in use. -/
theorem KcbarLayoutSafe.lastAllocated (h : KcbarLayoutSafe cap) (hadmitted : Admitted cap) :
    lastAllocated cap ≤ numRxKeySlots.get cap ∧
      rxIvSlot cap (lastAllocated cap) + 2 ≤ mappedRegisters := by
  have hlt : lastGroup cap < 8 := by
    have hle := hadmitted.2
    rw [lastGroup]
    omega
  have hsafe := h _ _ rfl rfl _ _ findFreeRpStreamIndex_occupied_zero
    (pcieIdeAllocSlotIds_occupied hadmitted)
  have hslot : (slotId (slotGroup (lastGroup cap)) .tx .cpl).toNat =
      PcieIde.lastAllocated cap :=
    slotId_slotGroup hlt .tx .cpl
  refine ⟨?_, ?_⟩
  · have hexists := hsafe.slots .tx .cpl
    rwa [hslot] at hexists
  · have haccesses := (hsafe.accesses (occupied cap 0) rfl).setKeySlot .tx .cpl
      (List.replicate 8 0) (List.replicate 2 0) rfl rfl
    rw [within_trackedKcbarSetKeySlot _ rfl rfl, hslot] at haccesses
    exact haccesses.2.1

/-- The layout is safe exactly when the receiving direction has as many slots as can be
allocated and the last of them is mapped. -/
theorem kcbarLayoutSafe_iff (cap : Dword) :
    KcbarLayoutSafe cap ↔ (Admitted cap → lastAllocated cap ≤ numRxKeySlots.get cap ∧
      rxIvSlot cap (lastAllocated cap) + 2 ≤ mappedRegisters) :=
  ⟨KcbarLayoutSafe.lastAllocated, KcbarLayoutSafe.of_lastAllocated⟩

/-- With 24 slots in each direction the slots reach beyond the mapped memory; with six slots
to send and three to receive the second group does not exist. -/
theorem kcbarLayoutSafe_fails :
    ¬KcbarLayoutSafe 0x01705c00#32 ∧ ¬KcbarLayoutSafe 0x00201400#32 :=
  ⟨fun h => absurd (h.lastAllocated (by decide)) (by decide),
    fun h => absurd (h.lastAllocated (by decide)) (by decide)⟩

end Safety

end TeeIoValidator.PcieIde
