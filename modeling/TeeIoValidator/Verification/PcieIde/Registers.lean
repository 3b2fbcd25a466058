import TeeIoValidator.Model.PcieIde.Kcbar

/-! # What programming the root port does to its registers

The stream registers lie below the slots. A key write changes one slot of each kind and one
slot field; priming, selecting and enabling change one field of one stream.
-/

namespace TeeIoValidator.PcieIde

/-! ## Addresses -/

/-- The number of the last slot that the capabilities admit. -/
def lastSlot (cap : Dword) : Direction → ℕ
  | .rx => numTxKeySlots.get cap
  | .tx => numRxKeySlots.get cap

def SlotExists (cap : Dword) (direction : Direction) (slot : ℕ) : Prop :=
  slot ≤ lastSlot cap direction

instance (cap : Dword) (direction : Direction) (slot : ℕ) :
    Decidable (SlotExists cap direction slot) :=
  inferInstanceAs (Decidable (_ ≤ _))

/-- The streams of a root port. -/
def StreamExists (cap : Dword) (rpStreamIndex : ℕ) : Prop :=
  rpStreamIndex ≤ numStreamSupported.get cap

instance (cap : Dword) (rpStreamIndex : ℕ) : Decidable (StreamExists cap rpStreamIndex) :=
  inferInstanceAs (Decidable (_ ≤ _))

section Addresses

variable {cap : Dword} {i j : ℕ} {d d' : Direction} {ks ks' : KeySet} {n n' : ℕ}

theorem keysetSlotId_inj (h : keysetSlotId i d ks = keysetSlotId j d' ks') :
    i = j ∧ d = d' ∧ ks = ks' := by
  cases d <;> cases ks <;> cases d' <;> cases ks' <;>
  · simp only [keysetSlotId, txKeySet, rxKeySet, getStreamCfgRegBlock] at h
    refine ⟨?_, ?_, ?_⟩ <;> first | rfl | omega

theorem txrxControl_inj (h : txrxControl i d = txrxControl j d') : i = j ∧ d = d' := by
  cases d <;> cases d' <;>
  · simp only [txrxControl, getStreamCfgRegBlock] at h
    refine ⟨?_, ?_⟩ <;> first | rfl | omega

theorem streamControl_inj (h : streamControl i = streamControl j) : i = j := by
  simp only [streamControl, getStreamCfgRegBlock] at h
  omega

theorem keysetSlotId_ne_txrxControl : keysetSlotId i d ks ≠ txrxControl j d' := by
  cases d <;> cases ks <;> cases d' <;>
  · simp only [keysetSlotId, txKeySet, rxKeySet, txrxControl, getStreamCfgRegBlock]
    omega

theorem keysetSlotId_ne_streamControl : keysetSlotId i d ks ≠ streamControl j := by
  cases d <;> cases ks <;>
  · simp only [keysetSlotId, txKeySet, rxKeySet, streamControl, getStreamCfgRegBlock]
    omega

theorem txrxControl_ne_streamControl : txrxControl i d ≠ streamControl j := by
  cases d <;>
  · simp only [txrxControl, streamControl, getStreamCfgRegBlock]
    omega

theorem capabilities_ne_keysetSlotId : capabilities ≠ keysetSlotId i d ks := by
  cases d <;> cases ks <;>
  · simp only [capabilities, keysetSlotId, txKeySet, rxKeySet, getStreamCfgRegBlock]
    omega

theorem capabilities_ne_txrxControl : capabilities ≠ txrxControl i d := by
  cases d <;>
  · simp only [capabilities, txrxControl, getStreamCfgRegBlock]
    omega

theorem capabilities_ne_streamControl : capabilities ≠ streamControl i := by
  simp only [capabilities, streamControl, getStreamCfgRegBlock]
  omega

theorem capabilities_lt : capabilities < txKeySlot cap 0 := by
  simp only [capabilities, txKeySlot, getStreamCfgRegBlock]
  omega

theorem keysetSlotId_lt (h : StreamExists cap i) : keysetSlotId i d ks < txKeySlot cap 0 := by
  rw [StreamExists] at h
  cases d <;> cases ks <;>
  · simp only [keysetSlotId, txKeySet, rxKeySet, txKeySlot, getStreamCfgRegBlock]
    omega

theorem txrxControl_lt (h : StreamExists cap i) : txrxControl i d < txKeySlot cap 0 := by
  rw [StreamExists] at h
  cases d <;>
  · simp only [txrxControl, txKeySlot, getStreamCfgRegBlock]
    omega

theorem streamControl_lt (h : StreamExists cap i) : streamControl i < txKeySlot cap 0 := by
  rw [StreamExists] at h
  simp only [streamControl, txKeySlot, getStreamCfgRegBlock]
  omega

theorem txKeySlot_le_keySlot : txKeySlot cap 0 ≤ keySlot cap d n := by
  cases d <;>
  · simp only [keySlot, rxKeySlot, txIvSlot, txKeySlot]
    omega

theorem txKeySlot_le_ivSlot : txKeySlot cap 0 ≤ ivSlot cap d n := by
  cases d <;>
  · simp only [ivSlot, rxIvSlot, rxKeySlot, txIvSlot, txKeySlot]
    omega

/-! ### Distinct slots share no register

A slot that does not exist lies behind the slots of its direction, and its key or its IV may
reach into theirs. -/

theorem keySlot_disjoint_keySlot (hne : d = d' → n ≠ n') (hn : SlotExists cap d n)
    (hn' : SlotExists cap d' n') : Block.Disjoint (keySlot cap d n) 8 (keySlot cap d' n') 8 := by
  cases d <;> cases d' <;>
  · simp only [SlotExists, lastSlot, keySlot, rxKeySlot, txIvSlot, txKeySlot, Block.Disjoint,
      forall_const, reduceCtorEq, false_implies] at *
    omega

theorem keySlot_disjoint_ivSlot (hn : SlotExists cap d n) (hn' : SlotExists cap d' n') :
    Block.Disjoint (keySlot cap d n) 8 (ivSlot cap d' n') 2 := by
  cases d <;> cases d' <;>
  · simp only [SlotExists, lastSlot, keySlot, ivSlot, rxIvSlot, rxKeySlot, txIvSlot, txKeySlot,
      Block.Disjoint] at *
    omega

theorem ivSlot_disjoint_ivSlot (hne : d = d' → n ≠ n') (hn : SlotExists cap d n)
    (hn' : SlotExists cap d' n') : Block.Disjoint (ivSlot cap d n) 2 (ivSlot cap d' n') 2 := by
  cases d <;> cases d' <;>
  · simp only [SlotExists, lastSlot, ivSlot, rxIvSlot, rxKeySlot, txIvSlot, txKeySlot,
      Block.Disjoint, forall_const, reduceCtorEq, false_implies] at *
    omega

end Addresses

/-! ## Stream registers -/

def Enabled (kcbar : Registers) (rpStreamIndex : ℕ) : Prop :=
  en.get (kcbar (streamControl rpStreamIndex)) ≠ 0

instance (kcbar : Registers) (rpStreamIndex : ℕ) : Decidable (Enabled kcbar rpStreamIndex) :=
  inferInstanceAs (Decidable (_ ≠ _))

/-- The slot that a key set register names. -/
def namedSlot (kcbar : Registers) (rpStreamIndex : ℕ) (direction : Direction) (ks : KeySet)
    (subStream : SubStream) : ℕ :=
  (slotIdField subStream).get (kcbar (keysetSlotId rpStreamIndex direction ks))

theorem slotIdField_disjoint {subStream subStream' : SubStream} (h : subStream ≠ subStream') :
    (slotIdField subStream).lsb + (slotIdField subStream).width ≤ (slotIdField subStream').lsb ∨
      (slotIdField subStream').lsb + (slotIdField subStream').width ≤
        (slotIdField subStream).lsb := by
  cases subStream <;> cases subStream' <;> first | contradiction | decide

section Programming

variable (kcbar : Registers) {i j : ℕ} {d d' : Direction} {ks ks' : KeySet}
  {sub sub' : SubStream} {slotId : BitVec 8} {key iv : List Dword}

theorem kcbarSetKeySlot_of_lt {a : ℕ} (h : a < txKeySlot (kcbar capabilities) 0) :
    kcbarSetKeySlot kcbar d slotId key iv a = kcbar a := by
  have hiv : a < ivSlot (kcbar capabilities) d slotId.toNat :=
    Nat.lt_of_lt_of_le h txKeySlot_le_ivSlot
  have hkey : a < keySlot (kcbar capabilities) d slotId.toNat :=
    Nat.lt_of_lt_of_le h txKeySlot_le_keySlot
  exact (Block.write_of_lt _ hiv iv).trans (Block.write_of_lt _ hkey key)

/-- A key write changes one register below the slots. -/
theorem cfgRootportIdeKeys_of_lt {a : ℕ} (h : a < txKeySlot (kcbar capabilities) 0)
    (hne : a ≠ keysetSlotId i d ks) :
    cfgRootportIdeKeys kcbar i d ks sub slotId key iv a = kcbar a := by
  rw [cfgRootportIdeKeys, mmioWriteReg32, Function.update_of_ne hne, kcbarSetKeySlot_of_lt _ h]

@[simp] theorem cfgRootportIdeKeys_capabilities :
    cfgRootportIdeKeys kcbar i d ks sub slotId key iv capabilities = kcbar capabilities :=
  cfgRootportIdeKeys_of_lt kcbar capabilities_lt capabilities_ne_keysetSlotId

theorem cfgRootportIdeKeys_enabled (hj : StreamExists (kcbar capabilities) j) :
    Enabled (cfgRootportIdeKeys kcbar i d ks sub slotId key iv) j ↔ Enabled kcbar j := by
  rw [Enabled, Enabled, cfgRootportIdeKeys_of_lt kcbar (streamControl_lt hj)
    keysetSlotId_ne_streamControl.symm]

theorem cfgRootportIdeKeys_selectedKeySet (hj : StreamExists (kcbar capabilities) j) :
    selectedKeySet (cfgRootportIdeKeys kcbar i d ks sub slotId key iv) j =
      selectedKeySet kcbar j := by
  rw [selectedKeySet, selectedKeySet, mmioReadReg32, mmioReadReg32,
    cfgRootportIdeKeys_of_lt kcbar (txrxControl_lt hj) keysetSlotId_ne_txrxControl.symm]

theorem cfgRootportIdeKeys_namedSlot_self :
    namedSlot (cfgRootportIdeKeys kcbar i d ks sub slotId key iv) i d ks sub = slotId.toNat := by
  have hwidth : slotId.toNat % 2 ^ (slotIdField sub).width = slotId.toNat := by
    have hlt := slotId.isLt
    cases sub <;> exact Nat.mod_eq_of_lt (Nat.lt_of_lt_of_le hlt (by decide))
  rw [namedSlot, cfgRootportIdeKeys, mmioWriteReg32, Function.update_self, Field.get_set, hwidth]

theorem cfgRootportIdeKeys_namedSlot_of_ne (hj : StreamExists (kcbar capabilities) j)
    (hne : ¬(j = i ∧ d' = d ∧ ks' = ks ∧ sub' = sub)) :
    namedSlot (cfgRootportIdeKeys kcbar i d ks sub slotId key iv) j d' ks' sub' =
      namedSlot kcbar j d' ks' sub' := by
  rw [namedSlot, namedSlot]
  by_cases hreg : keysetSlotId j d' ks' = keysetSlotId i d ks
  · rcases keysetSlotId_inj hreg with ⟨rfl, rfl, rfl⟩
    have hsub : sub' ≠ sub := fun h => hne ⟨rfl, rfl, rfl, h⟩
    rw [cfgRootportIdeKeys, mmioWriteReg32, Function.update_self,
      Field.get_set_of_disjoint (slotIdField_disjoint hsub), mmioReadReg32,
      kcbarSetKeySlot_of_lt _ (keysetSlotId_lt hj)]
  · rw [cfgRootportIdeKeys_of_lt kcbar (keysetSlotId_lt hj) hreg]

/-! ### Slot contents -/

/-- A slot holds a key and an IV. -/
structure SlotHolds (kcbar : Registers) (direction : Direction) (slot : ℕ)
    (key iv : List Dword) : Prop where
  key : Block.read kcbar (keySlot (kcbar capabilities) direction slot) 8 = key
  iv : Block.read kcbar (ivSlot (kcbar capabilities) direction slot) 2 = iv

/-- A block of registers above the streams that a key write leaves alone. -/
theorem cfgRootportIdeKeys_read (hi : StreamExists (kcbar capabilities) i)
    (hkeyLen : key.length = 8) (hivLen : iv.length = 2) {a n : ℕ}
    (ha : txKeySlot (kcbar capabilities) 0 ≤ a)
    (hkey : Block.Disjoint a n (keySlot (kcbar capabilities) d slotId.toNat) 8)
    (hiv : Block.Disjoint a n (ivSlot (kcbar capabilities) d slotId.toNat) 2) :
    Block.read (cfgRootportIdeKeys kcbar i d ks sub slotId key iv) a n =
      Block.read kcbar a n := by
  have hreg : Block.Disjoint a n (keysetSlotId i d ks) 1 :=
    Or.inr (Nat.lt_of_lt_of_le (keysetSlotId_lt hi) ha)
  have hkeyWrite : Block.Disjoint a n (keySlot (kcbar capabilities) d slotId.toNat) key.length := by
    rwa [hkeyLen]
  have hivWrite : Block.Disjoint a n (ivSlot (kcbar capabilities) d slotId.toNat) iv.length := by
    rwa [hivLen]
  rw [cfgRootportIdeKeys, mmioWriteReg32, Block.read_update_of_disjoint _ hreg, kcbarSetKeySlot,
    regMemcpyDw, mmioReadReg32, Block.read_write_of_disjoint _ hivWrite, regMemcpyDw]
  exact Block.read_write_of_disjoint _ hkeyWrite

theorem cfgRootportIdeKeys_slotHolds_self (hi : StreamExists (kcbar capabilities) i)
    (hkeyLen : key.length = 8) (hivLen : iv.length = 2)
    (hslot : SlotExists (kcbar capabilities) d slotId.toNat) :
    SlotHolds (cfgRootportIdeKeys kcbar i d ks sub slotId key iv) d slotId.toNat key iv := by
  have hreg : ∀ {a n}, txKeySlot (kcbar capabilities) 0 ≤ a →
      Block.Disjoint a n (keysetSlotId i d ks) 1 :=
    fun ha => Or.inr (Nat.lt_of_lt_of_le (keysetSlotId_lt hi) ha)
  refine ⟨?_, ?_⟩
  · have hdisjoint : Block.Disjoint (keySlot (kcbar capabilities) d slotId.toNat) 8
        (ivSlot (kcbar capabilities) d slotId.toNat) iv.length :=
      hivLen ▸ keySlot_disjoint_ivSlot hslot hslot
    rw [cfgRootportIdeKeys_capabilities, cfgRootportIdeKeys, mmioWriteReg32,
      Block.read_update_of_disjoint _ (hreg txKeySlot_le_keySlot), kcbarSetKeySlot, regMemcpyDw,
      mmioReadReg32, Block.read_write_of_disjoint _ hdisjoint, regMemcpyDw]
    have hread := Block.read_write kcbar (keySlot (kcbar capabilities) d slotId.toNat) key
    rwa [hkeyLen] at hread
  · rw [cfgRootportIdeKeys_capabilities, cfgRootportIdeKeys, mmioWriteReg32,
      Block.read_update_of_disjoint _ (hreg txKeySlot_le_ivSlot), kcbarSetKeySlot, regMemcpyDw,
      mmioReadReg32]
    have hread := fun regs : Registers =>
      Block.read_write regs (ivSlot (kcbar capabilities) d slotId.toNat) iv
    rw [hivLen] at hread
    exact hread _

/-- Another slot keeps its contents. -/
theorem SlotHolds.cfgRootportIdeKeys {n : ℕ} {key' iv' : List Dword}
    (h : SlotHolds kcbar d' n key' iv') (hi : StreamExists (kcbar capabilities) i)
    (hkeyLen : key.length = 8) (hivLen : iv.length = 2) (hne : d' = d → n ≠ slotId.toNat)
    (hn : SlotExists (kcbar capabilities) d' n)
    (hslot : SlotExists (kcbar capabilities) d slotId.toNat) :
    SlotHolds (cfgRootportIdeKeys kcbar i d ks sub slotId key iv) d' n key' iv' := by
  refine ⟨?_, ?_⟩
  · rw [cfgRootportIdeKeys_capabilities, cfgRootportIdeKeys_read kcbar hi hkeyLen hivLen
      txKeySlot_le_keySlot (keySlot_disjoint_keySlot hne hn hslot)
      (keySlot_disjoint_ivSlot hn hslot)]
    exact h.key
  · rw [cfgRootportIdeKeys_capabilities, cfgRootportIdeKeys_read kcbar hi hkeyLen hivLen
      txKeySlot_le_ivSlot (keySlot_disjoint_ivSlot hslot hn).symm
      (ivSlot_disjoint_ivSlot hne hn hslot)]
    exact h.iv

end Programming

/-! ## Writing a register of a stream -/

section StreamRegisters

variable {kcbar : Registers} {i j : ℕ} {d : Direction} {ks : KeySet} {sub : SubStream}

theorem SlotHolds.mmioWriteReg32 {slot reg : ℕ} {key iv : List Dword}
    (h : SlotHolds kcbar d slot key iv) (hcap : capabilities ≠ reg)
    (hreg : reg < txKeySlot (kcbar capabilities) 0) (value : Dword) :
    SlotHolds (mmioWriteReg32 kcbar reg value) d slot key iv := by
  have hslots : ∀ {a n}, txKeySlot (kcbar capabilities) 0 ≤ a → Block.Disjoint a n reg 1 :=
    fun ha => Or.inr (Nat.lt_of_lt_of_le hreg ha)
  have hread : TeeIoValidator.mmioWriteReg32 kcbar reg value capabilities = kcbar capabilities :=
    Function.update_of_ne hcap _ _
  refine ⟨?_, ?_⟩
  · rw [hread, TeeIoValidator.mmioWriteReg32,
      Block.read_update_of_disjoint _ (hslots txKeySlot_le_keySlot)]
    exact h.key
  · rw [hread, TeeIoValidator.mmioWriteReg32,
      Block.read_update_of_disjoint _ (hslots txKeySlot_le_ivSlot)]
    exact h.iv

variable (kcbar)

/-- Priming changes no other field of the control register. -/
theorem primeRpIdeKeySet_eq (i : ℕ) (d : Direction) (ks : KeySet) :
    ∃ value, primeRpIdeKeySet kcbar i d ks =
    mmioWriteReg32 kcbar (txrxControl i d) value ∧
      keySetSelect.get value = keySetSelect.get (kcbar (txrxControl i d)) := by
  refine ⟨_, rfl, ?_⟩
  cases ks <;>
  · simp only
    rw [Field.get_set_of_disjoint (by decide), Field.get_set_of_disjoint (by decide),
      mmioReadReg32]

theorem mmioWriteReg32_txrxControl_capabilities (value : Dword) :
    mmioWriteReg32 kcbar (txrxControl i d) value capabilities = kcbar capabilities :=
  Function.update_of_ne capabilities_ne_txrxControl _ _

theorem mmioWriteReg32_txrxControl_enabled (value : Dword) :
    Enabled (mmioWriteReg32 kcbar (txrxControl i d) value) j ↔ Enabled kcbar j := by
  rw [Enabled, Enabled, mmioWriteReg32,
    Function.update_of_ne txrxControl_ne_streamControl.symm]

theorem mmioWriteReg32_txrxControl_namedSlot (value : Dword) {d' : Direction} :
    namedSlot (mmioWriteReg32 kcbar (txrxControl i d) value) j d' ks sub =
      namedSlot kcbar j d' ks sub := by
  rw [namedSlot, namedSlot, mmioWriteReg32, Function.update_of_ne keysetSlotId_ne_txrxControl]

@[simp] theorem primeRpIdeKeySet_capabilities :
    primeRpIdeKeySet kcbar i d ks capabilities = kcbar capabilities :=
  mmioWriteReg32_txrxControl_capabilities kcbar _

theorem primeRpIdeKeySet_enabled :
    Enabled (primeRpIdeKeySet kcbar i d ks) j ↔ Enabled kcbar j :=
  mmioWriteReg32_txrxControl_enabled kcbar _

theorem primeRpIdeKeySet_namedSlot {d' : Direction} {ks' : KeySet} :
    namedSlot (primeRpIdeKeySet kcbar i d ks) j d' ks' sub = namedSlot kcbar j d' ks' sub :=
  mmioWriteReg32_txrxControl_namedSlot kcbar _

theorem primeRpIdeKeySet_selectedKeySet :
    selectedKeySet (primeRpIdeKeySet kcbar i d ks) j = selectedKeySet kcbar j := by
  rcases primeRpIdeKeySet_eq kcbar i d ks with ⟨value, heq, hselect⟩
  rw [heq, selectedKeySet, selectedKeySet, mmioReadReg32, mmioReadReg32, mmioWriteReg32]
  by_cases hreg : txrxControl j .rx = txrxControl i d
  · rw [hreg, Function.update_self, hselect]
  · rw [Function.update_of_ne hreg]

@[simp] theorem setRpIdeKeySetSelect_capabilities :
    setRpIdeKeySetSelect kcbar i ks capabilities = kcbar capabilities :=
  mmioWriteReg32_txrxControl_capabilities kcbar _

theorem setRpIdeKeySetSelect_enabled :
    Enabled (setRpIdeKeySetSelect kcbar i ks) j ↔ Enabled kcbar j :=
  mmioWriteReg32_txrxControl_enabled kcbar _

theorem setRpIdeKeySetSelect_namedSlot {ks' : KeySet} :
    namedSlot (setRpIdeKeySetSelect kcbar i ks) j d ks' sub = namedSlot kcbar j d ks' sub :=
  mmioWriteReg32_txrxControl_namedSlot kcbar _

theorem setRpIdeKeySetSelect_keySetSelect :
    keySetSelect.get (setRpIdeKeySetSelect kcbar i ks (txrxControl i .rx)) = ks.select := by
  rw [setRpIdeKeySetSelect, mmioWriteReg32, Function.update_self, Field.get_set]
  cases ks <;> rfl

theorem setRpIdeKeySetSelect_selectedKeySet_self :
    selectedKeySet (setRpIdeKeySetSelect kcbar i ks) i = some ks := by
  rw [selectedKeySet, mmioReadReg32, setRpIdeKeySetSelect_keySetSelect]
  cases ks <;> rfl

theorem setRpIdeKeySetSelect_selectedKeySet_of_ne (h : j ≠ i) :
    selectedKeySet (setRpIdeKeySetSelect kcbar i ks) j = selectedKeySet kcbar j := by
  have hreg : txrxControl j .rx ≠ txrxControl i .rx := fun heq => h (txrxControl_inj heq).1
  rw [selectedKeySet, selectedKeySet, mmioReadReg32, mmioReadReg32, setRpIdeKeySetSelect,
    mmioWriteReg32, Function.update_of_ne hreg]

@[simp] theorem enableIdeStreamInKcbar_capabilities {enable : Bool} :
    enableIdeStreamInKcbar kcbar i enable capabilities = kcbar capabilities :=
  Function.update_of_ne capabilities_ne_streamControl _ _

theorem enableIdeStreamInKcbar_enabled_of_ne {enable : Bool} (h : j ≠ i) :
    Enabled (enableIdeStreamInKcbar kcbar i enable) j ↔ Enabled kcbar j := by
  have hreg : streamControl j ≠ streamControl i := fun heq => h (streamControl_inj heq)
  rw [Enabled, Enabled, enableIdeStreamInKcbar, mmioWriteReg32, Function.update_of_ne hreg]

theorem enableIdeStreamInKcbar_namedSlot {enable : Bool} :
    namedSlot (enableIdeStreamInKcbar kcbar i enable) j d ks sub = namedSlot kcbar j d ks sub := by
  rw [namedSlot, namedSlot, enableIdeStreamInKcbar, mmioWriteReg32,
    Function.update_of_ne keysetSlotId_ne_streamControl]

theorem enableIdeStreamInKcbar_apply_txrxControl {enable : Bool} :
    enableIdeStreamInKcbar kcbar i enable (txrxControl j d) = kcbar (txrxControl j d) :=
  Function.update_of_ne txrxControl_ne_streamControl _ _

theorem enableIdeStreamInKcbar_selectedKeySet {enable : Bool} :
    selectedKeySet (enableIdeStreamInKcbar kcbar i enable) j = selectedKeySet kcbar j := by
  rw [selectedKeySet, selectedKeySet, mmioReadReg32, mmioReadReg32,
    enableIdeStreamInKcbar_apply_txrxControl]

end StreamRegisters

end TeeIoValidator.PcieIde
