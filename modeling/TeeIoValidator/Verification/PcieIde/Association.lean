import TeeIoValidator.Model.PcieIde.Association

/-! # The peer of a root port's stream

The association registers should cover the requester id and the memory window of the peer. -/

namespace TeeIoValidator.PcieIde

open ConfigSpace

/-! ## What the registers stand for -/

/-- Bus, device and function of a requester id. -/
def requesterId (bus device func : BitVec 8) : ℕ :=
  bus.toNat * 2 ^ 8 + device.toNat * 2 ^ 3 + func.toNat

/-- A range of addresses, both ends included. -/
structure Window where
  base : ℕ
  limit : ℕ
  deriving DecidableEq

/-- The ends of a window from the upper double words and bits 31 to 20. -/
def Window.ofMegabytes (baseUpper base limitUpper limit : ℕ) : Window where
  base := baseUpper * 2 ^ 32 + base * 2 ^ 20
  limit := limitUpper * 2 ^ 32 + limit * 2 ^ 20 + (2 ^ 20 - 1)

/-- The window of the address association registers. -/
def AddrAssocRegBlock.window (block : AddrAssocRegBlock) : Window :=
  .ofMegabytes block.addrAssoc3.toNat (memBaseLower.get block.addrAssoc1)
    block.addrAssoc2.toNat (memLimitLower.get block.addrAssoc1)

/-- The window of a bridge: its base and limit registers have bits 31 to 20 of the addresses on
top of four type bits. -/
def bridgeWindow (cfg : ConfigSpace) (prefetchable : Bool) : Window :=
  if prefetchable then
    .ofMegabytes (devicePciRead32 cfg 0x28).toNat ((devicePciRead16 cfg 0x24).toNat / 2 ^ 4)
      (devicePciRead32 cfg 0x2c).toNat ((devicePciRead16 cfg 0x26).toNat / 2 ^ 4)
  else
    .ofMegabytes 0 ((devicePciRead16 cfg 0x20).toNat / 2 ^ 4)
      0 ((devicePciRead16 cfg 0x22).toNat / 2 ^ 4)

/-- The registers cover a requester id, in its own bus and in the segment. -/
structure RidCovered (block : RidAssocRegBlock) (segment : BitVec 16) (bus device func : BitVec 8) :
    Prop where
  base_le : ridBase.get block.ridAssoc2 ≤ requesterId bus device func
  le_limit : requesterId bus device func ≤ ridLimit.get block.ridAssoc1
  base_bus : ridBase.get block.ridAssoc2 / 2 ^ 8 = bus.toNat
  limit_bus : ridLimit.get block.ridAssoc1 / 2 ^ 8 = bus.toNat
  segment : segmentBase.get block.ridAssoc2 = segment.toNat
  valid : ridValid.get block.ridAssoc2 = 1

/-- The registers have the window of the bridge. -/
structure WindowCovered (block : AddrAssocRegBlock) (cfg : ConfigSpace) (prefetchable : Bool) :
    Prop where
  window : block.window = bridgeWindow cfg prefetchable
  valid : addrValid.get block.addrAssoc1 = 1

/-! ## The requester id -/

section Rid

variable {segment : BitVec 16} {bus device func : BitVec 8}

theorem ridBase_populate (hdevice : device.toNat < 32) :
    ridBase.get (populateRidAssocRegBlock segment bus device func).ridAssoc2 =
      bus.toNat * 2 ^ 8 + device.toNat := by
  have hbus := bus.isLt
  simp only [populateRidAssocRegBlock]
  rw [Field.get_set_of_disjoint (Or.inl (by decide)),
    Field.get_set_of_disjoint (Or.inr (by decide)), Field.get_set]
  simp only [BitVec.toNat_add, BitVec.toNat_shiftLeft, BitVec.toNat_setWidth, Nat.shiftLeft_eq,
    ridBase]
  omega

theorem ridLimit_populate (hdevice : device.toNat < 32) (hfunc : func.toNat < 8) :
    ridLimit.get (populateRidAssocRegBlock segment bus device func).ridAssoc1 =
      bus.toNat * 2 ^ 8 + device.toNat + func.toNat + 1 := by
  have hbus := bus.isLt
  have hone : (1 : BitVec 16).toNat = 1 := rfl
  simp only [populateRidAssocRegBlock, Field.get_set, BitVec.toNat_add, BitVec.toNat_shiftLeft,
    BitVec.toNat_setWidth, Nat.shiftLeft_eq, ridLimit, hone]
  omega

theorem segmentBase_populate (hsegment : segment.toNat < 256) :
    segmentBase.get (populateRidAssocRegBlock segment bus device func).ridAssoc2 =
      segment.toNat := by
  simp only [populateRidAssocRegBlock, Field.get_set, BitVec.toNat_setWidth, BitVec.toNat_and,
    segmentBase]
  have hmask : segment.toNat &&& (0xff : BitVec 16).toNat = segment.toNat % 2 ^ 8 :=
    Nat.and_two_pow_sub_one_eq_mod segment.toNat 8
  rw [hmask]
  omega

theorem ridValid_populate :
    ridValid.get (populateRidAssocRegBlock segment bus device func).ridAssoc2 = 1 := by
  simp only [populateRidAssocRegBlock]
  rw [Field.get_set_of_disjoint (Or.inl (by decide)), Field.get_set]
  rfl

/-- The device number is not shifted to its place in the requester id. -/
theorem ridCovered_populate_iff (hsegment : segment.toNat < 256) (hdevice : device.toNat < 32)
    (hfunc : func.toNat < 8) :
    RidCovered (populateRidAssocRegBlock segment bus device func) segment bus device func ↔
      device.toNat = 0 := by
  have hbase : ridBase.get (populateRidAssocRegBlock segment bus device func).ridAssoc2 =
      bus.toNat * 2 ^ 8 + device.toNat := ridBase_populate hdevice
  have hlimit : ridLimit.get (populateRidAssocRegBlock segment bus device func).ridAssoc1 =
      bus.toNat * 2 ^ 8 + device.toNat + func.toNat + 1 := ridLimit_populate hdevice hfunc
  constructor
  · intro h
    have hle := h.le_limit
    rw [hlimit, requesterId] at hle
    omega
  · intro hzero
    exact
      { base_le := by rw [hbase, requesterId]; omega
        le_limit := by rw [hlimit, requesterId]; omega
        base_bus := by rw [hbase]; omega
        limit_bus := by rw [hlimit]; omega
        segment := segmentBase_populate hsegment
        valid := ridValid_populate }

end Rid

/-! ## The memory window -/

section Memory

variable (cfg : ConfigSpace)

theorem devicePciRead32_toNat (off : ℕ) :
    (devicePciRead32 cfg off).toNat =
      (devicePciRead16 cfg (off + 2)).toNat * 2 ^ 16 + (devicePciRead16 cfg off).toNat := by
  have hsplit : devicePciRead32 cfg off =
      devicePciRead16 cfg (off + 2) ++ devicePciRead16 cfg off := by
    rw [devicePciRead32, devicePciRead16, devicePciRead16]
    exact BitVec.append_assoc.trans (BitVec.cast_eq _ _)
  rw [hsplit, BitVec.toNat_append, ← Nat.shiftLeft_add_eq_or_of_lt (BitVec.isLt _),
    Nat.shiftLeft_eq]

theorem memoryBase_toNat (data32 : Dword) :
    ((data32 &&& 0x0000fff0).setWidth 16 >>> 4 : BitVec 16).toNat =
      data32.toNat % 2 ^ 16 / 2 ^ 4 := by
  have hlow : (data32 &&& 0x0000fff0).setWidth 16 >>> 4 = data32.setWidth 16 >>> 4 := by
    apply BitVec.eq_of_getLsbD_eq
    intro i hi
    have hmask : ∀ k < 12, (0x0000fff0 : Dword).getLsbD (4 + k) = true := by decide
    simp only [BitVec.getLsbD_ushiftRight, BitVec.getLsbD_setWidth, BitVec.getLsbD_and]
    by_cases hk : i < 12
    · rw [hmask i hk, Bool.and_true]
    · have hge : ¬ 4 + i < 16 := by omega
      simp [hge]
  rw [hlow, BitVec.toNat_ushiftRight, BitVec.toNat_setWidth, Nat.shiftRight_eq_div_pow]

theorem memoryLimit_toNat (data32 : Dword) :
    (((data32 &&& 0xfff00000) >>> 20).setWidth 16 : BitVec 16).toNat =
      data32.toNat / 2 ^ 20 := by
  have hhigh : (data32 &&& 0xfff00000) >>> 20 = data32 >>> 20 := by
    apply BitVec.eq_of_getLsbD_eq
    intro i hi
    have hmask : ∀ k < 12, (0xfff00000 : Dword).getLsbD (20 + k) = true := by decide
    simp only [BitVec.getLsbD_ushiftRight, BitVec.getLsbD_and]
    by_cases hk : i < 12
    · rw [hmask i hk, Bool.and_true]
    · rw [BitVec.getLsbD_of_ge data32 (20 + i) (by omega), Bool.false_and]
  have hlt := data32.isLt
  rw [hhigh, BitVec.toNat_setWidth, BitVec.toNat_ushiftRight, Nat.shiftRight_eq_div_pow]
  omega

theorem memBaseLower_populate {prefetch : Bool} {block : AddrAssocRegBlock}
    (h : populateAddrAssocRegBlock (some cfg) prefetch = some block) :
    memBaseLower.get block.addrAssoc1 =
      (devicePciRead16 cfg (if prefetch then 0x24 else 0x20)).toNat / 2 ^ 4 := by
  cases h
  have hlow := (devicePciRead16 cfg (if prefetch then 0x24 else 0x20)).isLt
  rw [Field.get_set_of_disjoint (Or.inr (by decide)),
    Field.get_set_of_disjoint (Or.inl (by decide)), Field.get_set, memoryBase_toNat,
    devicePciRead32_toNat]
  simp only [memBaseLower, prefetchMemoryBaseOffset, memoryBaseOffset]
  omega

theorem memLimitLower_populate {prefetch : Bool} {block : AddrAssocRegBlock}
    (h : populateAddrAssocRegBlock (some cfg) prefetch = some block) :
    memLimitLower.get block.addrAssoc1 =
      (devicePciRead16 cfg (if prefetch then 0x26 else 0x22)).toNat / 2 ^ 4 := by
  cases h
  have hlow := (devicePciRead16 cfg (if prefetch then 0x24 else 0x20)).isLt
  have hhigh := (devicePciRead16 cfg (if prefetch then 0x26 else 0x22)).isLt
  rw [Field.get_set_of_disjoint (Or.inr (by decide)), Field.get_set, memoryLimit_toNat,
    devicePciRead32_toNat]
  cases prefetch <;>
  · simp only [memLimitLower, prefetchMemoryBaseOffset, memoryBaseOffset, if_true,
      Bool.false_eq_true, if_false, Nat.reduceAdd] at hlow hhigh ⊢
    omega

theorem windowCovered_populate (prefetch : Bool) :
    ∃ block, populateAddrAssocRegBlock (some cfg) prefetch = some block ∧
      WindowCovered block cfg prefetch := by
  refine ⟨_, rfl, ?_, ?_⟩
  · rw [AddrAssocRegBlock.window, memBaseLower_populate cfg rfl, memLimitLower_populate cfg rfl]
    cases prefetch <;> rfl
  · rw [Field.get_set]
    rfl

end Memory

/-! ## The association registers of a root port -/

/-- The values for a peer cover its requester id and have the bridge's window. -/
def AssociationCovers (segment : BitVec 16) (bus device func : BitVec 8) (cfg : ConfigSpace)
    (prefetch : Bool) : Prop :=
  RidCovered (populateRidAssocRegBlock segment bus device func) segment bus device func ∧
    ∃ block, populateAddrAssocRegBlock (some cfg) prefetch = some block ∧
      WindowCovered block cfg prefetch

theorem associationCovers_iff (segment : BitVec 16) (bus device func : BitVec 8)
    (cfg : ConfigSpace) (prefetch : Bool) (hsegment : segment.toNat < 256)
    (hdevice : device.toNat < 32) (hfunc : func.toNat < 8) :
    AssociationCovers segment bus device func cfg prefetch ↔ device.toNat = 0 := by
  rw [AssociationCovers, and_iff_left (windowCovered_populate cfg prefetch)]
  exact ridCovered_populate_iff hsegment hdevice hfunc

/-- Device 0 on bus 1 behind a bridge without windows. -/
theorem associationCovers_device_zero : AssociationCovers 0 1 0 2 (fun _ => 0) true :=
  (associationCovers_iff 0 1 0 2 (fun _ => 0) true (by decide) (by decide) (by decide)).mpr rfl

/-- The requester id of device 1 is 0x108, the limit is 0x102. -/
theorem not_associationCovers_device_one : ¬AssociationCovers 0 1 1 0 (fun _ => 0) false := by
  intro h
  exact absurd h.1.le_limit (by decide)

end TeeIoValidator.PcieIde
