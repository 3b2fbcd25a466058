import TeeIoValidator.Model.ConfigSpace

/-! The RID and address association registers of a selective stream, and the functions that
compute their values. -/

namespace TeeIoValidator.PcieIde

open ConfigSpace

/-! ## Registers -/

/-- `PCIE_SEL_IDE_RID_ASSOC_1`. -/
def ridLimit : Field := ⟨8, 16, by decide⟩

/-! `PCIE_SEL_IDE_RID_ASSOC_2`. -/

def ridValid : Field := ⟨0, 1, Field.fits_0_1⟩
def ridBase : Field := ⟨8, 16, by decide⟩
def segmentBase : Field := ⟨24, 8, Field.fits_24_8⟩

/-! `PCIE_SEL_IDE_ADDR_ASSOC_1`. -/

def addrValid : Field := ⟨0, 1, Field.fits_0_1⟩
def memBaseLower : Field := ⟨8, 12, by decide⟩
def memLimitLower : Field := ⟨20, 12, Field.fits_20_12⟩

/-- `PCIE_SEL_IDE_RID_ASSOC_REG_BLOCK`. -/
structure RidAssocRegBlock where
  ridAssoc1 : Dword
  ridAssoc2 : Dword
  deriving DecidableEq

/-- `PCIE_SEL_IDE_ADDR_ASSOC_REG_BLOCK`: `addr_assoc2` is the upper half of the limit,
`addr_assoc3` that of the base. -/
structure AddrAssocRegBlock where
  addrAssoc1 : Dword
  addrAssoc2 : Dword
  addrAssoc3 : Dword
  deriving DecidableEq

/-! The values for a device. -/

def mRidAssocRegBlock : RidAssocRegBlock where
  ridAssoc1 := 0xffff00
  ridAssoc2 := 0x1

def mAddrAssocRegBlock : AddrAssocRegBlock where
  addrAssoc1 := 0xfff00001
  addrAssoc2 := 0xffffffff
  addrAssoc3 := 0

/-! ## The values for a root port -/

def populateRidAssocRegBlock (segment : BitVec 16) (bus device func : BitVec 8) :
    RidAssocRegBlock :=
  let base : BitVec 16 := (bus.setWidth 16 <<< 8) + device.setWidth 16
  let limit : BitVec 16 := base + func.setWidth 16 + 1
  let segmentByte : BitVec 8 := (segment &&& 0xff).setWidth 8
  { ridAssoc1 := ridLimit.set 0 limit.toNat
    ridAssoc2 := segmentBase.set (ridValid.set (ridBase.set 0 base.toNat) 1) segmentByte.toNat }

def pcieBar0Offset : ℕ := 0x10

/-- The type of a memory BAR and `PCIE_MEM_BASE_PREFETCHABLE_MASK`. -/
def barType : Field := ⟨1, 2, by decide⟩
def barPrefetchable : Field := ⟨3, 1, Field.fits_3_1⟩

/-- None when the configuration space cannot be opened, which is an assertion. -/
def checkUsePrefetchable (space : Option ConfigSpace) : Option Bool :=
  space.map fun cfg =>
    let bar0 := devicePciRead32 cfg pcieBar0Offset
    barType.get bar0 = 2 ∧ barPrefetchable.get bar0 ≠ 0

def memoryBaseOffset : ℕ := 0x20
def prefetchMemoryBaseOffset : ℕ := 0x24
def prefetchMemoryBaseUpperOffset : ℕ := 0x28
def prefetchMemoryLimitUpperOffset : ℕ := 0x2c

def populateAddrAssocRegBlock (space : Option ConfigSpace) (usePrefetchMemory : Bool) :
    Option AddrAssocRegBlock :=
  space.map fun cfg =>
    let memBaseOffset := if usePrefetchMemory then prefetchMemoryBaseOffset else memoryBaseOffset
    let data32 := devicePciRead32 cfg memBaseOffset
    let memoryBase : BitVec 16 := (data32 &&& 0x0000fff0).setWidth 16 >>> 4
    let memoryLimit : BitVec 16 := ((data32 &&& 0xfff00000) >>> 20).setWidth 16
    { addrAssoc1 := addrValid.set
        (memLimitLower.set (memBaseLower.set 0 memoryBase.toNat) memoryLimit.toNat) 1
      addrAssoc2 :=
        if usePrefetchMemory then devicePciRead32 cfg prefetchMemoryLimitUpperOffset else 0
      addrAssoc3 :=
        if usePrefetchMemory then devicePciRead32 cfg prefetchMemoryBaseUpperOffset else 0 }

end TeeIoValidator.PcieIde
