import Mathlib.Data.Int.Init
import TeeIoValidator.Model.ConfigSpace

/-! The CXL.cachemem registers of a port: where its register locator says that they are, their
mapping, and their capability array. -/

namespace TeeIoValidator.CxlMemcache

open ConfigSpace

/-! ## Fields -/

/-- `length` of `CXL_DVS_HEADER1`. -/
def dvsecLength : Field := ⟨20, 12, Field.fits_20_12⟩

/-- `CXL_REGISTER_OFFSET_LOW`. -/
def registerBir : Field := ⟨0, 3, by decide⟩
def registerBlockId : Field := ⟨8, 8, Field.fits_8_8⟩
def registerBlockOffsetLow : Field := ⟨16, 16, by decide⟩

/-- `CXL_CAPABILITY_HEADER` and `CXL_CAPABILITY_XXX_HEADER`. -/
def capId : Field := ⟨0, 16, Field.fits_0_16⟩
def capVersion : Field := ⟨16, 4, Field.fits_16_4⟩
def cacheMemVersion : Field := ⟨20, 4, by decide⟩
def arraySize : Field := ⟨24, 8, Field.fits_24_8⟩
def capPointer : Field := ⟨20, 12, Field.fits_20_12⟩

def dvsecIdRegisterLocator : ℕ := 8
def regBlockIdComponentReg : ℕ := 1
def capabilityIdIdeCap : ℕ := 7
def capabilityIdNum : ℕ := 17

/-- `sizeof(CXL_DVSEC_REGISTER_LOCATOR)`. -/
def registerLocatorSize : ℕ := 12

/-- `m_pcie_bar_offset`. -/
def pcieBarOffset : List ℕ := [0x10, 0x14, 0x18, 0x1C, 0x20, 0x24]

/-! ## The machine -/

/-- The configuration space, the descriptor that `/dev/mem` is opened with, where `mmap` maps a
physical address, and the memory. -/
structure Machine where
  configSpace : ConfigSpace
  devMem : Option ℕ
  mmap : BitVec 64 → Option ℕ
  memory : ℕ → BitVec 8

/-- `mmio_read_reg32`, at a byte address. -/
def Machine.read32 (m : Machine) (ptr : ℕ) : Dword := devicePciRead32 m.memory ptr

/-- `CXL_PRIV_DATA_MEMCACHE_REG_DATA`; none is NULL. -/
structure MemcacheRegs where
  mappedFd : ℕ
  mappedMemcacheRegBlock : Option ℕ
  capHeaders : List Dword
  cxlIdeCapabilityStructPtr : Option ℕ
  ideCap : Dword

section Machine

variable (m : Machine)

/-! ## The mapping -/

def cxlCachememRegBlockSize : ℕ := 0x1000
def cxlIoRegBlockSize : ℕ := 0x1000

/-- Whether `bar_val` is the low half of a 64-bit base address. -/
def is64Bit (barVal : Dword) : Bool := barVal &&& 0x6 == 0x4

/-- The value of a base address register, with the flags in its low bits. -/
def barValue (bar : ℕ) : BitVec 64 :=
  let barVal := devicePciRead32 m.configSpace bar
  if is64Bit barVal then devicePciRead32 m.configSpace (bar + 4) ++ barVal
  else barVal.setWidth 64

/-- The physical address that `cxl_map_bar_addr` maps. -/
def mapTarget (bar : ℕ) (offsetInBar : BitVec 64) : BitVec 64 :=
  (barValue m bar &&& ~~~(BitVec.ofNat 64 (cxlCachememRegBlockSize - 1))) +
    (offsetInBar.setWidth 32).setWidth 64 + BitVec.ofNat 64 cxlIoRegBlockSize

/-- `cxl_map_bar_addr`: the descriptor and the mapped address. -/
def cxlMapBarAddr (bar : ℕ) (offsetInBar : BitVec 64) : Option (ℕ × ℕ) :=
  m.devMem.bind fun memFd => (m.mmap (mapTarget m bar offsetInBar)).map fun memPtr =>
    (memFd, memPtr)

/-! ## The capability array -/

/-- The first registers of the capability array at a mapped address. -/
def capXxxHeaders (ptr n : ℕ) : List Dword :=
  (List.range n).map fun i => m.read32 (ptr + 4 + i * 4)

/-- `cxl_populate_memcache_reg_block`; none when an assertion failed, those of
`cxl_dump_cap_headers` included. -/
def cxlPopulateMemcacheRegBlock (ptr : ℕ) (regs : MemcacheRegs) : Option (Bool × MemcacheRegs) :=
  let capHeader := m.read32 ptr
  if capId.get capHeader ≠ 1 ∨ capVersion.get capHeader ≠ 1 ∨ cacheMemVersion.get capHeader ≠ 1 then
    none
  else
    let n := arraySize.get capHeader
    if capabilityIdNum < n then some (false, regs)
    else
      let capHeaders := capXxxHeaders m ptr n
      let regs := { regs with capHeaders }
      if capHeaders.any (capabilityIdNum ≤ capId.get ·) then none
      else
        match capHeaders.find? (capId.get · = capabilityIdIdeCap) with
        | none => some (false, regs)
        | some header =>
          let ptr := ptr + capPointer.get header
          some (true, { regs with cxlIdeCapabilityStructPtr := some ptr, ideCap := m.read32 ptr })

/-! ## The register locator -/

/-- Whether the entry at an offset is of the component registers. -/
def isComponentReg (offset : ℕ) : Bool :=
  registerBlockId.get (devicePciRead32 m.configSpace offset) = regBlockIdComponentReg

/-- `offset_in_bar` of the entry at an offset. -/
def offsetInBar (offset : ℕ) : BitVec 64 :=
  devicePciRead32 m.configSpace (offset + 4) ++
    (BitVec.ofNat 32 (registerBlockOffsetLow.get (devicePciRead32 m.configSpace offset)) <<< 16)

/-- `register_bir` of the entry at an offset. -/
def bir (offset : ℕ) : ℕ := registerBir.get (devicePciRead32 m.configSpace offset)

/-- What the loop has come to: the entries that were read, which the code does not keep, and the
component registers' entry. -/
structure Located where
  examined : List ℕ
  entry : Option ℕ
  deriving DecidableEq

/-- The loop over the entries, with `left` rounds to go. The offset is advanced by `i * 8`. -/
def locateFrom : ℕ → ℕ → ℕ → Located
  | 0, _, _ => ⟨[], none⟩
  | left + 1, i, offset =>
    let offset := offset + i * 8
    if isComponentReg m offset then ⟨[offset], some offset⟩
    else
      let rest := locateFrom left (i + 1) offset
      ⟨offset :: rest.examined, rest.entry⟩

/-- The register locator's entries: the offset of the first one and their count. None when an
assertion failed. -/
def registerLocator (dvsec : Dvsec) : Option (ℕ × ℕ) :=
  let header1 := devicePciRead32 m.configSpace (dvsec.offset + 4)
  let header2 := devicePciRead16 m.configSpace (dvsec.offset + 8)
  let length : ℤ := dvsecLength.get header1 - registerLocatorSize
  if dvsec.offset = 0 ∨ vendorId.get header1 ≠ dvsecVendorIdCxl ∨
      header2.toNat ≠ dvsecIdRegisterLocator ∨ length.tmod 8 ≠ 0 then
    none
  else some (dvsec.offset + registerLocatorSize, (length.tdiv 8).toNat)

/-- What `cxl_init_memcache_reg_block` returns, with what it looked at: the entries, and the
address that was to be mapped. -/
structure Outcome where
  ret : Bool
  regs : MemcacheRegs
  located : Located
  target : Option (BitVec 64)

/-- What follows the loop. -/
def mapLocated (regs : MemcacheRegs) (located : Located) : Option Outcome :=
  match located.entry with
  | none => some ⟨false, regs, located, none⟩
  | some entry =>
    (pcieBarOffset[bir m entry]?).bind fun bar =>
      let target := m.devMem.map fun _ => mapTarget m bar (offsetInBar m entry)
      match cxlMapBarAddr m bar (offsetInBar m entry) with
      | none => some ⟨false, regs, located, target⟩
      | some (mappedFd, ptr) =>
        -- the result of `cxl_populate_memcache_reg_block` is not looked at
        (cxlPopulateMemcacheRegBlock m ptr
          { regs with mappedFd, mappedMemcacheRegBlock := some ptr }).map fun (_, regs) =>
            ⟨true, regs, located, target⟩

/-- `cxl_init_memcache_reg_block`; none when an assertion failed. -/
def cxlInitMemcacheRegBlock (dvsecs : List Dvsec) (regs : MemcacheRegs) : Option Outcome :=
  match dvsecs.find? (·.dvsecId = dvsecIdRegisterLocator) with
  | none => some ⟨false, regs, ⟨[], none⟩, none⟩
  | some dvsec =>
    (registerLocator m dvsec).bind fun (offset, regBlockCnt) =>
      mapLocated m regs (locateFrom m regBlockCnt 0 offset)

/-! ## What is to be located -/

/-- The entries are read in order, up to the first one of the component registers. -/
def examine : List ℕ → Located
  | [] => ⟨[], none⟩
  | offset :: offsets =>
    if isComponentReg m offset then ⟨[offset], some offset⟩
    else ⟨offset :: (examine offsets).examined, (examine offsets).entry⟩

/-- The entry `i` is at the offset `8 * i` behind the first one. -/
def entryOffsets (offset regBlockCnt : ℕ) : List ℕ :=
  (List.range regBlockCnt).map fun i => offset + 8 * i

/-- The entries of the register locator; there are none without one. -/
def regBlockOffsets (dvsecs : List Dvsec) : List ℕ :=
  match (dvsecs.find? (·.dvsecId = dvsecIdRegisterLocator)).bind (registerLocator m) with
  | none => []
  | some (offset, regBlockCnt) => entryOffsets offset regBlockCnt

/-- The base address that an entry refers to: a base address register without its four flags. -/
def barBase (entry : ℕ) : BitVec 64 :=
  barValue m (pcieBarOffset.getD (bir m entry) 0) &&& ~~~0xF

/-- The physical address of the cache and memory registers that an entry locates. -/
def physicalAddress (entry : ℕ) : BitVec 64 :=
  barBase m entry + offsetInBar m entry + BitVec.ofNat 64 cxlIoRegBlockSize

/-- The IDE capability's header in the capability array at a mapped address. -/
def ideCapHeader (ptr : ℕ) : Option Dword :=
  let n := arraySize.get (m.read32 ptr)
  if n ≤ capabilityIdNum then (capXxxHeaders m ptr n).find? (capId.get · = capabilityIdIdeCap)
  else none

end Machine

end TeeIoValidator.CxlMemcache
