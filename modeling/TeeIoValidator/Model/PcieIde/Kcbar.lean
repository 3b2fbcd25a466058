import Mathlib.Data.Vector.Basic
import TeeIoValidator.Model.Register

/-! The key configuration unit of a root port and the code that programs it. -/

namespace TeeIoValidator.PcieIde

/-- `PCIE_IDE_STREAM_RX` and `PCIE_IDE_STREAM_TX`, as the device sees them. -/
inductive Direction where
  | rx
  | tx
  deriving Repr, DecidableEq

/-- `PCIE_IDE_STREAM_KS0` and `PCIE_IDE_STREAM_KS1`. -/
inductive KeySet where
  | ks0
  | ks1
  deriving Repr, DecidableEq

/-- `PCIE_IDE_SUB_STREAM_PR`, `PCIE_IDE_SUB_STREAM_NPR` and `PCIE_IDE_SUB_STREAM_CPL`. -/
inductive SubStream where
  | pr
  | npr
  | cpl
  deriving Repr, DecidableEq

def SubStream.index : SubStream → ℕ
  | .pr => 0
  | .npr => 1
  | .cpl => 2

/-- `ide_key_set_t`. -/
abbrev IdeKeySet := Direction → SubStream → BitVec 16

/-! ## `INTEL_KEYP_ROOT_COMPLEX_KCBAR` -/

def capabilities : ℕ := 0

def numStreamSupported : Field := ⟨0, 8, Field.fits_0_8⟩
def numTxKeySlots : Field := ⟨10, 10, by decide⟩
def numRxKeySlots : Field := ⟨20, 10, by decide⟩

/-- The stream configuration blocks follow the capabilities, nine registers each. -/
def getStreamCfgRegBlock (rpStreamIndex : ℕ) : ℕ := 1 + 9 * rpStreamIndex

def streamControl (rpStreamIndex : ℕ) : ℕ := getStreamCfgRegBlock rpStreamIndex

/-- `tx_ctrl` and `rx_ctrl`: the device's receiving direction is the root port's sending
one. -/
def txrxControl (rpStreamIndex : ℕ) : Direction → ℕ
  | .rx => getStreamCfgRegBlock rpStreamIndex + 1
  | .tx => getStreamCfgRegBlock rpStreamIndex + 3

def txKeySet (rpStreamIndex : ℕ) : KeySet → ℕ
  | .ks0 => getStreamCfgRegBlock rpStreamIndex + 5
  | .ks1 => getStreamCfgRegBlock rpStreamIndex + 6

def rxKeySet (rpStreamIndex : ℕ) : KeySet → ℕ
  | .ks0 => getStreamCfgRegBlock rpStreamIndex + 7
  | .ks1 => getStreamCfgRegBlock rpStreamIndex + 8

def en : Field := ⟨0, 1, Field.fits_0_1⟩
def streamId : Field := ⟨24, 8, Field.fits_24_8⟩

def keySetSelect : Field := ⟨0, 2, by decide⟩
def primeKeySet0 : Field := ⟨8, 1, Field.fits_8_1⟩
def primeKeySet1 : Field := ⟨16, 1, by decide⟩

/-- The fields of `INTEL_KEYP_STREAM_KEYSET_SLOT_ID`. -/
def slotIdField : SubStream → Field
  | .pr => ⟨0, 10, by decide⟩
  | .npr => ⟨10, 10, by decide⟩
  | .cpl => ⟨20, 10, by decide⟩

/-! The key slots and the IV slots of the two directions follow the stream blocks. -/

def txKeySlot (cap : Dword) (slot : ℕ) : ℕ :=
  getStreamCfgRegBlock (numStreamSupported.get cap + 1) + 8 * slot

def txIvSlot (cap : Dword) (slot : ℕ) : ℕ :=
  txKeySlot cap (numTxKeySlots.get cap + 1) + 2 * slot

def rxKeySlot (cap : Dword) (slot : ℕ) : ℕ :=
  txIvSlot cap (numTxKeySlots.get cap + 1) + 8 * slot

def rxIvSlot (cap : Dword) (slot : ℕ) : ℕ :=
  rxKeySlot cap (numRxKeySlots.get cap + 1) + 2 * slot

/-! The same by the device's direction. -/

def keySlot (cap : Dword) : Direction → ℕ → ℕ
  | .rx => txKeySlot cap
  | .tx => rxKeySlot cap

def ivSlot (cap : Dword) : Direction → ℕ → ℕ
  | .rx => txIvSlot cap
  | .tx => rxIvSlot cap

def keysetSlotId (rpStreamIndex : ℕ) : Direction → KeySet → ℕ
  | .rx => txKeySet rpStreamIndex
  | .tx => rxKeySet rpStreamIndex

/-! ## Programming the root port -/

def kcbarSetKeySlot (kcbar : Registers) (direction : Direction) (slotId : BitVec 8)
    (keyVal ivVal : List Dword) : Registers :=
  let cap := mmioReadReg32 kcbar capabilities
  let kcbar := regMemcpyDw kcbar (keySlot cap direction slotId.toNat) keyVal
  regMemcpyDw kcbar (ivSlot cap direction slotId.toNat) ivVal

def cfgRootportIdeKeys (kcbar : Registers) (rpStreamIndex : ℕ) (direction : Direction)
    (ks : KeySet) (subStream : SubStream) (slotId : BitVec 8) (keyVal iv : List Dword) :
    Registers :=
  let kcbar := kcbarSetKeySlot kcbar direction slotId keyVal iv
  let keysetSlotIdReg := keysetSlotId rpStreamIndex direction ks
  mmioWriteReg32 kcbar keysetSlotIdReg
    ((slotIdField subStream).set (mmioReadReg32 kcbar keysetSlotIdReg) slotId.toNat)

def primeRpIdeKeySet (kcbar : Registers) (rpStreamIndex : ℕ) (direction : Direction)
    (ks : KeySet) : Registers :=
  let ctrlReg := txrxControl rpStreamIndex direction
  let txrxCtrl := mmioReadReg32 kcbar ctrlReg
  let txrxCtrl := match ks with
    | .ks0 => primeKeySet1.set (primeKeySet0.set txrxCtrl 1) 0
    | .ks1 => primeKeySet1.set (primeKeySet0.set txrxCtrl 0) 1
  mmioWriteReg32 kcbar ctrlReg txrxCtrl

/-- `key_set_select` of a key set. -/
def KeySet.select : KeySet → ℕ
  | .ks0 => 0b01
  | .ks1 => 0b10

def setRpIdeKeySetSelect (kcbar : Registers) (rpStreamIndex : ℕ) (ks : KeySet) : Registers :=
  let ctrlReg := txrxControl rpStreamIndex .rx
  mmioWriteReg32 kcbar ctrlReg (keySetSelect.set (mmioReadReg32 kcbar ctrlReg) ks.select)

def enableIdeStreamInKcbar (kcbar : Registers) (rpStreamIndex : ℕ) (enable : Bool) :
    Registers :=
  let ctrlReg := streamControl rpStreamIndex
  mmioWriteReg32 kcbar ctrlReg (en.set (mmioReadReg32 kcbar ctrlReg) enable.toNat)

def initializeKcbarRegisters (kcbar : Registers) (stream : BitVec 8) (rpStreamIndex : ℕ) :
    Registers :=
  let kcbar := mmioWriteReg32 kcbar (txrxControl rpStreamIndex .rx) 0
  let kcbar := mmioWriteReg32 kcbar (txrxControl rpStreamIndex .tx) 0
  let kcbar := mmioWriteReg32 kcbar (txKeySet rpStreamIndex .ks0) 0
  let kcbar := mmioWriteReg32 kcbar (txKeySet rpStreamIndex .ks1) 0
  let kcbar := mmioWriteReg32 kcbar (rxKeySet rpStreamIndex .ks0) 0
  let kcbar := mmioWriteReg32 kcbar (rxKeySet rpStreamIndex .ks1) 0
  mmioWriteReg32 kcbar (streamControl rpStreamIndex) (streamId.set 0 stream.toNat)

/-- `KCBAR_MEMORY_SIZE`, in bytes. -/
def kcbarMemorySize : ℕ := 1024

/-- The search for a free stream in `find_free_rp_stream_index_and_ide_id`. -/
def findFreeRpStreamIndex (kcbar : Registers) : Option ℕ :=
  (List.range (numStreamSupported.get (mmioReadReg32 kcbar capabilities) + 1)).find? fun i =>
    en.get (mmioReadReg32 kcbar (streamControl i)) = 0

/-! ## `pcie_ide_alloc_slot_ids` -/

/-- The key set that `tx_ctrl` selects. -/
def selectedKeySet (kcbar : Registers) (rpStreamIndex : ℕ) : Option KeySet :=
  let select := keySetSelect.get (mmioReadReg32 kcbar (txrxControl rpStreamIndex .rx))
  if select = 1 then some .ks0 else if select = 2 then some .ks1 else none

/-- The usage map after the first streams, one bit for three slots; none when an assertion
fails. -/
def keyIvSlotUsageMap (kcbar : Registers) (numKeyIvSlots : ℕ) : ℕ → Option (BitVec 8)
  | 0 => some 0
  | i + 1 =>
    match keyIvSlotUsageMap kcbar numKeyIvSlots i with
    | none => none
    | some usageMap =>
      if en.get (mmioReadReg32 kcbar (streamControl i)) = 0 then some usageMap
      else match selectedKeySet kcbar i with
        | none => none
        | some ks =>
          let keyset := mmioReadReg32 kcbar (txKeySet i ks)
          let pr := (slotIdField .pr).get keyset
          let npr := (slotIdField .npr).get keyset
          let cpl := (slotIdField .cpl).get keyset
          if pr < numKeyIvSlots ∧ pr % 3 = 0 ∧ npr < numKeyIvSlots ∧ cpl < numKeyIvSlots then
            some (((1 : BitVec 8) <<< (pr / 3)) ||| usageMap)
          else none

/-- The slots of a group: the same for both directions. -/
def slotGroup (i : ℕ) : IdeKeySet := fun _ subStream => BitVec.ofNat 16 (i * 3 + subStream.index)

inductive SlotAllocation where
  | assertFailed
  | notFound
  | found (kSet : IdeKeySet)

def pcieIdeAllocSlotIds (kcbar : Registers) : SlotAllocation :=
  let streamCap := mmioReadReg32 kcbar capabilities
  let numStreams := numStreamSupported.get streamCap + 1
  let numKeyIvSlots := numTxKeySlots.get streamCap + 1
  if numKeyIvSlots % 3 ≠ 0 then .assertFailed
  else if numKeyIvSlots > 1 * 8 * 3 then .notFound
  else match keyIvSlotUsageMap kcbar numKeyIvSlots numStreams with
    | none => .assertFailed
    | some usageMap =>
      match (List.range (numKeyIvSlots / 3)).find? fun i => !usageMap.getLsbD i with
      | some i => .found (slotGroup i)
      | none => .notFound

end TeeIoValidator.PcieIde
