import TeeIoValidator.Model.ConfigSpace
import TeeIoValidator.Model.PcieIde.KeyManagement

/-! The IDE extended capability: link and selective register blocks, and the three functions that
walk through them. -/

namespace TeeIoValidator.PcieIde

open ConfigSpace

/-! ## Registers -/

def lnkIdeSupported : Field := ⟨0, 1, Field.fits_0_1⟩
def selIdeSupported : Field := ⟨1, 1, Field.fits_1_1⟩
def numLnkIdeField : Field := ⟨13, 3, by decide⟩
def numSelIdeField : Field := ⟨16, 8, by decide⟩

/-- `num_lnk_ide` of the functions. -/
def numLnkIde (ideCap : Dword) : ℕ :=
  if lnkIdeSupported.get ideCap = 1 then numLnkIdeField.get ideCap + 1 else 0

/-- `num_sel_ide` of the functions. -/
def numSelIde (ideCap : Dword) : ℕ :=
  if selIdeSupported.get ideCap = 1 then numSelIdeField.get ideCap + 1 else 0

/-- `enabled` and `stream_id` of `PCIE_LNK_IDE_STREAM_CTRL` and `PCIE_SEL_IDE_STREAM_CTRL`. -/
def ctrlEnabled : Field := ⟨0, 1, Field.fits_0_1⟩
def ctrlStreamId : Field := ⟨24, 8, Field.fits_24_8⟩

/-- A field of `PCIE_SEL_IDE_STREAM_CAP`. -/
def numAddrAssocRegBlocks : Field := ⟨0, 4, by decide⟩

def linkIdeRegisterBlockSize : ℕ := 4 + 4

/-- `PCIE_IDE_CAP`, behind the header of the extended capability. -/
def ideCapOf (cfg : ConfigSpace) (ecapOffset : ℕ) : Dword := devicePciRead32 cfg (ecapOffset + 4)

/-- `TEST_IDE_TYPE`. -/
inductive IdeType where
  | selIde
  | lnkIde
  deriving Repr, DecidableEq

/-- The loops over `n` blocks from number `i` on: the first one that `hit` accepts. -/
def walkBlocks (hit : ℕ → Bool) (next : ℕ → ℕ) : ℕ → ℕ → ℕ → Option ℕ
  | 0, _, _ => none
  | n + 1, i, offset =>
    if hit offset then some i else walkBlocks hit next n (i + 1) (next offset)

section Walks

variable (cfg : ConfigSpace) (ecapOffset : ℕ)

/-! ## `find_free_rp_stream_index_and_ide_id` -/

/-- The header, `PCIE_IDE_CAP` and `PCIE_IDE_CTRL` are skipped. -/
def findLnkStart : ℕ := ecapOffset + 4 + 4 + 4

def findLnkNext (offset : ℕ) : ℕ := offset + linkIdeRegisterBlockSize

def findSelStart (ideCap : Dword) : ℕ :=
  ecapOffset + 4 + 4 + 4 + numLnkIde ideCap * linkIdeRegisterBlockSize

/-- The capability, the control and the status register, two RID and the address association
registers are skipped. -/
def findSelNext (offset : ℕ) : ℕ :=
  offset + 4 + 4 + 4 +
    (2 * 4 + numAddrAssocRegBlocks.get (devicePciRead32 cfg offset) * 3 * 4)

/-- The search for a block that is not enabled; none when an assertion fails. -/
def findFreeIdeId (ideCap : Dword) : TopologyType → Option (Option ℕ)
  | .selLinkIde => none
  | .linkIde =>
    if lnkIdeSupported.get ideCap = 0 then some none
    else some (walkBlocks (fun offset => ctrlEnabled.get (devicePciRead32 cfg offset) = 0)
      findLnkNext (numLnkIde ideCap) 0 (findLnkStart ecapOffset))
  | .selIde =>
    if selIdeSupported.get ideCap = 0 then some none
    else some (walkBlocks (fun offset => ctrlEnabled.get (devicePciRead32 cfg (offset + 4)) = 0)
      (findSelNext cfg) (numSelIde ideCap) (numLnkIde ideCap) (findSelStart ecapOffset ideCap))

/-- The function returns the id of the block and, for a root port, the index of a free stream. -/
def findFreeRpStreamIndexAndIdeId (ideCap : Dword) (kcbar : Registers) (topType : TopologyType)
    (rpOrDev : Bool) : Option (Option (BitVec 8 × Option ℕ)) :=
  match findFreeIdeId cfg ecapOffset ideCap topType with
  | none => none
  | some none => some none
  | some (some i) =>
    let ideId := BitVec.ofNat 8 i
    if rpOrDev then
      match findFreeRpStreamIndex kcbar with
      | none => some none
      | some rpStreamIndex => some (some (ideId, some rpStreamIndex))
    else some (some (ideId, none))

/-! ## `check_stream_id_used_in_rootport` -/

def checkLnkStart : ℕ := ecapOffset + 4 + 4 + 4

def checkLnkNext (offset : ℕ) : ℕ := offset + linkIdeRegisterBlockSize

/-- The control register of the capability is skipped together with the link blocks. -/
def checkSelStart (ideCap : Dword) : ℕ :=
  if 0 < numLnkIde ideCap then checkLnkNext^[numLnkIde ideCap] (checkLnkStart ecapOffset)
  else ecapOffset + 4 + 4

def checkSelNext (offset : ℕ) : ℕ :=
  offset + (3 * 4 + 2 * 4 + numAddrAssocRegBlocks.get (devicePciRead32 cfg offset) * 3 * 4)

/-- A control register that is enabled for the stream. -/
def usesStreamId (streamId : BitVec 8) (ctrl : Dword) : Bool :=
  ctrlEnabled.get ctrl = 1 ∧ ctrlStreamId.get ctrl = streamId.toNat

/-- The same for a stream of the key configuration unit. -/
def kcbarUsesStreamId (kcbar : Registers) (id : BitVec 8) (rpStreamIndex : ℕ) : Bool :=
  let control := mmioReadReg32 kcbar (streamControl rpStreamIndex)
  en.get control = 1 ∧ streamId.get control = id.toNat

def checkStreamIdUsedInRootport (kcbar : Registers) (id : BitVec 8) : Bool :=
  if (List.range (numStreamSupported.get (mmioReadReg32 kcbar capabilities) + 1)).any
      (kcbarUsesStreamId kcbar id) then true
  else
    let ideCap := ideCapOf cfg ecapOffset
    if (walkBlocks (fun offset => usesStreamId id (devicePciRead32 cfg offset)) checkLnkNext
        (numLnkIde ideCap) 0 (checkLnkStart ecapOffset)).isSome then true
    else (walkBlocks (fun offset => usesStreamId id (devicePciRead32 cfg (offset + 4)))
      (checkSelNext cfg) (numSelIde ideCap) 0 (checkSelStart ecapOffset ideCap)).isSome

/-! ## `get_ide_reg_block_offset` -/

/-- The step over the selective blocks before the one asked for; none when the assertion on a
block fails. -/
def advanceSel : ℕ → ℕ → Option ℕ
  | 0, offset => some offset
  | n + 1, offset =>
    let num := numAddrAssocRegBlocks.get (devicePciRead32 cfg offset)
    if num = 1 then advanceSel n (offset + 20 + 12 * num) else none

def getIdeRegBlockOffset (ideType : IdeType) (ideId : BitVec 8) : Option ℕ :=
  let ideCap := ideCapOf cfg ecapOffset
  match ideType with
  | .lnkIde =>
    if ideId.toNat < numLnkIde ideCap ∧ lnkIdeSupported.get ideCap = 1 then
      some (ecapOffset + 4 + 4 + 4 + 8 * ideId.toNat)
    else none
  | .selIde =>
    if selIdeSupported.get ideCap = 1 ∧ numLnkIde ideCap ≤ ideId.toNat ∧
        ideId.toNat ≤ numSelIdeField.get ideCap + numLnkIde ideCap then
      advanceSel cfg (ideId.toNat - numLnkIde ideCap)
        (ecapOffset + 4 + 4 + 4 + 8 * numLnkIde ideCap)
    else none

end Walks

end TeeIoValidator.PcieIde
