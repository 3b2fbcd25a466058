import TeeIoValidator.Model.PcieIde.Association
import TeeIoValidator.Model.PcieIde.Ecap

/-! Setting and resetting the registers of a stream: its block of the IDE extended capability and,
on a root port, its block of KCBar. -/

namespace TeeIoValidator.PcieIde

open ConfigSpace

/-! ## Writing a configuration space -/

def devicePciWrite32 (cfg : ConfigSpace) (off : ℕ) (value : Dword) : ConfigSpace :=
  Block.write cfg off [value.byte 0, value.byte 1, value.byte 2, value.byte 3]

/-- Offsets and values, in the order of the calls. -/
abbrev Writes := List (ℕ × Dword)

def Writes.apply (writes : Writes) (cfg : ConfigSpace) : ConfigSpace :=
  writes.foldl (fun cfg write => devicePciWrite32 cfg write.1 write.2) cfg

/-- The writes of `setup_ide_ecap_regs`; none when an assertion fails. -/
def setupIdeEcapRegs (cfg : ConfigSpace) (ideType : IdeType) (ideId : BitVec 8)
    (ideEcapOffset : ℕ) (streamCtrl : Dword) (rid : RidAssocRegBlock) (addr : AddrAssocRegBlock) :
    Option Writes :=
  match getIdeRegBlockOffset cfg ideEcapOffset ideType ideId with
  | none => none
  | some offset =>
    match ideType with
    | .selIde =>
      -- The control register is behind the capability register.
      let ctrlOffset := offset + 4
      some [(ctrlOffset + 2 * 4, rid.ridAssoc1), (ctrlOffset + 3 * 4, rid.ridAssoc2),
        (ctrlOffset + 4 * 4, addr.addrAssoc1), (ctrlOffset + 5 * 4, addr.addrAssoc2),
        (ctrlOffset + 6 * 4, addr.addrAssoc3), (ctrlOffset, streamCtrl)]
    | .lnkIde => some [(offset, streamCtrl)]

/-- The fields of `ide_common_test_port_context_t` that the registers of a stream come from. -/
structure PortContext where
  ecapOffset : ℕ
  ideId : BitVec 8
  ridAssocRegBlock : RidAssocRegBlock
  addrAssocRegBlock : AddrAssocRegBlock

/-- The kind of block for a topology; none for the one that is not implemented. -/
def resetIdeType : TopologyType → Option IdeType
  | .selIde => some .selIde
  | .linkIde => some .lnkIde
  | .selLinkIde => none

/-- The registers of KCBar and the writes to the configuration space. -/
def resetIdeRegisters (cfg : ConfigSpace) (kcbar : Registers) (port : PortContext)
    (topType : TopologyType) (stream : BitVec 8) (rpStreamIndex : ℕ) (resetKcbar : Bool) :
    Option (Registers × Writes) :=
  match resetIdeType topType with
  | none => none
  | some ideType =>
    let kcbar := if resetKcbar then initializeKcbarRegisters kcbar stream rpStreamIndex else kcbar
    let streamCtrl := ctrlStreamId.set 0 stream.toNat
    (setupIdeEcapRegs cfg ideType port.ideId port.ecapOffset streamCtrl port.ridAssocRegBlock
      port.addrAssocRegBlock).map fun writes => (kcbar, writes)

end TeeIoValidator.PcieIde
