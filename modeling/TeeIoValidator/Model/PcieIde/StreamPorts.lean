import TeeIoValidator.Model.PcieIde.StreamRegisters

/-! Opening and closing the two ports of a stream: what happens to the registers and to the
contexts of the ports. -/

namespace TeeIoValidator.PcieIde

open ConfigSpace

/-- The part of `pcie_ide_test_group_context_t` that the registers of a stream come from, with
the type and the stream id of the topology. -/
structure GroupContext where
  topType : TopologyType
  topStreamId : BitVec 8
  streamId : BitVec 8
  rpStreamIndex : ℕ
  upperPort : PortContext
  lowerPort : PortContext

/-- The two configuration spaces, the root port's KCBar and the group's context. -/
structure Machine where
  upperCfg : ConfigSpace
  lowerCfg : ConfigSpace
  kcbar : Registers
  context : GroupContext

/-- What is known of a port when it is initialized: its scanned place, the offset of the IDE
capability, which is 0 when there is none, and the results of `pcie_check_flit_mode_enabled` and
`pcie_check_segment_captured`. -/
structure PortFacts where
  segment : BitVec 16
  bus : BitVec 8
  device : BitVec 8
  func : BitVec 8
  ecapOffset : ℕ
  flitModeEnabled : Bool
  segmentCaptured : Bool

/-- `segment`, before it is stored in `segment_base`. -/
def PortFacts.usedSegment (facts : PortFacts) : BitVec 16 :=
  if facts.flitModeEnabled && facts.segmentCaptured then facts.segment else 0

/-! ## `init_dev_port` -/

/-- The result and what becomes of the machine; none when an assertion fails. `doe` says whether a
DOE mailbox is found. -/
def initDevPort (facts : PortFacts) (doe : Bool) (m : Machine) : Option (Bool × Machine) :=
  if facts.ecapOffset = 0 then some (false, m)
  else
    let port := { m.context.lowerPort with ecapOffset := facts.ecapOffset }
    let opened := { m with context.lowerPort := port }
    if !doe then some (false, opened)
    else
      match findFreeRpStreamIndexAndIdeId m.lowerCfg facts.ecapOffset
          (ideCapOf m.lowerCfg facts.ecapOffset) m.kcbar m.context.topType false with
      | none => none
      | some none => some (false, opened)
      | some (some (ideId, _)) =>
        let rid := { mRidAssocRegBlock with
          ridAssoc2 := segmentBase.set mRidAssocRegBlock.ridAssoc2 facts.usedSegment.toNat }
        let port := { port with
          ideId := ideId, ridAssocRegBlock := rid, addrAssocRegBlock := mAddrAssocRegBlock }
        some (true, { m with context.lowerPort := port })

/-! ## `init_root_port` -/

/-- A device that does not support the segment gets the one of the root port. -/
def setLowerSegment (upper lower : PortFacts) (port : PortContext) : PortContext :=
  if upper.flitModeEnabled && upper.segmentCaptured &&
      !(lower.flitModeEnabled && lower.segmentCaptured) then
    { port with ridAssocRegBlock.ridAssoc2 :=
        segmentBase.set port.ridAssocRegBlock.ridAssoc2 upper.segment.toNat }
  else port

/-- `keyp` says whether the KEYP table leads to a KCBar that is mapped, `bridge` is the
configuration space of the port above the device. -/
def initRootPort (upper lower : PortFacts) (keyp : Bool) (bridge : Option ConfigSpace)
    (m : Machine) : Option (Bool × Machine) :=
  if upper.ecapOffset = 0 then some (false, m)
  else
    let port := { m.context.upperPort with ecapOffset := upper.ecapOffset }
    let m := { m with context.upperPort := port }
    if !keyp then some (false, m)
    else if checkStreamIdUsedInRootport m.upperCfg upper.ecapOffset m.kcbar
        m.context.topStreamId then
      some (false, m)
    else
      let m := { m with context.streamId := m.context.topStreamId }
      match findFreeRpStreamIndexAndIdeId m.upperCfg upper.ecapOffset
          (ideCapOf m.upperCfg upper.ecapOffset) m.kcbar m.context.topType true with
      | none => none
      | some none => some (false, m)
      | some (some (ideId, rpStreamIndex)) =>
        match checkUsePrefetchable bridge with
        | none => none
        | some usePrefetchMemory =>
          match populateAddrAssocRegBlock bridge usePrefetchMemory with
          | none => none
          | some addr =>
            let rid := populateRidAssocRegBlock upper.usedSegment lower.bus lower.device lower.func
            let port := { port with
              ideId := ideId, ridAssocRegBlock := rid, addrAssocRegBlock := addr }
            let m := { m with
              context.rpStreamIndex := rpStreamIndex.getD 0
              context.upperPort := port
              context.lowerPort := setLowerSegment upper lower m.context.lowerPort }
            match pcieIdeAllocSlotIds m.kcbar with
            | .assertFailed => none
            | .notFound => some (false, m)
            | .found _ => some (true, m)

/-! ## `test_config_reset_ide_registers` -/

def resetUpperPort (stream : BitVec 8) (m : Machine) : Option Machine :=
  (resetIdeRegisters m.upperCfg m.kcbar m.context.upperPort m.context.topType stream
    m.context.rpStreamIndex true).map fun (kcbar, writes) =>
      { m with kcbar := kcbar, upperCfg := writes.apply m.upperCfg }

def resetLowerPort (stream : BitVec 8) (m : Machine) : Option Machine :=
  (resetIdeRegisters m.lowerCfg m.kcbar m.context.lowerPort m.context.topType stream
    m.context.rpStreamIndex false).map fun (kcbar, writes) =>
      { m with kcbar := kcbar, lowerCfg := writes.apply m.lowerCfg }

def testConfigResetIdeRegisters (m : Machine) : Option Machine :=
  match resetUpperPort m.context.streamId m with
  | none => none
  | some m => resetLowerPort m.context.streamId m

/-! ## `close_root_port` and `close_dev_port` -/

/-- The registers in the context that are cleared before they are written. -/
def PortContext.clear (port : PortContext) : PortContext :=
  { port with
    addrAssocRegBlock.addrAssoc1 := 0
    addrAssocRegBlock.addrAssoc2 := 0
    ridAssocRegBlock.ridAssoc1 := 0
    ridAssocRegBlock.ridAssoc2 := 0 }

def closeRootPort (m : Machine) : Option Machine :=
  resetUpperPort 0 { m with context.upperPort := m.context.upperPort.clear }

def closeDevPort (m : Machine) : Option Machine :=
  resetLowerPort 0 { m with context.lowerPort := m.context.lowerPort.clear }

/-! ## Runs -/

/-- What can happen to the ports of a tool's groups. A new group has a context of zeros and ports
whose registers hold anything; a case leaves anything in KCBar and in the control registers. -/
inductive StreamAction where
  | newGroup (topType : TopologyType) (topStreamId : BitVec 8) (upperCfg lowerCfg : ConfigSpace)
      (kcbar : Registers)
  | initDevPort (facts : PortFacts) (doe : Bool)
  | initRootPort (upper lower : PortFacts) (keyp : Bool) (bridge : Option ConfigSpace)
  | resetRegisters
  | runCase (kcbar : Registers) (upperCtrl lowerCtrl : Dword)
  | closeDevPort
  | closeRootPort

/-- A context after `memset`. -/
def zeroedContext (topType : TopologyType) (topStreamId : BitVec 8) : GroupContext where
  topType := topType
  topStreamId := topStreamId
  streamId := 0
  rpStreamIndex := 0
  upperPort := ⟨0, 0, ⟨0, 0⟩, ⟨0, 0, 0⟩⟩
  lowerPort := ⟨0, 0, ⟨0, 0⟩, ⟨0, 0, 0⟩⟩

/-- The control register of a stream gets a value; none when an assertion fails. -/
def writeCtrl (cfg : ConfigSpace) (topType : TopologyType) (port : PortContext) (ctrl : Dword) :
    Option ConfigSpace :=
  match resetIdeType topType with
  | none => none
  | some ideType =>
    (getIdeRegBlockOffset cfg port.ecapOffset ideType port.ideId).map fun offset =>
      match ideType with
      | .selIde => devicePciWrite32 cfg (offset + 4) ctrl
      | .lnkIde => devicePciWrite32 cfg offset ctrl

def StreamAction.run (m : Machine) : StreamAction → Option Machine
  | .newGroup topType topStreamId upperCfg lowerCfg kcbar =>
    some ⟨upperCfg, lowerCfg, kcbar, zeroedContext topType topStreamId⟩
  | .initDevPort facts doe => (PcieIde.initDevPort facts doe m).map Prod.snd
  | .initRootPort upper lower keyp bridge =>
    (PcieIde.initRootPort upper lower keyp bridge m).map Prod.snd
  | .resetRegisters => testConfigResetIdeRegisters m
  | .runCase kcbar upperCtrl lowerCtrl =>
    match writeCtrl m.upperCfg m.context.topType m.context.upperPort upperCtrl with
    | none => none
    | some upperCfg =>
      (writeCtrl m.lowerCfg m.context.topType m.context.lowerPort lowerCtrl).map fun lowerCfg =>
        { m with kcbar := kcbar, upperCfg := upperCfg, lowerCfg := lowerCfg }
  | .closeDevPort => PcieIde.closeDevPort m
  | .closeRootPort => PcieIde.closeRootPort m

/-- One action after the other. -/
def runActions (m : Machine) (actions : List StreamAction) : Option Machine :=
  actions.foldlM StreamAction.run m

end TeeIoValidator.PcieIde
