import TeeIoValidator.Library.Fallible
import TeeIoValidator.Model.Keyp

/-! What a test group holds while it runs, and the steps that the PCIe and the CXL set-up share. -/

namespace TeeIoValidator.GroupSetup

/-! ## The process -/

/-- `IDE_TEST_DEVICES_INFO`; the descriptor of an empty slot is 0. -/
structure DeviceInfo where
  fd : ℕ
  deviceName : String
  deriving Repr, DecidableEq

/-- What the process holds. The registers that are mapped stand for the descriptors of `/dev/mem`
through which they were mapped. -/
structure Process where
  descriptors : List ℕ
  mappings : List ℕ
  devices : List DeviceInfo
  contexts : ℕ
  scratchBuffers : ℕ
  sessions : List ℕ
  deriving Repr, DecidableEq

/-- `MAX_SUPPORT_DEVICE_NUM`. -/
def maxSupportDeviceNum : ℕ := 32

/-- The process before its first group; its standard input is open. -/
def Process.start (descriptors : List ℕ) : Process where
  descriptors := 0 :: descriptors
  mappings := []
  devices := List.replicate maxSupportDeviceNum ⟨0, ""⟩
  contexts := 0
  scratchBuffers := 0
  sessions := []

/-- The lowest descriptor that is not open. -/
def lowestFree (descriptors : List ℕ) : ℕ :=
  ((List.range (descriptors.length + 1)).find? (· ∉ descriptors)).getD 0

namespace Process

/-- The descriptor that the next `open` returns. -/
def next (p : Process) : ℕ := lowestFree p.descriptors

/-- `open`, of a file that can be opened. -/
def openFile (p : Process) : Process := { p with descriptors := p.next :: p.descriptors }

/-- `close`. -/
def close (fd : ℕ) (p : Process) : Process := { p with descriptors := p.descriptors.erase fd }

end Process

/-- `open_configuration_space`; `size` is that of the file, if it can be opened. None stands
for -1. -/
def openConfigurationSpace (size : Option ℕ) (p : Process) : Option ℕ × Process :=
  match size with
  | none => (none, p)
  | some size =>
    if 0x1000 < size then (none, p.openFile.close p.next) else (some p.next, p.openFile)

/-! ## `devices` -/

/-- `MAX_NAME_LENGTH`. -/
def maxNameLength : ℕ := 128

/-- The loop of `set_deivce_info`; none when the slot of the descriptor has another name. -/
def setSlot (fd : ℕ) (deviceName : String) : List DeviceInfo → Option (List DeviceInfo)
  | [] => some []
  | d :: ds =>
    if d.fd = fd then if d.deviceName = deviceName then some (d :: ds) else none
    else if d.fd = 0 then some (⟨fd, deviceName⟩ :: ds)
    else (setSlot fd deviceName ds).map (d :: ·)

/-- `set_deivce_info`, whose result no caller looks at; none when an assertion failed. -/
def setDeivceInfo (fd : ℕ) (deviceName : String) (p : Process) : Option Process :=
  if fd = 0 ∨ maxNameLength - 1 < deviceName.length then none
  else (setSlot fd deviceName p.devices).map fun devices => { p with devices }

/-- The loop of `unset_device_info`. -/
def clearSlot (fd : ℕ) : List DeviceInfo → List DeviceInfo
  | [] => []
  | d :: ds => if d.fd = fd then ⟨0, ""⟩ :: ds else d :: clearSlot fd ds

/-- `unset_device_info`; none when the assertion failed. -/
def unsetDeviceInfo (fd : ℕ) (p : Process) : Option Process :=
  if fd = 0 then none else some { p with devices := clearSlot fd p.devices }

/-! ## The group's context -/

/-- The descriptors in an `ide_common_test_port_context_t`: of the configuration space, and those
through which the key configuration unit and the CXL registers are mapped. 0 stands for none. -/
structure Port where
  cfgSpaceFd : ℕ
  kcbarFd : ℕ
  memcacheFd : ℕ
  deriving Repr, DecidableEq

inductive Side where
  | lower
  | upper
  deriving Repr, DecidableEq

/-- What is used of a group's context. -/
structure Context where
  port : Side → Port
  /-- Whether `spdm_doe.spdm_context` is not NULL. -/
  spdmContext : Bool
  sessionId : ℕ

def Context.modifyPort (side : Side) (f : Port → Port) (c : Context) : Context :=
  { c with port := fun other => if other = side then f (c.port other) else c.port other }

/-- The process, the context of the group that runs, and the variables of its set-up. -/
structure World where
  process : Process
  context : Context
  spdmContext : Bool
  sessionId : ℕ

/-- A group's context is zeroed when it is allocated. -/
def World.fresh (process : Process) : World where
  process := process
  context := ⟨fun _ => ⟨0, 0, 0⟩, false, 0⟩
  spdmContext := false
  sessionId := 0

def World.mapProcess (f : Process → Process) (w : World) : World :=
  { w with process := f w.process }

/-! ## Ports -/

/-- The text of a port's `bdf`, which has room for 12 characters. -/
structure Bdf where
  text : String
  short : text.length ≤ 12

/-- `close(fd); unset_device_info(fd)`. -/
def closeConfigSpace (fd : ℕ) (w : World) : Option World :=
  (unsetDeviceInfo fd (w.process.close fd)).map fun process => { w with process }

/-- The same with the descriptor in the port's context. -/
def closePort (side : Side) (w : World) : Option World :=
  closeConfigSpace (w.context.port side).cfgSpaceFd w

/-- What `open_dev_port`, `open_root_port` and their CXL versions do: the configuration space is
opened and entered under the name, and closed again when the rest fails. -/
def openPort (side : Side) (size : Option ℕ) (deviceName : String) (rest : Fallible World) :
    Fallible World := fun w =>
  match openConfigurationSpace size w.process with
  | (none, process) => some (false, { w with process })
  | (some fd, process) =>
    (setDeivceInfo fd deviceName process).bind fun process =>
      rest.undoing (closeConfigSpace fd)
        { w with
          process
          context := w.context.modifyPort side fun p => { p with cfgSpaceFd := fd } }

/-- The descriptor of `/dev/mem` and the registers that are mapped through it. -/
def mapRegisters (p : Process) : Process :=
  { p.openFile with mappings := p.next :: p.mappings }

/-- `unmap_kcbar_addr` and `cxl_unmap_memcache_reg_block`. -/
def unmapRegisters (fd : ℕ) (p : Process) : Process :=
  if fd = 0 then p else { p.close fd with mappings := p.mappings.erase fd }

/-- `parse_keyp_table`; `parsed` is what it makes of the table. The descriptor of the table's file
stays open. -/
def parseKeypTable (parsed : Keyp.Parsed) : Fallible World := fun w =>
  let w := if parsed.fd = .opened then w.mapProcess .openFile else w
  let w := match parsed.mapped with
    | none => w
    | some _ =>
      { w.mapProcess mapRegisters with
        context := w.context.modifyPort .upper fun p => { p with kcbarFd := w.process.next } }
  parsed.ret.map fun ret => (ret, w)

/-! ## SPDM -/

/-- What `spdm_client_init` meets. -/
structure SpdmClient where
  contextMemory : Bool
  scratchMemory : Bool
  versionOverride : Bool
  initConnection : Bool

/-- `spdm_client_init`, whose result is kept in `spdm_context`; it fails when it returns NULL. -/
def spdmClientInit (client : SpdmClient) : Fallible World := fun w =>
  let allocate := fun p : Process => { p with contexts := p.contexts + 1 }
  let allocateScratch := fun p : Process => { p with scratchBuffers := p.scratchBuffers + 1 }
  let free := fun p : Process => { p with contexts := p.contexts - 1 }
  let freeScratch := fun p : Process => { p with scratchBuffers := p.scratchBuffers - 1 }
  let null := fun w : World => some (false, { w with spdmContext := false })
  if !client.contextMemory then null w
  else
    let w := w.mapProcess allocate
    if !client.scratchMemory then null (w.mapProcess free)
    else
      let w := w.mapProcess allocateScratch
      if !client.versionOverride then null ((w.mapProcess freeScratch).mapProcess free)
      else if !client.initConnection then null (w.mapProcess free)
      else some (true, { w with spdmContext := true })

/-- What the requests of `spdm_connect` give; none when one of them stops the program, as with a
context that is NULL. `session` is the session that is established. -/
structure SpdmConnection where
  certificate : Option Bool
  session : Option (Option ℕ)
  measurement : Option Bool

def startSession (session : Option (Option ℕ)) : Fallible World := fun w =>
  session.map fun
    | none => (false, w)
    | some id =>
      (true,
        { w.mapProcess (fun p => { p with sessions := id :: p.sessions }) with sessionId := id })

/-- `spdm_connect`. -/
def spdmConnect (connection : SpdmConnection) : Fallible World :=
  .andThen (.check connection.certificate) <|
  .andThen (startSession connection.session) <|
  .check connection.measurement

/-- The context and the session are kept for the test cases. -/
def storeSpdm : Fallible World := fun w =>
  some (true,
    { w with context := { w.context with spdmContext := w.spdmContext, sessionId := w.sessionId } })

/-- The SPDM part of the teardown; `stopped` is whether `spdm_stop` ends the session. -/
def stopSpdm (stopped : Bool) (w : World) : World :=
  if w.context.spdmContext then
    let sessions :=
      if stopped then w.process.sessions.erase w.context.sessionId else w.process.sessions
    { w with
      process := { w.process with sessions, contexts := w.process.contexts - 1 }
      context := { w.context with spdmContext := false, sessionId := 0 } }
  else w

/-! ## Closing the ports -/

/-- The steps that `close_dev_port`, `close_root_port` and their CXL versions end with. -/
def closeConfigSpaceIfOpen (side : Side) (w : World) : Option World :=
  (if (w.context.port side).cfgSpaceFd = 0 then some w else closePort side w).map fun w =>
    { w with context := w.context.modifyPort side fun p => { p with cfgSpaceFd := 0 } }

/-- The step of `close_root_port` and `cxl_close_root_port` that unmaps the key configuration
unit. -/
def closeKcbar (w : World) : World :=
  { w.mapProcess (unmapRegisters (w.context.port .upper).kcbarFd) with
    context := w.context.modifyPort .upper fun p => { p with kcbarFd := 0 } }

end TeeIoValidator.GroupSetup
