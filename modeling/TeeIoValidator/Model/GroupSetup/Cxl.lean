import TeeIoValidator.Model.GroupSetup.Scan

/-! The set-up and the teardown of a CXL memory IDE test group. -/

namespace TeeIoValidator.GroupSetup.Cxl

/-! ## The ports -/

/-- What `cxl_init_memcache_reg_block` finds: whether a register block is located, whether
`/dev/mem` can be opened and mapped, and whether the block has the IDE capability; none when an
assertion fails. -/
structure Memcache where
  located : Option Bool
  devMem : Bool
  mmap : Bool
  ideCapability : Option Bool

/-- `cxl_map_bar_addr`. -/
def mapBarAddr (side : Side) (regs : Memcache) : Fallible World := fun w =>
  if !regs.devMem then some (false, w)
  else if !regs.mmap then some (false, w.mapProcess fun p => p.openFile.close p.next)
  else some (true,
    { w.mapProcess mapRegisters with
      context := w.context.modifyPort side fun p => { p with memcacheFd := w.process.next } })

/-- `cxl_init_memcache_reg_block`, which does not look at the result of
`cxl_populate_memcache_reg_block`. -/
def initMemcacheRegBlock (side : Side) (regs : Memcache) : Fallible World :=
  .andThen (.check regs.located) <|
  .andThen (mapBarAddr side regs) <|
  .check (regs.ideCapability.map fun _ => true)

/-- Whether `cxl_ide_capability_struct_ptr` is set. -/
def Memcache.capabilityFound (regs : Memcache) : Bool := regs.ideCapability == some true

/-- What `cxl_init_dev_port` finds. -/
structure DevPort where
  bdf : Bdf
  size : Option ℕ
  dvsecs : Option Bool
  memcache : Memcache
  doe : Option Bool

/-- `cxl_open_dev_port`. -/
def openDevPort (port : DevPort) : Fallible World :=
  openPort .lower port.size ("cxl.dev : " ++ port.bdf.text) <|
  .andThen (.check port.dvsecs) <|
  .andThen (initMemcacheRegBlock .lower port.memcache) <|
  .check port.doe

/-- `cxl_init_dev_port`. -/
def initDevPort (port : DevPort) : Fallible World := openDevPort port

/-- What `cxl_init_root_port` finds. -/
structure RootPort where
  bdf : Bdf
  size : Option ℕ
  dvsecs : Option Bool
  memcache : Memcache
  keyp : Keyp.Parsed

/-- `cxl_open_root_port`. -/
def openRootPort (port : RootPort) : Fallible World :=
  openPort .upper port.size ("cxl.host : " ++ port.bdf.text) <|
  .andThen (.check port.dvsecs) <|
  .andThen (initMemcacheRegBlock .upper port.memcache) <|
  parseKeypTable port.keyp

/-- `cxl_init_root_port`. -/
def initRootPort (port : RootPort) : Fallible World := openRootPort port

/-! ## Set-up and teardown -/

/-- The classes of test cases that the set-up distinguishes. -/
inductive CaseClass where
  | query
  | kSetGo
  | other
  deriving Repr, DecidableEq

/-- What a group's set-up meets. `scan` is none when the ports are neither connected directly nor
by a switch. -/
structure Env where
  scan : Option Scan
  devPort : DevPort
  rootPort : RootPort
  client : SpdmClient
  spdm : SpdmConnection
  caseClass : CaseClass
  query : Option Bool
  ideMode : Option Bool

/-- `cxl_scan_devices`. -/
def scanDevices : Option Scan → Fallible World
  | none => .check none
  | some scan => scan.run

/-- `cxl_ide_set_key_refresh_control_reg` and `cxl_ide_set_truncation_transmit_control_reg`, which
fail when the IDE capability of either side was not found. -/
def setControlReg (host dev : Memcache) : Fallible World :=
  .check (some (host.capabilityFound && dev.capabilityFound))

/-- The result of a step is not looked at. -/
def ignoringResult (step : Fallible World) : Fallible World := fun w =>
  (step w).map fun (_, w) => (true, w)

/-- The queries that depend on the class of the test cases. -/
def queryAndEnable (env : Env) : Fallible World :=
  match env.caseClass with
  | .query => .check (some true)
  | .kSetGo => .check env.query
  | .other => .andThen (.check env.query) (.check env.ideMode)

/-- `common_test_group_setup`. The context that `spdm_client_init` returns is not looked at: the
comparison is with `spdm_connect`. -/
def commonTestGroupSetup (env : Env) : Fallible World :=
  .andThen (scanDevices env.scan) <|
  .andThen (initDevPort env.devPort) <|
  .andThen (initRootPort env.rootPort) <|
  .andThen (setControlReg env.rootPort.memcache env.devPort.memcache) <|
  .andThen (setControlReg env.rootPort.memcache env.devPort.memcache) <|
  .andThen (ignoringResult (spdmClientInit env.client)) <|
  .andThen (spdmConnect env.spdm) <|
  .andThen storeSpdm <|
  queryAndEnable env

/-- The unmapping of the CXL registers and the erasing of `cxl_data`. -/
def closeMemcache (side : Side) (w : World) : World :=
  { w.mapProcess (unmapRegisters (w.context.port side).memcacheFd) with
    context := w.context.modifyPort side fun p => { p with memcacheFd := 0 } }

/-- `cxl_close_dev_port`. -/
def closeDevPort (w : World) : Option World :=
  closeConfigSpaceIfOpen .lower (closeMemcache .lower w)

/-- `cxl_close_root_port`. -/
def closeRootPort (w : World) : Option World :=
  closeConfigSpaceIfOpen .upper (closeKcbar (closeMemcache .upper w))

/-- `common_test_group_teardown`; `stopped` is whether the session ends. -/
def commonTestGroupTeardown (env : Env) (stopped : Bool) (w : World) : Option World :=
  if env.scan.isNone then none
  else (closeDevPort (stopSpdm stopped w)).bind closeRootPort

end TeeIoValidator.GroupSetup.Cxl
