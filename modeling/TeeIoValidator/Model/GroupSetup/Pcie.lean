import TeeIoValidator.Model.GroupSetup.Scan

/-! The set-up and the teardown of a PCIe IDE test group. What the devices, the files and the SPDM
library give at each call is a parameter; an outcome none stands for an assertion that fails. -/

namespace TeeIoValidator.GroupSetup.Pcie

/-- `IDE_TEST_CONNECT_TYPE`, and the calls of `scan_devices_at_bus` that it leads to. -/
inductive Connection where
  | direct (scan : Scan)
  | switch (scan : Scan)
  | p2p (upper lower : Scan)
  | other

/-- `scan_devices`. -/
def scanDevices : Connection → Fallible World
  | .direct scan | .switch scan => scan.run
  | .p2p upper lower => upper.run.andThen lower.run
  | .other => .check (some false)

/-! ## The ports -/

/-- What `init_dev_port` finds. -/
structure DevPort where
  bdf : Bdf
  size : Option ℕ
  ideCapability : Bool
  doe : Option Bool
  freeIdeId : Option Bool

/-- `open_dev_port`. -/
def openDevPort (port : DevPort) : Fallible World :=
  openPort .lower port.size ("dev : " ++ port.bdf.text) <|
  .andThen (.check (some port.ideCapability)) (.check port.doe)

/-- `init_dev_port`. -/
def initDevPort (port : DevPort) : Fallible World :=
  .andThen (openDevPort port) <| .undoing (closePort .lower) (.check port.freeIdeId)

/-- What `init_root_port` finds. -/
structure RootPort where
  bdf : Bdf
  size : Option ℕ
  ideCapability : Bool
  keyp : Keyp.Parsed
  streamIdUsed : Bool
  freeStreamIndex : Option Bool
  addrAssoc : Option Bool
  slotIds : Option Bool

/-- `open_root_port`. -/
def openRootPort (port : RootPort) : Fallible World :=
  openPort .upper port.size ("host : " ++ port.bdf.text) <|
  .andThen (.check (some port.ideCapability)) (parseKeypTable port.keyp)

/-- `init_root_port`. -/
def initRootPort (port : RootPort) : Fallible World :=
  .andThen (openRootPort port) <|
  .undoing (closePort .upper) <|
    .andThen (.check (some !port.streamIdUsed)) <|
    .andThen (.check port.freeStreamIndex) <|
    .andThen (.check port.addrAssoc) (.check port.slotIds)

/-! ## Set-up and teardown -/

/-- What a group's set-up meets. -/
structure Env where
  connection : Connection
  devPort : DevPort
  rootPort : RootPort
  client : SpdmClient
  spdm : SpdmConnection
  portIndex : Option Bool

/-- The branch on the connection. -/
def initUpperPort (env : Env) : Fallible World :=
  match env.connection with
  | .direct _ | .switch _ => initRootPort env.rootPort
  | .p2p .. => .check none
  | .other => .check (some false)

/-- `common_test_group_setup`. -/
def commonTestGroupSetup (env : Env) : Fallible World :=
  .andThen (scanDevices env.connection) <|
  .andThen (initDevPort env.devPort) <|
  .andThen (initUpperPort env) <|
  .andThen (spdmClientInit env.client) <|
  .andThen (spdmConnect env.spdm) <|
  .andThen storeSpdm <|
  .check env.portIndex

/-- Whether the registers of each port can be reset, and whether the session ends. -/
structure Closing where
  stopped : Bool
  devReset : Bool
  rootReset : Bool

/-- `close_dev_port`. -/
def closeDevPort (reset : Bool) (w : World) : Option World :=
  if reset then closeConfigSpaceIfOpen .lower w else none

/-- `close_root_port`. -/
def closeRootPort (reset : Bool) (w : World) : Option World :=
  if reset then closeConfigSpaceIfOpen .upper (closeKcbar w) else none

/-- `common_test_group_teardown`. -/
def commonTestGroupTeardown (env : Env) (closing : Closing) (w : World) : Option World :=
  (closeDevPort closing.devReset (stopSpdm closing.stopped w)).bind fun w =>
    match env.connection with
    | .direct _ | .switch _ => closeRootPort closing.rootReset w
    | .p2p .. => none
    | .other => some w

end TeeIoValidator.GroupSetup.Pcie
