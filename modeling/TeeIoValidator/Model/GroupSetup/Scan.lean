import TeeIoValidator.Model.GroupSetup.Process

/-! The scan of the devices of a topology. -/

namespace TeeIoValidator.GroupSetup

/-- What is read of a configuration space's header. -/
structure Header where
  headerType : BitVec 8
  baseClass : BitVec 8
  subClass : BitVec 8
  primaryBus : BitVec 8
  secondaryBus : BitVec 8
  subordinateBus : BitVec 8

/-- A configuration space that is scanned: the size of its file, if it can be opened. -/
structure ScannedPort where
  size : Option ℕ
  header : Header

/-- `PCI_HEADER_LAYOUT_MASK`. -/
def headerLayout (header : Header) : BitVec 8 := header.headerType &&& 0x7F

/-- The checks of `scan_rp_switch_internal_port_at_bus`. -/
def acceptsBridge (bus : BitVec 8) (header : Header) : Option Bool :=
  if headerLayout header ≠ 1 then some false
  else if header.baseClass ≠ 6 ∧ header.subClass ≠ 4 then some false
  else if header.primaryBus ≠ bus then some false
  else if header.secondaryBus ≤ header.subordinateBus then some true
  else none

/-- The steps of a scan of one port: its configuration space is closed again. -/
def scanPort (accepts : Header → Option Bool) (port : ScannedPort) : Fallible World := fun w =>
  match openConfigurationSpace port.size w.process with
  | (none, process) => some (false, { w with process })
  | (some fd, process) =>
    (accepts port.header).map fun res => (res, { w with process := process.close fd })

/-- `scan_rp_switch_internal_port_at_bus`. -/
def scanRpSwitchInternalPortAtBus (bus : BitVec 8) : ScannedPort → Fallible World :=
  scanPort (acceptsBridge bus)

/-- `scan_endpoint_at_bus`, which asserts its result. -/
def scanEndpointAtBus (port : ScannedPort) : Fallible World := fun w =>
  match scanPort (fun header => some (headerLayout header == 0)) port w with
  | some (true, w) => some (true, w)
  | _ => none

/-- `scan_devices_at_bus`; the bridges are the root port and the two ports of each switch. -/
def scanDevicesAtBus (endpoint : ScannedPort) : List ScannedPort → BitVec 8 → Fallible World
  | [], _ => scanEndpointAtBus endpoint
  | bridge :: bridges, bus =>
    (scanRpSwitchInternalPortAtBus bus bridge).andThen
      (scanDevicesAtBus endpoint bridges bridge.header.secondaryBus)

/-- The arguments of a call of `scan_devices_at_bus`. -/
structure Scan where
  bus : BitVec 8
  rootPort : ScannedPort
  switchPorts : List ScannedPort
  endpoint : ScannedPort

def Scan.run (scan : Scan) : Fallible World :=
  scanDevicesAtBus scan.endpoint (scan.rootPort :: scan.switchPorts) scan.bus

end TeeIoValidator.GroupSetup
