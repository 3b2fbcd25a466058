import TeeIoValidator.Library.Table
import TeeIoValidator.Model.IniConfig.Values

/-! The records of a test configuration, and how they are looked up. -/

namespace TeeIoValidator.IniConfig

/-! ## Limits -/

def maxSupportedPortsNum : ℕ := 16
def maxSupportedSwitchesNum : ℕ := 16
def maxSupportedSwitchPortsNum : ℕ := 16
def maxTopologyNum : ℕ := 16
def maxConfigurationNum : ℕ := 32
def maxTestSuiteNum : ℕ := 32
def maxTestCaseNum : ℕ := 32
def maxCaseId : ℕ := 32
def maxLineLength : ℕ := 512
def maxNameLength : ℕ := 128
def maxStreamId : ℕ := 255
def invalidScanSegment : ℕ := 0xFFFF
def invalidScanBus : ℕ := 0xFF

/-! ## Kinds -/

inductive TeeioTestCategory where
  | pcieIde
  | cxlIde
  | cxlTsp
  | tdisp
  | spdm
  deriving Repr, DecidableEq

inductive IdePortType where
  | rootport
  | endpoint
  | switch
  deriving Repr, DecidableEq

inductive IdeTestConnectType where
  | direct
  | switch
  | p2p
  deriving Repr, DecidableEq

inductive IdeTestTopologyType where
  | selIde
  | linkIde
  | selLinkIde
  deriving Repr, DecidableEq

/-- What a name stands for in a table of names. -/
def ofName {α : Type} (names : List (String × α)) (name : List UInt8) : Option α :=
  (names.find? fun entry => text entry.1 == name).map Prod.snd

/-- `get_test_category_from_name`, and `is_valid_test_category` when there is a result. -/
def getTestCategoryFromName : List UInt8 → Option TeeioTestCategory :=
  ofName [("pcie-ide", .pcieIde), ("cxl-ide", .cxlIde), ("cxl-tsp", .cxlTsp), ("tdisp", .tdisp),
    ("spdm", .spdm)]

def getTopologyTypeFromName : List UInt8 → Option IdeTestTopologyType :=
  ofName [("selective_ide", .selIde), ("link_ide", .linkIde),
    ("selective_and_link_ide", .selLinkIde)]

def getConnectionFromName : List UInt8 → Option IdeTestConnectType :=
  ofName [("direct", .direct), ("switch", .switch), ("peer2peer", .p2p)]

/-! ## Records -/

structure IdePort where
  id : ℕ := 0
  enabled : Bool := false
  portType : IdePortType := .rootport
  portName : List UInt8 := []
  bdf : List UInt8 := []
  segment : ℕ := 0
  bus : ℕ := 0
  device : ℕ := 0
  function : ℕ := 0
  deriving Repr, DecidableEq

structure IdeSwitch where
  id : ℕ := 0
  enabled : Bool := false
  name : List UInt8 := []
  ports : Table IdePort maxSupportedSwitchPortsNum := ⟨0, fun _ => {}⟩

structure IdeSwitchInternalConnection where
  switchId : ℕ
  upsPort : ℕ
  dpsPort : ℕ
  deriving Repr, DecidableEq

/-- A list of connections that is empty stands for the null pointer. -/
structure IdeTestTopology where
  id : ℕ := 0
  enabled : Bool := false
  type : IdeTestTopologyType := .selIde
  connection : IdeTestConnectType := .direct
  rootPort : ℕ := 0
  upperPort : ℕ := 0
  lowerPort : ℕ := 0
  swConn1 : List IdeSwitchInternalConnection := []
  swConn2 : List IdeSwitchInternalConnection := []
  segment : ℕ := 0
  bus : ℕ := 0
  streamId : ℕ := 0
  deriving Repr, DecidableEq

structure IdeTestConfiguration where
  id : ℕ := 0
  enabled : Bool := false
  type : IdeTestTopologyType := .selIde
  testCategory : TeeioTestCategory := .pcieIde
  bitMap : ℕ := 0
  cxlIdeMode : ℕ := 0
  deriving Repr, DecidableEq

/-- `testCases` has the case ids of each class. -/
structure IdeTestSuite where
  id : ℕ := 0
  enabled : Bool := false
  type : IdeTestTopologyType := .selIde
  topologyId : ℕ := 0
  configurationId : ℕ := 0
  testCategory : TeeioTestCategory := .pcieIde
  testCases : Fin maxTestCaseNum → List ℕ := fun _ => []

inductive DebugLevel where
  | error
  | warn
  | info
  | verbose
  deriving Repr, DecidableEq

structure IdeTestMainConfig where
  pciLog : Bool := false
  debugLevel : DebugLevel := .error
  libspdmLog : Bool := false
  doeLog : Bool := false
  pcapEnable : Bool := false
  spdmVersion : ℕ := 0
  deriving Repr, DecidableEq

/-- All zero at the start. `tdispFunctionId` is the global identifier that the topologies set. -/
structure IdeTestConfig where
  mainConfig : IdeTestMainConfig := {}
  portsConfig : Table IdePort maxSupportedPortsNum := ⟨0, fun _ => {}⟩
  switchesConfig : Table IdeSwitch maxSupportedSwitchesNum := ⟨0, fun _ => {}⟩
  topologies : Table IdeTestTopology maxTopologyNum := ⟨0, fun _ => {}⟩
  configurations : Table IdeTestConfiguration maxConfigurationNum := ⟨0, fun _ => {}⟩
  testSuites : Table IdeTestSuite maxTestSuiteNum := ⟨0, fun _ => {}⟩
  tdispFunctionId : ℕ := 0

/-- The globals of the command line, and what lies outside of the repository: the string that is
read behind the only configuration name of the SPDM tests, if any, and the ids of the cases in
each group of the SPDM responder tests. -/
structure Globals where
  scanSegment : ℕ := invalidScanSegment
  scanBus : ℕ := invalidScanBus
  runTestSuite : Bool := true
  spdmNameBeyond : Option (List UInt8) := none
  spdmCaseIds : ℕ → List ℕ := fun _ => [1]

/-! ## Lookup -/

section

variable (testConfig : IdeTestConfig)

def getConfigurationById (id : ℕ) : Option IdeTestConfiguration :=
  if id = 0 then none
  else (testConfig.configurations.first? fun c => c.id == id && c.enabled).map
    testConfig.configurations.records

def getTopologyById (id : ℕ) : Option IdeTestTopology :=
  if id = 0 then none
  else (testConfig.topologies.first? fun t => t.id == id && t.enabled).map
    testConfig.topologies.records

def getPortById (id : ℕ) : Option IdePort :=
  if id = 0 then none
  else (testConfig.portsConfig.firstInUse? fun p => p.id == id && p.enabled).map
    testConfig.portsConfig.records

def getPortByName (name : List UInt8) : Option IdePort :=
  (testConfig.portsConfig.firstInUse? fun p => p.portName == name && p.enabled).map
    testConfig.portsConfig.records

def getSwitchById (id : ℕ) : Option IdeSwitch :=
  if id = 0 then none
  else (testConfig.switchesConfig.firstInUse? fun s => s.id == id && s.enabled).map
    testConfig.switchesConfig.records

def getSwitchByName (name : List UInt8) : Option IdeSwitch :=
  (testConfig.switchesConfig.firstInUse? fun s => s.name == name && s.enabled).map
    testConfig.switchesConfig.records

end

def getPortFromSwitchById (sw : IdeSwitch) (id : ℕ) : Option IdePort :=
  if id = 0 then none
  else (sw.ports.firstInUse? fun p => p.enabled && p.id == id).map sw.ports.records

def getPortFromSwitchByName (sw : IdeSwitch) (name : List UInt8) : Option IdePort :=
  (sw.ports.firstInUse? fun p => p.enabled && p.portName == name).map sw.ports.records

end TeeIoValidator.IniConfig
