import TeeIoValidator.Model.IniConfig.Records

/-! What each test category registers: its configurations, its functions and its cases. -/

namespace TeeIoValidator.IniConfig

/-! ## Configurations -/

def pcieIdeTestConfigurationName : List (List UInt8) :=
  [text "default", text "switch", text "partial_header_encryption", text "pcrc",
    text "aggregation", text "selective_ide_for_configuration", text "tee_limited_stream",
    text "flit_mode_disable"]

def cxlIdeTestConfigurationName : List (List UInt8) :=
  [text "default", text "pcrc_disable", text "ide_stop", text "cxl_get_key"]

def cxlTspTestConfigurationName : List (List UInt8) := [text "default"]

def tdispTestConfigurationName : List (List UInt8) := [text "default"]

/-- The table has no null pointer at its end, and the check of the index lets one more through. -/
def spdmTestConfigurationName (globals : Globals) : List (List UInt8) :=
  text "default" :: globals.spdmNameBeyond.toList

/-- The names up to the first null pointer. -/
def testConfigurationNames (globals : Globals) : TeeioTestCategory → List (List UInt8)
  | .pcieIde => pcieIdeTestConfigurationName
  | .cxlIde => cxlIdeTestConfigurationName
  | .cxlTsp => cxlTspTestConfigurationName
  | .tdisp => tdispTestConfigurationName
  | .spdm => spdmTestConfigurationName globals

def getTestConfigurationName (globals : Globals) (configurationType : ℕ)
    (testCategory : TeeioTestCategory) : Option (List UInt8) :=
  (testConfigurationNames globals testCategory)[configurationType]?

def getTestConfigurationPrivNames : TeeioTestCategory → List (List UInt8)
  | .cxlIde => [text "cxl_ide_mode"]
  | .pcieIde | .cxlTsp | .tdisp | .spdm => []

def parseCxlIdeModeFromString : List UInt8 → Option ℕ := ofName [("containment", 0), ("skid", 1)]

/-! ## Types of configurations -/

def configurationTypeDefault : ℕ := 0
def configurationTypeSwitch : ℕ := 1
def configurationTypePartialHeaderEnc : ℕ := 2
def configurationTypePcrc : ℕ := 3
def configurationTypeAggreg : ℕ := 4
def configurationTypeSelectiveIdeForConfig : ℕ := 5
def configurationTypeTeeLimitedStream : ℕ := 6
def configurationTypeFlitModeDisable : ℕ := 7
def configurationTypeNum : ℕ := 8

def cxlIdeConfigurationTypeIdeStop : ℕ := 2
def cxlIdeConfigurationTypeNum : ℕ := 4

/-- The sum of `BIT_MASK(n)` for different `n`. -/
def bitMasks (types : List ℕ) : ℕ := types.foldl (fun mask n => mask ||| 1 <<< n) 0

def selectiveIdeConfigurationBitmask : ℕ :=
  bitMasks [configurationTypeDefault, configurationTypeSwitch, configurationTypePartialHeaderEnc,
    configurationTypePcrc, configurationTypeAggreg, configurationTypeSelectiveIdeForConfig,
    configurationTypeTeeLimitedStream, configurationTypeFlitModeDisable]

def linkIdeConfigurationBitmask : ℕ :=
  bitMasks [configurationTypeDefault, configurationTypeSwitch, configurationTypePartialHeaderEnc,
    configurationTypePcrc, configurationTypeAggreg, configurationTypeFlitModeDisable]

def selectiveLinkIdeConfigurationBitmask : ℕ :=
  bitMasks [configurationTypeDefault, configurationTypePartialHeaderEnc, configurationTypePcrc,
    configurationTypeSelectiveIdeForConfig, configurationTypeAggreg,
    configurationTypeFlitModeDisable]

def getTestConfigurationBitmask (topType : IdeTestTopologyType) : TeeioTestCategory → Checked ℕ
  | .pcieIde =>
    match topType with
    | .selIde => .ok selectiveIdeConfigurationBitmask
    | .linkIde => .ok linkIdeConfigurationBitmask
    | .selLinkIde => .ok selectiveLinkIdeConfigurationBitmask
  | .cxlIde => if topType = .linkIde then .ok (bitMasks [0, 1, 2, 3]) else .error .assertion
  | .cxlTsp => .ok 0x1
  | .tdisp => if topType = .selIde then .ok selectiveIdeConfigurationBitmask else .error .assertion
  | .spdm => .ok 1

/-! ## Functions of configurations -/

/-- The configurations that are implemented, by the names of their functions. -/
inductive ConfigImplementation where
  | pcieDefaultCommon
  | pciePcrcSel
  | pcieSelIdeForCfgReq
  | pcieFlitModeDisableSel
  | pciePcrcLink
  | pcieFlitModeDisableLink
  | pcieDefaultSelLink
  | pciePcrcSelLink
  | pcieFlitModeDisableSelLink
  | cxlIdeDefault
  | cxlIdePcrcDisable
  | cxlIdeIdeStop
  | cxlIdeGetKey
  | cxlTspCommon
  | tdispDefaultCommon
  | spdmDefault
  deriving Repr, DecidableEq

/-- The topologies that a function's name says it is for. -/
def ConfigImplementation.serves : ConfigImplementation → IdeTestTopologyType → Bool
  | .pcieDefaultCommon, topType => topType != .selLinkIde
  | .pciePcrcSel, topType => topType == .selIde
  | .pcieSelIdeForCfgReq, topType => topType == .selIde
  | .pcieFlitModeDisableSel, topType => topType == .selIde
  | .pciePcrcLink, topType => topType == .linkIde
  | .pcieFlitModeDisableLink, topType => topType == .linkIde
  | .pcieDefaultSelLink, topType => topType == .selLinkIde
  | .pciePcrcSelLink, topType => topType == .selLinkIde
  | .pcieFlitModeDisableSelLink, topType => topType == .selLinkIde
  | .cxlIdeDefault, topType => topType == .linkIde
  | .cxlIdePcrcDisable, topType => topType == .linkIde
  | .cxlIdeIdeStop, topType => topType == .linkIde
  | .cxlIdeGetKey, topType => topType == .linkIde
  | .cxlTspCommon, _ => true
  | .tdispDefaultCommon, topType => topType == .selIde
  | .spdmDefault, _ => true

inductive TestConfigFunc where
  | support
  | enable
  | disable
  | check
  deriving Repr, DecidableEq

/-- Whether a function runs past its `NOT_IMPLEMENTED`, an assertion that fails, with a topology:
the bodies of some functions consist of it, others come to it for a type or a connection. -/
def ConfigImplementation.implemented :
    ConfigImplementation → TestConfigFunc → IdeTestTopologyType → IdeTestConnectType → Bool
  | .pcieDefaultSelLink, _, _, _ => false
  | .pciePcrcSelLink, _, _, _ => false
  | .pcieFlitModeDisableSelLink, _, _, _ => false
  | .cxlIdeIdeStop, _, _, _ => false
  | .pcieDefaultCommon, .check, topType, _ => topType != .selLinkIde
  | .tdispDefaultCommon, .check, topType, _ => topType != .selLinkIde
  | .pciePcrcSel, .enable, topType, _ => topType != .selLinkIde
  | .pciePcrcSel, .disable, topType, _ => topType != .selLinkIde
  | .pciePcrcLink, .enable, topType, _ => topType != .selLinkIde
  | .pciePcrcLink, .disable, topType, _ => topType != .selLinkIde
  | .pcieSelIdeForCfgReq, _, topType, _ => topType != .selLinkIde
  | .pcieFlitModeDisableSel, .support, _, connection => connection != .p2p
  | .pcieFlitModeDisableLink, .support, _, connection => connection != .p2p
  | _, _, _, _ => true

/-- `ide_test_config_funcs_t`: which configuration's functions the four pointers point to; none
stands for a null pointer. -/
structure IdeTestConfigFuncs where
  enable : Option ConfigImplementation
  disable : Option ConfigImplementation
  support : Option ConfigImplementation
  check : Option ConfigImplementation
  deriving Repr, DecidableEq

def IdeTestConfigFuncs.get (funcs : IdeTestConfigFuncs) :
    TestConfigFunc → Option ConfigImplementation
  | .support => funcs.support
  | .enable => funcs.enable
  | .disable => funcs.disable
  | .check => funcs.check

def ConfigImplementation.funcs (implementation : ConfigImplementation) : IdeTestConfigFuncs :=
  ⟨some implementation, some implementation, some implementation, some implementation⟩

/-- `{NULL, NULL, NULL, NULL}`. -/
def noFuncs : IdeTestConfigFuncs := ⟨none, none, none, none⟩

def pcieIdeConfigFuncs : IdeTestTopologyType → List IdeTestConfigFuncs
  | .selIde =>
    [ConfigImplementation.pcieDefaultCommon.funcs, noFuncs, noFuncs,
      ConfigImplementation.pciePcrcSel.funcs, noFuncs,
      ConfigImplementation.pcieSelIdeForCfgReq.funcs, noFuncs,
      ConfigImplementation.pcieFlitModeDisableSel.funcs]
  | .linkIde =>
    [ConfigImplementation.pcieDefaultCommon.funcs, noFuncs, noFuncs,
      ConfigImplementation.pciePcrcLink.funcs, noFuncs, noFuncs, noFuncs,
      ConfigImplementation.pcieFlitModeDisableLink.funcs]
  | .selLinkIde =>
    [ConfigImplementation.pcieDefaultSelLink.funcs, noFuncs, noFuncs,
      ConfigImplementation.pciePcrcSelLink.funcs, noFuncs, noFuncs, noFuncs,
      ConfigImplementation.pcieFlitModeDisableSelLink.funcs]

def cxlIdeConfigFuncs : List IdeTestConfigFuncs :=
  [ConfigImplementation.cxlIdeDefault.funcs, ConfigImplementation.cxlIdePcrcDisable.funcs,
    ConfigImplementation.cxlIdeIdeStop.funcs, ConfigImplementation.cxlIdeGetKey.funcs]

/-- An element of a table; an index behind its end is asserted not to be. -/
def assertElement {α : Type} (table : List α) (i : ℕ) : Checked α :=
  match table[i]? with
  | some element => .ok element
  | none => .error .assertion

/-- The pointer is never null. The SPDM tests do not check the index. -/
def getTestConfigurationFuncs (topType : IdeTestTopologyType) (configurationType : ℕ) :
    TeeioTestCategory → Checked IdeTestConfigFuncs
  | .pcieIde => assertElement (pcieIdeConfigFuncs topType) configurationType
  | .cxlIde =>
    if topType = .linkIde then assertElement cxlIdeConfigFuncs configurationType
    else .error .assertion
  | .cxlTsp => .ok ConfigImplementation.cxlTspCommon.funcs
  | .tdisp =>
    if topType = .selIde ∧ configurationType = configurationTypeDefault then
      .ok ConfigImplementation.tdispDefaultCommon.funcs
    else .error .assertion
  | .spdm =>
    if configurationType = 0 then .ok ConfigImplementation.spdmDefault.funcs else .error .wild

/-- `get_group_funcs_func`: only whether there are functions for the topology. -/
def getTestGroupFuncs (topType : IdeTestTopologyType) : TeeioTestCategory → Checked Unit
  | .pcieIde | .cxlTsp | .spdm => .ok ()
  | .cxlIde => if topType = .linkIde then .ok () else .error .assertion
  | .tdisp => if topType = .selIde then .ok () else .error .assertion

/-! ## Cases -/

structure IdeTestCaseName where
  className : List UInt8
  names : List UInt8
  classId : ℕ
  deriving Repr, DecidableEq

/-- The functions of a case, by the name that their identifiers have. -/
structure IdeTestCaseFuncs where
  name : List UInt8
  configCheckRequired : Bool
  deriving Repr, DecidableEq

structure TeeioTestCases where
  funcs : List IdeTestCaseFuncs
  cnt : ℕ
  deriving Repr, DecidableEq

/-- A class of cases that are numbered from 1 on. -/
def numberedCases (cnt : ℕ) (configCheckRequired : Bool) : TeeioTestCases :=
  ⟨(List.range cnt).map fun i => ⟨decimalString (i + 1), configCheckRequired⟩, cnt⟩

def pcieIdeTestCaseNames : List IdeTestCaseName :=
  [⟨text "Query", text "1,2", 0⟩, ⟨text "KeyProg", text "1,2,3,4,5,6", 1⟩,
    ⟨text "KSetGo", text "1,2,3,4", 2⟩, ⟨text "KSetStop", text "1,2,3,4", 3⟩,
    ⟨text "SpdmSession", text "1,2", 4⟩,
    ⟨text "Test", text "IdeStream,KeyRefresh,KeyRefreshKs1", 5⟩]

def pcieIdeTestCaseFuncs : List TeeioTestCases :=
  [numberedCases 2 false, numberedCases 6 false, numberedCases 4 true, numberedCases 4 false,
    numberedCases 2 false,
    ⟨[⟨text "IdeStream", false⟩, ⟨text "KeyRefresh", false⟩, ⟨text "KeyRefreshKs1", false⟩], 3⟩]

def cxlIdeTestCaseNames : List IdeTestCaseName :=
  [⟨text "Query", text "1,2", 0⟩, ⟨text "KeyProg", text "1,2,3,4,5,6,7,8,9", 1⟩,
    ⟨text "KSetGo", text "1", 2⟩, ⟨text "KSetStop", text "1", 3⟩, ⟨text "GetKey", text "1", 4⟩,
    ⟨text "Test", text "IdeStream,KeyRefresh", 5⟩]

def cxlIdeTestCaseFuncs : List TeeioTestCases :=
  [numberedCases 2 false, numberedCases 9 false, numberedCases 1 true, numberedCases 1 false,
    numberedCases 1 false, ⟨[⟨text "IdeStream", false⟩, ⟨text "KeyRefresh", false⟩], 2⟩]

def cxlTspTestCaseNames : List IdeTestCaseName :=
  [⟨text "GetVersion", text "1", 0⟩, ⟨text "GetCapabilities", text "1", 1⟩,
    ⟨text "SetConfiguration", text "1", 2⟩, ⟨text "GetConfiguration", text "1", 3⟩,
    ⟨text "GetConfigurationReport", text "1", 4⟩, ⟨text "LockConfiguration", text "1,2", 5⟩]

def cxlTspTestCaseFuncs : List TeeioTestCases :=
  [numberedCases 1 false, numberedCases 1 false, numberedCases 1 false, numberedCases 1 false,
    numberedCases 1 false, numberedCases 2 false]

def tdispTestCaseNames : List IdeTestCaseName :=
  [⟨text "Version", text "1", 0⟩, ⟨text "Capabilities", text "1", 1⟩,
    ⟨text "LockInterface", text "1,2,3,4", 2⟩, ⟨text "DeviceReport", text "1,2,3,4,5", 3⟩,
    ⟨text "DeviceState", text "1,2,3,4", 4⟩, ⟨text "StartInterface", text "1,2,3,4", 5⟩,
    ⟨text "StopInterface", text "1,2,3", 6⟩]

def tdispTestCaseFuncs : List TeeioTestCases :=
  [numberedCases 1 true, numberedCases 1 true, numberedCases 4 true, numberedCases 5 true,
    numberedCases 4 true, numberedCases 4 true, numberedCases 3 true]

def spdmTestClassNames : List (List UInt8) :=
  [text "Version", text "Capabilities", text "Algorithms", text "Digests", text "Certificate",
    text "ChallengeAuth", text "Measurements", text "KeyExchangeRsp", text "FinishRsp",
    text "HeartbeatAck", text "KeyUpdateAck", text "EndSessionAck"]

/-- The ids of a group's cases, separated by commas. -/
def spdmCaseIdsString : List ℕ → List UInt8
  | [] => []
  | [id] => decimalString id
  | id :: ids => decimalString id ++ comma :: spdmCaseIdsString ids

/-- `spdm_test_lib_init_test_cases`: the names of a class are the ids of the responder's cases. -/
def spdmTestCaseNames (globals : Globals) : List IdeTestCaseName :=
  spdmTestClassNames.zipIdx.map fun (className, i) =>
    ⟨className, spdmCaseIdsString (globals.spdmCaseIds i), i⟩

/-- There is a function for each case, and the count is the largest id. -/
def spdmTestCaseFuncs (globals : Globals) : List TeeioTestCases :=
  spdmTestClassNames.zipIdx.map fun (_, i) =>
    ⟨(globals.spdmCaseIds i).map fun id => ⟨decimalString id, false⟩,
      getMaxFromUint32Array (globals.spdmCaseIds i)⟩

/-- The names of the classes up to the null pointer. -/
def testCaseNames (globals : Globals) : TeeioTestCategory → List IdeTestCaseName
  | .pcieIde => pcieIdeTestCaseNames
  | .cxlIde => cxlIdeTestCaseNames
  | .cxlTsp => cxlTspTestCaseNames
  | .tdisp => tdispTestCaseNames
  | .spdm => spdmTestCaseNames globals

def testCaseFuncs (globals : Globals) : TeeioTestCategory → List TeeioTestCases
  | .pcieIde => pcieIdeTestCaseFuncs
  | .cxlIde => cxlIdeTestCaseFuncs
  | .cxlTsp => cxlTspTestCaseFuncs
  | .tdisp => tdispTestCaseFuncs
  | .spdm => spdmTestCaseFuncs globals

/-- An index below 0 passes the assertion and reads in front of the table. -/
def getTestCaseFuncs (globals : Globals) (testCategory : TeeioTestCategory) (caseClass : ℕ)
    (caseId : ℤ) : Checked IdeTestCaseFuncs := do
  let testCases ← assertElement (testCaseFuncs globals testCategory) caseClass
  if caseId < testCases.cnt then
    if caseId < 0 then .error .wild
    else
      match testCases.funcs[caseId.toNat]? with
      | some funcs => .ok funcs
      | none => .error .wild
  else .error .assertion

end TeeIoValidator.IniConfig
