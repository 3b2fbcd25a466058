import TeeIoValidator.Model.IniConfig.Topology

/-! The parser of the sections `TestSuite_x`, and the parser of a whole file. -/

namespace TeeIoValidator.IniConfig

open IniFile

variable (globals : Globals) (context : IniContext) (testConfig : IdeTestConfig)

/-! ## Test suites -/

/-- The ids that an entry lists; none when it lists too many or a larger one than `maxId`. The
local array of the caller has room for `MAX_CASE_ID` of them. -/
def parseTestSuiteCaseEntry (sectionName entryName : List UInt8) (casesCnt maxId : ℕ) :
    Checked (Option (List ℕ)) := do
  let value ← getString context sectionName entryName
  match value.bind getUint32Array with
  | none => .ok none
  | some casesId =>
    if casesId.length > casesCnt then .ok none
    else if casesId.length > maxCaseId then .error .wild
    else if casesId.any (maxId < ·) then .ok none
    else .ok (some casesId)

/-- The case ids of a class. A class whose names are no numbers is skipped, and so is an entry that
is missing or wrong. -/
def parseTestCases (sectionName : List UInt8) (testCase : IdeTestCaseName) : Checked (List ℕ) :=
  match getUint32Array testCase.names with
  | none => .ok []
  | some ids => do
    let casesId ← parseTestSuiteCaseEntry context sectionName testCase.className ids.length
      (getMaxFromUint32Array ids)
    .ok (casesId.getD [])

/-- The loop over the classes. -/
def parseTestClasses (sectionName : List UInt8) : List IdeTestCaseName → Checked (List (List ℕ))
  | [] => .ok []
  | testCase :: testCases => do
    let casesId ← parseTestCases context sectionName testCase
    let rest ← parseTestClasses sectionName testCases
    .ok (casesId :: rest)

/-- The id of a topology that is enabled and has the type. -/
def parseSuiteTopology (sectionName : List UInt8) (type : IdeTestTopologyType) :
    Checked (Option ℕ) := do
  let data32 ← getDecimalUint32 context sectionName (text "topology")
  .ok (data32.filter fun id => (getTopologyById testConfig id).any fun top => top.type == type)

/-- The id of a configuration that is enabled and has the type and the category. -/
def parseSuiteConfiguration (sectionName : List UInt8) (type : IdeTestTopologyType)
    (testCategory : TeeioTestCategory) : Checked (Option ℕ) := do
  let data32 ← getDecimalUint32 context sectionName (text "configuration")
  .ok (data32.filter fun id => (getConfigurationById testConfig id).any fun config =>
    config.type == type && config.testCategory == testCategory)

/-- The suite that a section describes; none when it is rejected. -/
def parseTestSuite (sectionName : List UInt8) (index : ℕ) : Checked (Option IdeTestSuite) := do
  let enabled ← parseFlag context sectionName (text "enabled") true
  let testCategory ← parseCategory context sectionName
  match testCategory with
  | none => .ok none
  | some testCategory => do
    let type ← parseType context sectionName testCategory (.ok none)
    match type with
    | none => .ok none
    | some type => do
      let topologyId ← parseSuiteTopology context testConfig sectionName type
      match topologyId with
      | none => .ok none
      | some topologyId => do
        let configurationId ← parseSuiteConfiguration context testConfig sectionName type
          testCategory
        match configurationId with
        | none => .ok none
        | some configurationId => do
          let testCases ← parseTestClasses context sectionName
            (testCaseNames globals testCategory)
          .ok (some { id := index, enabled, type, topologyId, configurationId, testCategory,
                      testCases := fun i => testCases[i.val]?.getD [] })

def testSuiteSectionName (index : ℕ) : List UInt8 := text "TestSuite_" ++ decimalString index

/-- A suite is stored at the position of its index. -/
def storeTestSuite (suite : IdeTestSuite) (index : ℕ) : Checked (Bool × IdeTestConfig) :=
  if h : index - 1 < maxTestSuiteNum then
    .ok (true, { testConfig with
      testSuites := { testConfig.testSuites.put ⟨index - 1, h⟩ suite with
        cnt := testConfig.testSuites.cnt + 1 } })
  else .error .overrun

def parseTestSuiteSection (index : ℕ) : Checked (Bool × IdeTestConfig) :=
  inSection context (testSuiteSectionName index) index (false, testConfig) do
    let suite ← parseTestSuite globals context testConfig (testSuiteSectionName index) index
    match suite with
    | none => .ok (false, testConfig)
    | some suite => storeTestSuite testConfig suite index

/-! ## Files -/

/-- A section parser as the body of a loop, which takes no notice of whether it is accepted. -/
def sectionStep (parse : IdeTestConfig → ℕ → Checked (Bool × IdeTestConfig)) (k : ℕ)
    (testConfig : IdeTestConfig) : Checked IdeTestConfig := do
  let result ← parse testConfig (k + 1)
  .ok result.2

def parsePorts : Checked IdeTestConfig := do
  let testConfig ← parsePortsSection context testConfig .rootport
  parsePortsSection context testConfig .endpoint

def parseSwitches : Checked IdeTestConfig :=
  Checked.upTo (sectionStep (parseSwitchesSection context)) maxSupportedSwitchesNum testConfig

def parseTopologies : Checked IdeTestConfig :=
  Checked.upTo (sectionStep (parseTopologySection globals context)) maxTopologyNum testConfig

def parseConfigurations : Checked IdeTestConfig :=
  Checked.upTo (sectionStep (parseConfigurationSection globals context)) maxConfigurationNum
    testConfig

def parseTestSuites : Checked IdeTestConfig :=
  Checked.upTo (sectionStep (parseTestSuiteSection globals context)) maxTestSuiteNum testConfig

/-- The suites, unless a single case is selected on the command line. -/
def parseSuitesIfRun : Checked (Bool × IdeTestConfig) :=
  if globals.runTestSuite then do
    let testConfig ← parseTestSuites globals context testConfig
    .ok (testConfig.testSuites.cnt != 0, testConfig)
  else .ok (true, testConfig)

/-- From the ports on. The dump at the end only prints. -/
def parseSections : Checked (Bool × IdeTestConfig) := do
  let testConfig ← parsePorts context testConfig
  let testConfig ← parseSwitches context testConfig
  let testConfig ← parseTopologies globals context testConfig
  if testConfig.topologies.cnt = 0 then .ok (false, testConfig)
  else do
    let testConfig ← parseConfigurations globals context testConfig
    if testConfig.configurations.cnt = 0 then .ok (false, testConfig)
    else parseSuitesIfRun globals context testConfig

/-- `parse_ide_test_init` from the opened file on, into a configuration that is all zero. -/
def parseIdeTestInit (context : Option IniContext) : Checked (Bool × IdeTestConfig) :=
  match context with
  | none => .error .assertion
  | some context => do
    let (valid, testConfig) ← parseMainSection context {}
    if valid then parseSections globals context testConfig else .ok (false, testConfig)

end TeeIoValidator.IniConfig
