import TeeIoValidator.Model.IniConfig.Parse

/-! What is made of a configuration: a case selected on the command line, and the data of the runs
of the enabled suites. -/

namespace TeeIoValidator.IniConfig

open IniFile

variable (globals : Globals) (testConfig : IdeTestConfig)

/-! ## Selection of a case -/

/-- A class and a name, such as `Query.1`, with the position of the name. -/
def getTestCaseFromString (testCaseName : List UInt8) (testCategory : TeeioTestCategory) :
    Option (IdeTestCaseName × ℕ) := do
  let (className, name) ← splitAtFirst '.'.toUInt8 (cString testCaseName)
  let testCase ← (testCaseNames globals testCategory).find? fun c => c.className == className
  let index ← (testCase.names.splitOnP (· == comma)).findIdx? fun n => n == name
  some (testCase, index)

def isValidTestCase (testCaseName : List UInt8) (testCategory : TeeioTestCategory) : Bool :=
  (getTestCaseFromString globals testCaseName testCategory).isSome

/-- The records below the count are searched, whether they are enabled or not. -/
def getTestCategoryFromConfiguration (configId : ℕ) : Option TeeioTestCategory :=
  (testConfig.configurations.firstInUse? fun c => c.id == configId).map fun i =>
    (testConfig.configurations.records i).testCategory

/-- The number of classes that are cleared, whatever the category. -/
def ideCommonTestCaseNum : ℕ := 6

/-- Clearing the suites that are counted. -/
def clearTestSuite (suite : IdeTestSuite) : IdeTestSuite :=
  { suite with
    enabled := false, configurationId := 0, id := 0, type := .selIde,
    testCases := fun j => if j.val < ideCommonTestCaseNum then [] else suite.testCases j }

def clearTestSuites : Table IdeTestSuite maxTestSuiteNum where
  cnt := 1
  records i :=
    if i.val < testConfig.testSuites.cnt then clearTestSuite (testConfig.testSuites.records i)
    else testConfig.testSuites.records i

/-- The first suite with one case of one class. -/
def selectedSuite (suite : IdeTestSuite) (topId configId : ℕ) (top : IdeTestTopology)
    (testCategory : TeeioTestCategory) (classId index : ℕ) : IdeTestSuite :=
  { suite with
    id := 1, enabled := true, type := top.type, topologyId := topId, configurationId := configId,
    testCategory,
    testCases := fun j => if j.val = classId then [index + 1] else suite.testCases j }

def firstSuite : Fin maxTestSuiteNum := ⟨0, by decide⟩

/-- None when the ids or the case are not valid. -/
def updateTestConfigWithGivenTopConfigId (topId configId : ℕ) (testCase : List UInt8)
    (testCategory : TeeioTestCategory) : Option IdeTestConfig := do
  let _ ← getConfigurationById testConfig configId
  let top ← getTopologyById testConfig topId
  let (tcn, index) ← getTestCaseFromString globals testCase testCategory
  let suites := clearTestSuites testConfig
  some { testConfig with
    testSuites := suites.put firstSuite (selectedSuite (suites.records firstSuite) topId configId
      top testCategory tcn.classId index) }

/-- A topology id, a configuration id and a case, in the ranges that the command line allows. -/
structure Selection where
  topId : ℕ
  configId : ℕ
  testCase : List UInt8
  topId_range : 0 < topId ∧ topId ≤ maxTopologyNum
  configId_range : 0 < configId ∧ configId ≤ maxConfigurationNum

/-- What `main` makes of a selection; none when it leaves with an error. -/
def selectTestCase (selection : Selection) : Option IdeTestConfig := do
  let testCategory ← getTestCategoryFromConfiguration testConfig selection.configId
  if isValidTestCase globals selection.testCase testCategory then
    updateTestConfigWithGivenTopConfigId globals testConfig selection.topId selection.configId
      selection.testCase testCategory
  else none

/-! ## Configurations of a run -/

structure IdeRunTestConfigItem where
  type : ℕ
  testCategory : TeeioTestCategory
  funcs : IdeTestConfigFuncs
  deriving Repr, DecidableEq

def allocRunTestConfigItem (configType : ℕ) (topType : IdeTestTopologyType)
    (testCategory : TeeioTestCategory) : Checked IdeRunTestConfigItem :=
  if configType < configurationTypeNum then do
    let funcs ← getTestConfigurationFuncs topType configType testCategory
    .ok ⟨configType, testCategory, funcs⟩
  else .error .assertion

/-- The loop over the bits: the items so far and the length of their names with a plus behind
each. -/
def allocRunTestConfigItems (configBits : ℕ) (topType : IdeTestTopologyType)
    (testCategory : TeeioTestCategory) :
    List ℕ → List IdeRunTestConfigItem × ℕ → Checked (List IdeRunTestConfigItem × ℕ)
  | [], state => .ok state
  | i :: bits, (items, offset) =>
    if configBits.testBit i then do
      let item ← allocRunTestConfigItem i topType testCategory
      match getTestConfigurationName globals i testCategory with
      | none => .error .crash
      | some name =>
        if offset + name.length + 1 < maxNameLength then
          allocRunTestConfigItems configBits topType testCategory bits
            (items ++ [item], offset + name.length + 1)
        else .error .assertion
    else allocRunTestConfigItems configBits topType testCategory bits (items, offset)

/-- The items of a suite's configuration. -/
def allocRunTestConfig (suite : IdeTestSuite) : Checked (List IdeRunTestConfigItem) :=
  match getConfigurationById testConfig suite.configurationId,
    getTopologyById testConfig suite.topologyId with
  | some configuration, some top =>
    if configuration.enabled && configuration.bitMap != 0 && top.enabled &&
        top.type == configuration.type then do
      let bitmask ← getTestConfigurationBitmask configuration.type suite.testCategory
      let (items, offset) ← allocRunTestConfigItems globals (configuration.bitMap &&& bitmask)
        top.type suite.testCategory (List.range 32) ([], 0)
      if offset > 1 then .ok items else .error .assertion
    else .error .assertion
  | _, _ => .error .assertion

/-- `do_run_test_config_support`, `_enable`, `_disable` and `_check`: the functions of one kind are
called until one of them fails. An implemented function answers as the devices make it. -/
def doRunTestConfig (top : IdeTestTopology) (func : TestConfigFunc)
    (answers : IdeRunTestConfigItem → Bool) : List IdeRunTestConfigItem → Checked Bool
  | [] => .error .crash
  | item :: items =>
    match item.funcs.get func with
    | none => .error .assertion
    | some implementation =>
      if implementation.implemented func top.type top.connection then
        if answers item then
          match items with
          | [] => .ok true
          | _ :: _ => doRunTestConfig top func answers items
        else .ok false
      else .error .assertion

/-! ## Cases of a run -/

structure IdeRunTestCase where
  classId : ℕ
  caseId : ℕ
  funcs : IdeTestCaseFuncs
  deriving Repr, DecidableEq

def allocRunTestCase (testCategory : TeeioTestCategory) (caseClass caseId : ℕ) :
    Checked IdeRunTestCase :=
  if caseClass < maxTestCaseNum ∧ caseId ≤ maxCaseId then do
    let funcs ← getTestCaseFuncs globals testCategory caseClass (caseId - 1)
    .ok ⟨caseClass, caseId, funcs⟩
  else .error .assertion

def allocRunTestCaseList (testCategory : TeeioTestCategory) (caseClass : ℕ) :
    List ℕ → Checked (List IdeRunTestCase)
  | [] => .ok []
  | caseId :: casesId => do
    let testCase ← allocRunTestCase globals testCategory caseClass caseId
    let rest ← allocRunTestCaseList testCategory caseClass casesId
    .ok (testCase :: rest)

/-- The ports that a connection names have to be there. -/
def switchConnResolves (conn : IdeSwitchInternalConnection) : Bool :=
  (getSwitchById testConfig conn.switchId).any fun sw =>
    (getPortFromSwitchById sw conn.upsPort).isSome &&
      (getPortFromSwitchById sw conn.dpsPort).isSome

/-- The connections on the paths of a topology. -/
def IdeTestTopology.pathConns (top : IdeTestTopology) : List IdeSwitchInternalConnection :=
  match top.connection with
  | .direct => []
  | .switch => top.swConn1
  | .p2p => top.swConn1 ++ top.swConn2

/-- The assertions on the ports of a group, and on its functions. -/
def allocRunTestGroup (testCategory : TeeioTestCategory) (top : IdeTestTopology) : Checked Unit :=
  if (getPortById testConfig top.rootPort).isSome &&
      (getPortById testConfig top.upperPort).isSome &&
      (getPortById testConfig top.lowerPort).isSome then do
    getTestGroupFuncs top.type testCategory
    if top.pathConns.all (switchConnResolves testConfig) then .ok () else .error .assertion
  else .error .assertion

/-- A group of cases for each class that has some. -/
def allocRunTestCases (suite : IdeTestSuite) (top : IdeTestTopology) :
    List (Fin maxTestCaseNum) → Checked (List IdeRunTestCase)
  | [] => .ok []
  | i :: classes =>
    if suite.testCases i = [] then allocRunTestCases suite top classes
    else do
      allocRunTestGroup testConfig suite.testCategory top
      let testCases ← allocRunTestCaseList globals suite.testCategory i.val (suite.testCases i)
      let rest ← allocRunTestCases suite top classes
      .ok (testCases ++ rest)

structure IdeRunTestSuite where
  items : List IdeRunTestConfigItem
  testCases : List IdeRunTestCase

/-- A suite that is not enabled or whose topology is not is left out. -/
def prepareSuite (suite : IdeTestSuite) : Checked (Option IdeRunTestSuite) :=
  if suite.id = 0 ∨ suite.enabled = false then .ok none
  else
    match getTopologyById testConfig suite.topologyId with
    | none => .ok none
    | some top => do
      let items ← allocRunTestConfig globals testConfig suite
      let testCases ← allocRunTestCases globals testConfig suite top (List.finRange maxTestCaseNum)
      .ok (some ⟨items, testCases⟩)

def prepareSuites : List IdeTestSuite → Checked (List IdeRunTestSuite)
  | [] => .ok []
  | suite :: suites => do
    let runTestSuite ← prepareSuite globals testConfig suite
    let rest ← prepareSuites suites
    .ok (runTestSuite.toList ++ rest)

def prepareTestsData : Checked (List IdeRunTestSuite) :=
  prepareSuites globals testConfig
    ((List.finRange maxTestSuiteNum).map testConfig.testSuites.records)

end TeeIoValidator.IniConfig
