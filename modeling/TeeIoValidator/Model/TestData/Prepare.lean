import TeeIoValidator.Library.Disposal
import TeeIoValidator.Model.IniConfig.Prepare
import TeeIoValidator.Model.Suite

/-! The blocks of the test data on the heap: what `prepare_tests_data` allocates and links.

A block holds the pointers that own others, and the data that are read from it again. -/

namespace TeeIoValidator.TestData

open Ownership IniConfig

inductive Kind where
  | runTestSuite
  | suiteContext
  | runTestConfig
  | configContext
  | runTestConfigItem
  | runTestGroup
  | groupContext
  | switchInternalConnContext
  | runTestCase
  | caseContext
  | configResult
  | groupResult
  | caseResult
  | assertionResult
  | configItemResult
  deriving Repr, DecidableEq

inductive Field where
  | next
  | testContext
  | testGroup
  | testConfig
  | result
  | configItem
  | swConn1
  | swConn2
  | testCase
  | groupResult
  | caseResult
  | assertionResult
  | configItemResult
  deriving Repr, DecidableEq

/-- What the field of a structure points to, if the structure has it. -/
def owns : Kind → Field → Option Kind
  | .runTestSuite, .next => some .runTestSuite
  | .runTestSuite, .testContext => some .suiteContext
  | .runTestSuite, .testGroup => some .runTestGroup
  | .runTestSuite, .testConfig => some .runTestConfig
  | .suiteContext, .result => some .configResult
  | .runTestConfig, .next => some .runTestConfig
  | .runTestConfig, .testContext => some .configContext
  | .runTestConfig, .configItem => some .runTestConfigItem
  | .runTestConfigItem, .next => some .runTestConfigItem
  | .runTestGroup, .next => some .runTestGroup
  | .runTestGroup, .testContext => some .groupContext
  | .runTestGroup, .testCase => some .runTestCase
  | .groupContext, .swConn1 => some .switchInternalConnContext
  | .groupContext, .swConn2 => some .switchInternalConnContext
  | .switchInternalConnContext, .next => some .switchInternalConnContext
  | .runTestCase, .next => some .runTestCase
  | .runTestCase, .testContext => some .caseContext
  | .configResult, .next => some .configResult
  | .configResult, .groupResult => some .groupResult
  | .groupResult, .next => some .groupResult
  | .groupResult, .caseResult => some .caseResult
  | .caseResult, .next => some .caseResult
  | .caseResult, .assertionResult => some .assertionResult
  | .caseResult, .configItemResult => some .configItemResult
  | .assertionResult, .next => some .assertionResult
  | .configItemResult, .next => some .configItemResult
  | _, _ => none

/-- `class_id` and `case_id`, `config_item_id` and `action`, where a structure has them. -/
structure Data where
  classId : ℤ
  caseId : ℤ
  configItemId : ℤ
  action : Runner.Action
  deriving Repr, DecidableEq

/-- After `memset`. -/
def Data.zero : Data := ⟨0, 0, 0, .run⟩

/-- The results that are filled, and the state of the devices and of the tests' own data. -/
structure Globals (ω : Type) where
  currentConfigResult : Option ℕ
  currentGroupResult : Option ℕ
  currentCaseResult : Option ℕ
  world : ω

abbrev TestHeap := Heap Kind Field Data

abbrev HeapM (ω : Type) := Prog Kind Field Data (Globals ω)

variable {ω α : Type}

/-- How a check of the configuration ends that does not succeed. -/
def checkFault : IniConfig.Fault → Ownership.Fault
  | .assertion => .stopped
  | .crash => .null
  | .wild => .dangling
  | .overrun => .mistyped

def check (c : IniConfig.Checked α) : HeapM ω α :=
  match c with
  | .ok a => pure a
  | .error fault => fail (checkFault fault)

/-- The program is left out when the condition does not hold. -/
def onlyIf (c : Bool) (m : HeapM ω Unit) : HeapM ω Unit := if c then m else pure ()

section Prepare

variable (globals : IniConfig.Globals) (testConfig : IdeTestConfig)

/-! ## A suite and its configuration -/

def allocRunTestSuite : HeapM ω ℕ := do
  let rts ← malloc .runTestSuite .zero
  let context ← malloc .suiteContext .zero
  setLink .runTestSuite rts .testContext (some context)
  pure rts

def appendConfigItem (rtc configItem : ℕ) : HeapM ω Unit :=
  appendLink .runTestConfig rtc .configItem .runTestConfigItem .next configItem

def allocRunTestConfigItem (rtc configType : ℕ) (topType : IdeTestTopologyType)
    (testCategory : TeeioTestCategory) : HeapM ω Unit := do
  let _ ← check (IniConfig.allocRunTestConfigItem configType topType testCategory)
  let configItem ← malloc .runTestConfigItem .zero
  appendConfigItem rtc configItem

/-- The loop over the bits; `offset` is the length of the name so far. -/
def allocRunTestConfigItems (rtc configBits : ℕ) (topType : IdeTestTopologyType)
    (testCategory : TeeioTestCategory) : List ℕ → ℕ → HeapM ω ℕ
  | [], offset => pure offset
  | i :: bits, offset =>
    if configBits.testBit i then do
      allocRunTestConfigItem rtc i topType testCategory
      match getTestConfigurationName globals i testCategory with
      | none => fail .null
      | some name =>
        if offset + name.length + 1 < maxNameLength then
          allocRunTestConfigItems rtc configBits topType testCategory bits
            (offset + name.length + 1)
        else fail .stopped
    else allocRunTestConfigItems rtc configBits topType testCategory bits offset

/-- The block of the configuration with its context. -/
def allocConfigBlocks (rts : ℕ) : HeapM ω ℕ := do
  let runTestConfig ← malloc .runTestConfig .zero
  let context ← malloc .configContext .zero
  let suiteContext ← getLink .runTestSuite (some rts) .testContext
  setLink .runTestConfig runTestConfig .testContext (some context)
  let _ ← deref .suiteContext suiteContext
  pure runTestConfig

def allocRunTestConfig (rts : ℕ) (suite : IdeTestSuite) : HeapM ω Unit :=
  match getConfigurationById testConfig suite.configurationId,
    getTopologyById testConfig suite.topologyId with
  | some configuration, some top =>
    if configuration.enabled && configuration.bitMap != 0 && top.enabled &&
        top.type == configuration.type then do
      let runTestConfig ← allocConfigBlocks rts
      let bitmask ← check (getTestConfigurationBitmask configuration.type suite.testCategory)
      let offset ← allocRunTestConfigItems globals runTestConfig
        (configuration.bitMap &&& bitmask) top.type suite.testCategory (List.range 32) 0
      if offset > 1 then
        appendLink .runTestSuite rts .testConfig .runTestConfig .next runTestConfig
      else fail .stopped
    else fail .stopped
  | _, _ => fail .stopped

/-! ## Groups and cases -/

/-- The loop over the connections of a path; `header` is the list so far. -/
def allocSwitchInternalConnContexts :
    List IdeSwitchInternalConnection → Option ℕ → HeapM ω (Option ℕ)
  | [], header => pure header
  | conn :: conns, header => do
    let connContext ← malloc .switchInternalConnContext .zero
    if switchConnResolves testConfig conn then
      let header ← appendHeader .switchInternalConnContext .next header connContext
      allocSwitchInternalConnContexts conns header
    else fail .stopped

def allocSwitchInternalConnContext (conns : List IdeSwitchInternalConnection) :
    HeapM ω (Option ℕ) :=
  allocSwitchInternalConnContexts testConfig conns none

/-- The list of a path goes to the context of the group. -/
def allocPathConns (context : ℕ) (path : Field) (conns : List IdeSwitchInternalConnection) :
    HeapM ω Unit := do
  let header ← allocSwitchInternalConnContext testConfig conns
  setLink .groupContext context path header

def allocGroupConns (context : ℕ) (top : IdeTestTopology) : HeapM ω Unit :=
  match top.connection with
  | .direct => pure ()
  | .switch => allocPathConns testConfig context .swConn1 top.swConn1
  | .p2p => do
    allocPathConns testConfig context .swConn1 top.swConn1
    allocPathConns testConfig context .swConn2 top.swConn2

def allocRunTestGroup (testCategory : TeeioTestCategory) (rts : ℕ) (top : IdeTestTopology) :
    HeapM ω ℕ := do
  let runTestGroup ← malloc .runTestGroup .zero
  check (IniConfig.allocRunTestGroup testConfig testCategory top)
  let context ← malloc .groupContext .zero
  let _ ← getLink .runTestSuite (some rts) .testContext
  allocGroupConns testConfig context top
  setLink .runTestGroup runTestGroup .testContext (some context)
  appendLink .runTestSuite rts .testGroup .runTestGroup .next runTestGroup
  pure runTestGroup

def allocRunTestCase (testCategory : TeeioTestCategory) (runTestGroup caseClass caseId : ℕ) :
    HeapM ω Unit := do
  let runTestCase ← malloc .runTestCase ⟨caseClass, caseId, 0, .run⟩
  let _ ← check (IniConfig.allocRunTestCase globals testCategory caseClass caseId)
  let context ← malloc .caseContext .zero
  let _ ← getLink .runTestGroup (some runTestGroup) .testContext
  setLink .runTestCase runTestCase .testContext (some context)
  appendLink .runTestGroup runTestGroup .testCase .runTestCase .next runTestCase

/-- The inner loop of `alloc_run_test_cases`. -/
def allocRunTestCaseList (testCategory : TeeioTestCategory) (runTestGroup caseClass : ℕ) :
    List ℕ → HeapM ω Unit
  | [] => pure ()
  | caseId :: casesId => do
    allocRunTestCase globals testCategory runTestGroup caseClass caseId
    allocRunTestCaseList testCategory runTestGroup caseClass casesId

def allocRunTestCases (rts : ℕ) (suite : IdeTestSuite) (top : IdeTestTopology) :
    List (Fin maxTestCaseNum) → HeapM ω Unit
  | [] => pure ()
  | i :: classes =>
    if suite.testCases i = [] then allocRunTestCases rts suite top classes
    else do
      let runTestGroup ← allocRunTestGroup testConfig suite.testCategory rts top
      allocRunTestCaseList globals suite.testCategory runTestGroup i.val (suite.testCases i)
      allocRunTestCases rts suite top classes

/-! ## `prepare_tests_data` -/

/-- A suite that is not enabled, or whose topology is not, is left out. -/
def prepareSuite (suite : IdeTestSuite) (header : Option ℕ) : HeapM ω (Option ℕ) :=
  if suite.id = 0 ∨ suite.enabled = false then pure header
  else
    match getTopologyById testConfig suite.topologyId with
    | none => pure header
    | some top => do
      let runTestSuite ← allocRunTestSuite
      allocRunTestConfig globals testConfig runTestSuite suite
      allocRunTestCases globals testConfig runTestSuite suite top (List.finRange maxTestCaseNum)
      appendHeader .runTestSuite .next header runTestSuite

def prepareSuites : List IdeTestSuite → Option ℕ → HeapM ω (Option ℕ)
  | [], header => pure header
  | suite :: suites, header => do
    let header ← prepareSuite globals testConfig suite header
    prepareSuites suites header

def prepareTestsData : HeapM ω (Option ℕ) :=
  prepareSuites globals testConfig
    ((List.finRange maxTestSuiteNum).map testConfig.testSuites.records) none

end Prepare

end TeeIoValidator.TestData
