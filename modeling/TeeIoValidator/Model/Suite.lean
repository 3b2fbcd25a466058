import TeeIoValidator.Model.Results
import TeeIoValidator.Model.Stopping

/-! The runner of the test suites. `ω` is the state of the devices and of the tests' own data.
The functions of the tests return, or an assertion stops the program. -/

namespace TeeIoValidator.Suite

open Runner

/-- A call of a function that records a result. -/
inductive Call where
  | assertion (caseClass caseId : ℤ) (assertion : Assertion)
  | configItem (configItemId : ℤ) (func : ConfigFunc) (result : TestResult)
  | group (func : GroupFunc) (result : TestResult) (message : Option String)

/-- What the call leaves, if it returns. -/
def Call.apply : Call → Results → Option Results
  | .assertion caseClass caseId a, s =>
    (s.teeioRecordAssertionResult caseClass caseId a).map Prod.snd
  | .configItem configItemId func result, s =>
    some (s.teeioRecordConfigItemResult configItemId func result).2
  | .group func result message, s => some (s.teeioRecordGroupResult func result message).2

def applyCalls : List Call → Results → Option Results
  | [], s => some s
  | call :: calls, s => (call.apply s).bind (applyCalls calls)

/-- What the contexts refer to while a group is run: the id of the configuration, which
`do_run_test_group` stores in the context of the group, and the group. -/
structure Place where
  configId : ℤ
  group : ℕ
  deriving Repr, DecidableEq

/-- A function of the tests. It sees what is recorded so far, and all it does to the results is
to call the functions that record one. -/
abbrev TestFunc (α : Type) := Place → Results → α → Option (Bool × List Call × α)

/-- An `ide_run_test_config_item_t`. -/
structure RunTestConfigItem (ω : Type) where
  supportFunc : TestFunc ω
  enableFunc : TestFunc ω
  disableFunc : TestFunc ω
  checkFunc : TestFunc ω

/-- An `ide_run_test_config_t`. -/
structure RunTestConfig (ω : Type) where
  configId : ℤ
  name : String
  configItem : List (RunTestConfigItem ω)

/-- An `ide_run_test_case_t`; its functions also see the `action` of the case's own context. -/
structure RunTestCase (ω : Type) where
  name : String
  className : String
  classId : ℤ
  caseId : ℤ
  configCheckRequired : Bool
  runFunc : Option (TestFunc (Action × ω))
  setupFunc : Option (TestFunc (Action × ω))
  teardownFunc : Option (TestFunc (Action × ω))

/-- An `ide_run_test_group_t`. -/
structure RunTestGroup (ω : Type) where
  name : String
  testCase : List (RunTestCase ω)
  setupFunc : TestFunc ω
  teardownFunc : TestFunc ω

/-- An `ide_run_test_suite_t`. -/
structure RunTestSuite (ω : Type) where
  name : String
  testCategory : TestCategory
  testGroup : List (RunTestGroup ω)
  testConfig : List (RunTestConfig ω)

/-- A call that the runner makes, with the positions of the configuration, of the group and of
the case in their lists. The code keeps no such record. -/
inductive Event where
  | group (config group : ℕ)
  | groupSetup (config group : ℕ) (ret : Bool)
  | case (config group case : ℕ) (action : Action)
  deriving Repr, DecidableEq

/-- `actions group case` is the `action` of the case's context. -/
structure Machine (ω : Type) where
  world : ω
  actions : ℕ → ℕ → Action
  results : Results
  events : List Event

namespace Machine

variable {ω : Type}

/-- The contexts of the cases are new. -/
def start (world : ω) (results : Results) : Machine ω := ⟨world, fun _ _ => .run, results, []⟩

def log (event : Event) (m : Machine ω) : Machine ω := { m with events := m.events ++ [event] }

def onResults (f : Results → Results) (m : Machine ω) : Machine ω :=
  { m with results := f m.results }

def action (group case : ℕ) (m : Machine ω) : Action := m.actions group case

def setAction (group case : ℕ) (action : Action) (m : Machine ω) : Machine ω :=
  { m with
    actions :=
      Function.update m.actions group (Function.update (m.actions group) case action) }

/-- A function of a group or of a config item is called. -/
def exec (func : TestFunc ω) (place : Place) (m : Machine ω) : Option (Bool × Machine ω) := do
  let (ret, calls, world) ← func place m.results m.world
  let results ← applyCalls calls m.results
  some (ret, { m with world, results })

/-- A function of a case is called. -/
def execCase (func : TestFunc (Action × ω)) (place : Place) (case : ℕ) (m : Machine ω) :
    Option (Bool × Machine ω) := do
  let (ret, calls, action, world) ← func place m.results (m.action place.group case, m.world)
  let results ← applyCalls calls m.results
  some (ret, { m with world, results }.setAction place.group case action)

end Machine

variable {ω : Type}

def RunTestConfigItem.at (item : RunTestConfigItem ω) (place : Place) :
    ConfigItem (Option (Machine ω)) where
  support := running (Machine.exec item.supportFunc place)
  enable := running (Machine.exec item.enableFunc place)
  disable := running (Machine.exec item.disableFunc place)
  check := running (Machine.exec item.checkFunc place)

def RunTestCase.at (testCase : RunTestCase ω) (place : Place) (case : ℕ) :
    TestCase (Option (Machine ω)) where
  setup := testCase.setupFunc.map fun func => running fun m => m.execCase func place case
  run := testCase.runFunc.map fun func s =>
    some (running (fun m => m.execCase func place case) s).2
  teardown := testCase.teardownFunc.map fun func s =>
    (running (fun m => m.execCase func place case) s).2
  configCheckRequired := testCase.configCheckRequired

def caseContext (group case : ℕ) : CaseContext (Machine ω) where
  action := Machine.action group case
  setAction := Machine.setAction group case

/-- `do_run_test_case`, which the runner calls with the case at a position of a group. -/
def runTestCase (config : RunTestConfig ω) (group case : ℕ) (testCase : RunTestCase ω)
    (m : Machine ω) : Option (Machine ω) :=
  let place : Place := ⟨config.configId, group⟩
  match doRunTestCase (caseContext group case).stopping (testCase.at place case)
    (config.configItem.map (RunTestConfigItem.at · place)) (some m) with
  | none => none
  | some (_, s) => s

/-- The loop over the cases of a group, from the `case`-th on. -/
def runTestCases (config : RunTestConfig ω) (c group : ℕ) (groupSetupResult : Bool) :
    ℕ → List (RunTestCase ω) → Machine ω → Option (Machine ω)
  | _, [], m => some m
  | case, testCase :: testCases, m => do
    let m := m.onResults (Results.allocRunTestCaseResult testCase.name testCase.className
      testCase.classId testCase.caseId)
    let ran :=
      if groupSetupResult then
        runTestCase config group case testCase (m.log (.case c group case (m.action group case)))
      else some m
    let m ← ran
    runTestCases config c group groupSetupResult (case + 1) testCases
      (m.onResults Results.clearCase)

/-- `c` and `group` are the positions of the configuration and of the group. -/
def doRunTestGroup (config : RunTestConfig ω) (c group : ℕ) (testGroup : RunTestGroup ω)
    (m : Machine ω) : Option (Machine ω) :=
  let place : Place := ⟨config.configId, group⟩
  if testGroup.testCase.isEmpty then some m
  else do
    let (groupSetupResult, m) ← m.exec testGroup.setupFunc place
    let m ← runTestCases config c group groupSetupResult 0 testGroup.testCase
      (m.log (.groupSetup c group groupSetupResult))
    if groupSetupResult then
      let (_, m) ← m.exec testGroup.teardownFunc place
      some m
    else some m

/-- The inner loop of `do_run_test_suite`, which moves the cursor over the groups: it starts
where the cursor stands, and returns where it stops. -/
def runTestGroups (config : RunTestConfig ω) (c : ℕ) :
    ℕ → List (RunTestGroup ω) → Machine ω → Option ((ℕ × List (RunTestGroup ω)) × Machine ω)
  | group, [], m => some ((group, []), m)
  | group, testGroup :: testGroups, m => do
    let m := m.onResults (Results.allocRunTestGroupResult testGroup.name)
    let m ← doRunTestGroup config c group testGroup (m.log (.group c group))
    runTestGroups config c (group + 1) testGroups (m.onResults Results.clearGroup)

/-- The outer loop. The cursor over the groups is set before it, and not again. -/
def runTestConfigs :
    ℕ → List (RunTestConfig ω) → ℕ × List (RunTestGroup ω) → Machine ω → Option (Machine ω)
  | _, [], _, m => some m
  | c, config :: configs, (group, testGroups), m => do
    let m := m.onResults (Results.allocRunTestConfigResult config.configId config.name)
    let (cursor, m) ← runTestGroups config c group testGroups m
    runTestConfigs (c + 1) configs cursor (m.onResults Results.clearConfig)

def doRunTestSuite (suite : RunTestSuite ω) (m : Machine ω) : Option (Machine ω) :=
  runTestConfigs 0 suite.testConfig (0, suite.testGroup) m

/-- The loop of `run` over the suites. The contexts of each suite are its own. -/
def runTestSuites : List (RunTestSuite ω) → ω → Results → Option Results
  | [], _, results => some results
  | suite :: suites, world, results => do
    let m ← doRunTestSuite suite
      (Machine.start world (results.nextSuite suite.name suite.testCategory))
    runTestSuites suites m.world m.results

/-- `run`: the two reports that it prints, if no assertion stops it. -/
def run (suites : List (RunTestSuite ω)) (world : ω) : Option (List Line) := do
  let results ← runTestSuites suites world Results.empty
  let detailed ← printTestResults true results.tree
  let summary ← printTestResults false results.tree
  some (detailed ++ summary)

end TeeIoValidator.Suite
