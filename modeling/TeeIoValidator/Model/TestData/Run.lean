import TeeIoValidator.Model.TestData.Prepare

/-! The runner of the suites on the heap: the results that it allocates, the functions of the
tests that it calls, and the reports that it prints. -/

namespace TeeIoValidator.TestData

open Ownership

variable {ω : Type}

/-- A function of the tests, with the block whose pointer to it is called. -/
inductive Callee where
  | support (configItem : ℕ)
  | enable (configItem : ℕ)
  | disable (configItem : ℕ)
  | check (configItem : ℕ)
  | groupSetup (runTestGroup : ℕ)
  | groupTeardown (runTestGroup : ℕ)
  | caseSetup (runTestCase : ℕ)
  | caseRun (runTestCase : ℕ)
  | caseTeardown (runTestCase : ℕ)
  deriving Repr, DecidableEq

/-- What the tests do: which functions there are, and what a call makes of the heap it sees, of
the action of its case and of the world. All a function does to the results is to call the
functions that record one; none when an assertion stops it. -/
structure Tests (ω : Type) where
  present : Callee → Bool
  call : Callee → TestHeap → Runner.Action → ω →
    Option (Bool × List Suite.Call × Runner.Action × ω)

/-! ## Globals -/

def getGlobals : HeapM ω (Globals ω) := fun (h, g) => .ok (g, h, g)

def onGlobals (f : Globals ω → Globals ω) : HeapM ω Unit := fun (h, g) => .ok ((), h, f g)

def setConfigResult (p : Option ℕ) : HeapM ω Unit :=
  onGlobals fun g => { g with currentConfigResult := p }

def setGroupResult (p : Option ℕ) : HeapM ω Unit :=
  onGlobals fun g => { g with currentGroupResult := p }

def setCaseResult (p : Option ℕ) : HeapM ω Unit :=
  onGlobals fun g => { g with currentCaseResult := p }

/-! ## Results -/

/-- The totals of the configuration and of the group are counted up. -/
def countUp : HeapM ω Unit := do
  let g ← getGlobals
  let _ ← deref .configResult g.currentConfigResult
  let _ ← deref .groupResult g.currentGroupResult

def teeioRecordAssertionResult (caseClass caseId : ℤ) (result : TestResult) :
    HeapM ω Unit := do
  let g ← getGlobals
  match g.currentCaseResult with
  | none => fail .stopped
  | some caseResult =>
    let b ← deref .caseResult (some caseResult)
    if b.data.classId ≠ caseClass ∨ b.data.caseId ≠ caseId then fail .stopped
    else
      let ar ← malloc .assertionResult ⟨caseClass, caseId, 0, .run⟩
      appendLink .caseResult caseResult .assertionResult .assertionResult .next ar
      onlyIf (result = .pass ∨ result = .failed) countUp

/-- The loop that looks for the result of a config item. -/
def findConfigItemResult (configItemId : ℤ) : ℕ → Option ℕ → HeapM ω (Option ℕ)
  | _, none => pure none
  | 0, some _ => fail .endless
  | fuel + 1, some p => do
    let b ← deref .configItemResult (some p)
    if b.data.configItemId = configItemId then pure (some p)
    else findConfigItemResult configItemId fuel (b.links .next)

def teeioRecordConfigItemResult (configItemId : ℤ) : HeapM ω Unit := do
  let g ← getGlobals
  match g.currentCaseResult with
  | none => pure ()
  | some caseResult =>
    let head ← getLink .caseResult (some caseResult) .configItemResult
    match ← findConfigItemResult configItemId (← bound) head with
    | some _ => pure ()
    | none =>
      let new ← malloc .configItemResult ⟨0, 0, configItemId, .run⟩
      appendLink .caseResult caseResult .configItemResult .configItemResult .next new

def teeioRecordGroupResult (func : Suite.GroupFunc) : HeapM ω Unit := do
  let g ← getGlobals
  match g.currentGroupResult with
  | none => pure ()
  | some groupResult =>
    if func = .max then pure ()
    else
      let _ ← deref .groupResult (some groupResult)
      pure ()

def applyCall : Suite.Call → HeapM ω Unit
  | .assertion caseClass caseId a => teeioRecordAssertionResult caseClass caseId a.result
  | .configItem configItemId _ _ => teeioRecordConfigItemResult configItemId
  | .group func _ _ => teeioRecordGroupResult func

def applyCalls : List Suite.Call → HeapM ω Unit
  | [] => pure ()
  | call :: calls => do
    applyCall call
    applyCalls calls

def allocRunTestCaseResult (groupResult testCase : ℕ) : HeapM ω ℕ := do
  let b ← deref .runTestCase (some testCase)
  let caseResult ← malloc .caseResult ⟨b.data.classId, b.data.caseId, 0, .run⟩
  appendLink .groupResult groupResult .caseResult .caseResult .next caseResult
  pure caseResult

def allocRunTestGroupResult (runTestGroup configResult : ℕ) : HeapM ω ℕ := do
  let _ ← deref .runTestGroup (some runTestGroup)
  let groupResult ← malloc .groupResult .zero
  appendLink .configResult configResult .groupResult .groupResult .next groupResult
  pure groupResult

/-- `append_config_result`. -/
def appendConfigResult (runTestSuite configResult : ℕ) : HeapM ω Unit := do
  match ← getLink .runTestSuite (some runTestSuite) .testContext with
  | none => fail .null
  | some suiteContext =>
    appendLink .suiteContext suiteContext .result .configResult .next configResult

def allocRunTestConfigResult (runTestSuite runTestConfig : ℕ) : HeapM ω ℕ := do
  let configResult ← malloc .configResult .zero
  let _ ← deref .runTestConfig (some runTestConfig)
  appendConfigResult runTestSuite configResult
  pure configResult

/-! ## Running a case -/

section Runner

variable (tests : Tests ω)

/-- The answer of the tests; the world is theirs. -/
def ask (callee : Callee) (action : Runner.Action) :
    HeapM ω (Bool × List Suite.Call × Runner.Action) := fun (h, g) =>
  match tests.call callee h action g.world with
  | none => .error .stopped
  | some (ret, calls, action, world) => .ok ((ret, calls, action), h, { g with world })

/-- A function of a group or of a config item is called. -/
def exec (callee : Callee) : HeapM ω Bool := do
  let (ret, calls, _) ← ask tests callee .run
  applyCalls calls
  pure ret

def setAction (context : Option ℕ) (action : Runner.Action) : HeapM ω Unit :=
  match context with
  | none => fail .null
  | some p => do
    let b ← deref .caseContext context
    store p { b with data := { b.data with action } }

/-- A function of a case is called, which sees the action of its context. -/
def execCase (callee : Callee) (context : Option ℕ) : HeapM ω Bool := do
  let b ← deref .caseContext context
  let (ret, calls, action) ← ask tests callee b.data.action
  applyCalls calls
  setAction context action
  pure ret

/-- `do_run_test_config_support` and its three siblings, which differ in the function. -/
def doRunTestConfig (callee : ℕ → Callee) : ℕ → Option ℕ → HeapM ω Bool
  | _, none => fail .null
  | 0, some _ => fail .endless
  | fuel + 1, some configItem => do
    let _ ← deref .runTestConfigItem (some configItem)
    if !tests.present (callee configItem) then fail .stopped
    else
      let ret ← exec tests (callee configItem)
      let next ← getLink .runTestConfigItem (some configItem) .next
      if ret && next.isSome then doRunTestConfig callee fuel next else pure ret

def doRunTestConfigItems (callee : ℕ → Callee) (runTestConfig : ℕ) : HeapM ω Bool := do
  let configItem ← getLink .runTestConfig (some runTestConfig) .configItem
  doRunTestConfig tests callee (← bound) configItem

/-- The call of a function of a case whose result is not used. -/
def callCase (callee : Callee) (context : Option ℕ) : HeapM ω Unit := do
  let _ ← execCase tests callee context
  pure ()

/-- The functions of a kind are called for what they do. -/
def callConfigItems (callee : ℕ → Callee) (runTestConfig : ℕ) : HeapM ω Unit := do
  let _ ← doRunTestConfigItems tests callee runTestConfig
  pure ()

/-- The code from the label `TestCaseDone` on. -/
def testCaseDone (testCase runTestConfig : ℕ) (context : Option ℕ) : HeapM ω Unit := do
  onlyIf (tests.present (.caseTeardown testCase))
    (callCase tests (.caseTeardown testCase) context)
  callConfigItems tests .disable runTestConfig

/-- The setup function, when there is one; a failure skips the case from now on. -/
def runSetup (testCase : ℕ) (context : Option ℕ) : HeapM ω Bool :=
  if tests.present (.caseSetup testCase) then do
    let ret ← execCase tests (.caseSetup testCase) context
    onlyIf (!ret) (setAction context .skip)
    pure ret
  else pure true

/-- The run function and the check of the configuration. -/
def runCase (configCheckRequired : ℕ → Bool) (testCase runTestConfig : ℕ)
    (context : Option ℕ) : HeapM ω Unit := do
  onlyIf (tests.present (.caseRun testCase)) (callCase tests (.caseRun testCase) context)
  onlyIf (configCheckRequired testCase) (callConfigItems tests .check runTestConfig)

/-- `config_check_required` of the cases is a parameter. -/
def doRunTestCase (configCheckRequired : ℕ → Bool) (testCase runTestConfig : ℕ) :
    HeapM ω Unit := do
  let context ← getLink .runTestCase (some testCase) .testContext
  let b ← deref .caseContext context
  if b.data.action = .skip then pure ()
  else
    let supported ← doRunTestConfigItems tests .support runTestConfig
    if !supported then pure ()
    else
      let enabled ← doRunTestConfigItems tests .enable runTestConfig
      if !enabled then pure ()
      else
        let ret ← runSetup tests testCase context
        let b ← deref .caseContext context
        onlyIf (ret && b.data.action = .run)
          (runCase tests configCheckRequired testCase runTestConfig context)
        testCaseDone tests testCase runTestConfig context

/-! ## Running a group -/

variable (configCheckRequired : ℕ → Bool)

/-- The loop over the cases of a group. -/
def runTestCases (groupSetupResult : Bool) (runTestConfig groupResult : ℕ) :
    ℕ → Option ℕ → HeapM ω Unit
  | _, none => pure ()
  | 0, some _ => fail .endless
  | fuel + 1, some testCase => do
    let caseResult ← allocRunTestCaseResult groupResult testCase
    setCaseResult (some caseResult)
    onlyIf groupSetupResult (doRunTestCase tests configCheckRequired testCase runTestConfig)
    let next ← getLink .runTestCase (some testCase) .next
    setCaseResult none
    runTestCases groupSetupResult runTestConfig groupResult fuel next

/-- The pointer to the teardown function is called without a check. -/
def teardownGroup (runTestGroup : ℕ) : HeapM ω Unit :=
  if !tests.present (.groupTeardown runTestGroup) then fail .null
  else do
    let _ ← exec tests (.groupTeardown runTestGroup)
    pure ()

def doRunTestGroup (runTestGroup runTestConfig groupResult : ℕ) : HeapM ω Unit := do
  let groupContext ← getLink .runTestGroup (some runTestGroup) .testContext
  let _ ← deref .groupContext groupContext
  let _ ← deref .runTestConfig (some runTestConfig)
  let configContext ← getLink .runTestConfig (some runTestConfig) .testContext
  let _ ← deref .configContext configContext
  match ← getLink .runTestGroup (some runTestGroup) .testCase with
  | none => pure ()
  | some testCase =>
    if !tests.present (.groupSetup runTestGroup) then fail .stopped
    else
      let groupSetupResult ← exec tests (.groupSetup runTestGroup)
      runTestCases tests configCheckRequired groupSetupResult runTestConfig groupResult
        (← bound) (some testCase)
      onlyIf groupSetupResult (teardownGroup tests runTestGroup)
      let _ ← deref .configContext configContext

/-! ## Running the suites -/

/-- The inner loop of `do_run_test_suite`, which moves the cursor over the groups: it is null
when the loop ends. -/
def runTestGroups (runTestConfig configResult : ℕ) : ℕ → Option ℕ → HeapM ω (Option ℕ)
  | _, none => pure none
  | 0, some _ => fail .endless
  | fuel + 1, some runTestGroup => do
    let groupResult ← allocRunTestGroupResult runTestGroup configResult
    setGroupResult (some groupResult)
    doRunTestGroup tests configCheckRequired runTestGroup runTestConfig groupResult
    let next ← getLink .runTestGroup (some runTestGroup) .next
    setGroupResult none
    runTestGroups runTestConfig configResult fuel next

/-- The outer loop. The cursor over the groups is set before it, and not again. -/
def runTestConfigs (runTestSuite : ℕ) : ℕ → Option ℕ → Option ℕ → HeapM ω Unit
  | _, none, _ => pure ()
  | 0, some _, _ => fail .endless
  | fuel + 1, some runTestConfig, runTestGroup => do
    let configResult ← allocRunTestConfigResult runTestSuite runTestConfig
    setConfigResult (some configResult)
    let runTestGroup ← runTestGroups tests configCheckRequired runTestConfig configResult
      (← bound) runTestGroup
    let next ← getLink .runTestConfig (some runTestConfig) .next
    setConfigResult none
    runTestConfigs runTestSuite fuel next runTestGroup

def doRunTestSuite (runTestSuite : ℕ) : HeapM ω Unit := do
  let runTestGroup ← getLink .runTestSuite (some runTestSuite) .testGroup
  let runTestConfig ← getLink .runTestSuite (some runTestSuite) .testConfig
  let suiteContext ← getLink .runTestSuite (some runTestSuite) .testContext
  let _ ← deref .suiteContext suiteContext
  runTestConfigs tests configCheckRequired runTestSuite (← bound) runTestConfig runTestGroup

/-- The loop of `run` over the suites. -/
def runTestSuites : ℕ → Option ℕ → HeapM ω Unit
  | _, none => pure ()
  | 0, some _ => fail .endless
  | fuel + 1, some runTestSuite => do
    doRunTestSuite tests configCheckRequired runTestSuite
    let next ← getLink .runTestSuite (some runTestSuite) .next
    runTestSuites fuel next

end Runner

/-! ## The reports

Only what is read of the blocks is kept of them. -/

/-- A loop over a list that reads each of its blocks. -/
def forEach (k : Kind) (body : ℕ → HeapM ω Unit) : ℕ → Option ℕ → HeapM ω Unit
  | _, none => pure ()
  | 0, some _ => fail .endless
  | fuel + 1, some p => do
    body p
    let next ← getLink k (some p) .next
    forEach k body fuel next

/-- `print_test_case_assertion_result`. -/
def printTestCaseAssertionResult (assertionResult : Option ℕ) : HeapM ω Unit := do
  forEach .assertionResult (fun _ => pure ()) (← bound) assertionResult

def printCaseResult (detail : Bool) (caseResult : ℕ) : HeapM ω Unit := do
  let b ← deref .caseResult (some caseResult)
  onlyIf detail (printTestCaseAssertionResult (b.links .assertionResult))

def printGroupResult (detail : Bool) (groupResult : ℕ) : HeapM ω Unit := do
  let caseResult ← getLink .groupResult (some groupResult) .caseResult
  -- `case_result->class` is read before the loop
  let _ ← deref .caseResult caseResult
  forEach .caseResult (printCaseResult detail) (← bound) caseResult

def printConfigResult (detail : Bool) (configResult : ℕ) : HeapM ω Unit := do
  let groupResult ← getLink .configResult (some configResult) .groupResult
  forEach .groupResult (printGroupResult detail) (← bound) groupResult

/-- `test_suite_cases_statics`. -/
def testSuiteCasesStatics (runTestSuite : ℕ) : HeapM ω Unit := do
  let suiteContext ← getLink .runTestSuite (some runTestSuite) .testContext
  let result ← getLink .suiteContext suiteContext .result
  forEach .configResult (fun _ => pure ()) (← bound) result

def printSuite (detail : Bool) (runTestSuite : ℕ) : HeapM ω Unit := do
  let suiteContext ← getLink .runTestSuite (some runTestSuite) .testContext
  let _ ← deref .suiteContext suiteContext
  testSuiteCasesStatics runTestSuite
  let result ← getLink .suiteContext suiteContext .result
  forEach .configResult (printConfigResult detail) (← bound) result

def printTestResults (detail : Bool) (runTestSuite : Option ℕ) : HeapM ω Unit := do
  forEach .runTestSuite (printSuite detail) (← bound) runTestSuite

end TeeIoValidator.TestData
