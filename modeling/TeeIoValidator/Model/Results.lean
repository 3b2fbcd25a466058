import Mathlib.Logic.Function.Basic
import TeeIoValidator.Model.Assertion

/-! The results of the test suites, as they are recorded while the suites run, and the report
that is printed from them. -/

namespace TeeIoValidator.Suite

inductive TestCategory where
  | pcieIde
  | cxlIde
  | cxlTsp
  | tdisp
  | spdm
  deriving Repr, DecidableEq

inductive ConfigFunc where
  | support
  | enable
  | disable
  | check
  deriving Repr, DecidableEq

inductive GroupFunc where
  | setup
  | teardown
  | max
  deriving Repr, DecidableEq

structure ConfigItemResult where
  configItemId : ℤ
  results : ConfigFunc → TestResult

/-- An `ide_run_test_case_result_t`. -/
structure CaseResult where
  name : String
  className : String
  classId : ℤ
  caseId : ℤ
  totalPassed : ℕ
  totalFailed : ℕ
  configItemResult : List ConfigItemResult
  assertionResult : List Assertion

structure GroupFuncResult where
  result : TestResult
  extraData : String

/-- An `ide_run_test_group_result_t`. -/
structure GroupResult where
  name : String
  totalPassed : ℕ
  totalFailed : ℕ
  funcResults : GroupFunc → GroupFuncResult
  caseResult : List CaseResult

/-- An `ide_run_test_config_result_t`. -/
structure ConfigResult where
  name : String
  configId : ℤ
  totalPassed : ℕ
  totalFailed : ℕ
  groupResult : List GroupResult

/-- A suite with the results that its context holds. -/
structure SuiteResult where
  name : String
  testCategory : TestCategory
  result : List ConfigResult

/-! ## The records that are filled

A global cursor points to the last record of its list, so the record is kept beside the list of
those before it. -/

/-- `g_current_group_result`, with `g_current_case_result`. -/
structure CurrentGroup where
  result : GroupResult
  case : Option CaseResult

/-- `g_current_config_result`. -/
structure CurrentConfig where
  result : ConfigResult
  group : Option CurrentGroup

structure CurrentSuite where
  result : SuiteResult
  config : Option CurrentConfig

/-- The suites that have run, and the one that runs. -/
structure Results where
  finished : List SuiteResult
  suite : Option CurrentSuite

def CurrentGroup.close (group : CurrentGroup) : GroupResult :=
  match group.case with
  | none => group.result
  | some case => { group.result with caseResult := group.result.caseResult ++ [case] }

def CurrentConfig.close (config : CurrentConfig) : ConfigResult :=
  match config.group with
  | none => config.result
  | some group =>
    { config.result with groupResult := config.result.groupResult ++ [group.close] }

def CurrentSuite.close (suite : CurrentSuite) : SuiteResult :=
  match suite.config with
  | none => suite.result
  | some config => { suite.result with result := suite.result.result ++ [config.close] }

namespace Results

/-- Nothing is recorded yet. -/
def empty : Results := ⟨[], none⟩

/-- All results, those that the cursors point to among them. -/
def tree (s : Results) : List SuiteResult :=
  match s.suite with
  | none => s.finished
  | some suite => s.finished ++ [suite.close]

def currentConfig (s : Results) : Option CurrentConfig := s.suite.bind CurrentSuite.config

def currentGroup (s : Results) : Option CurrentGroup := s.currentConfig.bind CurrentConfig.group

def currentCase (s : Results) : Option CaseResult := s.currentGroup.bind CurrentGroup.case

def onSuite (f : CurrentSuite → CurrentSuite) (s : Results) : Results :=
  { s with suite := s.suite.map f }

def onConfig (f : CurrentConfig → CurrentConfig) : Results → Results :=
  onSuite fun suite => { suite with config := suite.config.map f }

def onGroup (f : CurrentGroup → CurrentGroup) : Results → Results :=
  onConfig fun config => { config with group := config.group.map f }

def onCase (f : CaseResult → CaseResult) : Results → Results :=
  onGroup fun group => { group with case := group.case.map f }

/-! ## New records -/

/-- The next suite of the list runs. -/
def nextSuite (name : String) (testCategory : TestCategory) (s : Results) : Results :=
  ⟨s.tree, some ⟨⟨name, testCategory, []⟩, none⟩⟩

def allocRunTestConfigResult (configId : ℤ) (name : String) : Results → Results :=
  onSuite fun suite => ⟨suite.close, some ⟨⟨name, configId, 0, 0, []⟩, none⟩⟩

def allocRunTestGroupResult (name : String) : Results → Results :=
  onConfig fun config =>
    ⟨config.close, some ⟨⟨name, 0, 0, fun _ => ⟨.notTested, ""⟩, []⟩, none⟩⟩

def allocRunTestCaseResult (name className : String) (classId caseId : ℤ) : Results → Results :=
  onGroup fun group => ⟨group.close, some ⟨name, className, classId, caseId, 0, 0, [], []⟩⟩

/-- `g_current_case_result = NULL`. -/
def clearCase : Results → Results := onGroup fun group => ⟨group.close, none⟩

def clearGroup : Results → Results := onConfig fun config => ⟨config.close, none⟩

def clearConfig : Results → Results := onSuite fun suite => ⟨suite.close, none⟩

/-! ## Results of the current records -/

/-- `teeio_test_case_result`; an assertion stops the program when the case is not the current
one. -/
def teeioTestCaseResult (caseClass caseId : ℤ) (s : Results) : Option TestResult :=
  match s.currentCase with
  | none => some .notTested
  | some case =>
    if case.classId ≠ caseClass ∨ case.caseId ≠ caseId then none
    else some (testCaseResult case.assertionResult)

end Results

/-- The total of a record after one more result: `n` counts the results that are `counted`. -/
def increase (counted result : TestResult) (n : ℕ) : ℕ := if result = counted then n + 1 else n

def ConfigResult.increase (result : TestResult) (config : ConfigResult) : ConfigResult :=
  { config with
    totalPassed := Suite.increase .pass result config.totalPassed
    totalFailed := Suite.increase .failed result config.totalFailed }

def GroupResult.increase (result : TestResult) (group : GroupResult) : GroupResult :=
  { group with
    totalPassed := Suite.increase .pass result group.totalPassed
    totalFailed := Suite.increase .failed result group.totalFailed }

def CaseResult.increase (result : TestResult) (case : CaseResult) : CaseResult :=
  { case with
    totalPassed := Suite.increase .pass result case.totalPassed
    totalFailed := Suite.increase .failed result case.totalFailed }

def CaseResult.append (assertion : Assertion) (case : CaseResult) : CaseResult :=
  { case with assertionResult := case.assertionResult ++ [assertion] }

/-- The item's record, found in the list or appended to it, with one more result. -/
def setConfigItemResult (configItemId : ℤ) (func : ConfigFunc) (result : TestResult) :
    List ConfigItemResult → List ConfigItemResult
  | [] => [⟨configItemId, Function.update (fun _ => .notTested) func result⟩]
  | item :: items =>
    if item.configItemId = configItemId then
      { item with results := Function.update item.results func result } :: items
    else item :: setConfigItemResult configItemId func result items

namespace Results

def teeioRecordAssertionResult (caseClass caseId : ℤ) (assertion : Assertion) (s : Results) :
    Option (Bool × Results) :=
  match s.currentCase with
  | none => none
  | some case =>
    if case.classId ≠ caseClass ∨ case.caseId ≠ caseId then none
    else
      let s := s.onCase (CaseResult.append assertion)
      let s := s.onConfig fun config =>
        { config with result := config.result.increase assertion.result }
      let s := s.onGroup fun group =>
        { group with result := group.result.increase assertion.result }
      some (true, s.onCase (CaseResult.increase assertion.result))

def teeioRecordConfigItemResult (configItemId : ℤ) (func : ConfigFunc) (result : TestResult)
    (s : Results) : Bool × Results :=
  match s.currentCase with
  | none => (false, s)
  | some _ =>
    (true, s.onCase fun case =>
      { case with
        configItemResult := setConfigItemResult configItemId func result case.configItemResult })

/-- `teeio_record_group_result`; without a message the text stays what it was. -/
def teeioRecordGroupResult (func : GroupFunc) (result : TestResult) (message : Option String)
    (s : Results) : Bool × Results :=
  match s.currentGroup with
  | none => (false, s)
  | some _ =>
    if func = .max then (false, s)
    else
      (true, s.onGroup fun group =>
        { group with result := { group.result with
            funcResults := Function.update group.result.funcResults func
              ⟨result, message.getD (group.result.funcResults func).extraData⟩ } })

end Results

/-! ## The report -/

inductive Line where
  | text (line : String)
  | suite (name : String) (testCategory : TestCategory)
  | suiteTotals (name : String) (testCategory : TestCategory) (passed failed : ℕ)
  | config (configId : ℤ) (name : String)
  | groupSetup (className : String) (result : TestResult) (extraData : String)
  | groupTeardown (className : String) (result : TestResult)
  | groupTotals (className : String) (passed failed : ℕ)
  | case (name : String) (result : TestResult)
  | caseTotals (name : String) (result : TestResult) (passed failed : ℕ)
  | assertion (classId caseId : ℤ) (assertion : Assertion)
  | separator (format : String) (values : List ℕ)
  deriving Repr, DecidableEq

/-- `test_suite_cases_statics`: the numbers of the passed and of the failed. -/
def testSuiteCasesStatics : List ConfigResult → ℕ × ℕ → ℕ × ℕ
  | [], totals => totals
  | config :: configs, (passed, failed) =>
    testSuiteCasesStatics configs (passed + config.totalPassed, failed + config.totalFailed)

def printTestCaseAssertionResult (classId caseId : ℤ) : List Assertion → List Line
  | [] => []
  | a :: as =>
    (match a.type with
      | .test => [.assertion (classId + 1) caseId a]
      | .separator => [.separator a.format a.values]
      | .na => []) ++ printTestCaseAssertionResult classId caseId as

/-- The result that is printed for a case, from its totals. -/
def CaseResult.printedResult (case : CaseResult) : TestResult :=
  if case.totalFailed = 0 ∧ case.totalPassed = 0 then .notTested
  else if case.totalFailed = 0 ∧ case.totalPassed > 0 then .pass
  else .failed

def printCase (detail : Bool) (case : CaseResult) : List Line :=
  if detail then
    .case case.name case.printedResult ::
      printTestCaseAssertionResult case.classId case.caseId case.assertionResult ++ [.text ""]
  else [.caseTotals case.name case.printedResult case.totalPassed case.totalFailed]

/-- The lines of a group; `none` when the class is read through the null pointer of a group
that has no case. -/
def printGroup (detail : Bool) (group : GroupResult) : Option (List Line) :=
  match group.caseResult with
  | [] => none
  | first :: rest =>
    let caseClass := first.className
    let header : Line :=
      if detail then
        .groupSetup caseClass (group.funcResults .setup).result
          (group.funcResults .setup).extraData
      else .groupTotals caseClass group.totalPassed group.totalFailed
    let teardown : List Line :=
      if detail then [.groupTeardown caseClass (group.funcResults .teardown).result] else []
    some (header :: (first :: rest).flatMap (printCase detail) ++ teardown ++ [.text ""])

/-- The lines of all the records of a list. -/
def printEach {α : Type*} (print : α → Option (List Line)) : List α → Option (List Line)
  | [] => some []
  | x :: xs => do
    let lines ← print x
    let rest ← printEach print xs
    some (lines ++ rest)

def printConfig (detail : Bool) (config : ConfigResult) : Option (List Line) := do
  let lines ← printEach (printGroup detail) config.groupResult
  some (.config config.configId config.name :: lines ++ [.text ""])

def printSuite (detail : Bool) (suite : SuiteResult) : Option (List Line) := do
  let (passed, failed) := testSuiteCasesStatics suite.result (0, 0)
  let header : Line :=
    if detail then .suite suite.name suite.testCategory
    else .suiteTotals suite.name suite.testCategory passed failed
  let lines ← printEach (printConfig detail) suite.result
  some (header :: lines)

def printTestResults (detail : Bool) (suites : List SuiteResult) : Option (List Line) := do
  let header : Line :=
    .text (if detail then " Print detailed results." else " Print summary results.")
  let lines ← printEach (printSuite detail) suites
  some (.text "" :: header :: lines)

/-- The result that a line gives for a case. -/
def Line.caseResult : Line → Option TestResult
  | .case _ result => some result
  | .caseTotals _ result _ _ => some result
  | _ => none

end TeeIoValidator.Suite
