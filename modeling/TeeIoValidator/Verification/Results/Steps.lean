import TeeIoValidator.Model.Suite

/-! # The steps of a run

Records are allocated, the cursors are cleared, and in between the functions of the tests
record results in any order.
-/

namespace TeeIoValidator.Suite

/-- How far down the cursors are set. -/
inductive Level where
  | nothing
  | suite
  | config
  | group
  | case
  deriving Repr, DecidableEq

def Results.level (s : Results) : Level :=
  match s.suite with
  | none => .nothing
  | some suite =>
    match suite.config with
    | none => .suite
    | some config =>
      match config.group with
      | none => .config
      | some group =>
        match group.case with
        | none => .group
        | some _ => .case

inductive Step where
  | nextSuite (name : String) (testCategory : TestCategory)
  | allocConfig (configId : ℤ) (name : String)
  | allocGroup (name : String)
  | allocCase (name className : String) (classId caseId : ℤ)
  | call (call : Call)
  | clearCase
  | clearGroup
  | clearConfig

/-- A step where the run can take it: records are allocated and cursors are cleared from the
level at which `do_run_test_suite` and `do_run_test_group` do so. -/
def Step.apply : Step → Results → Option Results
  | .nextSuite name testCategory, s =>
    if s.level = .nothing ∨ s.level = .suite then some (s.nextSuite name testCategory) else none
  | .allocConfig configId name, s =>
    if s.level = .suite then some (s.allocRunTestConfigResult configId name) else none
  | .allocGroup name, s =>
    if s.level = .config then some (s.allocRunTestGroupResult name) else none
  | .allocCase name className classId caseId, s =>
    if s.level = .group then some (s.allocRunTestCaseResult name className classId caseId)
    else none
  | .call c, s => c.apply s
  | .clearCase, s => if s.level = .case then some s.clearCase else none
  | .clearGroup, s => if s.level = .group then some s.clearGroup else none
  | .clearConfig, s => if s.level = .config then some s.clearConfig else none

/-- What `teeio_test_case_result` returns for the case that ends with a step. -/
def Step.verdict : Step → Results → Option TestResult
  | .clearCase, s =>
    s.currentCase.bind fun case => s.teeioTestCaseResult case.classId case.caseId
  | _, _ => none

/-- The states of the runs whose steps meet a condition, with the results of the cases that
have ended. -/
inductive Reached (condition : Step → Results → Prop) : Results → List TestResult → Prop where
  | start : Reached condition Results.empty []
  | step {s s' : Results} {verdicts : List TestResult} (step : Step)
      (before : Reached condition s verdicts) (meets : condition step s)
      (after : step.apply s = some s') :
      Reached condition s' (verdicts ++ (step.verdict s).toList)

/-- What passes or fails is recorded as a test. -/
def Call.Countable : Call → Prop
  | .assertion _ _ a => a.result = .notTested ∨ a.type = .test
  | _ => True

/-- The calls are countable, and a group that ends has a case. -/
def Step.Countable : Step → Results → Prop
  | .call c, _ => c.Countable
  | .clearGroup, s => ∀ group ∈ s.currentGroup, group.close.caseResult ≠ []
  | _, _ => True

/-! ## What a step does -/

/-- The records before and after a step, with the cursors in view. -/
inductive Moves : Step → Results → Results → Prop where
  | nextSuite {name : String} {testCategory : TestCategory} {s : Results}
      (outside : s.level = .nothing ∨ s.level = .suite) :
      Moves (.nextSuite name testCategory) s ⟨s.tree, some ⟨⟨name, testCategory, []⟩, none⟩⟩
  | allocConfig {configId : ℤ} {name : String} {finished : List SuiteResult}
      {suite : SuiteResult} :
      Moves (.allocConfig configId name) ⟨finished, some ⟨suite, none⟩⟩
        ⟨finished, some ⟨suite, some ⟨⟨name, configId, 0, 0, []⟩, none⟩⟩⟩
  | allocGroup {name : String} {finished : List SuiteResult} {suite : SuiteResult}
      {config : ConfigResult} :
      Moves (.allocGroup name) ⟨finished, some ⟨suite, some ⟨config, none⟩⟩⟩
        ⟨finished, some ⟨suite, some ⟨config,
          some ⟨⟨name, 0, 0, fun _ => ⟨.notTested, ""⟩, []⟩, none⟩⟩⟩⟩
  | allocCase {name className : String} {classId caseId : ℤ} {finished : List SuiteResult}
      {suite : SuiteResult} {config : ConfigResult} {group : GroupResult} :
      Moves (.allocCase name className classId caseId)
        ⟨finished, some ⟨suite, some ⟨config, some ⟨group, none⟩⟩⟩⟩
        ⟨finished, some ⟨suite, some ⟨config,
          some ⟨group, some ⟨name, className, classId, caseId, 0, 0, [], []⟩⟩⟩⟩⟩
  | clearCase {finished : List SuiteResult} {suite : SuiteResult} {config : ConfigResult}
      {group : GroupResult} {case : CaseResult} :
      Moves .clearCase ⟨finished, some ⟨suite, some ⟨config, some ⟨group, some case⟩⟩⟩⟩
        ⟨finished, some ⟨suite, some ⟨config,
          some ⟨{ group with caseResult := group.caseResult ++ [case] }, none⟩⟩⟩⟩
  | clearGroup {finished : List SuiteResult} {suite : SuiteResult} {config : ConfigResult}
      {group : GroupResult} :
      Moves .clearGroup ⟨finished, some ⟨suite, some ⟨config, some ⟨group, none⟩⟩⟩⟩
        ⟨finished, some ⟨suite,
          some ⟨{ config with groupResult := config.groupResult ++ [group] }, none⟩⟩⟩
  | clearConfig {finished : List SuiteResult} {suite : SuiteResult} {config : ConfigResult} :
      Moves .clearConfig ⟨finished, some ⟨suite, some ⟨config, none⟩⟩⟩
        ⟨finished, some ⟨{ suite with result := suite.result ++ [config] }, none⟩⟩
  | assertion {caseClass caseId : ℤ} {a : Assertion} {finished : List SuiteResult}
      {suite : SuiteResult} {config : ConfigResult} {group : GroupResult} {case : CaseResult} :
      Moves (.call (.assertion caseClass caseId a))
        ⟨finished, some ⟨suite, some ⟨config, some ⟨group, some case⟩⟩⟩⟩
        ⟨finished, some ⟨suite, some ⟨config.increase a.result,
          some ⟨group.increase a.result, some ((case.append a).increase a.result)⟩⟩⟩⟩
  | configItem {configItemId : ℤ} {func : ConfigFunc} {result : TestResult}
      {finished : List SuiteResult} {suite : SuiteResult} {config : ConfigResult}
      {group : GroupResult} {case : CaseResult} (items : List ConfigItemResult) :
      Moves (.call (.configItem configItemId func result))
        ⟨finished, some ⟨suite, some ⟨config, some ⟨group, some case⟩⟩⟩⟩
        ⟨finished, some ⟨suite, some ⟨config,
          some ⟨group, some { case with configItemResult := items }⟩⟩⟩⟩
  | groupResult {func : GroupFunc} {result : TestResult} {message : Option String}
      {finished : List SuiteResult} {suite : SuiteResult} {config : ConfigResult}
      {group : GroupResult} {case : Option CaseResult} (results : GroupFunc → GroupFuncResult) :
      Moves (.call (.group func result message))
        ⟨finished, some ⟨suite, some ⟨config, some ⟨group, case⟩⟩⟩⟩
        ⟨finished, some ⟨suite, some ⟨config,
          some ⟨{ group with funcResults := results }, case⟩⟩⟩⟩
  | ignored {call : Call} {s : Results} : Moves (.call call) s s

theorem Call.moves {call : Call} {s s' : Results} (h : call.apply s = some s') :
    Moves (.call call) s s' := by
  cases call with
  | assertion caseClass caseId a =>
      rcases s with ⟨finished, _ | ⟨suite, _ | ⟨config, _ | ⟨group, _ | case⟩⟩⟩⟩
      case assertion.some.some.some.some =>
        simp only [Call.apply, Results.teeioRecordAssertionResult, Option.map_eq_some_iff] at h
        rcases h with ⟨⟨ret, s⟩, hrecord, rfl⟩
        simp only [Results.currentCase, Results.currentGroup, Results.currentConfig,
          Option.bind_some] at hrecord
        split at hrecord
        · cases hrecord
        · cases hrecord
          exact .assertion
      all_goals cases h
  | configItem configItemId func result =>
      rcases s with ⟨finished, _ | ⟨suite, _ | ⟨config, _ | ⟨group, _ | case⟩⟩⟩⟩
      case configItem.some.some.some.some =>
        cases h
        exact .configItem _
      all_goals
        cases h
        exact .ignored
  | group func result message =>
      rcases s with ⟨finished, _ | ⟨suite, _ | ⟨config, _ | ⟨group, case⟩⟩⟩⟩
      case group.some.some.some =>
        simp only [Call.apply, Results.teeioRecordGroupResult, Results.currentGroup,
          Results.currentConfig, Option.bind_some, Option.some.injEq] at h
        split at h
        · cases h
          exact .ignored
        · cases h
          exact .groupResult _
      all_goals
        cases h
        exact .ignored

theorem Step.moves {step : Step} {s s' : Results} (h : step.apply s = some s') :
    Moves step s s' := by
  cases step with
  | call c => exact Call.moves h
  | nextSuite name testCategory =>
      rw [Step.apply] at h
      split at h
      · cases h
        exact .nextSuite ‹_›
      · cases h
  | allocConfig configId name =>
      rcases s with ⟨finished, _ | ⟨suite, _ | ⟨config, _ | ⟨group, _ | case⟩⟩⟩⟩
      case allocConfig.some.none =>
        cases h
        exact .allocConfig
      all_goals cases h
  | allocGroup name =>
      rcases s with ⟨finished, _ | ⟨suite, _ | ⟨config, _ | ⟨group, _ | case⟩⟩⟩⟩
      case allocGroup.some.some.none =>
        cases h
        exact .allocGroup
      all_goals cases h
  | allocCase name className classId caseId =>
      rcases s with ⟨finished, _ | ⟨suite, _ | ⟨config, _ | ⟨group, _ | case⟩⟩⟩⟩
      case allocCase.some.some.some.none =>
        cases h
        exact .allocCase
      all_goals cases h
  | clearCase =>
      rcases s with ⟨finished, _ | ⟨suite, _ | ⟨config, _ | ⟨group, _ | case⟩⟩⟩⟩
      case clearCase.some.some.some.some =>
        cases h
        exact .clearCase
      all_goals cases h
  | clearGroup =>
      rcases s with ⟨finished, _ | ⟨suite, _ | ⟨config, _ | ⟨group, _ | case⟩⟩⟩⟩
      case clearGroup.some.some.some.none =>
        cases h
        exact .clearGroup
      all_goals cases h
  | clearConfig =>
      rcases s with ⟨finished, _ | ⟨suite, _ | ⟨config, _ | ⟨group, _ | case⟩⟩⟩⟩
      case clearConfig.some.some.none =>
        cases h
        exact .clearConfig
      all_goals cases h

end TeeIoValidator.Suite
