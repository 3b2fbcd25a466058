import TeeIoValidator.Verification.Results.Totals

/-! # The report of a run

The result that is printed for a case is the one that `teeio_test_case_result` returned when
the case ended.
-/

namespace TeeIoValidator.Suite

def SuiteResult.groups (suite : SuiteResult) : List GroupResult :=
  suite.result.flatMap ConfigResult.groupResult

def SuiteResult.cases (suite : SuiteResult) : List CaseResult :=
  suite.groups.flatMap GroupResult.caseResult

def Results.cases (s : Results) : List CaseResult := s.tree.flatMap SuiteResult.cases

/-- The totals agree with the records at every level, and when no suite runs any more the
report is printed and gives every case the result that it ended with. -/
structure Results.Correct (s : Results) (verdicts : List TestResult) : Prop where
  consistent : ∀ suite ∈ s.tree, suite.Consistent
  pass_iff : ∀ case ∈ s.cases, case.printedResult = .pass ↔
    SomePassed case.assertionResult ∧ NoneFailed case.assertionResult
  printed : s.level = .nothing ∨ s.level = .suite → ∀ detail, ∃ lines,
    printTestResults detail s.tree = some lines ∧ lines.filterMap Line.caseResult = verdicts

/-! ## The cases that have ended -/

/-- The result of a case, from its assertions. -/
def CaseResult.verdict (case : CaseResult) : TestResult := testCaseResult case.assertionResult

/-- The groups that have ended. -/
def Results.endedGroups (s : Results) : List GroupResult :=
  match s.suite with
  | none => s.finished.flatMap SuiteResult.groups
  | some suite =>
    s.finished.flatMap SuiteResult.groups ++ suite.result.groups ++
      match suite.config with
      | none => []
      | some config => config.result.groupResult

/-- The cases that have ended. -/
def Results.endedCases (s : Results) : List CaseResult :=
  s.endedGroups.flatMap GroupResult.caseResult ++
    match s.currentGroup with
    | none => []
    | some group => group.result.caseResult

theorem Results.endedGroups_outside {s : Results} (h : s.level = .nothing ∨ s.level = .suite) :
    s.endedGroups = s.tree.flatMap SuiteResult.groups := by
  rcases s with ⟨finished, _ | ⟨suite, _ | ⟨config, _ | ⟨group, _ | case⟩⟩⟩⟩
  case none => rfl
  case some.none => simp [endedGroups, tree, CurrentSuite.close]
  all_goals simp [level] at h

theorem Results.endedCases_outside {s : Results} (h : s.level = .nothing ∨ s.level = .suite) :
    s.endedCases = s.cases := by
  have hgroup : s.currentGroup = none := by
    rcases s with ⟨finished, _ | ⟨suite, _ | ⟨config, _ | ⟨group, _ | case⟩⟩⟩⟩
    case none => rfl
    case some.none => rfl
    all_goals simp [level] at h
  rw [endedCases, hgroup, endedGroups_outside h, List.append_nil, cases, List.flatMap_assoc]
  rfl

/-- A group ends where its cursor is cleared, and only there. -/
theorem Moves.endedGroups {step : Step} {s s' : Results} (h : Moves step s s')
    (hcountable : step.Countable s) (hs : ∀ group ∈ s.endedGroups, group.caseResult ≠ []) :
    ∀ group ∈ s'.endedGroups, group.caseResult ≠ [] := by
  cases h with
  | nextSuite outside =>
      rw [Results.endedGroups_outside outside] at hs
      simpa [Results.endedGroups, SuiteResult.groups] using hs
  | @clearGroup finished suite config group =>
      have hgroup : group.caseResult ≠ [] := hcountable ⟨group, none⟩ rfl
      simp only [Results.endedGroups, List.forall_mem_append] at hs
      simp only [Results.endedGroups, List.forall_mem_append, List.forall_mem_singleton]
      exact ⟨hs.1, hs.2, hgroup⟩
  | clearConfig =>
      simpa [Results.endedGroups, SuiteResult.groups, or_assoc] using hs
  | _ => exact hs

/-- A case ends where its cursor is cleared, with the result that the function then gives. -/
theorem Moves.endedCases {step : Step} {s s' : Results} (h : Moves step s s') :
    s'.endedCases.map CaseResult.verdict =
      s.endedCases.map CaseResult.verdict ++ (step.verdict s).toList := by
  cases h with
  | @nextSuite name testCategory _ outside =>
      have hended : Results.endedCases ⟨s.tree, some ⟨⟨name, testCategory, []⟩, none⟩⟩ =
          s.endedCases := by
        rw [Results.endedCases_outside outside, Results.endedCases_outside (.inr rfl)]
        simp [Results.cases, Results.tree, CurrentSuite.close, SuiteResult.cases,
          SuiteResult.groups]
      rw [hended]
      exact (List.append_nil _).symm
  | @clearCase finished suite config group case =>
      have hverdict : Step.verdict .clearCase
          ⟨finished, some ⟨suite, some ⟨config, some ⟨group, some case⟩⟩⟩⟩ =
            some case.verdict := by
        simp [Step.verdict, Results.teeioTestCaseResult, Results.currentCase,
          Results.currentGroup, Results.currentConfig, CaseResult.verdict]
      rw [hverdict, Option.toList_some, ← List.map_singleton, ← List.map_append]
      exact congrArg (List.map CaseResult.verdict) (List.append_assoc _ _ _).symm
  | clearGroup =>
      simp [Results.endedCases, Results.endedGroups, Results.currentGroup,
        Results.currentConfig, Step.verdict]
  | clearConfig =>
      simp [Results.endedCases, Results.endedGroups, Results.currentGroup,
        Results.currentConfig, Step.verdict, SuiteResult.groups]
  | allocConfig =>
      simp [Results.endedCases, Results.endedGroups, Results.currentGroup,
        Results.currentConfig, Step.verdict]
  | allocGroup =>
      simp [Results.endedCases, Results.endedGroups, Results.currentGroup,
        Results.currentConfig, Step.verdict]
  | _ => exact (List.append_nil _).symm

/-! ## What is printed -/

theorem any_tests_iff (result : TestResult) (as : List Assertion) :
    (as.filter fun a => a.type == .test).any (fun a => a.result == result) = true ↔
      tests result as ≠ 0 := by
  rw [List.any_filter, ← Nat.pos_iff_ne_zero, tests, List.countP_pos_iff, List.any_eq_true]

theorem testCaseResult_eq (as : List Assertion) :
    testCaseResult as =
      if tests .failed as ≠ 0 then .failed else if tests .pass as ≠ 0 then .pass
      else .notTested := by
  simp only [testCaseResult, any_tests_iff]

/-- The totals of a case give the result that its assertions give. -/
theorem CaseResult.Consistent.printedResult_eq {case : CaseResult} (h : case.Consistent) :
    case.printedResult = case.verdict := by
  have hpassed : case.totalPassed = tests .pass case.assertionResult := congrArg Prod.fst h
  have hfailed : case.totalFailed = tests .failed case.assertionResult := congrArg Prod.snd h
  rw [printedResult, verdict, testCaseResult_eq, hpassed, hfailed]
  by_cases hnone : tests .failed case.assertionResult = 0
  · by_cases hpass : tests .pass case.assertionResult = 0
    · simp [hnone, hpass]
    · simp [hnone, hpass, Nat.pos_iff_ne_zero]
  · simp [hnone]

theorem printTestCaseAssertionResult_caseResult (classId caseId : ℤ) (as : List Assertion) :
    (printTestCaseAssertionResult classId caseId as).filterMap Line.caseResult = [] := by
  induction as with
  | nil => rfl
  | cons a as ih =>
      rw [printTestCaseAssertionResult, List.filterMap_append, ih, List.append_nil]
      cases a.type <;> rfl

theorem printCase_caseResult (detail : Bool) (case : CaseResult) :
    (printCase detail case).filterMap Line.caseResult = [case.printedResult] := by
  cases detail with
  | false => rfl
  | true =>
      have hassertions := printTestCaseAssertionResult_caseResult case.classId case.caseId
        case.assertionResult
      simp [printCase, Line.caseResult, hassertions]

theorem printCases_caseResult (detail : Bool) (cases : List CaseResult) :
    (cases.flatMap (printCase detail)).filterMap Line.caseResult =
      cases.map CaseResult.printedResult := by
  induction cases with
  | nil => rfl
  | cons case cases ih =>
      rw [List.flatMap_cons, List.filterMap_append, ih, printCase_caseResult]
      rfl

/-- Lines are printed that give these results to cases. -/
def Prints (results : List TestResult) (lines : Option (List Line)) : Prop :=
  ∃ printed, lines = some printed ∧ printed.filterMap Line.caseResult = results

theorem printEach_prints {α : Type*} {print : α → Option (List Line)}
    {results : α → List TestResult} {xs : List α} (h : ∀ x ∈ xs, Prints (results x) (print x)) :
    Prints (xs.flatMap results) (printEach print xs) := by
  induction xs with
  | nil => exact ⟨[], rfl, rfl⟩
  | cons x xs ih =>
      rw [List.forall_mem_cons] at h
      rcases h.1 with ⟨lines, hlines, hresults⟩
      rcases ih h.2 with ⟨rest, hrest, hrestResults⟩
      refine ⟨lines ++ rest, ?_, ?_⟩
      · simp [printEach, hlines, hrest]
      · rw [List.filterMap_append, hresults, hrestResults, List.flatMap_cons]

theorem printGroup_prints (detail : Bool) {group : GroupResult} (hne : group.caseResult ≠ []) :
    Prints (group.caseResult.map CaseResult.printedResult) (printGroup detail group) := by
  rw [printGroup]
  split
  · rename_i hnil
    exact absurd hnil hne
  · rename_i first rest hcases
    refine ⟨_, rfl, ?_⟩
    rw [hcases, ← printCases_caseResult detail]
    cases detail with
    | false =>
        simp only [Bool.false_eq_true, if_false, List.append_nil, List.cons_append,
          List.filterMap_append, List.filterMap_cons, Line.caseResult, List.filterMap_nil]
    | true =>
        simp only [if_true, List.cons_append, List.filterMap_append, List.filterMap_cons,
          Line.caseResult, List.filterMap_nil, List.append_nil]

theorem printConfig_prints (detail : Bool) {config : ConfigResult}
    (h : ∀ group ∈ config.groupResult, group.caseResult ≠ []) :
    Prints ((config.groupResult.flatMap GroupResult.caseResult).map CaseResult.printedResult)
      (printConfig detail config) := by
  rcases printEach_prints fun group hgroup => printGroup_prints detail (h group hgroup)
    with ⟨lines, hlines, hresults⟩
  refine ⟨.config config.configId config.name :: lines ++ [.text ""], ?_, ?_⟩
  · rw [printConfig, hlines]
    rfl
  · rw [List.map_flatMap, ← hresults]
    simp only [List.cons_append, List.filterMap_append, List.filterMap_cons, Line.caseResult,
      List.filterMap_nil, List.append_nil]

theorem printSuite_prints (detail : Bool) {suite : SuiteResult}
    (h : ∀ group ∈ suite.groups, group.caseResult ≠ []) :
    Prints (suite.cases.map CaseResult.printedResult) (printSuite detail suite) := by
  have hconfigs : ∀ config ∈ suite.result, Prints
      ((config.groupResult.flatMap GroupResult.caseResult).map CaseResult.printedResult)
      (printConfig detail config) := by
    intro config hconfig
    apply printConfig_prints
    intro group hgroup
    exact h group (List.mem_flatMap.mpr ⟨config, hconfig, hgroup⟩)
  rcases printEach_prints hconfigs with ⟨lines, hlines, hresults⟩
  rw [SuiteResult.cases, SuiteResult.groups, List.flatMap_assoc, List.map_flatMap, ← hresults]
  rw [printSuite, hlines]
  refine ⟨_, rfl, ?_⟩
  cases detail <;> rfl

/-- The report is printed when every group has a case. -/
theorem printTestResults_prints (detail : Bool) {suites : List SuiteResult}
    (h : ∀ group ∈ suites.flatMap SuiteResult.groups, group.caseResult ≠ []) :
    Prints ((suites.flatMap SuiteResult.cases).map CaseResult.printedResult)
      (printTestResults detail suites) := by
  have hsuites : ∀ suite ∈ suites,
      Prints (suite.cases.map CaseResult.printedResult) (printSuite detail suite) := by
    intro suite hsuite
    apply printSuite_prints
    intro group hgroup
    exact h group (List.mem_flatMap.mpr ⟨suite, hsuite, hgroup⟩)
  rcases printEach_prints hsuites with ⟨lines, hlines, hresults⟩
  rw [List.map_flatMap, ← hresults, printTestResults, hlines]
  exact ⟨_, rfl, rfl⟩

/-! ## Runs -/

theorem Reached.endedGroups {s : Results} {verdicts : List TestResult}
    (h : Reached Step.Countable s verdicts) :
    ∀ group ∈ s.endedGroups, group.caseResult ≠ [] := by
  induction h with
  | start => exact List.forall_mem_nil _
  | step _ _ meets after ih => exact (Step.moves after).endedGroups meets ih

theorem Reached.endedCases {condition : Step → Results → Prop} {s : Results}
    {verdicts : List TestResult} (h : Reached condition s verdicts) :
    s.endedCases.map CaseResult.verdict = verdicts := by
  induction h with
  | start => rfl
  | step _ _ _ after ih => rw [(Step.moves after).endedCases, ih]

theorem Results.Consistent.case {s : Results} (h : s.Consistent) {case : CaseResult}
    (hcase : case ∈ s.cases) : case.Consistent := by
  rcases List.mem_flatMap.mp hcase with ⟨suite, hsuite, hcase⟩
  rcases List.mem_flatMap.mp hcase with ⟨group, hgroup, hcase⟩
  rcases List.mem_flatMap.mp hgroup with ⟨config, hconfig, hgroup⟩
  exact (((h suite hsuite).configs config hconfig).groups group hgroup).cases case hcase

theorem Reached.correct {s : Results} {verdicts : List TestResult}
    (h : Reached Step.Countable s verdicts) : s.Correct verdicts := by
  have hconsistent := h.consistent
  refine ⟨hconsistent, ?_, ?_⟩
  · intro case hcase
    rw [(hconsistent.case hcase).printedResult_eq, CaseResult.verdict, testCaseResult_eq_pass_iff,
      and_comm]
    rfl
  · intro outside detail
    have hgroups := h.endedGroups
    rw [Results.endedGroups_outside outside] at hgroups
    rcases printTestResults_prints detail hgroups with ⟨lines, hlines, hresults⟩
    refine ⟨lines, hlines, ?_⟩
    rw [hresults, ← h.endedCases, Results.endedCases_outside outside]
    apply List.map_congr_left
    intro case hcase
    exact (hconsistent.case hcase).printedResult_eq

/-- In every run that records what passes or fails as tests, and in which no group ends
without a case, the report is right. -/
theorem countableRun_correct (s : Results) (verdicts : List TestResult)
    (h : Reached Step.Countable s verdicts) : s.Correct verdicts :=
  h.correct

/-- A suite with one case, for which a test passes. -/
theorem countableRun_correct_single :
    ∃ s, Reached Step.Countable s [.pass] ∧ s.Correct [.pass] := by
  have run : Reached Step.Countable _ _ :=
    (Reached.start).step (.nextSuite "TestSuite_1" .pcieIde) trivial rfl
  replace run := run.step (.allocConfig 1 "default") trivial rfl
  replace run := run.step (.allocGroup "SelectiveIDE") trivial rfl
  replace run := run.step (.allocCase "Query.1" "Query" 0 1) trivial rfl
  replace run := run.step (.call (.assertion 0 1 ⟨0, .test, .pass, "", []⟩))
    (.inr rfl) rfl
  replace run := run.step .clearCase trivial rfl
  replace run := run.step .clearGroup (by rintro _ ⟨⟩; exact List.cons_ne_nil _ _) rfl
  replace run := run.step .clearConfig trivial rfl
  exact ⟨_, run, countableRun_correct _ _ run⟩

/-- A separator is recorded without a result. -/
def Step.Separated : Step → Results → Prop
  | .call (.assertion _ _ a), _ => a.type = .separator → a.result = .notTested
  | _, _ => True

/-- The report of a group without cases reads the class through a null pointer. -/
theorem emptyGroup_not_correct :
    ∃ s verdicts, Reached Step.Separated s verdicts ∧ ¬s.Correct verdicts := by
  have run : Reached Step.Separated _ _ :=
    (Reached.start).step (.nextSuite "TestSuite_1" .pcieIde) trivial rfl
  replace run := run.step (.allocConfig 1 "default") trivial rfl
  replace run := run.step (.allocGroup "SelectiveIDE") trivial rfl
  replace run := run.step .clearGroup trivial rfl
  replace run := run.step .clearConfig trivial rfl
  refine ⟨_, _, run, fun h => ?_⟩
  rcases h.printed (.inr rfl) false with ⟨lines, hlines, -⟩
  cases hlines

end TeeIoValidator.Suite
