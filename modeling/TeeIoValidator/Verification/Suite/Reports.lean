import TeeIoValidator.Verification.Results.Printing
import TeeIoValidator.Verification.Suite.Events

/-! # The results that the runner leaves

The runner allocates records and clears cursors as the steps of a run do, so what holds in the
states that steps reach holds of its results.
-/

namespace TeeIoValidator.Suite

variable {ω : Type}

/-! ## Levels -/

/-- The level to which a step leads. -/
def Step.target : Step → Level → Level
  | .nextSuite .., _ => .suite
  | .allocConfig .., _ => .config
  | .allocGroup _, _ => .group
  | .allocCase .., _ => .case
  | .call _, level => level
  | .clearCase, _ => .group
  | .clearGroup, _ => .config
  | .clearConfig, _ => .suite

theorem Moves.level {step : Step} {s s' : Results} (h : Moves step s s') :
    s'.level = step.target s.level := by
  cases h with
  | @groupResult _ _ _ _ _ _ _ case results => cases case <;> rfl
  | _ => rfl

/-- The group that the cursor points to has a case. -/
def Results.HasCase (s : Results) : Prop :=
  ∀ group ∈ s.currentGroup, group.close.caseResult ≠ []

theorem Moves.hasCase_call {call : Call} {s s' : Results} (h : Moves (.call call) s s')
    (hs : s.HasCase) : s'.HasCase := by
  cases h with
  | assertion =>
      rintro _ ⟨⟩
      exact List.append_ne_nil_of_right_ne_nil _ (List.cons_ne_nil _ _)
  | configItem items =>
      rintro _ ⟨⟩
      exact List.append_ne_nil_of_right_ne_nil _ (List.cons_ne_nil _ _)
  | @groupResult _ _ _ _ _ _ group case results =>
      have hgroup := hs ⟨group, case⟩ rfl
      rintro _ ⟨⟩
      cases case <;> exact hgroup
  | ignored => exact hs

theorem Moves.hasCase_allocCase {name className : String} {classId caseId : ℤ} {s s' : Results}
    (h : Moves (.allocCase name className classId caseId) s s') : s'.HasCase := by
  cases h
  rintro _ ⟨⟩
  exact List.append_ne_nil_of_right_ne_nil _ (List.cons_ne_nil _ _)

theorem Moves.hasCase_clearCase {s s' : Results} (h : Moves .clearCase s s') (hs : s.HasCase) :
    s'.HasCase := by
  cases h with
  | @clearCase _ _ _ group case =>
      rintro _ ⟨⟩
      exact hs ⟨group, some case⟩ rfl

/-! ## Reachable results -/

/-- Countable steps lead to the results, and the cursors are set down to a level. -/
structure Reachable (level : Level) (s : Results) : Prop where
  level : s.level = level
  reached : ∃ verdicts, Reached Step.Countable s verdicts

theorem Reachable.step {level : Level} {s s' : Results} (step : Step) (h : Reachable level s)
    (meets : step.Countable s) (after : step.apply s = some s') :
    Reachable (step.target level) s' := by
  rcases h with ⟨rfl, verdicts, hreached⟩
  exact ⟨(Step.moves after).level, _, hreached.step step meets after⟩

/-- The calls of a function of the tests. -/
theorem Reachable.calls {level : Level} {calls : List Call} {s s' : Results}
    (h : Reachable level s) (hcountable : ∀ call ∈ calls, call.Countable)
    (happly : applyCalls calls s = some s') :
    Reachable level s' ∧ (s.HasCase → s'.HasCase) := by
  induction calls generalizing s with
  | nil =>
      cases happly
      exact ⟨h, id⟩
  | cons call calls ih =>
      rw [List.forall_mem_cons] at hcountable
      rcases Option.bind_eq_some_iff.mp happly with ⟨s₁, hcall, hrest⟩
      rcases ih (h.step (.call call) hcountable.1 hcall) hcountable.2 hrest with
        ⟨hreachable, hcase⟩
      exact ⟨hreachable, fun hs => hcase ((Call.moves hcall).hasCase_call hs)⟩

/-! ## The runner -/

def TestFunc.Countable {α : Type} (func : TestFunc α) : Prop :=
  ∀ place results a ret calls a', func place results a = some (ret, calls, a') →
    ∀ call ∈ calls, call.Countable

structure RunTestConfigItem.Countable (item : RunTestConfigItem ω) : Prop where
  support : item.supportFunc.Countable
  enable : item.enableFunc.Countable
  disable : item.disableFunc.Countable
  check : item.checkFunc.Countable

def RunTestConfig.Countable (config : RunTestConfig ω) : Prop :=
  ∀ item ∈ config.configItem, item.Countable

structure RunTestCase.Countable (testCase : RunTestCase ω) : Prop where
  setup : ∀ func ∈ testCase.setupFunc, func.Countable
  run : ∀ func ∈ testCase.runFunc, func.Countable
  teardown : ∀ func ∈ testCase.teardownFunc, func.Countable

structure RunTestGroup.Countable (testGroup : RunTestGroup ω) : Prop where
  setup : testGroup.setupFunc.Countable
  teardown : testGroup.teardownFunc.Countable
  testCase : ∀ testCase ∈ testGroup.testCase, testCase.Countable
  nonempty : testGroup.testCase ≠ []

/-- Every function of the suite makes countable calls, and every group has a case. -/
structure RunTestSuite.Countable (suite : RunTestSuite ω) : Prop where
  testConfig : ∀ config ∈ suite.testConfig, config.Countable
  testGroup : ∀ testGroup ∈ suite.testGroup, testGroup.Countable

theorem exec_reachable {level : Level} {func : TestFunc ω} {place : Place} {m m' : Machine ω}
    {ret : Bool} (h : m.exec func place = some (ret, m')) (hfunc : func.Countable)
    (hm : Reachable level m.results) :
    Reachable level m'.results ∧ (m.results.HasCase → m'.results.HasCase) := by
  rcases exec_eq_some h with ⟨calls, world, results, hcall, hresults, rfl⟩
  exact hm.calls (hfunc _ _ _ _ _ _ hcall) hresults

theorem execCase_reachable {level : Level} {func : TestFunc (Runner.Action × ω)} {place : Place}
    {case : ℕ} {m m' : Machine ω} {ret : Bool}
    (h : m.execCase func place case = some (ret, m')) (hfunc : func.Countable)
    (hm : Reachable level m.results) :
    Reachable level m'.results ∧ (m.results.HasCase → m'.results.HasCase) := by
  rcases execCase_eq_some h with ⟨calls, action, world, results, hcall, hresults, rfl⟩
  exact hm.calls (hfunc _ _ _ _ _ _ hcall) hresults

theorem runTestCase_reachable {config : RunTestConfig ω} {group case : ℕ}
    {testCase : RunTestCase ω} {m m' : Machine ω} (hconfig : config.Countable)
    (hcase : testCase.Countable) (h : runTestCase config group case testCase m = some m')
    (hm : Reachable .case m.results ∧ m.results.HasCase) :
    Reachable .case m'.results ∧ m'.results.HasCase := by
  refine runTestCase_keeps (P := fun m => Reachable .case m.results ∧ m.results.HasCase)
    ?_ ?_ ?_ h hm
  · intro item hitem func hfunc a ret b hexec ha
    have hcountable : func.Countable := by
      have hall := hconfig item hitem
      simp only [List.mem_cons, List.not_mem_nil, or_false] at hfunc
      rcases hfunc with rfl | rfl | rfl | rfl
      · exact hall.support
      · exact hall.enable
      · exact hall.disable
      · exact hall.check
    rcases exec_reachable hexec hcountable ha.1 with ⟨hreachable, hhas⟩
    exact ⟨hreachable, hhas ha.2⟩
  · intro func hfunc a ret b hexec ha
    have hcountable : func.Countable := by
      simp only [List.mem_cons, List.not_mem_nil, or_false] at hfunc
      rcases hfunc with hfunc | hfunc | hfunc
      · exact hcase.setup func hfunc.symm
      · exact hcase.run func hfunc.symm
      · exact hcase.teardown func hfunc.symm
    rcases execCase_reachable hexec hcountable ha.1 with ⟨hreachable, hhas⟩
    exact ⟨hreachable, hhas ha.2⟩
  · intro a ha
    exact ha

theorem runTestCases_reachable {config : RunTestConfig ω} {c group case : ℕ} {setup : Bool}
    {testCases : List (RunTestCase ω)} {m m' : Machine ω} (hconfig : config.Countable)
    (hcases : ∀ testCase ∈ testCases, testCase.Countable)
    (h : runTestCases config c group setup case testCases m = some m')
    (hm : Reachable .group m.results) (hhas : testCases ≠ [] ∨ m.results.HasCase) :
    Reachable .group m'.results ∧ m'.results.HasCase := by
  induction testCases generalizing case m with
  | nil =>
      cases h
      exact ⟨hm, hhas.resolve_left (fun hne => hne rfl)⟩
  | cons testCase testCases ih =>
      rw [List.forall_mem_cons] at hcases
      simp only [runTestCases, Option.bind_eq_bind, Option.bind_eq_some_iff] at h
      rcases h with ⟨m₁, hran, hrest⟩
      let alloc : Step := .allocCase testCase.name testCase.className testCase.classId
        testCase.caseId
      have halloc : alloc.apply m.results = some (m.results.allocRunTestCaseResult testCase.name
          testCase.className testCase.classId testCase.caseId) := if_pos hm.level
      have hstart := hm.step alloc trivial halloc
      have hstartCase := (Step.moves halloc).hasCase_allocCase
      have hdone : Reachable .case m₁.results ∧ m₁.results.HasCase := by
        cases setup with
        | false =>
            cases hran
            exact ⟨hstart, hstartCase⟩
        | true => exact runTestCase_reachable hconfig hcases.1 hran ⟨hstart, hstartCase⟩
      have hclear : Step.clearCase.apply m₁.results = some m₁.results.clearCase :=
        if_pos hdone.1.level
      exact ih hcases.2 hrest (hdone.1.step .clearCase trivial hclear)
        (.inr ((Step.moves hclear).hasCase_clearCase hdone.2))

theorem doRunTestGroup_reachable {config : RunTestConfig ω} {c group : ℕ}
    {testGroup : RunTestGroup ω} {m m' : Machine ω} (hconfig : config.Countable)
    (hgroup : testGroup.Countable) (h : doRunTestGroup config c group testGroup m = some m')
    (hm : Reachable .group m.results) : Reachable .group m'.results ∧ m'.results.HasCase := by
  have hempty : testGroup.testCase.isEmpty = false := List.isEmpty_eq_false_iff.mpr hgroup.nonempty
  simp only [doRunTestGroup, hempty, Bool.false_eq_true, if_false, Option.bind_eq_bind,
    Option.bind_eq_some_iff] at h
  rcases h with ⟨⟨ret, m₁⟩, hsetup, m₂, hcases, hteardown⟩
  have hstart := (exec_reachable hsetup hgroup.setup hm).1
  have hdone := runTestCases_reachable hconfig hgroup.testCase hcases hstart
    (.inl hgroup.nonempty)
  cases ret with
  | false =>
      cases hteardown
      exact hdone
  | true =>
      simp only [if_true, Option.bind_eq_some_iff] at hteardown
      rcases hteardown with ⟨⟨torn, m₃⟩, hexec, heq⟩
      cases heq
      rcases exec_reachable hexec hgroup.teardown hdone.1 with ⟨hreachable, hhas⟩
      exact ⟨hreachable, hhas hdone.2⟩

theorem runTestGroups_reachable {config : RunTestConfig ω} {c group : ℕ}
    {testGroups : List (RunTestGroup ω)} {m m' : Machine ω}
    {cursor : ℕ × List (RunTestGroup ω)} (hconfig : config.Countable)
    (hgroups : ∀ testGroup ∈ testGroups, testGroup.Countable)
    (h : runTestGroups config c group testGroups m = some (cursor, m'))
    (hm : Reachable .config m.results) :
    Reachable .config m'.results ∧ ∀ testGroup ∈ cursor.2, testGroup.Countable := by
  induction testGroups generalizing group m with
  | nil =>
      cases h
      exact ⟨hm, hgroups⟩
  | cons testGroup testGroups ih =>
      rw [List.forall_mem_cons] at hgroups
      simp only [runTestGroups, Option.bind_eq_bind, Option.bind_eq_some_iff] at h
      rcases h with ⟨m₁, hran, hrest⟩
      have hstart := hm.step (.allocGroup testGroup.name) trivial (if_pos hm.level)
      have hdone := doRunTestGroup_reachable hconfig hgroups.1 hran hstart
      have hend := hdone.1.step .clearGroup hdone.2 (if_pos hdone.1.level)
      exact ih hgroups.2 hrest hend

theorem runTestConfigs_reachable {c : ℕ} {configs : List (RunTestConfig ω)}
    {cursor : ℕ × List (RunTestGroup ω)} {m m' : Machine ω}
    (hconfigs : ∀ config ∈ configs, config.Countable)
    (hgroups : ∀ testGroup ∈ cursor.2, testGroup.Countable)
    (h : runTestConfigs c configs cursor m = some m') (hm : Reachable .suite m.results) :
    Reachable .suite m'.results := by
  induction configs generalizing c cursor m with
  | nil =>
      cases h
      exact hm
  | cons config configs ih =>
      rw [List.forall_mem_cons] at hconfigs
      simp only [runTestConfigs, Option.bind_eq_bind, Option.bind_eq_some_iff] at h
      rcases h with ⟨⟨cursor', m₁⟩, hran, hrest⟩
      have hstart := hm.step (.allocConfig config.configId config.name) trivial
        (if_pos hm.level)
      have hdone := runTestGroups_reachable hconfigs.1 hgroups hran hstart
      have hend := hdone.1.step .clearConfig trivial (if_pos hdone.1.level)
      exact ih hconfigs.2 hdone.2 hrest hend

theorem runTestSuites_reached {suites : List (RunTestSuite ω)} {world : ω}
    {results results' : Results} (hsuites : ∀ suite ∈ suites, suite.Countable)
    (h : runTestSuites suites world results = some results')
    (hlevel : results.level = .nothing ∨ results.level = .suite)
    (hreached : ∃ verdicts, Reached Step.Countable results verdicts) :
    (results'.level = .nothing ∨ results'.level = .suite) ∧
      ∃ verdicts, Reached Step.Countable results' verdicts := by
  induction suites generalizing world results with
  | nil =>
      cases h
      exact ⟨hlevel, hreached⟩
  | cons suite suites ih =>
      rw [List.forall_mem_cons] at hsuites
      simp only [runTestSuites, Option.bind_eq_bind, Option.bind_eq_some_iff] at h
      rcases h with ⟨m, hran, hrest⟩
      rcases hreached with ⟨verdicts, hreached⟩
      have hstart : Reachable .suite (results.nextSuite suite.name suite.testCategory) :=
        ⟨rfl, _, hreached.step (.nextSuite suite.name suite.testCategory) trivial
          (if_pos hlevel)⟩
      have hdone := runTestConfigs_reachable hsuites.1.testConfig hsuites.1.testGroup hran hstart
      exact ih hsuites.2 hrest (.inr hdone.level) hdone.reached

/-- The reports of a run that no assertion stops are printed, and they are right. -/
theorem run_correct {suites : List (RunTestSuite ω)} {world : ω} {results : Results}
    (hsuites : ∀ suite ∈ suites, suite.Countable)
    (h : runTestSuites suites world Results.empty = some results) :
    (∃ verdicts, results.Correct verdicts) ∧ ∃ lines, run suites world = some lines := by
  rcases runTestSuites_reached hsuites h (.inl rfl) ⟨[], .start⟩ with ⟨hlevel, verdicts, hreached⟩
  have hcorrect := hreached.correct
  refine ⟨⟨verdicts, hcorrect⟩, ?_⟩
  rcases hcorrect.printed hlevel true with ⟨detailed, hdetailed, -⟩
  rcases hcorrect.printed hlevel false with ⟨summary, hsummary, -⟩
  refine ⟨detailed ++ summary, ?_⟩
  simp [run, h, hdetailed, hsummary]

end TeeIoValidator.Suite
