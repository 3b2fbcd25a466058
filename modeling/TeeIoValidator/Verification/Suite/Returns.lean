import TeeIoValidator.Verification.Results.Steps
import TeeIoValidator.Verification.Suite.Events

/-! # Suites that return

A suite is run to its end when its functions return and record results of assertions only for
the case that is run: no other assertion stops the runner.
-/

namespace TeeIoValidator.Suite

open Runner

variable {ω α : Type}

/-- The case whose result is filled. -/
def Results.currentIds (s : Results) : Option (ℤ × ℤ) :=
  s.currentCase.map fun case => (case.classId, case.caseId)

/-- The function returns, and records results of assertions only of these cases. -/
def Returns (cases : ℤ × ℤ → Prop) (func : TestFunc α) : Prop :=
  ∀ place results a, ∃ ret calls a', func place results a = some (ret, calls, a') ∧
    ∀ caseClass caseId b, .assertion caseClass caseId b ∈ calls → cases (caseClass, caseId)

/-- The functions of the configurations and of the groups record no results of assertions, those
of a case only its own. -/
structure RunTestSuite.Returns (suite : RunTestSuite ω) : Prop where
  configs : ∀ config ∈ suite.testConfig, ∀ item ∈ config.configItem,
    ∀ func ∈ [item.supportFunc, item.enableFunc, item.disableFunc, item.checkFunc],
      Suite.Returns (fun _ => False) func
  groups : ∀ testGroup ∈ suite.testGroup,
    ∀ func ∈ [testGroup.setupFunc, testGroup.teardownFunc], Suite.Returns (fun _ => False) func
  cases : ∀ testGroup ∈ suite.testGroup, ∀ testCase ∈ testGroup.testCase,
    ∀ func, some func ∈ [testCase.setupFunc, testCase.runFunc, testCase.teardownFunc] →
      Suite.Returns (· = (testCase.classId, testCase.caseId)) func

/-! ## Calls -/

/-- The cursors are set as far as before, and the case is the same. -/
structure SameCase (s s' : Results) : Prop where
  level : s'.level = s.level
  ids : s'.currentIds = s.currentIds

theorem SameCase.trans {s s' s'' : Results} (h : SameCase s s') (h' : SameCase s' s'') :
    SameCase s s'' :=
  ⟨h'.level.trans h.level, h'.ids.trans h.ids⟩

theorem Call.sameCase {call : Call} {s s' : Results} (h : call.apply s = some s') :
    SameCase s s' := by
  cases Call.moves h with
  | @groupResult _ _ _ _ _ _ _ case results => cases case <;> exact ⟨rfl, rfl⟩
  | _ => exact ⟨rfl, rfl⟩

theorem Call.exists_apply (call : Call) (s : Results)
    (hids : ∀ caseClass caseId a, call = .assertion caseClass caseId a →
      s.currentIds = some (caseClass, caseId)) : ∃ s', call.apply s = some s' := by
  cases call with
  | assertion caseClass caseId a =>
      obtain ⟨case, hcase, hmatch⟩ := Option.map_eq_some_iff.mp (hids caseClass caseId a rfl)
      rw [Prod.mk.injEq] at hmatch
      simp [Call.apply, Results.teeioRecordAssertionResult, hcase, hmatch]
  | configItem configItemId func result => exact ⟨_, rfl⟩
  | group func result message => exact ⟨_, rfl⟩

theorem exists_applyCalls {calls : List Call} {s : Results}
    (hids : ∀ caseClass caseId a, .assertion caseClass caseId a ∈ calls →
      s.currentIds = some (caseClass, caseId)) :
    ∃ s', applyCalls calls s = some s' ∧ SameCase s s' := by
  induction calls generalizing s with
  | nil => exact ⟨s, rfl, rfl, rfl⟩
  | cons call calls ih =>
      obtain ⟨s₁, hcall⟩ := call.exists_apply s fun caseClass caseId a heq =>
        hids caseClass caseId a (heq ▸ List.mem_cons_self)
      have hsame := Call.sameCase hcall
      obtain ⟨s₂, hcalls, hsame'⟩ := ih (s := s₁) fun caseClass caseId a ha =>
        hsame.ids.trans (hids caseClass caseId a (List.mem_cons_of_mem _ ha))
      refine ⟨s₂, ?_, hsame.trans hsame'⟩
      rw [applyCalls, hcall]
      exact hcalls

section Functions

variable {cases : ℤ × ℤ → Prop} {m : Machine ω}

theorem Returns.exec {func : TestFunc ω} (h : Returns cases func)
    (hids : ∀ ids, cases ids → m.results.currentIds = some ids) (place : Place) :
    ∃ ret m', m.exec func place = some (ret, m') ∧ SameCase m.results m'.results := by
  obtain ⟨ret, calls, world, hfunc, hcalls⟩ := h place m.results m.world
  obtain ⟨s, happly, hsame⟩ := exists_applyCalls fun caseClass caseId a ha =>
    hids _ (hcalls caseClass caseId a ha)
  exact ⟨ret, { m with world, results := s }, by simp [Machine.exec, hfunc, happly], hsame⟩

theorem Returns.execCase {func : TestFunc (Action × ω)} (h : Returns cases func)
    (hids : ∀ ids, cases ids → m.results.currentIds = some ids) (place : Place) (case : ℕ) :
    ∃ ret m', m.execCase func place case = some (ret, m') ∧ SameCase m.results m'.results := by
  obtain ⟨ret, calls, a, hfunc, hcalls⟩ := h place m.results (m.action place.group case, m.world)
  obtain ⟨s, happly, hsame⟩ := exists_applyCalls fun caseClass caseId b hb =>
    hids _ (hcalls caseClass caseId b hb)
  exact ⟨ret, Machine.setAction place.group case a.1 { m with world := a.2, results := s },
    by simp [Machine.execCase, hfunc, happly], hsame⟩

end Functions

/-! ## One case -/

/-- A program that runs, on a machine on which the same case is run as on `m`. -/
def Running (m : Machine ω) (s : Option (Machine ω)) : Prop :=
  ∃ a, s = some a ∧ SameCase m.results a.results

theorem running_running {m : Machine ω} {func : Machine ω → Option (Bool × Machine ω)}
    (hfunc : ∀ a, SameCase m.results a.results →
      ∃ ret a', func a = some (ret, a') ∧ SameCase a.results a'.results)
    (s : Option (Machine ω)) (hs : Running m s) : Running m (running func s).2 := by
  obtain ⟨a, rfl, hsame⟩ := hs
  obtain ⟨ret, a', hcall, hsame'⟩ := hfunc a hsame
  refine ⟨a', ?_, hsame.trans hsame'⟩
  rw [running, hcall]

section Case

variable {config : RunTestConfig ω} {testCase : RunTestCase ω} {m : Machine ω}

theorem exists_runTestCase
    (hconfig : ∀ item ∈ config.configItem,
      ∀ func ∈ [item.supportFunc, item.enableFunc, item.disableFunc, item.checkFunc],
        Returns (fun _ => False) func)
    (hcase : ∀ func, some func ∈ [testCase.setupFunc, testCase.runFunc, testCase.teardownFunc] →
      Returns (· = (testCase.classId, testCase.caseId)) func)
    (hids : m.results.currentIds = some (testCase.classId, testCase.caseId)) (group case : ℕ) :
    ∃ m', runTestCase config group case testCase m = some m' ∧
      SameCase m.results m'.results := by
  have hkeeps : ∀ func, some func ∈ [testCase.setupFunc, testCase.runFunc,
      testCase.teardownFunc] → ∀ s, Running m s →
        Running m (running (fun a => a.execCase func ⟨config.configId, group⟩ case) s).2 := by
    intro func hfunc
    refine running_running fun a hsame => (hcase func hfunc).execCase ?_ _ case
    rintro ids rfl
    exact hsame.ids.trans hids
  obtain ⟨r, hr⟩ := doRunTestCase_returns (caseContext group case).stopping
    (testCase.at ⟨config.configId, group⟩ case)
    (config.configItem.map (RunTestConfigItem.at · ⟨config.configId, group⟩)) (by
      intro run hrun s
      obtain ⟨func, -, rfl⟩ := Option.map_eq_some_iff.mp hrun
      exact ⟨_, rfl⟩) (some m)
  have hrunning : Running m r.2 := by
    refine doRunTestCase_keeps ?_ ⟨?_, ?_, ?_⟩ ?_ ⟨m, rfl, rfl, rfl⟩ hr
    · intro _ hmem
      obtain ⟨item, hitem, rfl⟩ := List.mem_map.mp hmem
      have hitems : ∀ func ∈ [item.supportFunc, item.enableFunc, item.disableFunc,
          item.checkFunc], ∀ s, Running m s →
            Running m (running (Machine.exec func ⟨config.configId, group⟩) s).2 :=
        fun func hfunc => running_running fun a _ =>
          (hconfig item hitem func hfunc).exec (fun _ hfalse => hfalse.elim) _
      simp only [List.forall_mem_cons] at hitems
      exact ⟨hitems.1, hitems.2.1, hitems.2.2.1, hitems.2.2.2.1⟩
    · intro setup hsetup
      obtain ⟨func, hfunc, rfl⟩ := Option.map_eq_some_iff.mp hsetup
      exact hkeeps func (by simp [hfunc])
    · intro run hrun s s' hran
      obtain ⟨func, hfunc, rfl⟩ := Option.map_eq_some_iff.mp hrun
      cases hran
      exact hkeeps func (by simp [hfunc]) s
    · intro teardown hteardown
      obtain ⟨func, hfunc, rfl⟩ := Option.map_eq_some_iff.mp hteardown
      exact hkeeps func (by simp [hfunc])
    · rintro s ⟨a, rfl, hsame⟩
      exact ⟨_, rfl, hsame⟩
  obtain ⟨m', hm', hsame⟩ := hrunning
  refine ⟨m', ?_, hsame⟩
  rw [runTestCase, hr]
  exact hm'

end Case

/-! ## The loops -/

section Cursors

variable {s : Results}

theorem level_allocCase (h : s.level = .group) (name className : String) (classId caseId : ℤ) :
    (s.allocRunTestCaseResult name className classId caseId).level = .case ∧
      (s.allocRunTestCaseResult name className classId caseId).currentIds =
        some (classId, caseId) := by
  rcases s with ⟨finished, _ | ⟨suite, _ | ⟨config, _ | ⟨group, _ | case⟩⟩⟩⟩
  case some.some.some.none => exact ⟨rfl, rfl⟩
  all_goals cases h

theorem level_clearCase (h : s.level = .case) : s.clearCase.level = .group := by
  rcases s with ⟨finished, _ | ⟨suite, _ | ⟨config, _ | ⟨group, _ | case⟩⟩⟩⟩
  case some.some.some.some => rfl
  all_goals cases h

theorem level_allocGroup (h : s.level = .config) (name : String) :
    (s.allocRunTestGroupResult name).level = .group := by
  rcases s with ⟨finished, _ | ⟨suite, _ | ⟨config, _ | ⟨group, _ | case⟩⟩⟩⟩
  case some.some.none => rfl
  all_goals cases h

theorem level_clearGroup (h : s.level = .group) : s.clearGroup.level = .config := by
  rcases s with ⟨finished, _ | ⟨suite, _ | ⟨config, _ | ⟨group, _ | case⟩⟩⟩⟩
  case some.some.some.none => rfl
  all_goals cases h

theorem level_allocConfig (h : s.level = .suite) (configId : ℤ) (name : String) :
    (s.allocRunTestConfigResult configId name).level = .config := by
  rcases s with ⟨finished, _ | ⟨suite, _ | ⟨config, _ | ⟨group, _ | case⟩⟩⟩⟩
  case some.none => rfl
  all_goals cases h

theorem level_clearConfig (h : s.level = .config) : s.clearConfig.level = .suite := by
  rcases s with ⟨finished, _ | ⟨suite, _ | ⟨config, _ | ⟨group, _ | case⟩⟩⟩⟩
  case some.some.none => rfl
  all_goals cases h

end Cursors

namespace RunTestSuite.Returns

variable {suite : RunTestSuite ω} (h : suite.Returns)

include h

theorem exists_runTestCases {config : RunTestConfig ω} (hconfig : config ∈ suite.testConfig)
    {testGroup : RunTestGroup ω} (hgroup : testGroup ∈ suite.testGroup) (c group : ℕ)
    (setup : Bool) {testCases : List (RunTestCase ω)}
    (hcases : ∀ testCase ∈ testCases, testCase ∈ testGroup.testCase) (case : ℕ) {m : Machine ω}
    (hm : m.results.level = .group) :
    ∃ m', runTestCases config c group setup case testCases m = some m' ∧
      m'.results.level = .group := by
  induction testCases generalizing case m with
  | nil => exact ⟨m, rfl, hm⟩
  | cons testCase testCases ih =>
      rw [List.forall_mem_cons] at hcases
      have hcursor := level_allocCase hm testCase.name testCase.className testCase.classId
        testCase.caseId
      obtain ⟨m₁, hrun, hlevel⟩ : ∃ m₁, (if setup then
          runTestCase config group case testCase
            ((m.onResults (Results.allocRunTestCaseResult testCase.name testCase.className
              testCase.classId testCase.caseId)).log (.case c group case (m.action group case)))
          else some (m.onResults (Results.allocRunTestCaseResult testCase.name testCase.className
            testCase.classId testCase.caseId))) = some m₁ ∧ m₁.results.level = .case := by
        cases setup with
        | false => exact ⟨_, rfl, hcursor.1⟩
        | true =>
            obtain ⟨m₁, hrun, hsame⟩ := exists_runTestCase (h.configs config hconfig)
              (h.cases testGroup hgroup testCase hcases.1) (m := (m.onResults
                (Results.allocRunTestCaseResult testCase.name testCase.className
                  testCase.classId testCase.caseId)).log
                    (.case c group case (m.action group case))) hcursor.2 group case
            exact ⟨m₁, hrun, hsame.level.trans hcursor.1⟩
      obtain ⟨m₂, hrest, hlevel₂⟩ := ih hcases.2 (case + 1)
        (m := m₁.onResults Results.clearCase) (level_clearCase hlevel)
      refine ⟨m₂, ?_, hlevel₂⟩
      simp only [runTestCases, Option.bind_eq_bind, Option.bind_eq_some_iff]
      exact ⟨m₁, hrun, hrest⟩

theorem exists_doRunTestGroup {config : RunTestConfig ω} (hconfig : config ∈ suite.testConfig)
    {testGroup : RunTestGroup ω} (hgroup : testGroup ∈ suite.testGroup) (c group : ℕ)
    {m : Machine ω} (hm : m.results.level = .group) :
    ∃ m', doRunTestGroup config c group testGroup m = some m' ∧ m'.results.level = .group := by
  have hfuncs := h.groups testGroup hgroup
  simp only [List.forall_mem_cons] at hfuncs
  rw [doRunTestGroup]
  by_cases hempty : testGroup.testCase.isEmpty
  · exact ⟨m, by rw [if_pos hempty], hm⟩
  obtain ⟨ret, m₁, hsetup, hsame⟩ := hfuncs.1.exec (m := m) (fun _ hfalse => hfalse.elim)
    ⟨config.configId, group⟩
  obtain ⟨m₂, hcases, hlevel⟩ := h.exists_runTestCases hconfig hgroup c group ret
    (fun _ hmem => hmem) 0 (m := m₁.log (.groupSetup c group ret)) (hsame.level.trans hm)
  obtain ⟨torn, m₃, hteardown, hsame₃⟩ := hfuncs.2.1.exec (m := m₂)
    (fun _ hfalse => hfalse.elim) ⟨config.configId, group⟩
  simp only [if_neg hempty, hsetup, hcases, Option.bind_eq_bind, Option.bind_some]
  cases ret with
  | false => exact ⟨m₂, rfl, hlevel⟩
  | true => exact ⟨m₃, by simp [hteardown], hsame₃.level.trans hlevel⟩

theorem exists_runTestGroups {config : RunTestConfig ω} (hconfig : config ∈ suite.testConfig)
    (c : ℕ) {testGroups : List (RunTestGroup ω)}
    (hgroups : ∀ testGroup ∈ testGroups, testGroup ∈ suite.testGroup) (group : ℕ)
    {m : Machine ω} (hm : m.results.level = .config) :
    ∃ n m', runTestGroups config c group testGroups m = some ((n, []), m') ∧
      m'.results.level = .config := by
  induction testGroups generalizing group m with
  | nil => exact ⟨group, m, rfl, hm⟩
  | cons testGroup testGroups ih =>
      rw [List.forall_mem_cons] at hgroups
      obtain ⟨m₁, hrun, hlevel⟩ := h.exists_doRunTestGroup hconfig hgroups.1 c group
        (m := (m.onResults (Results.allocRunTestGroupResult testGroup.name)).log
          (.group c group)) (level_allocGroup hm testGroup.name)
      obtain ⟨n, m₂, hrest, hlevel₂⟩ := ih hgroups.2 (group + 1)
        (m := m₁.onResults Results.clearGroup) (level_clearGroup hlevel)
      refine ⟨n, m₂, ?_, hlevel₂⟩
      simp only [runTestGroups, Option.bind_eq_bind, Option.bind_eq_some_iff]
      exact ⟨m₁, hrun, hrest⟩

theorem exists_runTestConfigs {configs : List (RunTestConfig ω)}
    (hconfigs : ∀ config ∈ configs, config ∈ suite.testConfig)
    {testGroups : List (RunTestGroup ω)}
    (hgroups : ∀ testGroup ∈ testGroups, testGroup ∈ suite.testGroup) (c group : ℕ)
    {m : Machine ω} (hm : m.results.level = .suite) :
    ∃ m', runTestConfigs c configs (group, testGroups) m = some m' := by
  induction configs generalizing testGroups c group m with
  | nil => exact ⟨m, rfl⟩
  | cons config configs ih =>
      rw [List.forall_mem_cons] at hconfigs
      obtain ⟨n, m₁, hrun, hlevel⟩ := h.exists_runTestGroups hconfigs.1 c hgroups group
        (m := m.onResults (Results.allocRunTestConfigResult config.configId config.name))
        (level_allocConfig hm config.configId config.name)
      obtain ⟨m₂, hrest⟩ := ih hconfigs.2 (List.forall_mem_nil (· ∈ suite.testGroup)) (c + 1) n
        (m := m₁.onResults Results.clearConfig) (level_clearConfig hlevel)
      refine ⟨m₂, ?_⟩
      simp only [runTestConfigs, Option.bind_eq_bind, Option.bind_eq_some_iff]
      exact ⟨_, hrun, hrest⟩

/-- The runner reaches the end of the suite. -/
theorem exists_doRunTestSuite (world : ω) (results : Results) :
    ∃ m, doRunTestSuite suite
      (Machine.start world (results.nextSuite suite.name suite.testCategory)) = some m :=
  h.exists_runTestConfigs (fun _ hmem => hmem) (fun _ hmem => hmem) 0 0 rfl

end RunTestSuite.Returns

end TeeIoValidator.Suite
