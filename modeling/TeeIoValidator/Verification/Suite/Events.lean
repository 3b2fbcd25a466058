import TeeIoValidator.Model.Suite
import TeeIoValidator.Verification.Stopping

/-! # The calls of the runner

What the functions of the tests keep, a case keeps, so the log of a suite is that of its loops.
-/

namespace TeeIoValidator.Suite

open Runner

variable {ω : Type}

/-! ## One case -/

section Case

variable {place : Place} {m m' : Machine ω} {ret : Bool}

/-- A function of a group or of a config item changes the world and records results. -/
theorem exec_eq_some {func : TestFunc ω} (h : m.exec func place = some (ret, m')) :
    ∃ calls world results, func place m.results m.world = some (ret, calls, world) ∧
      applyCalls calls m.results = some results ∧ m' = { m with world, results } := by
  simp only [Machine.exec, Option.bind_eq_bind, Option.bind_eq_some_iff, Option.some.injEq,
    Prod.mk.injEq] at h
  rcases h with ⟨⟨_, calls, world⟩, hfunc, results, hresults, rfl, rfl⟩
  exact ⟨calls, world, results, hfunc, hresults, rfl⟩

/-- A function of a case also sets the case's own action. -/
theorem execCase_eq_some {func : TestFunc (Action × ω)} {case : ℕ}
    (h : m.execCase func place case = some (ret, m')) :
    ∃ calls action world results,
      func place m.results (m.action place.group case, m.world) =
        some (ret, calls, action, world) ∧
      applyCalls calls m.results = some results ∧
      m' = Machine.setAction place.group case action { m with world, results } := by
  simp only [Machine.execCase, Option.bind_eq_bind, Option.bind_eq_some_iff, Option.some.injEq,
    Prod.mk.injEq] at h
  rcases h with ⟨⟨_, calls, action, world⟩, hfunc, results, hresults, rfl, rfl⟩
  exact ⟨calls, action, world, results, hfunc, hresults, rfl⟩

/-- What every function of the configuration and of the case keeps, the run of the case keeps. -/
theorem runTestCase_keeps {P : Machine ω → Prop} {config : RunTestConfig ω} {group case : ℕ}
    {testCase : RunTestCase ω}
    (hitem : ∀ item ∈ config.configItem,
      ∀ func ∈ [item.supportFunc, item.enableFunc, item.disableFunc, item.checkFunc],
        ∀ m ret m', m.exec func ⟨config.configId, group⟩ = some (ret, m') → P m → P m')
    (hcase : ∀ func, some func ∈ [testCase.setupFunc, testCase.runFunc, testCase.teardownFunc] →
      ∀ m ret m', m.execCase func ⟨config.configId, group⟩ case = some (ret, m') → P m → P m')
    (hset : ∀ m : Machine ω, P m → P (m.setAction group case .skip))
    (hrun : runTestCase config group case testCase m = some m') (hm : P m) : P m' := by
  have hret : ∃ ret, doRunTestCase (caseContext group case).stopping
      (testCase.at ⟨config.configId, group⟩ case)
      (config.configItem.map (RunTestConfigItem.at · ⟨config.configId, group⟩)) (some m) =
        some (ret, some m') := by
    rw [runTestCase] at hrun
    split at hrun
    · cases hrun
    · rename_i ret s heq
      exact ⟨ret, hrun ▸ heq⟩
  rcases hret with ⟨ret, hret⟩
  have hkeeps : ∀ s ∈ some m', P s := by
    refine doRunTestCase_keeps (P := fun s => ∀ a ∈ s, P a) ?_ ⟨?_, ?_, ?_⟩ ?_ ?_ hret
    · intro _ hmem
      rcases List.mem_map.mp hmem with ⟨item, hmember, rfl⟩
      have hfunc := hitem item hmember
      simp only [List.forall_mem_cons] at hfunc
      exact ⟨fun s => running_keeps hfunc.1, fun s => running_keeps hfunc.2.1,
        fun s => running_keeps hfunc.2.2.1, fun s => running_keeps hfunc.2.2.2.1⟩
    · intro setup hsetup s
      rcases Option.map_eq_some_iff.mp hsetup with ⟨func, hfunc, rfl⟩
      exact running_keeps (hcase func (by simp [hfunc]))
    · intro run hmem s s' hran
      rcases Option.map_eq_some_iff.mp hmem with ⟨func, hfunc, rfl⟩
      cases hran
      exact running_keeps (hcase func (by simp [hfunc]))
    · intro teardown hteardown s
      rcases Option.map_eq_some_iff.mp hteardown with ⟨func, hfunc, rfl⟩
      exact running_keeps (hcase func (by simp [hfunc]))
    · intro s hs a ha
      rcases Option.map_eq_some_iff.mp ha with ⟨b, hb, rfl⟩
      exact hset b (hs b hb)
    · intro a ha
      cases ha
      exact hm
  exact hkeeps m' rfl

end Case

/-- Nothing is logged, and the actions of other cases are what they were. -/
structure SameBut (group case : ℕ) (m m' : Machine ω) : Prop where
  events : m'.events = m.events
  actions : ∀ i j, (i, j) ≠ (group, case) → m'.actions i j = m.actions i j

theorem setAction_actions (m : Machine ω) (group case : ℕ) (action : Action) {i j : ℕ}
    (hne : (i, j) ≠ (group, case)) :
    (m.setAction group case action).actions i j = m.actions i j := by
  rw [Machine.setAction]
  by_cases hi : i = group
  · subst hi
    have hj : j ≠ case := fun hj => hne (by rw [hj])
    simp [hj]
  · simp [hi]

theorem runTestCase_sameBut {config : RunTestConfig ω} {group case : ℕ}
    {testCase : RunTestCase ω} {m m' : Machine ω}
    (h : runTestCase config group case testCase m = some m') : SameBut group case m m' := by
  apply runTestCase_keeps (P := SameBut group case m) _ _ _ h ⟨rfl, fun _ _ _ => rfl⟩
  · intro item _ func _ a ret b hexec ha
    rcases exec_eq_some hexec with ⟨calls, world, results, -, -, rfl⟩
    exact ⟨ha.events, ha.actions⟩
  · intro func _ a ret b hexec ha
    rcases execCase_eq_some hexec with ⟨calls, action, world, results, -, -, rfl⟩
    refine ⟨ha.events, fun i j hne => ?_⟩
    rw [setAction_actions _ _ _ _ hne]
    exact ha.actions i j hne
  · intro a ha
    refine ⟨ha.events, fun i j hne => ?_⟩
    rw [setAction_actions _ _ _ _ hne]
    exact ha.actions i j hne

theorem exec_sameActions {func : TestFunc ω} {place : Place} {m m' : Machine ω} {ret : Bool}
    (h : m.exec func place = some (ret, m')) :
    m'.events = m.events ∧ m'.actions = m.actions := by
  rcases exec_eq_some h with ⟨calls, world, results, -, -, rfl⟩
  exact ⟨rfl, rfl⟩

/-! ## What is logged -/

/-- The calls of the cases of a group from a position on, when none was skipped before. -/
def caseEvents (config group case n : ℕ) : List Event :=
  (List.range' case n).map fun i => .case config group i .run

theorem runTestCases_events {config : RunTestConfig ω} {c group : ℕ} {setup : Bool} {case : ℕ}
    {testCases : List (RunTestCase ω)} {m m' : Machine ω}
    (h : runTestCases config c group setup case testCases m = some m')
    (hfresh : ∀ i, case ≤ i → m.actions group i = .run) :
    m'.events = m.events ++ (if setup then caseEvents c group case testCases.length else []) ∧
      ∀ i, i ≠ group → m'.actions i = m.actions i := by
  induction testCases generalizing case m with
  | nil =>
      cases h
      simp [caseEvents]
  | cons testCase testCases ih =>
      simp only [runTestCases, Option.bind_eq_bind, Option.bind_eq_some_iff] at h
      rcases h with ⟨m₁, hcase, hrest⟩
      cases setup with
      | false =>
          simp only [Bool.false_eq_true, if_false, Option.some.injEq] at hcase
          subst hcase
          have hlast := ih hrest fun i hi => hfresh i (by omega)
          exact hlast
      | true =>
          simp only [if_true] at hcase
          have hsame := runTestCase_sameBut hcase
          have hnext : ∀ i, case + 1 ≤ i →
              (m₁.onResults Results.clearCase).actions group i = .run := by
            intro i hi
            have hne : (group, i) ≠ (group, case) := by
              rw [Ne, Prod.mk.injEq]
              omega
            exact (hsame.actions group i hne).trans (hfresh i (by omega))
          rcases ih hrest hnext with ⟨hevents, hactions⟩
          constructor
          · rw [hevents]
            change m₁.events ++ _ = _
            rw [hsame.events]
            have haction : m.actions group case = .run := hfresh case (Nat.le_refl case)
            simp [Machine.log, Machine.onResults, Machine.action, caseEvents, haction,
              List.range'_succ]
          · intro i hi
            rw [hactions i hi]
            funext j
            exact hsame.actions i j (fun heq => hi (congrArg Prod.fst heq))

/-- What `do_run_test_group` logs when its setup function returns `ret`. -/
def groupEvents (config group : ℕ) (testGroup : RunTestGroup ω) (ret : Bool) : List Event :=
  if testGroup.testCase.isEmpty then []
  else
    .groupSetup config group ret ::
      if ret then caseEvents config group 0 testGroup.testCase.length else []

theorem doRunTestGroup_events {config : RunTestConfig ω} {c group : ℕ}
    {testGroup : RunTestGroup ω} {m m' : Machine ω}
    (h : doRunTestGroup config c group testGroup m = some m')
    (hfresh : ∀ i, m.actions group i = .run) :
    (∃ ret, m'.events = m.events ++ groupEvents c group testGroup ret) ∧
      ∀ i, i ≠ group → m'.actions i = m.actions i := by
  rw [doRunTestGroup] at h
  cases hempty : testGroup.testCase.isEmpty with
  | true =>
      rw [hempty] at h
      cases h
      exact ⟨⟨false, by simp [groupEvents, hempty]⟩, fun _ _ => rfl⟩
  | false =>
      simp only [hempty, Bool.false_eq_true, if_false, Option.bind_eq_bind,
        Option.bind_eq_some_iff] at h
      rcases h with ⟨⟨ret, m₁⟩, hsetup, m₂, hcases, hteardown⟩
      rcases exec_sameActions hsetup with ⟨hevents₁, hactions₁⟩
      have hfresh₁ : ∀ i, 0 ≤ i → (m₁.log (.groupSetup c group ret)).actions group i = .run := by
        intro i _
        exact (congrFun (congrFun hactions₁ group) i).trans (hfresh i)
      rcases runTestCases_events hcases hfresh₁ with ⟨hevents₂, hactions₂⟩
      have hlast : m'.events = m₂.events ∧ m'.actions = m₂.actions := by
        cases ret with
        | false =>
            cases hteardown
            exact ⟨rfl, rfl⟩
        | true =>
            simp only [if_true, Option.bind_eq_some_iff] at hteardown
            rcases hteardown with ⟨⟨torn, m₃⟩, hexec, heq⟩
            cases heq
            exact exec_sameActions hexec
      constructor
      · refine ⟨ret, ?_⟩
        rw [hlast.1, hevents₂, Machine.log, hevents₁, groupEvents, hempty]
        simp
      · intro i hi
        rw [hlast.2, hactions₂ i hi]
        exact congrFun hactions₁ i

/-- The log of the groups from a position on: every one is run, and its setup function returns
something. -/
inductive GroupsLogged (config : ℕ) : ℕ → List (RunTestGroup ω) → List Event → Prop where
  | nil (group : ℕ) : GroupsLogged config group [] []
  | cons {group : ℕ} {testGroup : RunTestGroup ω} {testGroups : List (RunTestGroup ω)}
      {events : List Event} (ret : Bool)
      (rest : GroupsLogged config (group + 1) testGroups events) :
      GroupsLogged config group (testGroup :: testGroups)
        (.group config group :: groupEvents config group testGroup ret ++ events)

theorem runTestGroups_events {config : RunTestConfig ω} {c group : ℕ}
    {testGroups : List (RunTestGroup ω)} {m m' : Machine ω}
    {cursor : ℕ × List (RunTestGroup ω)}
    (h : runTestGroups config c group testGroups m = some (cursor, m'))
    (hfresh : ∀ g i, group ≤ g → m.actions g i = .run) :
    cursor.2 = [] ∧
      ∃ events, GroupsLogged c group testGroups events ∧ m'.events = m.events ++ events := by
  induction testGroups generalizing group m with
  | nil =>
      cases h
      exact ⟨rfl, [], .nil group, (List.append_nil _).symm⟩
  | cons testGroup testGroups ih =>
      simp only [runTestGroups, Option.bind_eq_bind, Option.bind_eq_some_iff] at h
      rcases h with ⟨m₁, hgroup, hrest⟩
      rcases doRunTestGroup_events hgroup fun i => hfresh group i (Nat.le_refl group) with
        ⟨⟨ret, hevents⟩, hactions⟩
      have hnext : ∀ g i, group + 1 ≤ g →
          (m₁.onResults Results.clearGroup).actions g i = .run := by
        intro g i hg
        exact (congrFun (hactions g (by omega)) i).trans (hfresh g i (by omega))
      rcases ih hrest hnext with ⟨hcursor, events, hlogged, hlast⟩
      refine ⟨hcursor, _, .cons ret hlogged, ?_⟩
      rw [hlast]
      change m₁.events ++ events = _
      rw [hevents]
      simp [Machine.log, Machine.onResults]

/-- Without groups nothing is run any more. -/
theorem runTestConfigs_nil {c group : ℕ} {configs : List (RunTestConfig ω)} {m m' : Machine ω}
    (h : runTestConfigs c configs (group, []) m = some m') : m'.events = m.events := by
  induction configs generalizing c m with
  | nil =>
      cases h
      rfl
  | cons config configs ih =>
      simp only [runTestConfigs, runTestGroups, Option.bind_eq_bind, Option.bind_some] at h
      have hlast := ih h
      exact hlast

/-- Only the first configuration is run with the groups. -/
theorem doRunTestSuite_events {suite : RunTestSuite ω} {world : ω} {results : Results}
    {m : Machine ω} (h : doRunTestSuite suite (Machine.start world results) = some m) :
    (suite.testConfig = [] ∧ m.events = []) ∨
      (suite.testConfig ≠ [] ∧ GroupsLogged 0 0 suite.testGroup m.events) := by
  rw [doRunTestSuite] at h
  cases hconfigs : suite.testConfig with
  | nil =>
      rw [hconfigs] at h
      cases h
      exact .inl ⟨rfl, rfl⟩
  | cons config configs =>
      rw [hconfigs] at h
      simp only [runTestConfigs, Option.bind_eq_bind, Option.bind_eq_some_iff] at h
      rcases h with ⟨⟨⟨group, testGroups⟩, m₁⟩, hgroups, hrest⟩
      rcases runTestGroups_events hgroups fun _ _ _ => rfl with
        ⟨hcursor, events, hlogged, hevents⟩
      subst hcursor
      have hlast : m.events = events := by
        rw [runTestConfigs_nil hrest]
        exact hevents
      exact .inr ⟨List.cons_ne_nil _ _, hlast ▸ hlogged⟩

end TeeIoValidator.Suite
