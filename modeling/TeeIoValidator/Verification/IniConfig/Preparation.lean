import TeeIoValidator.Verification.IniConfig.RunConfigs
import TeeIoValidator.Verification.IniConfig.Topologies

/-! # Preparation of runs

When the data of a run are prepared without an assertion.
-/

namespace TeeIoValidator.IniConfig

open IniFile Checked

variable {globals : Globals} {context : IniContext} {testConfig : IdeTestConfig}
  {testCategory : TeeioTestCategory} {suite : IdeTestSuite} {top : IdeTestTopology}
  {caseClass caseId : ℕ}

/-! ## Cases -/

theorem exists_allocRunTestCase_iff :
    (∃ testCase, allocRunTestCase globals testCategory caseClass caseId = .ok testCase) ↔
      caseClass < maxTestCaseNum ∧ caseId ≤ maxCaseId ∧
        ∃ funcs, getTestCaseFuncs globals testCategory caseClass ((caseId : ℤ) - 1) =
          .ok funcs := by
  rw [allocRunTestCase]
  split
  · rename_i hrange
    constructor
    · intro h
      obtain ⟨testCase, h⟩ := h
      obtain ⟨funcs, hfuncs, -⟩ := bind_eq_ok.mp h
      exact ⟨hrange.1, hrange.2, funcs, hfuncs⟩
    · intro h
      obtain ⟨-, -, funcs, hfuncs⟩ := h
      exact ⟨_, bind_eq_ok.mpr ⟨funcs, hfuncs, rfl⟩⟩
  · rename_i hrange
    constructor
    · intro h
      obtain ⟨testCase, h⟩ := h
      cases h
    · intro h
      exact absurd ⟨h.1, h.2.1⟩ hrange

theorem exists_allocRunTestCaseList_iff {casesId : List ℕ} :
    (∃ testCases, allocRunTestCaseList globals testCategory caseClass casesId = .ok testCases) ↔
      ∀ caseId ∈ casesId,
        ∃ testCase, allocRunTestCase globals testCategory caseClass caseId = .ok testCase := by
  induction casesId with
  | nil => simp [allocRunTestCaseList]
  | cons caseId casesId ih =>
      rw [List.forall_mem_cons, ← ih, allocRunTestCaseList]
      exact exists_both_eq_ok

theorem exists_allocRunTestCases_iff {classes : List (Fin maxTestCaseNum)} :
    (∃ testCases, allocRunTestCases globals testConfig suite top classes = .ok testCases) ↔
      ∀ i ∈ classes, suite.testCases i ≠ [] →
        allocRunTestGroup testConfig suite.testCategory top = .ok () ∧
        ∀ caseId ∈ suite.testCases i,
          ∃ testCase, allocRunTestCase globals suite.testCategory i.val caseId = .ok testCase := by
  induction classes with
  | nil => simp [allocRunTestCases]
  | cons i classes ih =>
      rw [List.forall_mem_cons, ← ih, allocRunTestCases]
      split
      · rename_i hnil
        simp [hnil]
      · rename_i hne
        rw [← exists_allocRunTestCaseList_iff]
        cases hgroup : allocRunTestGroup testConfig suite.testCategory top with
        | error fault => simp [hne]
        | ok group =>
            rw [ok_bind, exists_both_eq_ok]
            simp [hne]

/-- The group of a topology whose ports are there, for a type with functions. -/
theorem TopologyResolves.allocRunTestGroup_eq_ok (h : TopologyResolves testConfig top)
    (hfunctions : HasFunctions testCategory top.type) :
    allocRunTestGroup testConfig testCategory top = .ok () := by
  have hgroup : getTestGroupFuncs top.type testCategory = .ok () := by
    cases testCategory with
    | cxlIde | tdisp => exact if_pos hfunctions
    | pcieIde | cxlTsp | spdm => rfl
  have hconns : top.pathConns.all (switchConnResolves testConfig) = true :=
    List.all_eq_true.mpr h.conns
  simp [allocRunTestGroup, h.rootPort, h.upperPort, h.lowerPort, hgroup, hconns]

/-! ## Suites -/

theorem prepareSuite_of_id_eq_zero (h : suite.id = 0) :
    prepareSuite globals testConfig suite = .ok none := by
  rw [prepareSuite, if_pos (Or.inl h)]

/-- A suite that is run has its configuration and its cases. -/
theorem exists_prepareSuite_iff (hid : suite.id ≠ 0) (henabled : suite.enabled = true)
    (htop : getTopologyById testConfig suite.topologyId = some top) :
    (∃ run, prepareSuite globals testConfig suite = .ok run) ↔
      (∃ items, allocRunTestConfig globals testConfig suite = .ok items) ∧
      ∃ testCases, allocRunTestCases globals testConfig suite top (List.finRange maxTestCaseNum) =
        .ok testCases := by
  have hrun : ¬ (suite.id = 0 ∨ suite.enabled = false) := by simp [hid, henabled]
  rw [prepareSuite, if_neg hrun, htop]
  exact exists_both_eq_ok

theorem exists_prepareSuites_iff {suites : List IdeTestSuite} :
    (∃ runs, prepareSuites globals testConfig suites = .ok runs) ↔
      ∀ suite ∈ suites, ∃ run, prepareSuite globals testConfig suite = .ok run := by
  induction suites with
  | nil => simp [prepareSuites]
  | cons suite suites ih =>
      rw [List.forall_mem_cons, ← ih, prepareSuites]
      exact exists_both_eq_ok

/-- Whatever suites are in the table, one that resolves is prepared when its type has functions and
its cases can be allocated. -/
theorem Stored.exists_prepareSuite_iff (h : Stored globals context testConfig)
    (testSuites : Table IdeTestSuite maxTestSuiteNum) (hresolves : SuiteResolves testConfig suite)
    (hid : suite.id ≠ 0) (henabled : suite.enabled = true) :
    (∃ run, prepareSuite globals { testConfig with testSuites } suite = .ok run) ↔
      (suite.testCategory = .tdisp → suite.type = .selIde) ∧ ∀ i, ∀ caseId ∈ suite.testCases i,
        ∃ testCase, allocRunTestCase globals suite.testCategory i.val caseId = .ok testCase := by
  obtain ⟨top, htop, -, htype⟩ := hresolves.topology
  have htop' : getTopologyById { testConfig with testSuites } suite.topologyId = some top := htop
  have halloc : allocRunTestConfig globals { testConfig with testSuites } suite =
      allocRunTestConfig globals testConfig suite := rfl
  rw [IniConfig.exists_prepareSuite_iff hid henabled htop', halloc, exists_allocRunTestCases_iff]
  constructor
  · intro hprepared
    obtain ⟨⟨items, hitems⟩, hcases⟩ := hprepared
    constructor
    · by_contra hnot
      exact hresolves.alloc_of_not_hasFunctions hnot items hitems
    · intro i caseId hcase
      exact (hcases i (List.mem_finRange i) (List.ne_nil_of_mem hcase)).2 caseId hcase
  · intro hready
    obtain ⟨htdisp, hcases⟩ := hready
    have hfunctions := h.hasFunctions hresolves htdisp
    obtain ⟨config, hconfig, -, -⟩ := hresolves.configuration
    obtain ⟨mask, hmask⟩ := exists_getTestConfigurationBitmask hfunctions
    obtain ⟨items, hitems, -⟩ := h.exists_allocRunTestConfig hresolves hfunctions hconfig hmask
    obtain ⟨slot, rfl, htopId, -, hne⟩ := getTopologyById_eq_some htop
    have hports := h.topologiesResolve slot (htopId ▸ hne)
    rw [← htype] at hfunctions
    exact ⟨⟨items, hitems⟩, fun i _ _ => ⟨hports.allocRunTestGroup_eq_ok hfunctions, hcases i⟩⟩

/-- All suites of the table are prepared. -/
theorem exists_prepareTestsData_iff :
    (∃ runs, prepareTestsData globals testConfig = .ok runs) ↔
      ∀ i, ∃ run, prepareSuite globals testConfig (testConfig.testSuites.records i) = .ok run := by
  rw [prepareTestsData, exists_prepareSuites_iff]
  simp only [List.forall_mem_map, List.mem_finRange, true_imp_iff]

end TeeIoValidator.IniConfig
