import TeeIoValidator.Verification.IniConfig.Topologies

/-! # Configurations and test suites

Both are stored at the position of their index, and a stored record is what its section describes.
-/

namespace TeeIoValidator.IniConfig

open IniFile Checked

variable {globals : Globals} {context : IniContext} {testConfig base : IdeTestConfig}
  {sectionName : List UInt8} {index k : ℕ}

/-! ## Entries -/

theorem parseCategory_inBounds :
    Ends InBounds (fun _ => True) (parseCategory context sectionName) :=
  (getString_inBounds _ _).bind fun _ _ => trivial

theorem parseType_inBounds {testCategory : TeeioTestCategory}
    {invalid : Checked (Option IdeTestTopologyType)}
    (hinvalid : Ends InBounds (fun _ => True) invalid) :
    Ends InBounds (fun _ => True) (parseType context sectionName testCategory invalid) := by
  have hread : Ends InBounds (fun _ => True)
      (parseType context sectionName .pcieIde invalid) := by
    refine (getString_inBounds _ _).bind fun entryValue _ => ?_
    split
    · trivial
    · split
      · exact hinvalid
      · trivial
  cases testCategory with
  | pcieIde | tdisp => exact hread
  | cxlIde | cxlTsp | spdm => trivial

theorem parsePrivNames_inBounds (names : List (List UInt8)) (cxlIdeMode : ℕ) :
    Ends InBounds (fun _ => True) (parsePrivNames context sectionName names cxlIdeMode) := by
  induction names generalizing cxlIdeMode with
  | nil => trivial
  | cons name names ih => exact (getString_inBounds _ _).bind fun _ _ => ih _

theorem parseBitMap_inBounds (names : List (List UInt8)) (i bitMap : ℕ) :
    Ends InBounds (fun _ => True) (parseBitMap context sectionName names i bitMap) := by
  induction names generalizing i bitMap with
  | nil => trivial
  | cons name names ih => exact (getDecimalUint32_inBounds _ _).bind fun _ _ => ih _ _

/-! ## Configurations -/

theorem parseConfiguration_inBounds :
    Ends InBounds (fun _ => True) (parseConfiguration globals context sectionName index) := by
  rw [parseConfiguration]
  refine (parseFlag_inBounds _ _ _).bind fun enabled _ => ?_
  refine parseCategory_inBounds.bind fun testCategory _ => ?_
  split
  · trivial
  · have hinvalid : Ends InBounds (fun _ => True)
        (.error .crash : Checked (Option IdeTestTopologyType)) := by simp [InBounds]
    refine (parseType_inBounds hinvalid).bind fun type _ => ?_
    split
    · trivial
    · refine (parsePrivNames_inBounds _ _).bind fun cxlIdeMode _ => ?_
      exact (parseBitMap_inBounds _ _ _).bind fun _ _ => trivial

/-- What an accepted section says about its configuration. -/
structure ConfigurationRead (globals : Globals) (context : IniContext) (sectionName : List UInt8)
    (index : ℕ) (config : IdeTestConfiguration) : Prop where
  id : config.id = index
  type : parseType context sectionName config.testCategory (.error .crash) =
    .ok (some config.type)
  bitMap : ∃ bitMap, parseBitMap context sectionName
      ((testConfigurationNames globals config.testCategory).drop
        (getTestConfigurationPrivNames config.testCategory).length)
      (getTestConfigurationPrivNames config.testCategory).length 0 = .ok bitMap ∧
    config.bitMap = checkConfigurationBitmap bitMap

theorem parseConfiguration_eq_some {config : IdeTestConfiguration}
    (h : parseConfiguration globals context sectionName index = .ok (some config)) :
    ConfigurationRead globals context sectionName index config := by
  rw [parseConfiguration] at h
  obtain ⟨enabled, -, h⟩ := bind_eq_ok.mp h
  obtain ⟨testCategory, -, h⟩ := bind_eq_ok.mp h
  split at h
  · cases h
  · obtain ⟨type, htype, h⟩ := bind_eq_ok.mp h
    split at h
    · cases h
    · obtain ⟨cxlIdeMode, -, h⟩ := bind_eq_ok.mp h
      obtain ⟨bitMap, hbitMap, h⟩ := bind_eq_ok.mp h
      cases h
      exact ⟨rfl, htype, bitMap, hbitMap, rfl⟩

/-- The configurations up to index `k` have been parsed. -/
structure HasConfigurations (globals : Globals) (context : IniContext) (base : IdeTestConfig)
    (k : ℕ) (testConfig : IdeTestConfig) : Prop where
  frame : ∃ configurations, testConfig = { base with configurations }
  positioned : testConfig.configurations.Positioned IdeTestConfiguration.id k
  described : ∀ i, (testConfig.configurations.records i).id ≠ 0 →
    parseConfiguration globals context (configurationSectionName (i.val + 1)) (i.val + 1) =
      .ok (some (testConfig.configurations.records i))

theorem hasConfigurations_zero (hempty : base.configurations = ⟨0, fun _ => {}⟩) :
    HasConfigurations globals context base 0 base := by
  refine ⟨⟨_, rfl⟩, ?_, ?_⟩
  · rw [hempty]
    exact Table.positioned_empty fun _ => rfl
  · intro i hid
    rw [hempty] at hid
    exact absurd rfl hid

theorem HasConfigurations.skip (h : HasConfigurations globals context base k testConfig) :
    HasConfigurations globals context base (k + 1) testConfig :=
  ⟨h.frame, h.positioned.mono (Nat.le_succ k), h.described⟩

theorem HasConfigurations.store (h : HasConfigurations globals context base k testConfig)
    (hk : k < maxConfigurationNum) {config : IdeTestConfiguration}
    (hconfig : parseConfiguration globals context (configurationSectionName (k + 1)) (k + 1) =
      .ok (some config)) :
    Ends InBounds (fun result => HasConfigurations globals context base (k + 1) result.2)
      (storeConfiguration testConfig config (k + 1)) := by
  rw [storeConfiguration]
  split
  · exact h.skip
  · rw [dif_pos (show k + 1 - 1 < maxConfigurationNum from hk)]
    refine ⟨?_, ?_, ?_⟩
    · obtain ⟨configurations, rfl⟩ := h.frame
      exact ⟨_, rfl⟩
    · exact h.positioned.store hk (parseConfiguration_eq_some hconfig).id
    · exact Table.put_stored IdeTestConfiguration.id (P := fun i config =>
        parseConfiguration globals context (configurationSectionName (i.val + 1)) (i.val + 1) =
          .ok (some config)) (fun _ => hconfig) h.described

theorem parseConfigurations_ends (hempty : base.configurations = ⟨0, fun _ => {}⟩) :
    Ends InBounds (HasConfigurations globals context base maxConfigurationNum)
      (parseConfigurations globals context base) := by
  refine ends_upTo (hasConfigurations_zero hempty) fun k hk testConfig h => ?_
  have hsection : Ends InBounds
      (fun result => HasConfigurations globals context base (k + 1) result.2)
      (parseConfigurationSection globals context testConfig (k + 1)) := by
    refine inSection_ends (fun _ hfault => hfault) h.skip ?_
    cases hconfig : parseConfiguration globals context (configurationSectionName (k + 1))
        (k + 1) with
    | error fault => exact (ends_iff.mp parseConfiguration_inBounds).2 fault hconfig
    | ok config =>
        cases config with
        | none => exact h.skip
        | some config => exact h.store hk hconfig
  exact hsection.bind fun result hresult => hresult

/-! ## Test suites -/

theorem parseTestClasses_inBounds (testCases : List IdeTestCaseName) :
    Ends InBounds (fun _ => True) (parseTestClasses context sectionName testCases) := by
  induction testCases with
  | nil => trivial
  | cons testCase testCases ih =>
      have hentry : ∀ casesCnt maxId, Ends InBounds (fun _ => True)
          (parseTestSuiteCaseEntry context sectionName testCase.className casesCnt maxId) := by
        intro casesCnt maxId
        rw [parseTestSuiteCaseEntry]
        refine (getString_inBounds _ _).bind fun value _ => ?_
        split
        · trivial
        · split
          · trivial
          · split
            · simp [InBounds]
            · split <;> trivial
      have hcases : Ends InBounds (fun _ => True)
          (parseTestCases context sectionName testCase) := by
        rw [parseTestCases]
        split
        · trivial
        · exact (hentry _ _).bind fun _ _ => trivial
      exact hcases.bind fun _ _ => ih.bind fun _ _ => trivial

theorem parseTestSuite_inBounds :
    Ends InBounds (fun _ => True)
      (parseTestSuite globals context testConfig sectionName index) := by
  rw [parseTestSuite]
  refine (parseFlag_inBounds _ _ _).bind fun enabled _ => ?_
  refine parseCategory_inBounds.bind fun testCategory _ => ?_
  split
  · trivial
  · have hinvalid : Ends InBounds (fun _ => True)
        (.ok none : Checked (Option IdeTestTopologyType)) := trivial
    refine (parseType_inBounds hinvalid).bind fun type _ => ?_
    split
    · trivial
    · have htopology : Ends InBounds (fun _ => True)
          (parseSuiteTopology context testConfig sectionName ‹_›) :=
        (getDecimalUint32_inBounds _ _).bind fun _ _ => trivial
      refine htopology.bind fun topologyId _ => ?_
      split
      · trivial
      · have hconfiguration : Ends InBounds (fun _ => True)
            (parseSuiteConfiguration context testConfig sectionName ‹_› ‹_›) :=
          (getDecimalUint32_inBounds _ _).bind fun _ _ => trivial
        refine hconfiguration.bind fun configurationId _ => ?_
        split
        · trivial
        · exact (parseTestClasses_inBounds _).bind fun _ _ => trivial

/-- What an accepted section says about its suite. -/
structure TestSuiteRead (globals : Globals) (context : IniContext) (testConfig : IdeTestConfig)
    (sectionName : List UInt8) (index : ℕ) (suite : IdeTestSuite) : Prop where
  id : suite.id = index
  type : parseType context sectionName suite.testCategory (.ok none) = .ok (some suite.type)
  topology : ∃ top, getTopologyById testConfig suite.topologyId = some top ∧
    top.type = suite.type
  configuration : ∃ config, getConfigurationById testConfig suite.configurationId = some config ∧
    config.type = suite.type ∧ config.testCategory = suite.testCategory
  testCases : ∃ casesId, parseTestClasses context sectionName
      (testCaseNames globals suite.testCategory) = .ok casesId ∧
    suite.testCases = fun i => casesId[i.val]?.getD []

theorem parseTestSuite_eq_some {suite : IdeTestSuite}
    (h : parseTestSuite globals context testConfig sectionName index = .ok (some suite)) :
    TestSuiteRead globals context testConfig sectionName index suite := by
  rw [parseTestSuite] at h
  obtain ⟨enabled, -, h⟩ := bind_eq_ok.mp h
  obtain ⟨testCategory, -, h⟩ := bind_eq_ok.mp h
  split at h
  · cases h
  · obtain ⟨type, htype, h⟩ := bind_eq_ok.mp h
    split at h
    · cases h
    · obtain ⟨topologyId, htopology, h⟩ := bind_eq_ok.mp h
      split at h
      · cases h
      · obtain ⟨configurationId, hconfiguration, h⟩ := bind_eq_ok.mp h
        split at h
        · cases h
        · obtain ⟨casesId, hcases, h⟩ := bind_eq_ok.mp h
          cases h
          obtain ⟨data32, -, htop⟩ := bind_eq_ok.mp htopology
          obtain ⟨data32', -, hconfig⟩ := bind_eq_ok.mp hconfiguration
          obtain ⟨-, htop⟩ := Option.filter_eq_some_iff.mp (Except.ok.inj htop)
          obtain ⟨-, hconfig⟩ := Option.filter_eq_some_iff.mp (Except.ok.inj hconfig)
          obtain ⟨top, hfound, hsame⟩ := (Option.any_eq_true _ _).mp htop
          obtain ⟨config, hfound', hsame'⟩ := (Option.any_eq_true _ _).mp hconfig
          rw [beq_iff_eq] at hsame
          rw [Bool.and_eq_true, beq_iff_eq, beq_iff_eq] at hsame'
          exact ⟨rfl, htype, ⟨top, hfound, hsame⟩, ⟨config, hfound', hsame'⟩, casesId, hcases, rfl⟩

/-- A topology and a configuration of the suite are found by its ids. Topologies belong to no
category, but to the suite's type. -/
structure SuiteResolves (testConfig : IdeTestConfig) (suite : IdeTestSuite) : Prop where
  topology : ∃ top, getTopologyById testConfig suite.topologyId = some top ∧ top.enabled = true ∧
    top.type = suite.type
  configuration : ∃ config, getConfigurationById testConfig suite.configurationId = some config ∧
    config.enabled = true ∧ config.type = suite.type ∧ config.testCategory = suite.testCategory

theorem TestSuiteRead.resolves {suite : IdeTestSuite}
    (h : TestSuiteRead globals context testConfig sectionName index suite) :
    SuiteResolves testConfig suite := by
  constructor
  · obtain ⟨top, htop, htype⟩ := h.topology
    obtain ⟨-, -, -, henabled, -⟩ := getTopologyById_eq_some htop
    exact ⟨top, htop, henabled, htype⟩
  · obtain ⟨config, hconfig, hsame⟩ := h.configuration
    obtain ⟨-, -, -, henabled, -⟩ := getConfigurationById_eq_some hconfig
    exact ⟨config, hconfig, henabled, hsame⟩

/-- The suites up to index `k` have been parsed. -/
structure HasTestSuites (globals : Globals) (context : IniContext) (base : IdeTestConfig) (k : ℕ)
    (testConfig : IdeTestConfig) : Prop where
  frame : ∃ testSuites, testConfig = { base with testSuites }
  positioned : testConfig.testSuites.Positioned IdeTestSuite.id k
  described : ∀ i, (testConfig.testSuites.records i).id ≠ 0 →
    parseTestSuite globals context base (testSuiteSectionName (i.val + 1)) (i.val + 1) =
      .ok (some (testConfig.testSuites.records i))

theorem hasTestSuites_zero (hempty : base.testSuites = ⟨0, fun _ => {}⟩) :
    HasTestSuites globals context base 0 base := by
  refine ⟨⟨_, rfl⟩, ?_, ?_⟩
  · rw [hempty]
    exact Table.positioned_empty fun _ => rfl
  · intro i hid
    rw [hempty] at hid
    exact absurd rfl hid

theorem HasTestSuites.skip (h : HasTestSuites globals context base k testConfig) :
    HasTestSuites globals context base (k + 1) testConfig :=
  ⟨h.frame, h.positioned.mono (Nat.le_succ k), h.described⟩

/-- The suites that are stored do not change how a suite is read. -/
theorem HasTestSuites.parseTestSuite_eq (h : HasTestSuites globals context base k testConfig) :
    parseTestSuite globals context testConfig sectionName index =
      parseTestSuite globals context base sectionName index := by
  obtain ⟨testSuites, rfl⟩ := h.frame
  rfl

theorem HasTestSuites.store (h : HasTestSuites globals context base k testConfig)
    (hk : k < maxTestSuiteNum) {suite : IdeTestSuite}
    (hsuite : parseTestSuite globals context base (testSuiteSectionName (k + 1)) (k + 1) =
      .ok (some suite)) :
    Ends InBounds (fun result => HasTestSuites globals context base (k + 1) result.2)
      (storeTestSuite testConfig suite (k + 1)) := by
  rw [storeTestSuite, dif_pos (show k + 1 - 1 < maxTestSuiteNum from hk)]
  refine ⟨?_, ?_, ?_⟩
  · obtain ⟨testSuites, rfl⟩ := h.frame
    exact ⟨_, rfl⟩
  · exact h.positioned.store hk (parseTestSuite_eq_some hsuite).id
  · exact Table.put_stored IdeTestSuite.id (P := fun i suite =>
      parseTestSuite globals context base (testSuiteSectionName (i.val + 1)) (i.val + 1) =
        .ok (some suite)) (fun _ => hsuite) h.described

theorem parseTestSuites_ends (hempty : base.testSuites = ⟨0, fun _ => {}⟩) :
    Ends InBounds (HasTestSuites globals context base maxTestSuiteNum)
      (parseTestSuites globals context base) := by
  refine ends_upTo (hasTestSuites_zero hempty) fun k hk testConfig h => ?_
  have hsection : Ends InBounds (fun result => HasTestSuites globals context base (k + 1) result.2)
      (parseTestSuiteSection globals context testConfig (k + 1)) := by
    refine inSection_ends (fun _ hfault => hfault) h.skip ?_
    cases hsuite : parseTestSuite globals context testConfig (testSuiteSectionName (k + 1))
        (k + 1) with
    | error fault => exact (ends_iff.mp parseTestSuite_inBounds).2 fault hsuite
    | ok suite =>
        cases suite with
        | none => exact h.skip
        | some suite =>
            rw [h.parseTestSuite_eq] at hsuite
            exact h.store hk hsuite
  exact hsection.bind fun result hresult => hresult

end TeeIoValidator.IniConfig
