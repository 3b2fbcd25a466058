import TeeIoValidator.Verification.IniConfig.RunConfigs

/-! # Safety of configuration runs

The functions of a run's configuration are called without an assertion just when its section sets
none of the names whose functions are missing or not implemented.
-/

namespace TeeIoValidator.IniConfig

open IniFile Checked

/-- The items that are allocated serve the suite's type, and they are run to their end with the
suite's topology. -/
def ConfigRunsSafely (globals : Globals) (testConfig : IdeTestConfig) (suite : IdeTestSuite) :
    Prop :=
  ∀ top items, getTopologyById testConfig suite.topologyId = some top →
    allocRunTestConfig globals testConfig suite = .ok items →
      (∀ item ∈ items, ItemServes suite.type item) ∧ RunsEnd top items

/-- The suite's configuration is not the default, and its section does not set its name. -/
def LeavesOut (context : IniContext) (suite : IdeTestSuite) (i : ℕ) : Prop :=
  i ≠ configurationTypeDefault ∧
    ∀ name, (runConfigurationNames suite.testCategory)[i]? = some name →
      ¬ SetsName context (configurationSectionName suite.configurationId) name

/-- The section of the suite's configuration sets no unimplemented name. -/
def SetsImplementedNames (context : IniContext) (testConfig : IdeTestConfig)
    (suite : IdeTestSuite) : Prop :=
  ∀ top, getTopologyById testConfig suite.topologyId = some top →
    ∀ i ∈ unimplementedConfigurations suite.type top.connection suite.testCategory,
      LeavesOut context suite i

variable {globals : Globals} {context : IniContext} {testConfig : IdeTestConfig}
  {suite : IdeTestSuite}

section

variable {config : IdeTestConfiguration} {items : List IdeRunTestConfigItem} {mask : ℕ}
  {connection : IdeTestConnectType}

/-- The items that a suite is allocated, by the bits of its configuration. -/
def ItemsOfBits (suite : IdeTestSuite) (config : IdeTestConfiguration) (mask : ℕ)
    (items : List IdeRunTestConfigItem) : Prop :=
  ∀ item, item ∈ items ↔ ∃ i < 32, (config.bitMap &&& mask).testBit i = true ∧
    allocRunTestConfigItem i suite.type suite.testCategory = .ok item

variable (hread : ConfigurationRead globals context
    (configurationSectionName suite.configurationId) suite.configurationId config)
  (hcategory : config.testCategory = suite.testCategory)
  (hfunctions : HasFunctions suite.testCategory suite.type)
  (hmask : getTestConfigurationBitmask suite.type suite.testCategory = .ok mask)
  (hmem : ItemsOfBits suite config mask items)

include hread hcategory hmask in
/-- A configuration that is left out has no bit. -/
theorem LeavesOut.testBit {i : ℕ} (h : LeavesOut context suite i) :
    (config.bitMap &&& mask).testBit i ≠ true := by
  intro hbit
  rw [← hcategory] at hmask
  obtain ⟨name, hname, hget⟩ := hread.exists_name hmask hbit
  rw [Nat.testBit_and, Bool.and_eq_true] at hbit
  rcases (hread.testBit_iff i).mp hbit.1 with hzero | ⟨-, name', hname', hset⟩
  · exact h.1 hzero
  · rw [hget] at hname'
    cases hname'
    rw [hcategory] at hname
    exact h.2 name hname hset

include hread hcategory in
theorem leavesOut_of_not_testBit {i : ℕ}
    (hi : i ∈ unimplementedConfigurations suite.type connection suite.testCategory)
    (hclear : config.bitMap.testBit i ≠ true) : LeavesOut context suite i := by
  have hnot := mt (hread.testBit_iff i).mpr hclear
  rw [not_or] at hnot
  refine ⟨hnot.1, fun name hname hset => hnot.2 ⟨?_, name, ?_, hset⟩⟩
  · have hprivate : (getTestConfigurationPrivNames config.testCategory).length ≤ 1 := by
      cases config.testCategory <;> decide
    have hne := hnot.1
    omega
  · rw [hcategory]
    cases hsuite : suite.testCategory with
    | pcieIde | cxlIde =>
        rw [hsuite] at hname
        exact hname
    | cxlTsp | tdisp | spdm =>
        rw [hsuite] at hi
        cases hi

include hread hcategory hfunctions hmask hmem

/-- Where all items can be called, no unimplemented configuration has a bit. -/
theorem leavesOut_of_callable
    (hcallable : ∀ item ∈ items, item.funcs.callable suite.type connection = true) {i : ℕ}
    (hi : i ∈ unimplementedConfigurations suite.type connection suite.testCategory) :
    LeavesOut context suite i := by
  apply leavesOut_of_not_testBit hread hcategory hi
  intro hset
  obtain ⟨hlt, hbit, funcs, hfuncs, hnot⟩ := unimplementedConfigurations_spec hfunctions hmask hi
  have hitem : (⟨i, suite.testCategory, funcs⟩ : IdeRunTestConfigItem) ∈ items := by
    refine (hmem _).mpr ⟨i, hlt.trans (by decide), ?_, ?_⟩
    · rw [Nat.testBit_and, hset, hbit]
      rfl
    · exact allocRunTestConfigItem_eq_ok.mpr ⟨hlt, funcs, hfuncs, rfl⟩
  rw [hcallable _ hitem] at hnot
  cases hnot

/-- The items of implemented names serve the suite's type and can be called. -/
theorem items_serve
    (hset : ∀ i ∈ unimplementedConfigurations suite.type connection suite.testCategory,
      LeavesOut context suite i) :
    ∀ item ∈ items, ItemServes suite.type item ∧
      item.funcs.callable suite.type connection = true := by
  intro item hitem
  obtain ⟨i, -, hbit, halloc⟩ := (hmem item).mp hitem
  obtain ⟨-, funcs, hfuncs, rfl⟩ := allocRunTestConfigItem_eq_ok.mp halloc
  rw [itemServes_iff]
  have hmask' := hmask
  rw [← hcategory] at hmask'
  obtain ⟨name, hname, -⟩ := hread.exists_name hmask' hbit
  have hlt := (List.getElem?_eq_some_iff.mp hname).1
  rw [hcategory] at hlt
  have hin := hbit
  rw [Nat.testBit_and, Bool.and_eq_true] at hin
  refine getTestConfigurationFuncs_serve hfunctions hlt hmask hin.2 ?_ hfuncs
  intro hi
  exact (hset i hi).testBit hread hcategory hmask hbit

omit hcategory in
/-- The default configuration is always among the items. -/
theorem items_ne_nil : items ≠ [] := by
  have hlength : 0 < (runConfigurationNames suite.testCategory).length := by
    cases suite.testCategory <;> decide
  obtain ⟨funcs, hfuncs⟩ := exists_getTestConfigurationFuncs hfunctions hlength
  have hdefault : (⟨0, suite.testCategory, funcs⟩ : IdeRunTestConfigItem) ∈ items := by
    refine (hmem _).mpr ⟨0, by decide, ?_, ?_⟩
    · rw [Nat.testBit_and, hread.testBit_default, getTestConfigurationBitmask_default hmask]
      rfl
    · exact allocRunTestConfigItem_eq_ok.mpr ⟨by decide, funcs, hfuncs, rfl⟩
  exact List.ne_nil_of_mem hdefault

end

theorem Stored.runsSafely_iff (h : Stored globals context testConfig)
    (hresolves : SuiteResolves testConfig suite)
    (htdisp : suite.testCategory = .tdisp → suite.type = .selIde) :
    ConfigRunsSafely globals testConfig suite ↔
      SetsImplementedNames context testConfig suite := by
  have hfunctions := h.hasFunctions hresolves htdisp
  obtain ⟨config, hconfig, -, hsame⟩ := hresolves.configuration
  obtain ⟨mask, hmask⟩ := exists_getTestConfigurationBitmask hfunctions
  have hread := h.configurationRead hconfig
  obtain ⟨items, hitems, hmem⟩ := h.exists_allocRunTestConfig hresolves hfunctions hconfig hmask
  have htype : ∀ top, getTopologyById testConfig suite.topologyId = some top →
      top.type = suite.type := by
    intro top htop
    obtain ⟨top', htop', -, htype⟩ := hresolves.topology
    rw [htop] at htop'
    cases htop'
    exact htype
  constructor
  · intro hsafe top htop i hi
    refine leavesOut_of_callable hread hsame.2 hfunctions hmask hmem ?_ hi
    intro item hitem
    rw [← htype top htop]
    exact (hsafe top items htop hitems).2.callable hitem
  · intro hset top items' htop hitems'
    rw [hitems] at hitems'
    cases hitems'
    have hserve := items_serve hread hsame.2 hfunctions hmask hmem (hset top htop)
    refine ⟨fun item hitem => (hserve item hitem).1, ?_⟩
    refine runsEnd_of_callable (items_ne_nil hread hfunctions hmask hmem) fun item hitem => ?_
    rw [htype top htop]
    exact (hserve item hitem).2

/-- A suite of the TDISP tests without functions has no items to run. -/
theorem SuiteResolves.runsSafely_iff_of_not_hasFunctions (h : SuiteResolves testConfig suite)
    (hnot : ¬ (suite.testCategory = .tdisp → suite.type = .selIde)) :
    ConfigRunsSafely globals testConfig suite ↔
      SetsImplementedNames context testConfig suite := by
  refine iff_of_true ?_ ?_
  · intro top items _ hitems
    exact absurd hitems (h.alloc_of_not_hasFunctions hnot items)
  · intro top _ i hi
    rw [(Classical.not_imp.mp hnot).1] at hi
    cases hi

/-- The configuration of a stored suite runs safely just when its section sets no unimplemented
name. -/
theorem configRunsSafely_iff
    (h : parseIdeTestInit globals (some context) = .ok (true, testConfig))
    (i : Fin maxTestSuiteNum) (hid : (testConfig.testSuites.records i).id ≠ 0) :
    ConfigRunsSafely globals testConfig (testConfig.testSuites.records i) ↔
      SetsImplementedNames context testConfig (testConfig.testSuites.records i) := by
  have hstored := parseIdeTestInit_stored h
  have hresolves := (hstored.testSuitesRead i hid).resolves
  by_cases htdisp : (testConfig.testSuites.records i).testCategory = .tdisp →
      (testConfig.testSuites.records i).type = .selIde
  · exact hstored.runsSafely_iff hresolves htdisp
  · exact hresolves.runsSafely_iff_of_not_hasFunctions htdisp

theorem configRunsSafely_iff_selective :
    ∃ testConfig, parseIdeTestInit {} (some (fileContext directTopology selectiveConfiguration
        selectiveSuite)) = .ok (true, testConfig) ∧
      (ConfigRunsSafely {} testConfig (testConfig.testSuites.records firstSuite) ↔
        SetsImplementedNames (fileContext directTopology selectiveConfiguration selectiveSuite)
          testConfig (testConfig.testSuites.records firstSuite)) := by
  have haccepted : acceptedWith {} (fileContext directTopology selectiveConfiguration
      selectiveSuite) (fun testConfig => (testConfig.testSuites.records firstSuite).id == 1) =
      true := by decide +kernel
  obtain ⟨testConfig, hparse, hid⟩ := exists_of_acceptedWith haccepted
  rw [beq_iff_eq] at hid
  exact ⟨testConfig, hparse, configRunsSafely_iff hparse firstSuite (by rw [hid]; decide)⟩

/-- The documented entry `switch` set to 1 allocates null functions. -/
theorem switchConfiguration_not_safe :
    ¬ ∀ (globals : Globals) (context : IniContext) (testConfig : IdeTestConfig),
      parseIdeTestInit globals (some context) = .ok (true, testConfig) →
        ∀ i, (testConfig.testSuites.records i).id ≠ 0 →
          ConfigRunsSafely globals testConfig (testConfig.testSuites.records i) := by
  intro h
  have haccepted : acceptedWith {} (fileContext directTopology
      ((text "switch", text "1") :: selectiveConfiguration) selectiveSuite) (fun testConfig =>
        (testConfig.testSuites.records firstSuite).id == 1 &&
          (getTopologyById testConfig
            (testConfig.testSuites.records firstSuite).topologyId).isSome &&
          match allocRunTestConfig {} testConfig (testConfig.testSuites.records firstSuite) with
          | .ok items => items.any fun item => item.funcs.support == none
          | .error _ => false) = true := by decide +kernel
  obtain ⟨testConfig, hparse, hcheck⟩ := exists_of_acceptedWith haccepted
  rw [Bool.and_eq_true, Bool.and_eq_true, beq_iff_eq, Option.isSome_iff_exists] at hcheck
  obtain ⟨⟨hid, top, htop⟩, halloc⟩ := hcheck
  split at halloc
  · rename_i items hitems
    obtain ⟨item, hitem, hnull⟩ := List.any_eq_true.mp halloc
    have hsafe := h {} _ testConfig hparse firstSuite (by rw [hid]; decide) top items htop hitems
    obtain ⟨implementation, hfunc, -⟩ := hsafe.1 item hitem .support
    rw [IdeTestConfigFuncs.get, eq_of_beq hnull] at hfunc
    cases hfunc
  · cases halloc

end TeeIoValidator.IniConfig
