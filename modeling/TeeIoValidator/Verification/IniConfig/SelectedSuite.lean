import TeeIoValidator.Verification.IniConfig.Preparation
import TeeIoValidator.Verification.IniConfig.Selection

/-! # Selected suites

A selection on the command line makes a suite that is sound just when its parts fit together, and
the category of a configuration is found as long as there are no gaps before it.
-/

namespace TeeIoValidator.IniConfig

open IniFile Checked

variable {globals : Globals} {context : IniContext} {testConfig testConfig' : IdeTestConfig}
  {selection : Selection} {config : IdeTestConfiguration} {top : IdeTestTopology}
  {testCategory : TeeioTestCategory} {testCase : IdeTestCaseName} {index id : ℕ}

/-! ## Categories -/

/-- The category is found when the id is at most the number of configurations. -/
theorem Stored.getTestCategoryFromConfiguration_eq (h : Stored globals context testConfig)
    (hconfig : getConfigurationById testConfig id = some config) :
    getTestCategoryFromConfiguration testConfig id =
      if id ≤ testConfig.configurations.cnt then some config.testCategory else none := by
  obtain ⟨i, rfl, hid, -, hne⟩ := getConfigurationById_eq_some hconfig
  have hkeyed := h.configurations.keyed
  have hposition := (h.configurations.position i).resolve_left (hid ▸ hne)
  have hsame : ∀ j, ((testConfig.configurations.records j).id == id) = true → j = i := by
    intro j hj
    rw [beq_iff_eq] at hj
    exact (hkeyed.unique i j (hid ▸ hne) (hid.trans hj.symm)).symm
  rw [getTestCategoryFromConfiguration]
  split
  · rename_i hle
    have hlt : i.val < testConfig.configurations.cnt := by omega
    have hfound : testConfig.configurations.firstInUse? (fun c => c.id == id) = some i :=
      Table.firstInUse?_eq_some_of_unique hlt (beq_iff_eq.mpr hid) fun j _ => hsame j
    rw [hfound]
    rfl
  · rename_i hgt
    rw [Option.map_eq_none_iff, Option.eq_none_iff_forall_ne_some]
    intro j hj
    obtain ⟨hlt, hfound⟩ := Table.firstInUse?_eq_some hj
    rw [hsame j hfound] at hlt
    omega

/-! ## The suite that is made -/

theorem selectTestCase_eq_some
    (h : selectTestCase globals testConfig selection = some testConfig') :
    ∃ testCategory config top testCase index,
      getTestCategoryFromConfiguration testConfig selection.configId = some testCategory ∧
      getConfigurationById testConfig selection.configId = some config ∧
      getTopologyById testConfig selection.topId = some top ∧
      getTestCaseFromString globals selection.testCase testCategory = some (testCase, index) ∧
      testConfig' = { testConfig with
        testSuites := (clearTestSuites testConfig).put firstSuite
          (selectedSuite ((clearTestSuites testConfig).records firstSuite) selection.topId
            selection.configId top testCategory testCase.classId index) } := by
  simp only [selectTestCase, Option.bind_eq_bind, Option.bind_eq_some_iff] at h
  obtain ⟨testCategory, hcategory, h⟩ := h
  split at h
  · simp only [updateTestConfigWithGivenTopConfigId, Option.bind_eq_bind, Option.bind_eq_some_iff,
      Option.some.injEq] at h
    obtain ⟨config, hconfig, top, htop, ⟨testCase, index⟩, hcase, heq⟩ := h
    exact ⟨testCategory, config, top, testCase, index, hcategory, hconfig, htop, hcase, heq.symm⟩
  · cases h

/-- The suite that is made when there has been none. -/
def madeSuite (selection : Selection) (top : IdeTestTopology) (testCategory : TeeioTestCategory)
    (classId index : ℕ) : IdeTestSuite :=
  selectedSuite {} selection.topId selection.configId top testCategory classId index

/-- The other suites are the empty ones that have been there. -/
theorem made_records (hempty : testConfig.testSuites = ⟨0, fun _ => {}⟩) (classId : ℕ)
    (i : Fin maxTestSuiteNum) :
    ((clearTestSuites testConfig).put firstSuite
      (selectedSuite ((clearTestSuites testConfig).records firstSuite) selection.topId
        selection.configId top testCategory classId index)).records i =
      if i = firstSuite then madeSuite selection top testCategory classId index else {} := by
  have hclear : ∀ i, (clearTestSuites testConfig).records i = {} := by
    intro i
    rw [clearTestSuites, hempty]
    rfl
  split
  · rename_i heq
    rw [heq, Table.put_records_self, hclear, madeSuite]
  · rename_i hne
    rw [Table.put_records_of_ne hne, hclear]

/-- The suite has one case: the one that the selection names, in its class. -/
def HoldsCase (globals : Globals) (suite : IdeTestSuite) (testCaseName : List UInt8) : Prop :=
  ∃ (name : List UInt8) (caseClass : Fin maxTestCaseNum) (testCase : IdeTestCaseName) (id : ℕ),
    splitAtFirst '.'.toUInt8 (cString testCaseName) = some (testCase.className, name) ∧
    (testCaseNames globals suite.testCategory)[caseClass.val]? = some testCase ∧
    CaseNamed globals suite.testCategory caseClass.val id name ∧
    ∀ i, suite.testCases i = if i = caseClass then [id] else []

/-- What a selection is for: one enabled suite with what has been selected, which could have been
read from a file, and whose run is prepared without an assertion. -/
structure SelectionSound (globals : Globals) (testConfig : IdeTestConfig) (selection : Selection) :
    Prop where
  enabled : ∀ i, (testConfig.testSuites.records i).enabled = true ↔ i = firstSuite
  topologyId : (testConfig.testSuites.records firstSuite).topologyId = selection.topId
  configurationId : (testConfig.testSuites.records firstSuite).configurationId = selection.configId
  resolves : SuiteResolves testConfig (testConfig.testSuites.records firstSuite)
  holdsCase : HoldsCase globals (testConfig.testSuites.records firstSuite) selection.testCase
  prepared : ∃ runs, prepareTestsData globals testConfig = .ok runs

/-- What fits together: the types of the topology and the configuration, the type of the TDISP
tests, and the numbers of the responder's cases. -/
structure SelectionFits (globals : Globals) (selection : Selection) (top : IdeTestTopology)
    (config : IdeTestConfiguration) : Prop where
  type : config.type = top.type
  tdisp : config.testCategory = .tdisp → top.type = .selIde
  spdm : config.testCategory = .spdm → ∀ (className name : List UInt8) (caseClass : ℕ),
    splitAtFirst '.'.toUInt8 (cString selection.testCase) = some (className, name) →
    spdmTestClassNames[caseClass]? = some className →
    CaseNumbered (globals.spdmCaseIds caseClass) name

/-- A class of the responder is the only one with its name. -/
theorem spdmTestClassNames_unique {className : List UInt8} {i j : ℕ}
    (hi : spdmTestClassNames[i]? = some className) (hj : spdmTestClassNames[j]? = some className) :
    i = j := by
  have hnodup : spdmTestClassNames.Nodup := by decide +kernel
  obtain ⟨hlt, rfl⟩ := List.getElem?_eq_some_iff.mp hi
  obtain ⟨hlt', heq⟩ := List.getElem?_eq_some_iff.mp hj
  exact (hnodup.getElem_inj_iff.mp heq).symm

/-- The responder's cases are numbered in the class that a selection names. -/
theorem forall_caseNumbered_iff {caseClass : ℕ} {testCaseName name : List UInt8}
    (hclass : (spdmTestCaseNames globals)[caseClass]? = some testCase)
    (hsplit : splitAtFirst '.'.toUInt8 (cString testCaseName) = some (testCase.className, name)) :
    (∀ (className name : List UInt8) (caseClass : ℕ),
      splitAtFirst '.'.toUInt8 (cString testCaseName) = some (className, name) →
      spdmTestClassNames[caseClass]? = some className →
      CaseNumbered (globals.spdmCaseIds caseClass) name) ↔
    CaseNumbered (globals.spdmCaseIds caseClass) name := by
  obtain ⟨className, hname, rfl⟩ := spdmTestCaseNames_eq_some hclass
  constructor
  · intro h
    exact h className name caseClass hsplit hname
  · intro h className' name' caseClass' hsplit' hname'
    rw [hsplit] at hsplit'
    cases hsplit'
    rwa [spdmTestClassNames_unique hname' hname]

/-! ## Sound selections -/

/-- Its configuration has the category already. -/
theorem madeSuite_resolves_iff (htop : getTopologyById testConfig selection.topId = some top)
    (hconfig : getConfigurationById testConfig selection.configId = some config) :
    SuiteResolves testConfig (madeSuite selection top config.testCategory testCase.classId index) ↔
      config.type = top.type := by
  constructor
  · intro h
    obtain ⟨config', hconfig', -, htype, -⟩ := h.configuration
    have hsame : some config = some config' := hconfig.symm.trans hconfig'
    cases hsame
    exact htype
  · intro htype
    obtain ⟨-, -, -, henabled, -⟩ := getTopologyById_eq_some htop
    obtain ⟨-, -, -, henabled', -⟩ := getConfigurationById_eq_some hconfig
    exact ⟨⟨top, htop, henabled, rfl⟩, config, hconfig, henabled', htype, rfl⟩

/-- The case of the suite that is made. -/
theorem madeSuite_cases_iff {caseClass : ℕ}
    (hclass : (testCaseNames globals testCategory)[caseClass]? = some testCase)
    {name : List UInt8} (hfind : testCase.nameList.findIdx? (· == name) = some index)
    (hsplit : splitAtFirst '.'.toUInt8 (cString selection.testCase) =
      some (testCase.className, name)) :
    (HoldsCase globals (madeSuite selection top testCategory testCase.classId index)
        selection.testCase ∧
      ∀ i, ∀ caseId ∈ (madeSuite selection top testCategory testCase.classId index).testCases i,
        ∃ run, allocRunTestCase globals testCategory i.val caseId = .ok run) ↔
    (testCategory = .spdm → CaseNumbered (globals.spdmCaseIds caseClass) name) := by
  obtain ⟨hid, hlt⟩ := classId_eq hclass
  rw [← caseNamed_iff hclass hfind]
  have hmade : ∀ i : Fin maxTestCaseNum,
      (madeSuite selection top testCategory testCase.classId index).testCases i =
        if i = ⟨caseClass, hlt⟩ then [index + 1] else [] := by
    intro i
    rw [madeSuite, selectedSuite, hid]
    simp only [Fin.ext_iff]
  constructor
  · intro h
    obtain ⟨⟨name', caseClass', testCase', id, hsplit', -, hnamed, hcases⟩, halloc⟩ := h
    rw [hsplit] at hsplit'
    obtain ⟨-, rfl⟩ := Prod.mk.inj (Option.some.inj hsplit')
    have hsame := hcases ⟨caseClass, hlt⟩
    rw [hmade, if_pos rfl] at hsame
    split at hsame
    · rename_i heq
      cases hsame
      rw [← heq] at hnamed
      have hmem : index + 1 ∈ (madeSuite selection top testCategory testCase.classId
          index).testCases ⟨caseClass, hlt⟩ := by
        rw [hmade, if_pos rfl]
        exact List.mem_singleton.mpr rfl
      have hrun := exists_allocRunTestCase_iff.mp (halloc _ _ hmem)
      exact ⟨hnamed, hrun.2.1⟩
    · cases hsame
  · intro h
    obtain ⟨hnamed, hmax⟩ := h
    refine ⟨⟨name, ⟨caseClass, hlt⟩, testCase, index + 1, hsplit, hclass, hnamed, hmade⟩, ?_⟩
    intro i caseId hmem
    rw [hmade] at hmem
    split at hmem
    · rename_i heq
      rw [List.mem_singleton.mp hmem, heq]
      obtain ⟨funcs, hfuncs, -⟩ := hnamed.lookup
      exact exists_allocRunTestCase_iff.mpr ⟨hlt, hmax, funcs, hfuncs⟩
    · cases hmem

/-- Soundness is about the suite that is made. -/
theorem selectionSound_iff_madeSuite {testSuites : Table IdeTestSuite maxTestSuiteNum}
    {classId : ℕ} (hrecords : ∀ i, testSuites.records i =
      if i = firstSuite then madeSuite selection top testCategory classId index else {}) :
    SelectionSound globals { testConfig with testSuites } selection ↔
      SuiteResolves testConfig (madeSuite selection top testCategory classId index) ∧
      HoldsCase globals (madeSuite selection top testCategory classId index) selection.testCase ∧
      ∃ run, prepareSuite globals { testConfig with testSuites }
        (madeSuite selection top testCategory classId index) = .ok run := by
  have hfirst : testSuites.records firstSuite =
      madeSuite selection top testCategory classId index := by rw [hrecords, if_pos rfl]
  constructor
  · intro h
    have hresolves := h.resolves
    have hholds := h.holdsCase
    have hprepared := exists_prepareTestsData_iff.mp h.prepared firstSuite
    simp only [hfirst] at hresolves hholds hprepared
    exact ⟨⟨hresolves.topology, hresolves.configuration⟩, hholds, hprepared⟩
  · intro h
    obtain ⟨hresolves, hholds, hprepared⟩ := h
    have hother : ∀ i, i ≠ firstSuite → testSuites.records i = {} := by
      intro i hi
      rw [hrecords, if_neg hi]
    refine ⟨?_, congrArg IdeTestSuite.topologyId hfirst,
      congrArg IdeTestSuite.configurationId hfirst, ?_, ?_, ?_⟩
    · intro i
      by_cases hi : i = firstSuite
      · rw [hi]
        simp only [hfirst, madeSuite, selectedSuite]
      · simp [hother i hi, hi]
    · simp only [hfirst]
      exact ⟨hresolves.topology, hresolves.configuration⟩
    · simp only [hfirst]
      exact hholds
    · rw [exists_prepareTestsData_iff]
      intro i
      by_cases hi : i = firstSuite
      · rw [hi]
        simp only [hfirst]
        exact hprepared
      · simp only [hother i hi]
        exact ⟨none, prepareSuite_of_id_eq_zero rfl⟩

/-- The selections that `main` accepts are sound just when their parts fit together. -/
theorem Stored.sound_iff_fits (h : Stored globals context testConfig)
    (hempty : testConfig.testSuites = ⟨0, fun _ => {}⟩)
    (hselect : selectTestCase globals testConfig selection = some testConfig')
    (htop : getTopologyById testConfig selection.topId = some top)
    (hconfig : getConfigurationById testConfig selection.configId = some config) :
    SelectionSound globals testConfig' selection ↔
      SelectionFits globals selection top config := by
  obtain ⟨testCategory, config', top', testCase, index, hcategory, hconfig', htop', hcase, rfl⟩ :=
    selectTestCase_eq_some hselect
  rw [hconfig] at hconfig'
  cases hconfig'
  rw [htop] at htop'
  cases htop'
  have hsame : testCategory = config.testCategory := by
    rw [h.getTestCategoryFromConfiguration_eq hconfig] at hcategory
    split at hcategory
    · exact (Option.some.inj hcategory).symm
    · cases hcategory
  subst hsame
  obtain ⟨name, caseClass, hsplit, hclass, hfind⟩ := getTestCaseFromString_eq_some hcase
  rw [selectionSound_iff_madeSuite (made_records hempty testCase.classId)]
  have hid : (madeSuite selection top config.testCategory testCase.classId index).id ≠ 0 :=
    Nat.one_ne_zero
  constructor
  · intro hsound
    obtain ⟨hresolves, hholds, hprepared⟩ := hsound
    obtain ⟨htdisp, halloc⟩ := (h.exists_prepareSuite_iff _ hresolves hid rfl).mp hprepared
    refine ⟨(madeSuite_resolves_iff htop hconfig).mp hresolves, htdisp, ?_⟩
    intro hspdm
    have hnumbered := (madeSuite_cases_iff hclass hfind hsplit).mp ⟨hholds, halloc⟩ hspdm
    rw [hspdm] at hclass
    exact (forall_caseNumbered_iff hclass hsplit).mpr hnumbered
  · intro hfits
    have hresolves : SuiteResolves testConfig
        (madeSuite selection top config.testCategory testCase.classId index) :=
      (madeSuite_resolves_iff htop hconfig).mpr hfits.type
    have hnumbered : config.testCategory = .spdm →
        CaseNumbered (globals.spdmCaseIds caseClass) name := by
      intro hspdm
      have hall := hfits.spdm hspdm
      rw [hspdm] at hclass
      exact (forall_caseNumbered_iff hclass hsplit).mp hall
    obtain ⟨hholds, halloc⟩ := (madeSuite_cases_iff hclass hfind hsplit).mpr hnumbered
    exact ⟨hresolves, hholds,
      (h.exists_prepareSuite_iff _ hresolves hid rfl).mpr ⟨hfits.tdisp, halloc⟩⟩

/-- Without suites in the configuration, a selection that is accepted is sound just when its parts
fit together, and the category of a configuration is found just when no gap is before its id. -/
theorem selectionSound_iff (h : parseIdeTestInit globals (some context) = .ok (true, testConfig))
    (hrun : globals.runTestSuite = false) :
    (∀ (selection : Selection) (testConfig' : IdeTestConfig),
      selectTestCase globals testConfig selection = some testConfig' →
      (SelectionSound globals testConfig' selection ↔
        ∀ top config, getTopologyById testConfig selection.topId = some top →
          getConfigurationById testConfig selection.configId = some config →
          SelectionFits globals selection top config)) ∧
    ∀ id config, getConfigurationById testConfig id = some config →
      (getTestCategoryFromConfiguration testConfig id = some config.testCategory ↔
        id ≤ testConfig.configurations.cnt) := by
  obtain ⟨hstored, hempty⟩ := parseIdeTestInit_accepted h
  constructor
  · intro selection testConfig' hselect
    obtain ⟨-, config, top, -, -, -, hconfig, htop, -⟩ := selectTestCase_eq_some hselect
    have hiff := hstored.sound_iff_fits (hempty hrun) hselect htop hconfig
    constructor
    · intro hsound top' config' htop' hconfig'
      rw [htop] at htop'
      rw [hconfig] at hconfig'
      cases htop'
      cases hconfig'
      exact hiff.mp hsound
    · intro hfits
      exact hiff.mpr (hfits top config htop hconfig)
  · intro id config hconfig
    rw [hstored.getTestCategoryFromConfiguration_eq hconfig]
    simp

/-- The first topology and the first configuration with the first query. -/
def firstSelection : Selection where
  topId := 1
  configId := 1
  testCase := text "Query.1"
  topId_range := by decide
  configId_range := by decide

def selectingGlobals : Globals := { runTestSuite := false }

/-- The only configuration has the id 2, and its category is not found. -/
example : acceptedWith selectingGlobals (contextOf [(text "Ports", firstPorts),
    (text "Topology_1", directTopology), (text "Configuration_2", selectiveConfiguration)])
    (fun testConfig => (getConfigurationById testConfig 2).isSome &&
      getTestCategoryFromConfiguration testConfig 2 == none) = true := by decide +kernel

theorem selectionSound_iff_selective :
    ∃ testConfig, parseIdeTestInit selectingGlobals (some (fileContext directTopology
        selectiveConfiguration selectiveSuite)) = .ok (true, testConfig) ∧
      (∀ (selection : Selection) (testConfig' : IdeTestConfig),
        selectTestCase selectingGlobals testConfig selection = some testConfig' →
        (SelectionSound selectingGlobals testConfig' selection ↔
          ∀ top config, getTopologyById testConfig selection.topId = some top →
            getConfigurationById testConfig selection.configId = some config →
            SelectionFits selectingGlobals selection top config)) ∧
      ∀ id config, getConfigurationById testConfig id = some config →
        (getTestCategoryFromConfiguration testConfig id = some config.testCategory ↔
          id ≤ testConfig.configurations.cnt) := by
  have haccepted : acceptedWith selectingGlobals (fileContext directTopology
      selectiveConfiguration selectiveSuite) (fun testConfig =>
        (selectTestCase selectingGlobals testConfig firstSelection).isSome) = true := by
    decide +kernel
  obtain ⟨testConfig, hparse, -⟩ := exists_of_acceptedWith haccepted
  exact ⟨testConfig, hparse, selectionSound_iff hparse rfl⟩

/-- A configuration of another type than the topology's is selected. -/
theorem linkConfiguration_not_sound :
    ¬ ∀ (globals : Globals) (context : IniContext) (testConfig : IdeTestConfig),
      parseIdeTestInit globals (some context) = .ok (true, testConfig) →
      globals.runTestSuite = false →
      (∀ (selection : Selection) (testConfig' : IdeTestConfig),
        selectTestCase globals testConfig selection = some testConfig' →
        SelectionSound globals testConfig' selection) ∧
      ∀ id config, getConfigurationById testConfig id = some config →
        getTestCategoryFromConfiguration testConfig id = some config.testCategory := by
  intro h
  have haccepted : acceptedWith selectingGlobals (fileContext directTopology
      [(text "type", text "link_ide")] selectiveSuite) (fun testConfig =>
        (selectTestCase selectingGlobals testConfig firstSelection).any fun testConfig' =>
          let suite := testConfig'.testSuites.records firstSuite
          (getConfigurationById testConfig' suite.configurationId).any fun config =>
            config.type != suite.type) = true := by decide +kernel
  obtain ⟨testConfig, hparse, hcheck⟩ := exists_of_acceptedWith haccepted
  obtain ⟨testConfig', hselect, hcheck⟩ := (Option.any_eq_true _ _).mp hcheck
  obtain ⟨config, hconfig, hdiffer⟩ := (Option.any_eq_true _ _).mp hcheck
  have hsound := (h _ _ testConfig hparse rfl).1 firstSelection testConfig' hselect
  obtain ⟨config', hconfig', -, htype, -⟩ := hsound.resolves.configuration
  rw [hconfig] at hconfig'
  cases hconfig'
  rw [htype, bne_self_eq_false] at hdiffer
  cases hdiffer

end TeeIoValidator.IniConfig
