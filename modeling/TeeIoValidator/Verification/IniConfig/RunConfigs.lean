import TeeIoValidator.Verification.IniConfig.BitMaps

/-! # Configurations of a run

Which items a run has, and when all of their functions are there.
-/

namespace TeeIoValidator.IniConfig

open IniFile Checked

variable {globals : Globals} {context : IniContext} {testConfig : IdeTestConfig}
  {topType : IdeTestTopologyType} {testCategory : TeeioTestCategory}

/-! ## Running the items -/

/-- The functions of an item are there and are for the type of topology. -/
def ItemServes (topType : IdeTestTopologyType) (item : IdeRunTestConfigItem) : Prop :=
  ∀ func, ∃ implementation, item.funcs.get func = some implementation ∧
    implementation.serves topType = true

/-- The functions of each kind are run without an assertion or a null call, whatever they answer. -/
def RunsEnd (top : IdeTestTopology) (items : List IdeRunTestConfigItem) : Prop :=
  ∀ func answers, ∃ passed, doRunTestConfig top func answers items = .ok passed

/-- All four functions are there and implemented for a topology. -/
def IdeTestConfigFuncs.callable (topType : IdeTestTopologyType) (connection : IdeTestConnectType)
    (funcs : IdeTestConfigFuncs) : Bool :=
  [TestConfigFunc.support, .enable, .disable, .check].all fun func =>
    (funcs.get func).any fun implementation => implementation.implemented func topType connection

theorem callable_iff {connection : IdeTestConnectType} {funcs : IdeTestConfigFuncs} :
    funcs.callable topType connection = true ↔ ∀ func, ∃ implementation,
      funcs.get func = some implementation ∧
        implementation.implemented func topType connection = true := by
  simp only [IdeTestConfigFuncs.callable, List.all_eq_true, Option.any_eq_true]
  constructor
  · intro h func
    exact h func (by cases func <;> simp)
  · exact fun h func _ => h func

theorem runsEnd_of_callable {top : IdeTestTopology} {items : List IdeRunTestConfigItem}
    (hne : items ≠ [])
    (h : ∀ item ∈ items, item.funcs.callable top.type top.connection = true) :
    RunsEnd top items := by
  intro func answers
  induction items with
  | nil => exact absurd rfl hne
  | cons item items ih =>
      obtain ⟨implementation, hfunc, himplemented⟩ :=
        callable_iff.mp (h item List.mem_cons_self) func
      cases items with
      | nil =>
          simp only [doRunTestConfig, hfunc, himplemented, if_true]
          cases answers item with
          | false => exact ⟨false, rfl⟩
          | true => exact ⟨true, rfl⟩
      | cons next items =>
          have hrest : ∃ passed, doRunTestConfig top func answers (next :: items) = .ok passed :=
            ih (List.cons_ne_nil _ _) fun i hi => h i (List.mem_cons_of_mem _ hi)
          rw [doRunTestConfig]
          simp only [hfunc, himplemented, if_true]
          cases answers item with
          | false => exact ⟨false, rfl⟩
          | true => exact hrest

/-- When every function answers true, the run reaches all items. -/
theorem RunsEnd.callable {top : IdeTestTopology} {items : List IdeRunTestConfigItem}
    (h : RunsEnd top items) {item : IdeRunTestConfigItem} (hitem : item ∈ items) :
    item.funcs.callable top.type top.connection = true := by
  rw [callable_iff]
  intro func
  obtain ⟨passed, hrun⟩ := h func fun _ => true
  clear h
  induction items with
  | nil => cases hitem
  | cons first items ih =>
      unfold doRunTestConfig at hrun
      split at hrun
      · cases hrun
      · rename_i implementation hfunc
        split at hrun
        · rename_i himplemented
          rcases List.mem_cons.mp hitem with rfl | hlater
          · exact ⟨implementation, hfunc, himplemented⟩
          · cases items with
            | nil => cases hlater
            | cons next items => exact ih hlater hrun
        · cases hrun

/-! ## Allocating the items -/

/-- The items of the bits that are set. -/
theorem mem_allocRunTestConfigItems {configBits : ℕ} {bits : List ℕ}
    {items items' : List IdeRunTestConfigItem} {offset offset' : ℕ}
    (h : allocRunTestConfigItems globals configBits topType testCategory bits (items, offset) =
      .ok (items', offset')) (item : IdeRunTestConfigItem) :
    item ∈ items' ↔ item ∈ items ∨ ∃ i ∈ bits, configBits.testBit i = true ∧
      allocRunTestConfigItem i topType testCategory = .ok item := by
  induction bits generalizing items offset with
  | nil =>
      cases h
      simp
  | cons i bits ih =>
      rw [allocRunTestConfigItems] at h
      split at h
      · rename_i hset
        obtain ⟨new, hnew, h⟩ := bind_eq_ok.mp h
        split at h
        · cases h
        · split at h
          · rw [ih h]
            simp only [List.mem_append, List.mem_cons, List.not_mem_nil, or_and_right, exists_or,
              exists_eq_left, hset, hnew, true_and, false_or, Except.ok.injEq,
              eq_comm (a := new), or_assoc]
          · cases h
      · rename_i hset
        rw [ih h]
        simp [hset]

/-- Short names are enough for all items of known functions. -/
theorem exists_allocRunTestConfigItems {configBits : ℕ} {bits : List ℕ}
    {items : List IdeRunTestConfigItem} {offset : ℕ} (cost : ℕ → ℕ)
    (hknown : ∀ i ∈ bits, configBits.testBit i = true → ∃ item name,
      allocRunTestConfigItem i topType testCategory = .ok item ∧
      getTestConfigurationName globals i testCategory = some name ∧ name.length + 1 ≤ cost i)
    (hcost : offset + (bits.map cost).sum < maxNameLength) :
    ∃ items' offset', offset ≤ offset' ∧
      allocRunTestConfigItems globals configBits topType testCategory bits (items, offset) =
        .ok (items', offset') := by
  induction bits generalizing items offset with
  | nil => exact ⟨items, offset, le_rfl, rfl⟩
  | cons i bits ih =>
      rw [List.map_cons, List.sum_cons] at hcost
      have hrest : ∀ j ∈ bits, configBits.testBit j = true → ∃ item name,
          allocRunTestConfigItem j topType testCategory = .ok item ∧
          getTestConfigurationName globals j testCategory = some name ∧
          name.length + 1 ≤ cost j := fun j hj => hknown j (List.mem_cons_of_mem _ hj)
      rw [allocRunTestConfigItems]
      split
      · rename_i hset
        obtain ⟨item, name, hitem, hname, hle⟩ := hknown i List.mem_cons_self hset
        have hfits : offset + name.length + 1 < maxNameLength := by omega
        simp only [hitem, ok_bind, hname, if_pos hfits]
        have hnext : ∃ items' offset', offset + name.length + 1 ≤ offset' ∧
            allocRunTestConfigItems globals configBits topType testCategory bits
              (items ++ [item], offset + name.length + 1) = .ok (items', offset') :=
          ih hrest (by omega)
        obtain ⟨items', offset', hle', hok⟩ := hnext
        exact ⟨items', offset', by omega, hok⟩
      · exact ih hrest (by omega)

/-! ## What the categories register -/

/-- The names of the configurations that can be in a run. -/
def runConfigurationNames : TeeioTestCategory → List (List UInt8)
  | .pcieIde => pcieIdeTestConfigurationName
  | .cxlIde => cxlIdeTestConfigurationName
  | .cxlTsp => cxlTspTestConfigurationName
  | .tdisp => tdispTestConfigurationName
  | .spdm => [text "default"]

def nameCost (testCategory : TeeioTestCategory) (i : ℕ) : ℕ :=
  (((runConfigurationNames testCategory)[i]?).map fun name => name.length + 1).getD 0

theorem nameCost_zero (testCategory : TeeioTestCategory) : nameCost testCategory 0 = 8 := by
  cases testCategory <;> rfl

/-- All names of a category fit into the name of a run's configuration. -/
theorem nameCost_lt (testCategory : TeeioTestCategory) :
    ((List.range 32).map (nameCost testCategory)).sum < maxNameLength := by
  cases testCategory <;> decide +kernel

/-- The types that a category has functions for. -/
def HasFunctions : TeeioTestCategory → IdeTestTopologyType → Prop
  | .cxlIde, topType => topType = .linkIde
  | .tdisp, topType => topType = .selIde
  | .pcieIde, _ | .cxlTsp, _ | .spdm, _ => True

/-- The configurations in the mask of the PCIe tests that have no functions, or one that is not
implemented: for `selLinkIde` all of them, the default included. -/
def unimplementedPcieConfigurations :
    IdeTestTopologyType → IdeTestConnectType → List ℕ
  | .selIde, connection => [configurationTypeSwitch, configurationTypePartialHeaderEnc,
      configurationTypeAggreg, configurationTypeTeeLimitedStream] ++
        if connection = .p2p then [configurationTypeFlitModeDisable] else []
  | .linkIde, connection =>
    [configurationTypeSwitch, configurationTypePartialHeaderEnc, configurationTypeAggreg] ++
      if connection = .p2p then [configurationTypeFlitModeDisable] else []
  | .selLinkIde, _ => [configurationTypeDefault, configurationTypePartialHeaderEnc,
      configurationTypePcrc, configurationTypeSelectiveIdeForConfig, configurationTypeAggreg,
      configurationTypeFlitModeDisable]

def unimplementedConfigurations (topType : IdeTestTopologyType) (connection : IdeTestConnectType) :
    TeeioTestCategory → List ℕ
  | .pcieIde => unimplementedPcieConfigurations topType connection
  | .cxlIde => [cxlIdeConfigurationTypeIdeStop]
  | .cxlTsp | .tdisp | .spdm => []

theorem exists_getTestConfigurationFuncs (hfunctions : HasFunctions testCategory topType) {i : ℕ}
    (hi : i < (runConfigurationNames testCategory).length) :
    ∃ funcs, getTestConfigurationFuncs topType i testCategory = .ok funcs := by
  cases testCategory with
  | pcieIde =>
      have hlt : i < (pcieIdeConfigFuncs topType).length := by
        cases topType <;> exact hi
      exact ⟨_, by rw [getTestConfigurationFuncs, assertElement, List.getElem?_eq_getElem hlt]⟩
  | cxlIde =>
      have hlink : topType = .linkIde := hfunctions
      have hlt : i < cxlIdeConfigFuncs.length := hi
      exact ⟨_, by rw [getTestConfigurationFuncs, if_pos hlink, assertElement,
        List.getElem?_eq_getElem hlt]⟩
  | cxlTsp => exact ⟨_, rfl⟩
  | tdisp =>
      have hzero : i = configurationTypeDefault := Nat.lt_one_iff.mp hi
      exact ⟨_, by rw [getTestConfigurationFuncs, if_pos ⟨hfunctions, hzero⟩]⟩
  | spdm =>
      have hzero : i = 0 := Nat.lt_one_iff.mp hi
      exact ⟨_, by rw [getTestConfigurationFuncs, if_pos hzero]⟩

/-- All four functions are there and are for the type. -/
def IdeTestConfigFuncs.serve (topType : IdeTestTopologyType) (funcs : IdeTestConfigFuncs) : Bool :=
  [TestConfigFunc.support, .enable, .disable, .check].all fun func =>
    (funcs.get func).any fun implementation => implementation.serves topType

theorem itemServes_iff {item : IdeRunTestConfigItem} :
    ItemServes topType item ↔ item.funcs.serve topType = true := by
  simp only [ItemServes, IdeTestConfigFuncs.serve, List.all_eq_true, Option.any_eq_true]
  constructor
  · exact fun h func _ => h func
  · intro h func
    exact h func (by cases func <;> simp)

/-- Apart from the unimplemented ones, the functions of a configuration in the mask serve the
type and can be called. -/
theorem getTestConfigurationFuncs_serve (hfunctions : HasFunctions testCategory topType) {i : ℕ}
    (hi : i < (runConfigurationNames testCategory).length) {mask : ℕ}
    (hmask : getTestConfigurationBitmask topType testCategory = .ok mask)
    (hbit : mask.testBit i = true) {connection : IdeTestConnectType}
    (himplemented : i ∉ unimplementedConfigurations topType connection testCategory)
    {funcs : IdeTestConfigFuncs}
    (hfuncs : getTestConfigurationFuncs topType i testCategory = .ok funcs) :
    funcs.serve topType = true ∧ funcs.callable topType connection = true := by
  cases testCategory with
  | pcieIde =>
      rw [getTestConfigurationFuncs, assertElement] at hfuncs
      have htable : ∀ i < 8, mask.testBit i = true →
          i ∉ unimplementedPcieConfigurations topType connection →
          ((pcieIdeConfigFuncs topType)[i]?.all fun funcs =>
            funcs.serve topType && funcs.callable topType connection) = true := by
        cases topType <;> cases hmask <;> cases connection <;> decide
      have hserve := htable i hi hbit himplemented
      split at hfuncs
      · rename_i element helement
        cases hfuncs
        rw [helement, Option.all_some, Bool.and_eq_true] at hserve
        exact hserve
      · cases hfuncs
  | cxlIde =>
      have hlink : topType = .linkIde := hfunctions
      subst hlink
      rw [getTestConfigurationFuncs, if_pos rfl, assertElement] at hfuncs
      have htable : ∀ i < 4, i ∉ [cxlIdeConfigurationTypeIdeStop] →
          (cxlIdeConfigFuncs[i]?.all fun funcs =>
            funcs.serve .linkIde && funcs.callable .linkIde connection) = true := by
        cases connection <;> decide
      have hserve := htable i hi himplemented
      split at hfuncs
      · rename_i element helement
        cases hfuncs
        rw [helement, Option.all_some, Bool.and_eq_true] at hserve
        exact hserve
      · cases hfuncs
  | cxlTsp =>
      cases hfuncs
      cases topType <;> exact ⟨rfl, rfl⟩
  | tdisp =>
      have hzero : i = configurationTypeDefault := Nat.lt_one_iff.mp hi
      have hsel : topType = .selIde := hfunctions
      subst hsel
      rw [getTestConfigurationFuncs, if_pos ⟨rfl, hzero⟩] at hfuncs
      cases hfuncs
      exact ⟨rfl, rfl⟩
  | spdm =>
      have hzero : i = 0 := Nat.lt_one_iff.mp hi
      rw [getTestConfigurationFuncs, if_pos hzero] at hfuncs
      cases hfuncs
      cases topType <;> exact ⟨rfl, rfl⟩

/-- An unimplemented configuration is in the mask, and one of its functions cannot be called. -/
theorem unimplementedConfigurations_spec (hfunctions : HasFunctions testCategory topType) {mask : ℕ}
    (hmask : getTestConfigurationBitmask topType testCategory = .ok mask)
    {connection : IdeTestConnectType} {i : ℕ}
    (hi : i ∈ unimplementedConfigurations topType connection testCategory) :
    i < configurationTypeNum ∧ mask.testBit i = true ∧
      ∃ funcs, getTestConfigurationFuncs topType i testCategory = .ok funcs ∧
        funcs.callable topType connection = false := by
  cases testCategory with
  | pcieIde =>
      have htable : ∀ i ∈ unimplementedPcieConfigurations topType connection,
          i < configurationTypeNum ∧ mask.testBit i = true ∧
            ((pcieIdeConfigFuncs topType)[i]?.any fun funcs =>
              !funcs.callable topType connection) = true := by
        cases topType <;> cases hmask <;> cases connection <;> decide
      obtain ⟨hlt, hbit, hfuncs⟩ := htable i hi
      obtain ⟨funcs, hget, hnot⟩ := (Option.any_eq_true _ _).mp hfuncs
      refine ⟨hlt, hbit, funcs, ?_, by simpa using hnot⟩
      rw [getTestConfigurationFuncs, assertElement, hget]
  | cxlIde =>
      have hlink : topType = .linkIde := hfunctions
      subst hlink
      cases hmask
      cases List.mem_singleton.mp hi
      refine ⟨by decide, by decide, ConfigImplementation.cxlIdeIdeStop.funcs, rfl, rfl⟩
  | cxlTsp | tdisp | spdm => cases hi

theorem exists_getTestConfigurationBitmask (hfunctions : HasFunctions testCategory topType) :
    ∃ mask, getTestConfigurationBitmask topType testCategory = .ok mask := by
  cases testCategory with
  | pcieIde => cases topType <;> exact ⟨_, rfl⟩
  | cxlIde => exact ⟨_, if_pos hfunctions⟩
  | cxlTsp => exact ⟨_, rfl⟩
  | tdisp => exact ⟨_, if_pos hfunctions⟩
  | spdm => exact ⟨_, rfl⟩

theorem getTestConfigurationBitmask_default {mask : ℕ}
    (hmask : getTestConfigurationBitmask topType testCategory = .ok mask) :
    mask.testBit 0 = true := by
  cases testCategory with
  | pcieIde => cases topType <;> cases hmask <;> decide
  | cxlIde | tdisp =>
      rw [getTestConfigurationBitmask] at hmask
      split at hmask
      · cases hmask
        decide
      · cases hmask
  | cxlTsp | spdm =>
      cases hmask
      decide

/-! ## Stored suites -/

section

variable {sectionName : List UInt8} {index i mask : ℕ} {config : IdeTestConfiguration}
  {suite : IdeTestSuite}

/-- The type of a suite has functions, unless it is one of the TDISP tests. -/
theorem Stored.hasFunctions (h : Stored globals context testConfig)
    (hresolves : SuiteResolves testConfig suite)
    (htdisp : suite.testCategory = .tdisp → suite.type = .selIde) :
    HasFunctions suite.testCategory suite.type := by
  obtain ⟨config, hconfig, -, hsame⟩ := hresolves.configuration
  have htype := (h.configurationRead hconfig).type
  rw [hsame.1, hsame.2] at htype
  cases hcategory : suite.testCategory with
  | cxlIde =>
      rw [hcategory] at htype
      exact (Option.some.inj (Except.ok.inj htype)).symm
  | tdisp => exact htdisp hcategory
  | pcieIde | cxlTsp | spdm => trivial

/-- Without functions for the type, nothing is allocated. -/
theorem SuiteResolves.alloc_of_not_hasFunctions (h : SuiteResolves testConfig suite)
    (hnot : ¬ (suite.testCategory = .tdisp → suite.type = .selIde))
    (items : List IdeRunTestConfigItem) :
    allocRunTestConfig globals testConfig suite ≠ .ok items := by
  obtain ⟨htdisp, htype⟩ := Classical.not_imp.mp hnot
  obtain ⟨config, hconfig, -, hsame⟩ := h.configuration
  obtain ⟨top, htop, -, -⟩ := h.topology
  have hmask : getTestConfigurationBitmask config.type suite.testCategory = .error .assertion := by
    rw [htdisp, hsame.1]
    exact if_neg htype
  rw [allocRunTestConfig, hconfig, htop]
  simp only [hmask, error_bind]
  split <;> simp

/-- A bit of a run has one of the category's names. -/
theorem ConfigurationRead.exists_name
    (h : ConfigurationRead globals context sectionName index config)
    (hmask : getTestConfigurationBitmask topType config.testCategory = .ok mask)
    (hbit : (config.bitMap &&& mask).testBit i = true) :
    ∃ name, (runConfigurationNames config.testCategory)[i]? = some name ∧
      getTestConfigurationName globals i config.testCategory = some name := by
  rw [Nat.testBit_and, Bool.and_eq_true] at hbit
  have hname : ∃ name, getTestConfigurationName globals i config.testCategory = some name := by
    cases (h.testBit_iff i).mp hbit.1 with
    | inl hzero =>
        rw [hzero]
        cases config.testCategory <;> exact ⟨_, rfl⟩
    | inr hset =>
        obtain ⟨-, name, hname, -⟩ := hset
        exact ⟨name, hname⟩
  obtain ⟨name, hname⟩ := hname
  refine ⟨name, ?_, hname⟩
  cases hcategory : config.testCategory with
  | pcieIde | cxlIde | cxlTsp | tdisp =>
      rw [hcategory] at hname
      exact hname
  | spdm =>
      rw [hcategory] at hname hmask
      cases hmask
      have hzero : i = 0 := by
        have hone := hbit.2
        rw [show (1 : ℕ) = 2 ^ 0 from rfl, Nat.testBit_two_pow, decide_eq_true_eq] at hone
        exact hone.symm
      subst hzero
      exact hname

theorem allocRunTestConfigItem_eq_ok {item : IdeRunTestConfigItem} :
    allocRunTestConfigItem i topType testCategory = .ok item ↔ i < configurationTypeNum ∧
      ∃ funcs, getTestConfigurationFuncs topType i testCategory = .ok funcs ∧
        item = ⟨i, testCategory, funcs⟩ := by
  rw [allocRunTestConfigItem]
  split
  · rename_i hlt
    rw [bind_eq_ok]
    simp only [hlt, true_and, Except.ok.injEq, eq_comm]
  · rename_i hlt
    simp [hlt]

theorem runConfigurationNames_length_le (testCategory : TeeioTestCategory) :
    (runConfigurationNames testCategory).length ≤ configurationTypeNum := by
  cases testCategory <;> decide

/-- The loop over the bits ends with items and a name. -/
theorem exists_allocRunTestConfigItems_range {configBits : ℕ}
    (hdefault : configBits.testBit 0 = true)
    (hknown : ∀ i, configBits.testBit i = true → ∃ item name,
      allocRunTestConfigItem i topType testCategory = .ok item ∧
      getTestConfigurationName globals i testCategory = some name ∧
      name.length + 1 ≤ nameCost testCategory i) :
    ∃ items offset, 1 < offset ∧ allocRunTestConfigItems globals configBits topType testCategory
      (List.range 32) ([], 0) = .ok (items, offset) := by
  obtain ⟨item, name, hitem, hname, -⟩ := hknown 0 hdefault
  have hlength : name.length = 7 := by
    have hget : getTestConfigurationName globals 0 testCategory = some (text "default") := by
      cases testCategory <;> rfl
    rw [hname] at hget
    rw [Option.some.inj hget]
    rfl
  have hcost := nameCost_lt testCategory
  rw [List.range_succ_eq_map, List.map_cons, List.sum_cons, nameCost_zero] at hcost
  have hfits : 0 + name.length + 1 < maxNameLength := by
    rw [hlength]
    decide
  have hrest : ∃ items' offset', 0 + name.length + 1 ≤ offset' ∧
      allocRunTestConfigItems globals configBits topType testCategory
        ((List.range 31).map Nat.succ) ([] ++ [item], 0 + name.length + 1) =
          .ok (items', offset') := by
    refine exists_allocRunTestConfigItems (nameCost testCategory) (fun i _ => hknown i) ?_
    rw [hlength]
    exact hcost
  obtain ⟨items, offset, hle, hok⟩ := hrest
  refine ⟨items, offset, by omega, ?_⟩
  rw [List.range_succ_eq_map, allocRunTestConfigItems, if_pos hdefault]
  simp only [hitem, ok_bind, hname, if_pos hfits]
  exact hok

/-- The items of a stored suite: one for each bit that is set and in the mask. -/
theorem Stored.exists_allocRunTestConfig (h : Stored globals context testConfig)
    (hresolves : SuiteResolves testConfig suite)
    (hfunctions : HasFunctions suite.testCategory suite.type)
    (hconfig : getConfigurationById testConfig suite.configurationId = some config)
    (hmask : getTestConfigurationBitmask suite.type suite.testCategory = .ok mask) :
    ∃ items, allocRunTestConfig globals testConfig suite = .ok items ∧
      ∀ item, item ∈ items ↔ ∃ i < 32, (config.bitMap &&& mask).testBit i = true ∧
        allocRunTestConfigItem i suite.type suite.testCategory = .ok item := by
  obtain ⟨top, htop, htopEnabled, htype⟩ := hresolves.topology
  obtain ⟨config', hconfig', henabled, hsame⟩ := hresolves.configuration
  rw [hconfig] at hconfig'
  cases hconfig'
  have hdescribed := h.configurationRead hconfig
  have hbitMap : config.bitMap ≠ 0 := by
    intro hzero
    have hdefault := hdescribed.testBit_default
    rw [hzero] at hdefault
    cases hdefault
  have hguard : (config.enabled && config.bitMap != 0 && top.enabled &&
      top.type == config.type) = true := by
    simp [henabled, hbitMap, htopEnabled, htype, hsame.1]
  have hknown : ∀ i, (config.bitMap &&& mask).testBit i = true → ∃ item name,
      allocRunTestConfigItem i suite.type suite.testCategory = .ok item ∧
      getTestConfigurationName globals i suite.testCategory = some name ∧
      name.length + 1 ≤ nameCost suite.testCategory i := by
    intro i hbit
    rw [← hsame.2] at hmask hfunctions ⊢
    obtain ⟨name, hname, hget⟩ := hdescribed.exists_name hmask hbit
    have hlt := (List.getElem?_eq_some_iff.mp hname).1
    obtain ⟨funcs, hfuncs⟩ := exists_getTestConfigurationFuncs hfunctions hlt
    refine ⟨⟨i, config.testCategory, funcs⟩, name, ?_, hget, ?_⟩
    · exact allocRunTestConfigItem_eq_ok.mpr
        ⟨hlt.trans_le (runConfigurationNames_length_le _), funcs, hfuncs, rfl⟩
    · rw [nameCost, hname]
      rfl
  have hdefault : (config.bitMap &&& mask).testBit 0 = true := by
    rw [Nat.testBit_and, hdescribed.testBit_default, getTestConfigurationBitmask_default hmask]
    rfl
  obtain ⟨items, offset, hoffset, hok⟩ := exists_allocRunTestConfigItems_range hdefault hknown
  refine ⟨items, ?_, ?_⟩
  · rw [allocRunTestConfig, hconfig, htop]
    simp only [hguard, if_true]
    simp only [hsame.1, htype, hmask, ok_bind, hok, if_pos hoffset]
  · intro item
    rw [mem_allocRunTestConfigItems hok item]
    simp only [List.not_mem_nil, false_or, List.mem_range]

end

end TeeIoValidator.IniConfig
