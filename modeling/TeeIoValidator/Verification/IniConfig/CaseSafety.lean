import TeeIoValidator.Verification.IniConfig.Accepted
import TeeIoValidator.Verification.IniConfig.Cases

/-! # Safety of case lookups

The cases of an accepted suite exist just when its section does not list the number 0.
-/

namespace TeeIoValidator.IniConfig

open IniFile Checked

variable {globals : Globals} {context : IniContext} {testConfig testConfig' : IdeTestConfig}
  {sectionName : List UInt8} {testCategory : TeeioTestCategory} {caseClass id : ℕ}

/-! ## Lookups -/

theorem getTestCaseFuncs_eq_ok {caseId : ℤ} {funcs : IdeTestCaseFuncs} :
    getTestCaseFuncs globals testCategory caseClass caseId = .ok funcs ↔
      ∃ testCases, (testCaseFuncs globals testCategory)[caseClass]? = some testCases ∧
        0 ≤ caseId ∧ caseId < testCases.cnt ∧ testCases.funcs[caseId.toNat]? = some funcs := by
  rw [getTestCaseFuncs, bind_eq_ok]
  simp only [assertElement]
  cases hclass : (testCaseFuncs globals testCategory)[caseClass]? with
  | none => simp
  | some testCases =>
      simp only [Except.ok.injEq, Option.some.injEq, exists_eq_left']
      split
      · rename_i hlt
        split
        · rename_i hneg
          simp [Int.not_le.mpr hneg]
        · rename_i hpos
          split
          · rename_i element helement
            simp [hlt, Int.not_lt.mp hpos, helement]
          · rename_i helement
            simp [helement]
      · rename_i hge
        simp [hge]

/-- The number is one of a case that is registered, and the case at the index before it has that
name. -/
structure CaseExists (globals : Globals) (testCategory : TeeioTestCategory) (caseClass id : ℕ) :
    Prop where
  inRange : ∃ testCases, (testCaseFuncs globals testCategory)[caseClass]? = some testCases ∧
    1 ≤ id ∧ id ≤ testCases.cnt
  lookup : ∃ funcs, getTestCaseFuncs globals testCategory caseClass (id - 1) = .ok funcs ∧
    funcs.name = decimalString id

theorem caseExists_iff : CaseExists globals testCategory caseClass id ↔
    ∃ testCases funcs, (testCaseFuncs globals testCategory)[caseClass]? = some testCases ∧
      1 ≤ id ∧ id ≤ testCases.cnt ∧ testCases.funcs[id - 1]? = some funcs ∧
      funcs.name = decimalString id := by
  constructor
  · intro h
    obtain ⟨testCases, hclass, hpos, hle⟩ := h.inRange
    obtain ⟨funcs, hfuncs, hname⟩ := h.lookup
    obtain ⟨testCases', hclass', -, -, helement⟩ := getTestCaseFuncs_eq_ok.mp hfuncs
    rw [hclass] at hclass'
    cases hclass'
    rw [show ((id : ℤ) - 1).toNat = id - 1 by omega] at helement
    exact ⟨testCases, funcs, hclass, hpos, hle, helement, hname⟩
  · intro h
    obtain ⟨testCases, funcs, hclass, hpos, hle, helement, hname⟩ := h
    refine ⟨⟨testCases, hclass, hpos, hle⟩, funcs, ?_, hname⟩
    refine getTestCaseFuncs_eq_ok.mpr ⟨testCases, hclass, by omega, by omega, ?_⟩
    rwa [show ((id : ℤ) - 1).toNat = id - 1 by omega]

/-! ## What is registered -/

theorem numberedCases_getElem? {cnt : ℕ} {check : Bool} (hpos : 1 ≤ id) (hle : id ≤ cnt) :
    (numberedCases cnt check).funcs[id - 1]? = some ⟨decimalString id, check⟩ := by
  have hlt : id - 1 < cnt := by omega
  simp [numberedCases, List.getElem?_range hlt, Nat.sub_add_cancel hpos]

/-- A class whose names are numbers has its cases in their order. -/
theorem exists_numberedCases (hspdm : testCategory ≠ .spdm) {testCase : IdeTestCaseName}
    (hname : (testCaseNames globals testCategory)[caseClass]? = some testCase) {ids : List ℕ}
    (hids : getUint32Array testCase.names = some ids) :
    ∃ check, (testCaseFuncs globals testCategory)[caseClass]? =
      some (numberedCases (getMaxFromUint32Array ids) check) := by
  have hlt := (List.getElem?_eq_some_iff.mp hname).1
  have hnumbered : ∀ (names : List IdeTestCaseName) (funcs : List TeeioTestCases),
      (∀ i < names.length, ∀ c ∈ names[i]?, ∀ numbers ∈ getUint32Array c.names,
        funcs[i]? = some (numberedCases (getMaxFromUint32Array numbers) false) ∨
          funcs[i]? = some (numberedCases (getMaxFromUint32Array numbers) true)) →
      caseClass < names.length → names[caseClass]? = some testCase →
      ∃ check, funcs[caseClass]? = some (numberedCases (getMaxFromUint32Array ids) check) := by
    intro names funcs htable hlt hget
    cases htable caseClass hlt testCase hget ids hids with
    | inl hfalse => exact ⟨false, hfalse⟩
    | inr htrue => exact ⟨true, htrue⟩
  cases testCategory with
  | pcieIde =>
      exact hnumbered pcieIdeTestCaseNames pcieIdeTestCaseFuncs (by decide +kernel) hlt hname
  | cxlIde => exact hnumbered cxlIdeTestCaseNames cxlIdeTestCaseFuncs (by decide +kernel) hlt hname
  | cxlTsp => exact hnumbered cxlTspTestCaseNames cxlTspTestCaseFuncs (by decide +kernel) hlt hname
  | tdisp => exact hnumbered tdispTestCaseNames tdispTestCaseFuncs (by decide +kernel) hlt hname
  | spdm => exact absurd rfl hspdm

/-- A class of the responder has the ids of its cases as names. -/
theorem spdmTestCaseNames_eq_some {testCase : IdeTestCaseName}
    (hname : (spdmTestCaseNames globals)[caseClass]? = some testCase) :
    ∃ className, spdmTestClassNames[caseClass]? = some className ∧
      testCase = ⟨className, spdmCaseIdsString (globals.spdmCaseIds caseClass), caseClass⟩ := by
  rw [spdmTestCaseNames, List.getElem?_map, List.getElem?_zipIdx, Option.map_map,
    Option.map_eq_some_iff] at hname
  obtain ⟨className, hget, rfl⟩ := hname
  rw [Nat.zero_add]
  exact ⟨className, hget, rfl⟩

theorem spdmTestCaseFuncs_getElem? {testCase : IdeTestCaseName}
    (hname : (spdmTestCaseNames globals)[caseClass]? = some testCase) :
    (spdmTestCaseFuncs globals)[caseClass]? =
      some ⟨(globals.spdmCaseIds caseClass).map fun id => ⟨decimalString id, false⟩,
        getMaxFromUint32Array (globals.spdmCaseIds caseClass)⟩ := by
  obtain ⟨className, hget, -⟩ := spdmTestCaseNames_eq_some hname
  simp [spdmTestCaseFuncs, List.getElem?_zipIdx, hget]

theorem le_getMaxFromUint32Array {ids : List ℕ} (h : id ∈ ids) :
    id ≤ getMaxFromUint32Array ids := by
  have hfold : ∀ (ids : List ℕ) (bound : ℕ), bound ≤ ids.foldl max bound ∧
      ∀ id ∈ ids, id ≤ ids.foldl max bound := by
    intro ids
    induction ids with
    | nil => simp
    | cons first rest ih =>
        intro bound
        obtain ⟨hbound, hrest⟩ := ih (max bound first)
        refine ⟨(le_max_left bound first).trans hbound, ?_⟩
        intro id hid
        cases List.mem_cons.mp hid with
        | inl heq => exact heq ▸ (le_max_right bound first).trans hbound
        | inr hmem => exact hrest id hmem
  exact (hfold ids 0).2 id h

/-- The case of a number, by its class. The cases of the SPDM responder are not numbered by the
validator. -/
def NamesCase (globals : Globals) (testCategory : TeeioTestCategory) (caseClass id : ℕ) : Prop :=
  id ≠ 0 ∧ (testCategory = .spdm → (globals.spdmCaseIds caseClass)[id - 1]? = some id)

/-- A number that has been listed is the one of a case unless it is 0. -/
theorem ListsCases.caseExists_iff {testCase : IdeTestCaseName} {casesId : List ℕ}
    (hlists : ListsCases context sectionName testCase casesId)
    (hname : (testCaseNames globals testCategory)[caseClass]? = some testCase)
    (hid : id ∈ casesId) :
    CaseExists globals testCategory caseClass id ↔ NamesCase globals testCategory caseClass id := by
  rw [IniConfig.caseExists_iff, NamesCase]
  by_cases hspdm : testCategory = .spdm
  · subst hspdm
    have hfuncs := spdmTestCaseFuncs_getElem? hname
    rw [testCaseFuncs, hfuncs]
    constructor
    · intro h
      obtain ⟨testCases, funcs, hclass, hpos, -, helement, hfuncsName⟩ := h
      cases hclass
      rw [List.getElem?_map, Option.map_eq_some_iff] at helement
      obtain ⟨found, hfound, rfl⟩ := helement
      rw [decimalString_injective hfuncsName] at hfound
      exact ⟨by omega, fun _ => hfound⟩
    · intro h
      have hfound := h.2 rfl
      refine ⟨_, ⟨decimalString id, false⟩, rfl, by omega, ?_, ?_, rfl⟩
      · exact le_getMaxFromUint32Array (List.mem_of_getElem? hfound)
      · rw [List.getElem?_map, hfound]
        rfl
  · obtain ⟨ids, value, hids, -, -, -, hle⟩ := hlists
    obtain ⟨check, hfuncs⟩ := exists_numberedCases hspdm hname hids
    rw [hfuncs]
    constructor
    · intro h
      obtain ⟨-, -, -, hpos, -⟩ := h
      exact ⟨by omega, fun heq => absurd heq hspdm⟩
    · intro h
      have hpos : 1 ≤ id := by omega
      exact ⟨_, _, rfl, hpos, hle id hid, numberedCases_getElem? hpos (hle id hid), rfl⟩

/-! ## Accepted suites -/

theorem parseTestSuiteSection_accepted {index : ℕ} {slot : Fin maxTestSuiteNum}
    (h : parseTestSuiteSection globals context testConfig index = .ok (true, testConfig'))
    (hslot : slot.val = index - 1) :
    TestSuiteRead globals context testConfig (testSuiteSectionName index) index
      (testConfig'.testSuites.records slot) := by
  rw [parseTestSuiteSection, inSection] at h
  split at h
  · cases h
  · obtain ⟨valid, -, h⟩ := bind_eq_ok.mp h
    split at h
    · obtain ⟨suite, hsuite, h⟩ := bind_eq_ok.mp h
      split at h
      · cases h
      · rw [storeTestSuite] at h
        split at h
        · rename_i suite hlt
          cases h
          have heq : slot = ⟨index - 1, hlt⟩ := Fin.ext hslot
          rw [heq]
          simp only [Table.put_records_self]
          exact parseTestSuite_eq_some hsuite
        · cases h
    · cases h

/-- Each case that an accepted section has stored exists just when the numbers that the section
lists are those of cases: none is 0. -/
theorem parseTestSuiteSection_casesExist_iff {index : ℕ} {slot : Fin maxTestSuiteNum}
    (h : parseTestSuiteSection globals context testConfig index = .ok (true, testConfig'))
    (hslot : slot.val = index - 1) :
    (∀ i, ∀ id ∈ (testConfig'.testSuites.records slot).testCases i,
      CaseExists globals (testConfig'.testSuites.records slot).testCategory i.val id) ↔
    ∀ (i : Fin maxTestCaseNum) (testCase : IdeTestCaseName) (casesId : List ℕ),
      (testCaseNames globals (testConfig'.testSuites.records slot).testCategory)[i.val]? =
        some testCase →
      ListsCases context (testSuiteSectionName index) testCase casesId → ∀ id ∈ casesId,
        NamesCase globals (testConfig'.testSuites.records slot).testCategory i.val id := by
  have hread := parseTestSuiteSection_accepted h hslot
  constructor
  · intro hexist i testCase casesId hname hlists id hid
    rw [← hlists.caseExists_iff hname hid]
    exact hexist i id ((hread.mem_testCases i id).mpr ⟨testCase, casesId, hname, hlists, hid⟩)
  · intro hnames i id hid
    obtain ⟨testCase, casesId, hname, hlists, hmem⟩ := (hread.mem_testCases i id).mp hid
    rw [hlists.caseExists_iff hname hmem]
    exact hnames i testCase casesId hname hlists id hmem

/-- A topology and a configuration for selective streams. -/
def selectiveStored : IdeTestConfig where
  topologies := ⟨1, fun i => if i.val = 0 then { id := 1, enabled := true } else {}⟩
  configurations :=
    ⟨1, fun i => if i.val = 0 then { id := 1, enabled := true, bitMap := 1 } else {}⟩

theorem parseTestSuiteSection_casesExist_iff_query :
    ∃ testConfig', parseTestSuiteSection {} (contextOf [(text "TestSuite_1", selectiveSuite)])
        selectiveStored 1 = .ok (true, testConfig') ∧
      ((∀ i, ∀ id ∈ (testConfig'.testSuites.records firstSuite).testCases i,
        CaseExists {} (testConfig'.testSuites.records firstSuite).testCategory i.val id) ↔
      ∀ (i : Fin maxTestCaseNum) (testCase : IdeTestCaseName) (casesId : List ℕ),
        (testCaseNames {} (testConfig'.testSuites.records firstSuite).testCategory)[i.val]? =
          some testCase →
        ListsCases (contextOf [(text "TestSuite_1", selectiveSuite)]) (testSuiteSectionName 1)
          testCase casesId → ∀ id ∈ casesId,
          NamesCase {} (testConfig'.testSuites.records firstSuite).testCategory i.val id) := by
  have hread : (match parseTestSuiteSection {} (contextOf [(text "TestSuite_1", selectiveSuite)])
      selectiveStored 1 with
    | .ok result => result.1
    | .error _ => false) = true := by decide +kernel
  split at hread
  · rename_i result hresult
    obtain ⟨accepted, testConfig'⟩ := result
    simp only at hread
    subst hread
    exact ⟨testConfig', hresult, parseTestSuiteSection_casesExist_iff hresult rfl⟩
  · cases hread

/-- The number 0 is stored, and its lookup reads in front of the table. -/
theorem caseZero_not_exists :
    ¬ ∀ (globals : Globals) (context : IniContext) (testConfig testConfig' : IdeTestConfig)
      (index : ℕ) (slot : Fin maxTestSuiteNum),
      parseTestSuiteSection globals context testConfig index = .ok (true, testConfig') →
      slot.val = index - 1 → ∀ i, ∀ id ∈ (testConfig'.testSuites.records slot).testCases i,
        CaseExists globals (testConfig'.testSuites.records slot).testCategory i.val id := by
  intro h
  have hread : (match parseTestSuiteSection {} (contextOf [(text "TestSuite_1",
        (text "Query", text "0") :: selectiveSuite.take 3)]) selectiveStored 1 with
    | .ok result => result.1 &&
        decide (0 ∈ (result.2.testSuites.records firstSuite).testCases ⟨0, by decide⟩)
    | .error _ => false) = true := by decide +kernel
  split at hread
  · rename_i result hresult
    obtain ⟨accepted, testConfig'⟩ := result
    simp only [Bool.and_eq_true, decide_eq_true_eq] at hread
    obtain ⟨haccepted, hzero⟩ := hread
    subst haccepted
    have hexists := h {} _ selectiveStored testConfig' 1 firstSuite hresult rfl _ 0 hzero
    obtain ⟨testCases, -, hpos, -⟩ := hexists.inRange
    exact absurd hpos (by decide)
  · cases hread

end TeeIoValidator.IniConfig
