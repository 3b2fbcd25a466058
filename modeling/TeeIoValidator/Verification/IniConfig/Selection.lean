import TeeIoValidator.Verification.IniConfig.CaseSafety

/-! # Selected cases

The case that a name on the command line finds, and the number that stands for it.
-/

namespace TeeIoValidator.IniConfig

open IniFile Checked

variable {globals : Globals} {testCategory : TeeioTestCategory} {testCase : IdeTestCaseName}
  {caseClass index : ℕ} {name : List UInt8}

/-- The names of a class. -/
def IdeTestCaseName.nameList (testCase : IdeTestCaseName) : List (List UInt8) :=
  testCase.names.splitOnP (· == comma)

/-- The case has the class and the name that stand around the first dot. -/
theorem getTestCaseFromString_eq_some {testCaseName : List UInt8}
    (h : getTestCaseFromString globals testCaseName testCategory = some (testCase, index)) :
    ∃ (name : List UInt8) (caseClass : ℕ), splitAtFirst '.'.toUInt8 (cString testCaseName) =
        some (testCase.className, name) ∧
      (testCaseNames globals testCategory)[caseClass]? = some testCase ∧
      testCase.nameList.findIdx? (· == name) = some index := by
  simp only [getTestCaseFromString, Option.bind_eq_bind, Option.bind_eq_some_iff,
    Option.some.injEq, Prod.mk.injEq] at h
  obtain ⟨⟨className, name⟩, hsplit, found, hfound, position, hposition, rfl, rfl⟩ := h
  have hclass := List.find?_some hfound
  simp only [beq_iff_eq] at hclass
  obtain ⟨caseClass, hget⟩ := List.mem_iff_getElem?.mp (List.mem_of_find?_eq_some hfound)
  refine ⟨name, caseClass, ?_, hget, hposition⟩
  rw [hsplit, hclass]

theorem getElem?_of_findIdx? {names : List (List UInt8)}
    (h : names.findIdx? (· == name) = some index) : names[index]? = some name := by
  obtain ⟨hlt, hname, -⟩ := List.findIdx?_eq_some_iff_getElem.mp h
  rw [List.getElem?_eq_getElem hlt, eq_of_beq hname]

/-- The number stands for the name: the case at the index before it has the name, and a name that is
a number is the number itself. -/
structure CaseNamed (globals : Globals) (testCategory : TeeioTestCategory) (caseClass id : ℕ)
    (name : List UInt8) : Prop where
  lookup : ∃ funcs, getTestCaseFuncs globals testCategory caseClass ((id : ℤ) - 1) = .ok funcs ∧
    funcs.name = name
  number : ∀ n, name = decimalString n → id = n

/-! ## Registered names -/

/-- The functions of class `i` have its names, which are their numbers or no numbers at all. -/
def ClassRegistered (i : ℕ) (testCase : IdeTestCaseName) (testCases : TeeioTestCases) : Prop :=
  testCase.classId = i ∧ i < maxTestCaseNum ∧ testCases.cnt ≤ maxCaseId ∧
    testCases.funcs.length = testCases.cnt ∧
    testCases.funcs.map IdeTestCaseFuncs.name = testCase.nameList ∧
    ∀ j < testCases.cnt, ∀ name ∈ testCase.nameList[j]?,
      name = decimalString (j + 1) ∨ isValidDecimalString name = false

instance (i : ℕ) (testCase : IdeTestCaseName) (testCases : TeeioTestCases) :
    Decidable (ClassRegistered i testCase testCases) := by
  unfold ClassRegistered
  infer_instance

/-- The classes of both tables are the same. -/
def NamesRegistered (names : List IdeTestCaseName) (funcs : List TeeioTestCases) : Prop :=
  ∀ i < names.length, ∀ testCase ∈ names[i]?, ∃ testCases ∈ funcs[i]?,
    ClassRegistered i testCase testCases

instance (names : List IdeTestCaseName) (funcs : List TeeioTestCases) :
    Decidable (NamesRegistered names funcs) := by
  unfold NamesRegistered
  infer_instance

theorem namesRegistered (hspdm : testCategory ≠ .spdm) :
    NamesRegistered (testCaseNames globals testCategory) (testCaseFuncs globals testCategory) := by
  cases testCategory with
  | pcieIde =>
      have h : NamesRegistered pcieIdeTestCaseNames pcieIdeTestCaseFuncs := by decide +kernel
      exact h
  | cxlIde =>
      have h : NamesRegistered cxlIdeTestCaseNames cxlIdeTestCaseFuncs := by decide +kernel
      exact h
  | cxlTsp =>
      have h : NamesRegistered cxlTspTestCaseNames cxlTspTestCaseFuncs := by decide +kernel
      exact h
  | tdisp =>
      have h : NamesRegistered tdispTestCaseNames tdispTestCaseFuncs := by decide +kernel
      exact h
  | spdm => exact absurd rfl hspdm

theorem exists_classRegistered (hspdm : testCategory ≠ .spdm)
    (hclass : (testCaseNames globals testCategory)[caseClass]? = some testCase) :
    ∃ testCases, (testCaseFuncs globals testCategory)[caseClass]? = some testCases ∧
      ClassRegistered caseClass testCase testCases := by
  have h : NamesRegistered (testCaseNames globals testCategory)
      (testCaseFuncs globals testCategory) := namesRegistered hspdm
  have hlt := (List.getElem?_eq_some_iff.mp hclass).1
  obtain ⟨testCases, hget, hregistered⟩ := h caseClass hlt testCase hclass
  exact ⟨testCases, hget, hregistered⟩

/-- The class of a name has its position. -/
theorem classId_eq (hclass : (testCaseNames globals testCategory)[caseClass]? = some testCase) :
    testCase.classId = caseClass ∧ caseClass < maxTestCaseNum := by
  by_cases hspdm : testCategory = .spdm
  · subst hspdm
    have hlt := (List.getElem?_eq_some_iff.mp hclass).1
    have hlength : (spdmTestCaseNames globals).length ≤ maxTestCaseNum := by
      rw [spdmTestCaseNames, List.length_map, List.length_zipIdx]
      decide
    refine ⟨?_, hlt.trans_le hlength⟩
    obtain ⟨className, -, rfl⟩ := spdmTestCaseNames_eq_some hclass
    rfl
  · obtain ⟨testCases, -, hid, hlt, -⟩ := exists_classRegistered hspdm hclass
    exact ⟨hid, hlt⟩

/-- A registered name is the one of its case. -/
theorem caseNamed_of_registered {testCases : TeeioTestCases}
    (hget : (testCaseFuncs globals testCategory)[caseClass]? = some testCases)
    (h : ClassRegistered caseClass testCase testCases)
    (hname : testCase.nameList[index]? = some name) :
    CaseNamed globals testCategory caseClass (index + 1) name ∧ index + 1 ≤ maxCaseId := by
  obtain ⟨-, -, hmax, hlength, hnames, hnumbers⟩ := h
  rw [← hnames, List.getElem?_map, Option.map_eq_some_iff] at hname
  obtain ⟨funcs, hfuncs, rfl⟩ := hname
  have hlt := (List.getElem?_eq_some_iff.mp hfuncs).1
  rw [hlength] at hlt
  have hnumber : funcs.name = decimalString (index + 1) ∨
      isValidDecimalString funcs.name = false := by
    apply hnumbers index hlt
    rw [← hnames, List.getElem?_map, hfuncs]
    rfl
  refine ⟨⟨⟨funcs, getTestCaseFuncs_eq_ok.mpr ⟨testCases, hget, by omega, by omega, ?_⟩, rfl⟩, ?_⟩,
    by omega⟩
  · rwa [show (((index + 1 : ℕ) : ℤ) - 1).toNat = index by omega]
  · intro n hn
    cases hnumber with
    | inl heq => exact decimalString_injective (heq.symm.trans hn)
    | inr hinvalid =>
        rw [hn, decimalString, isValidDecimalString_decimalDigits] at hinvalid
        cases hinvalid

/-! ## Cases of the responder -/

/-- The names of a class are its ids. -/
theorem splitOnP_spdmCaseIdsString {ids : List ℕ} (hne : ids ≠ []) :
    (spdmCaseIdsString ids).splitOnP (· == comma) = ids.map decimalString := by
  induction ids with
  | nil => exact absurd rfl hne
  | cons id ids ih =>
      cases ids with
      | nil => exact List.splitOnP_eq_singleton (decimalString_ne_comma id)
      | cons next ids =>
          have hrest := ih (List.cons_ne_nil next ids)
          rw [spdmCaseIdsString, List.splitOnP_append_cons_of_forall_mem (decimalString_ne_comma id)
            comma (beq_self_eq_true comma), hrest]
          · rfl
          · exact List.cons_ne_nil next ids

theorem spdm_nameList (hclass : (spdmTestCaseNames globals)[caseClass]? = some testCase)
    (hne : globals.spdmCaseIds caseClass ≠ []) :
    testCase.nameList = (globals.spdmCaseIds caseClass).map decimalString := by
  obtain ⟨className, -, rfl⟩ := spdmTestCaseNames_eq_some hclass
  exact splitOnP_spdmCaseIdsString hne

/-- The name is the number of the first case that has it as its id, and of no larger case. -/
def CaseNumbered (casesId : List ℕ) (name : List UInt8) : Prop :=
  ∃ index < maxCaseId, name = decimalString (index + 1) ∧
    casesId.findIdx? (· == index + 1) = some index

/-- Names are found where their ids are. -/
theorem findIdx?_decimalString (casesId : List ℕ) (id : ℕ) :
    (casesId.map decimalString).findIdx? (· == decimalString id) = casesId.findIdx? (· == id) := by
  rw [List.findIdx?_map]
  congr 1
  funext found
  rw [Bool.eq_iff_iff, Function.comp_apply, beq_iff_eq, beq_iff_eq, decimalString_injective.eq_iff]

/-- The number that is made of a name's position is the id of the case when the case has that id. -/
theorem spdm_caseNamed_iff (hclass : (spdmTestCaseNames globals)[caseClass]? = some testCase)
    (hname : testCase.nameList[index]? = some name) :
    CaseNamed globals .spdm caseClass (index + 1) name ↔
      name = decimalString (index + 1) ∧
        (globals.spdmCaseIds caseClass)[index]? = some (index + 1) := by
  have hfuncs := spdmTestCaseFuncs_getElem? hclass
  have hindex : (((index + 1 : ℕ) : ℤ) - 1).toNat = index := by omega
  constructor
  · intro h
    obtain ⟨funcs, hget, hfuncsName⟩ := h.lookup
    obtain ⟨testCases, hget, -, -, helement⟩ := getTestCaseFuncs_eq_ok.mp hget
    rw [testCaseFuncs, hfuncs] at hget
    cases hget
    rw [hindex, List.getElem?_map, Option.map_eq_some_iff] at helement
    obtain ⟨id, hid, rfl⟩ := helement
    have hnumber := h.number id hfuncsName.symm
    rw [hnumber]
    exact ⟨hfuncsName.symm, hid⟩
  · intro h
    obtain ⟨rfl, hid⟩ := h
    have hle := le_getMaxFromUint32Array (List.mem_of_getElem? hid)
    have hlt : ((index + 1 : ℕ) : ℤ) - 1 <
        getMaxFromUint32Array (globals.spdmCaseIds caseClass) := by omega
    refine ⟨⟨⟨decimalString (index + 1), false⟩, ?_, rfl⟩, fun n hn => decimalString_injective hn⟩
    refine getTestCaseFuncs_eq_ok.mpr ⟨_, hfuncs, by omega, hlt, ?_⟩
    rw [hindex, List.getElem?_map, hid]
    rfl

/-- A name of the responder selects the case whose number it is. -/
theorem spdm_caseNamed_iff_caseNumbered
    (hclass : (spdmTestCaseNames globals)[caseClass]? = some testCase)
    (hfind : testCase.nameList.findIdx? (· == name) = some index) :
    (CaseNamed globals .spdm caseClass (index + 1) name ∧ index + 1 ≤ maxCaseId) ↔
      CaseNumbered (globals.spdmCaseIds caseClass) name := by
  rw [spdm_caseNamed_iff hclass (getElem?_of_findIdx? hfind)]
  constructor
  · intro h
    obtain ⟨⟨rfl, hid⟩, hmax⟩ := h
    have hne := List.ne_nil_of_mem (List.mem_of_getElem? hid)
    rw [spdm_nameList hclass hne, findIdx?_decimalString] at hfind
    exact ⟨index, hmax, rfl, hfind⟩
  · intro h
    obtain ⟨position, hmax, rfl, hposition⟩ := h
    obtain ⟨hlt, hid, -⟩ := List.findIdx?_eq_some_iff_getElem.mp hposition
    have hget := List.getElem?_eq_getElem hlt
    rw [eq_of_beq hid] at hget
    have hne := List.ne_nil_of_mem (List.mem_of_getElem? hget)
    rw [spdm_nameList hclass hne, findIdx?_decimalString, hposition] at hfind
    cases hfind
    exact ⟨⟨rfl, hget⟩, hmax⟩

/-- Just the cases of the responder need not have the number that is made of their position. -/
theorem caseNamed_iff (hclass : (testCaseNames globals testCategory)[caseClass]? = some testCase)
    (hfind : testCase.nameList.findIdx? (· == name) = some index) :
    (CaseNamed globals testCategory caseClass (index + 1) name ∧ index + 1 ≤ maxCaseId) ↔
      (testCategory = .spdm → CaseNumbered (globals.spdmCaseIds caseClass) name) := by
  by_cases hspdm : testCategory = .spdm
  · subst hspdm
    rw [spdm_caseNamed_iff_caseNumbered hclass hfind]
    exact ⟨fun h _ => h, fun h => h rfl⟩
  · obtain ⟨testCases, hget, hregistered⟩ := exists_classRegistered hspdm hclass
    have hname := getElem?_of_findIdx? hfind
    exact ⟨fun _ h => absurd h hspdm, fun _ => caseNamed_of_registered hget hregistered hname⟩

end TeeIoValidator.IniConfig
