import TeeIoValidator.Verification.IniConfig.Suites

/-! # Cases

Which cases a suite has, and when all of them exist.
-/

namespace TeeIoValidator.IniConfig

open IniFile Checked

/-! ## Decimal strings -/

theorem hexDigitValue_digit {d : ℕ} (hd : d < 10) : hexDigitValue (digit d) = d := by
  revert d
  decide

theorem digitsValue_append (base : ℕ) (digits : List UInt8) (c : UInt8) :
    digitsValue base (digits ++ [c]) = base * digitsValue base digits + hexDigitValue c := by
  simp [digitsValue]

/-- The digits of a number stand for it. -/
theorem digitsValue_decimalDigits {fuel n : ℕ} (h : n < fuel) :
    digitsValue 10 (decimalDigits fuel n) = n := by
  induction fuel generalizing n with
  | zero => exact absurd h (Nat.not_lt_zero n)
  | succ fuel ih =>
      rw [decimalDigits, digitsValue_append, hexDigitValue_digit (Nat.mod_lt n (by decide))]
      split
      · rename_i hlt
        rw [Nat.mod_eq_of_lt hlt]
        exact Nat.zero_add n
      · rename_i hge
        rw [ih (by omega)]
        omega

theorem decimalString_injective : Function.Injective decimalString := by
  intro m n h
  have hvalue := congrArg (digitsValue 10) h
  rwa [decimalString, decimalString, digitsValue_decimalDigits (Nat.lt_succ_self m),
    digitsValue_decimalDigits (Nat.lt_succ_self n)] at hvalue

theorem isValidDecimalString_decimalDigits (fuel n : ℕ) :
    isValidDecimalString (decimalDigits fuel n) = true := by
  have hdigit : ∀ d < 10, isValidDigitalChar (digit d) false = true := by decide
  induction fuel generalizing n with
  | zero => rfl
  | succ fuel ih =>
      have hlast := hdigit (n % 10) (Nat.mod_lt n (by decide))
      rw [isValidDecimalString, isValidDigital, decimalDigits]
      split
      · simp [hlast]
      · have hfirst := ih (n / 10)
        rw [isValidDecimalString, isValidDigital] at hfirst
        simp [List.all_append, hlast, hfirst]

theorem decimalString_ne_comma (n : ℕ) : ∀ c ∈ decimalString n, (c == comma) = false := by
  intro c hc
  have hvalid := List.all_eq_true.mp (isValidDecimalString_decimalDigits (n + 1) n) c hc
  rw [beq_eq_false_iff_ne]
  intro heq
  rw [heq] at hvalid
  revert hvalid
  decide

/-! ## Stored cases -/

variable {globals : Globals} {context : IniContext} {testConfig testConfig' : IdeTestConfig}
  {sectionName : List UInt8} {index : ℕ} {suite : IdeTestSuite}

/-- The entry of the class lists the ids, not more of them than there are names and no larger one
than these. -/
def ListsCases (context : IniContext) (sectionName : List UInt8) (testCase : IdeTestCaseName)
    (casesId : List ℕ) : Prop :=
  ∃ ids value, getUint32Array testCase.names = some ids ∧
    getString context sectionName testCase.className = .ok (some value) ∧
    getUint32Array value = some casesId ∧ casesId.length ≤ ids.length ∧
    ∀ id ∈ casesId, id ≤ getMaxFromUint32Array ids

/-- A list that is right is stored. -/
theorem ListsCases.parseTestCases_eq {testCase : IdeTestCaseName} {stored casesId : List ℕ}
    (hlists : ListsCases context sectionName testCase casesId)
    (h : parseTestCases context sectionName testCase = .ok stored) : stored = casesId := by
  obtain ⟨ids, value, hids, hvalue, hread, hlength, hle⟩ := hlists
  have hlarge : (casesId.any (getMaxFromUint32Array ids < ·)) = false := by
    rw [List.any_eq_false]
    intro id hid
    simpa using hle id hid
  rw [parseTestCases, hids] at h
  simp only [parseTestSuiteCaseEntry, hvalue, ok_bind, Option.bind_some, hread,
    if_neg (Nat.not_lt.mpr hlength), hlarge] at h
  split at h
  · cases h
  · cases h
    rfl

/-- What is stored has been listed. -/
theorem listsCases_of_parseTestCases {testCase : IdeTestCaseName} {stored : List ℕ}
    (h : parseTestCases context sectionName testCase = .ok stored) (hne : stored ≠ []) :
    ListsCases context sectionName testCase stored := by
  rw [parseTestCases] at h
  split at h
  · cases h
    exact absurd rfl hne
  · rename_i ids hids
    obtain ⟨entry, hentry, h⟩ := bind_eq_ok.mp h
    have hstored := Except.ok.inj h
    have hsome : entry = some stored := by
      cases entry with
      | none => exact absurd hstored.symm hne
      | some casesId => exact congrArg some hstored
    subst hsome
    obtain ⟨value, hvalue, hentry⟩ := bind_eq_ok.mp hentry
    split at hentry
    · cases hentry
    · rename_i casesId hread
      split at hentry
      · cases hentry
      · rename_i hmany
        split at hentry
        · cases hentry
        · split at hentry
          · cases hentry
          · rename_i hlarge
            cases hentry
            obtain ⟨read, rfl, hread⟩ := Option.bind_eq_some_iff.mp hread
            refine ⟨ids, read, hids, hvalue, hread, Nat.not_lt.mp hmany, ?_⟩
            intro id hid
            rw [Bool.not_eq_true, List.any_eq_false] at hlarge
            simpa using hlarge id hid

theorem parseTestClasses_getElem? {testCases : List IdeTestCaseName} {stored : List (List ℕ)}
    (h : parseTestClasses context sectionName testCases = .ok stored) (i : ℕ) :
    (testCases[i]? = none ∧ stored[i]? = none) ∨ ∃ testCase casesId,
      testCases[i]? = some testCase ∧ stored[i]? = some casesId ∧
        parseTestCases context sectionName testCase = .ok casesId := by
  induction testCases generalizing stored i with
  | nil =>
      cases h
      exact Or.inl ⟨rfl, rfl⟩
  | cons testCase testCases ih =>
      rw [parseTestClasses] at h
      obtain ⟨casesId, hcases, h⟩ := bind_eq_ok.mp h
      obtain ⟨rest, hrest, h⟩ := bind_eq_ok.mp h
      cases h
      cases i with
      | zero => exact Or.inr ⟨testCase, casesId, rfl, rfl, hcases⟩
      | succ i => exact ih hrest i

/-- The cases of an accepted suite are those that its section lists. -/
theorem TestSuiteRead.mem_testCases
    (h : TestSuiteRead globals context testConfig sectionName index suite) (i : Fin maxTestCaseNum)
    (id : ℕ) : id ∈ suite.testCases i ↔ ∃ testCase casesId,
      (testCaseNames globals suite.testCategory)[i.val]? = some testCase ∧
      ListsCases context sectionName testCase casesId ∧ id ∈ casesId := by
  obtain ⟨stored, hclasses, hstored⟩ := h.testCases
  rw [hstored]
  cases parseTestClasses_getElem? hclasses i.val with
  | inl hnone => simp [hnone.1, hnone.2]
  | inr hclass =>
      obtain ⟨testCase, casesId, hname, hget, hcases⟩ := hclass
      simp only [hname, hget, Option.getD_some, Option.some.injEq]
      constructor
      · intro hid
        exact ⟨testCase, casesId, rfl,
          listsCases_of_parseTestCases hcases (List.ne_nil_of_mem hid), hid⟩
      · intro hlists
        obtain ⟨_, casesId', rfl, hlists, hid⟩ := hlists
        rwa [hlists.parseTestCases_eq hcases]

end TeeIoValidator.IniConfig
