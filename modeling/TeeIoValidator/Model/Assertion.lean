import Mathlib.Data.BitVec
import Mathlib.Data.Nat.Basic

/-! Assertion results, as a test case records them. -/

namespace TeeIoValidator

inductive TestResult where
  | notTested
  | pass
  | failed
  deriving Repr, DecidableEq

/-- `TEEIO_TEST_RESULT_PASS` or `TEEIO_TEST_RESULT_FAILED` from a checked condition. -/
def TestResult.ofBool (res : Bool) : TestResult := if res then .pass else .failed

@[simp] theorem TestResult.ofBool_eq_failed_iff (res : Bool) :
    TestResult.ofBool res = .failed ↔ res = false := by
  cases res <;> simp [TestResult.ofBool]

@[simp] theorem TestResult.ofBool_eq_pass_iff (res : Bool) :
    TestResult.ofBool res = .pass ↔ res = true := by
  cases res <;> simp [TestResult.ofBool]

inductive AssertionType where
  | na
  | test
  | separator
  deriving Repr, DecidableEq

/-- An `ide_run_test_case_assertion_result_t`: the class and the case are those of the run,
and the extra data is kept as its format and the values that are printed. -/
structure Assertion where
  id : ℕ
  type : AssertionType
  result : TestResult
  format : String
  values : List ℕ
  deriving Repr, DecidableEq

/-- A checked condition, recorded as a test assertion. -/
def Assertion.check (id : ℕ) (res : Bool) (format : String) (values : List ℕ) : Assertion :=
  ⟨id, .test, .ofBool res, format, values⟩

/-- The verdicts on the assertions that have a number of their own, in the order of the records. -/
def verdicts (records : List Assertion) : List (ℕ × Bool) :=
  (records.filter fun a => a.type == .test && a.id != 0).map fun a => (a.id, a.result == .pass)

@[simp] theorem verdicts_nil : verdicts [] = [] := rfl

@[simp] theorem verdicts_append (as bs : List Assertion) :
    verdicts (as ++ bs) = verdicts as ++ verdicts bs := by
  rw [verdicts, List.filter_append, List.map_append, verdicts, verdicts]

@[simp] theorem verdicts_check (id : ℕ) (res : Bool) (format : String) (values : List ℕ)
    (as : List Assertion) :
    verdicts (.check (id + 1) res format values :: as) = (id + 1, res) :: verdicts as := by
  cases res with
  | false => rfl
  | true => rfl

@[simp] theorem verdicts_check_zero (res : Bool) (format : String) (values : List ℕ)
    (as : List Assertion) : verdicts (.check 0 res format values :: as) = verdicts as := rfl

@[simp] theorem verdicts_separator (format : String) (values : List ℕ) (as : List Assertion) :
    verdicts (⟨0, .separator, .notTested, format, values⟩ :: as) = verdicts as := rfl

/-- `teeio_test_case_result` over the assertions of the current case. -/
def testCaseResult (assertions : List Assertion) : TestResult :=
  let tests := assertions.filter fun a => a.type == .test
  if tests.any fun a => a.result == .failed then .failed
  else if tests.any fun a => a.result == .pass then .pass
  else .notTested

theorem testCaseResult_eq_pass_iff (assertions : List Assertion) :
    testCaseResult assertions = .pass ↔
      (∀ a ∈ assertions, a.type = .test → a.result ≠ .failed) ∧
        ∃ a ∈ assertions, a.type = .test ∧ a.result = .pass := by
  rw [testCaseResult]
  split
  · rename_i h
    simp only [List.any_filter, List.any_eq_true, Bool.and_eq_true, beq_iff_eq] at h
    rcases h with ⟨a, ha, htype, hfailed⟩
    simp only [reduceCtorEq, false_iff, not_and]
    intro hnone
    exact absurd hfailed (hnone a ha htype)
  · rename_i h
    simp only [List.any_filter, List.any_eq_true, Bool.and_eq_true, beq_iff_eq, not_exists,
      not_and] at h
    split
    · rename_i hpass
      simp only [List.any_filter, List.any_eq_true, Bool.and_eq_true, beq_iff_eq] at hpass
      simp only [true_iff]
      exact ⟨h, hpass⟩
    · rename_i hpass
      simp only [List.any_filter, List.any_eq_true, Bool.and_eq_true, beq_iff_eq] at hpass
      simp only [reduceCtorEq, false_iff, not_and]
      intro _ hex
      exact hpass hex

/-- No test among the assertions failed. -/
def NoneFailed (assertions : List Assertion) : Prop :=
  ∀ a ∈ assertions, a.type = .test → a.result ≠ .failed

/-- Some test among the assertions passed. -/
def SomePassed (assertions : List Assertion) : Prop :=
  ∃ a ∈ assertions, a.type = .test ∧ a.result = .pass

theorem noneFailed_append (as as' : List Assertion) :
    NoneFailed (as ++ as') ↔ NoneFailed as ∧ NoneFailed as' :=
  List.forall_mem_append

theorem SomePassed.append_left {as : List Assertion} (h : SomePassed as)
    (as' : List Assertion) : SomePassed (as' ++ as) := by
  rcases h with ⟨a, ha, hpass⟩
  exact ⟨a, List.mem_append_right as' ha, hpass⟩

theorem SomePassed.append_right {as : List Assertion} (h : SomePassed as)
    (as' : List Assertion) : SomePassed (as ++ as') := by
  rcases h with ⟨a, ha, hpass⟩
  exact ⟨a, List.mem_append_left as' ha, hpass⟩

end TeeIoValidator
