import TeeIoValidator.Model.IniConfig.TestFuncs

/-! The tables of the SPDM test cases, which are made of the responder validator's tables. -/

namespace TeeIoValidator.SpdmTestCases

open IniConfig

/-- The functions of a case. -/
structure CaseFuncs (Func : Type*) where
  run : Func
  setup : Func
  teardown : Func

/-- `common_test_case_t`. -/
structure CommonTestCase (Func : Type*) where
  caseId : ℕ
  funcs : CaseFuncs Func

/-- A group of the responder validator up to the terminator. -/
structure ResponderGroup (Func : Type*) where
  cases : List (CommonTestCase Func)
  positive : ∀ testCase ∈ cases, 0 < testCase.caseId
  distinct : (cases.map CommonTestCase.caseId).Nodup

/-- What is generated of a group: the names of the cases, the declared count and the array of
functions. `config_check_required` is false for each of them. -/
structure GeneratedCases (Func : Type*) where
  caseIds : List UInt8
  cnt : ℕ
  funcs : List (CaseFuncs Func)

def maxLineLength : ℕ := 512

/-- The buffer after the ids are printed; none when an assertion fails. Both `buf_offset` and
`strlen(buf)` are the number of characters that are there. -/
def printCaseIds (buf : List UInt8) : List ℕ → Option (List UInt8)
  | [] => some buf
  | id :: ids =>
    if buf.length + buf.length + 4 + 1 > maxLineLength then none
    else printCaseIds (buf ++ decimalString id ++ [comma]) ids

section Generation

variable {Func : Type*}

/-- The array is filled in the order of the list, and the count is the largest id. -/
def genTeeioSpdmTestCase (cases : List (CommonTestCase Func)) : Option (GeneratedCases Func) :=
  if cases.length = 0 then none
  else
    match printCaseIds [] (cases.map CommonTestCase.caseId) with
    | none => none
    | some buf =>
      some ⟨buf.dropLast, getMaxFromUint32Array (cases.map CommonTestCase.caseId),
        cases.map CommonTestCase.funcs⟩

/-- One table for each group; none when an assertion fails. -/
def spdmTestLibInitTestCases : List (ResponderGroup Func) → Option (List (GeneratedCases Func))
  | [] => some []
  | group :: groups =>
    match genTeeioSpdmTestCase group.cases with
    | none => none
    | some generated => (spdmTestLibInitTestCases groups).map (generated :: ·)

/-- The lookup of `alloc_run_test_case` for a case id: the index passes the assertion and lies
behind the array. -/
def ReadsPast (generated : GeneratedCases Func) (caseId : ℕ) : Prop :=
  (caseId : ℤ) - 1 < generated.cnt ∧ (generated.funcs.length : ℤ) ≤ (caseId : ℤ) - 1

end Generation

end TeeIoValidator.SpdmTestCases
