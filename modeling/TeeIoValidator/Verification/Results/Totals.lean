import Mathlib.Algebra.BigOperators.Group.List.Basic
import Mathlib.Algebra.Group.Prod
import TeeIoValidator.Verification.Results.Steps

/-! # The totals of the results along a run -/

namespace TeeIoValidator.Suite

/-! ## Totals and records -/

/-- How many tests were recorded with a result. -/
def tests (result : TestResult) (assertions : List Assertion) : ℕ :=
  assertions.countP fun a => a.type == .test && a.result == result

def CaseResult.totals (case : CaseResult) : ℕ × ℕ := (case.totalPassed, case.totalFailed)

def GroupResult.totals (group : GroupResult) : ℕ × ℕ := (group.totalPassed, group.totalFailed)

def ConfigResult.totals (config : ConfigResult) : ℕ × ℕ :=
  (config.totalPassed, config.totalFailed)

def CaseResult.Consistent (case : CaseResult) : Prop :=
  case.totals = (tests .pass case.assertionResult, tests .failed case.assertionResult)

structure GroupResult.Consistent (group : GroupResult) : Prop where
  totals : group.totals = (group.caseResult.map CaseResult.totals).sum
  cases : ∀ case ∈ group.caseResult, case.Consistent

structure ConfigResult.Consistent (config : ConfigResult) : Prop where
  totals : config.totals = (config.groupResult.map GroupResult.totals).sum
  groups : ∀ group ∈ config.groupResult, group.Consistent

structure SuiteResult.Consistent (suite : SuiteResult) : Prop where
  totals : testSuiteCasesStatics suite.result (0, 0) =
    (suite.result.map ConfigResult.totals).sum
  configs : ∀ config ∈ suite.result, config.Consistent

/-! ## One more result -/

/-- What a result adds to the totals. -/
def weight (result : TestResult) : ℕ × ℕ :=
  (if result = .pass then 1 else 0, if result = .failed then 1 else 0)

theorem increase_eq (counted result : TestResult) (n : ℕ) :
    increase counted result n = n + if result = counted then 1 else 0 := by
  rw [increase]
  split <;> rfl

@[simp] theorem CaseResult.totals_increase (case : CaseResult) (result : TestResult) :
    (case.increase result).totals = case.totals + weight result := by
  simp [CaseResult.totals, CaseResult.increase, increase_eq, weight]

@[simp] theorem GroupResult.totals_increase (group : GroupResult) (result : TestResult) :
    (group.increase result).totals = group.totals + weight result := by
  simp [GroupResult.totals, GroupResult.increase, increase_eq, weight]

@[simp] theorem ConfigResult.totals_increase (config : ConfigResult) (result : TestResult) :
    (config.increase result).totals = config.totals + weight result := by
  simp [ConfigResult.totals, ConfigResult.increase, increase_eq, weight]

theorem tests_append (result : TestResult) (as : List Assertion) (a : Assertion) :
    tests result (as ++ [a]) =
      tests result as + if a.type = .test ∧ a.result = result then 1 else 0 := by
  simp [tests, List.countP_append, List.countP_cons]

/-- One more result, when it is countable. -/
theorem CaseResult.Consistent.record {case : CaseResult} (h : case.Consistent) {a : Assertion}
    (hcountable : a.result = .notTested ∨ a.type = .test) :
    ((case.append a).increase a.result).Consistent := by
  have hassertions : ((case.append a).increase a.result).assertionResult =
      case.assertionResult ++ [a] := rfl
  have htotals : (case.append a).totals = case.totals := rfl
  rw [CaseResult.Consistent, totals_increase, htotals, h, hassertions, tests_append, tests_append,
    weight]
  cases hcountable with
  | inl hnone => simp [hnone]
  | inr htest => simp [htest]

theorem testSuiteCasesStatics_eq (configs : List ConfigResult) (totals : ℕ × ℕ) :
    testSuiteCasesStatics configs totals = totals + (configs.map ConfigResult.totals).sum := by
  induction configs generalizing totals with
  | nil => simp [testSuiteCasesStatics]
  | cons config configs ih =>
      rw [testSuiteCasesStatics, ih, List.map_cons, List.sum_cons, ← add_assoc]
      rfl

/-- Totals over a list with one more record, all of which are in order. -/
theorem totals_snoc {α : Type} (totals : α → ℕ × ℕ) (inOrder : α → Prop) (sum : ℕ × ℕ)
    (xs : List α) (x : α) :
    (sum = ((xs ++ [x]).map totals).sum ∧ ∀ y ∈ xs ++ [x], inOrder y) ↔
      sum = (xs.map totals).sum + totals x ∧ (∀ y ∈ xs, inOrder y) ∧ inOrder x := by
  rw [List.map_append, List.sum_append, List.map_singleton, List.sum_singleton,
    List.forall_mem_append, List.forall_mem_singleton]

theorem GroupResult.consistent_append {group : GroupResult} {case : CaseResult} :
    ({ group with caseResult := group.caseResult ++ [case] } : GroupResult).Consistent ↔
      group.totals = (group.caseResult.map CaseResult.totals).sum + case.totals ∧
        (∀ case ∈ group.caseResult, case.Consistent) ∧ case.Consistent := by
  rw [← totals_snoc]
  exact ⟨fun h => ⟨h.totals, h.cases⟩, fun h => ⟨h.1, h.2⟩⟩

theorem ConfigResult.consistent_append {config : ConfigResult} {group : GroupResult} :
    ({ config with groupResult := config.groupResult ++ [group] } : ConfigResult).Consistent ↔
      config.totals = (config.groupResult.map GroupResult.totals).sum + group.totals ∧
        (∀ group ∈ config.groupResult, group.Consistent) ∧ group.Consistent := by
  rw [← totals_snoc]
  exact ⟨fun h => ⟨h.totals, h.groups⟩, fun h => ⟨h.1, h.2⟩⟩

theorem SuiteResult.consistent_iff {suite : SuiteResult} :
    suite.Consistent ↔ ∀ config ∈ suite.result, config.Consistent := by
  refine ⟨fun h => h.configs, fun h => ⟨?_, h⟩⟩
  rw [testSuiteCasesStatics_eq, Prod.mk_zero_zero, zero_add]

/-- The totals agree with the records. -/
def Results.Consistent (s : Results) : Prop := ∀ suite ∈ s.tree, suite.Consistent

theorem Results.consistent_none {finished : List SuiteResult} {suite : SuiteResult} :
    Results.Consistent ⟨finished, some ⟨suite, none⟩⟩ ↔
      (∀ suite ∈ finished, suite.Consistent) ∧ ∀ config ∈ suite.result, config.Consistent := by
  rw [Results.Consistent, Results.tree, List.forall_mem_append, List.forall_mem_singleton,
    SuiteResult.consistent_iff]
  rfl

theorem Results.consistent_config {finished : List SuiteResult} {suite : SuiteResult}
    {config : CurrentConfig} :
    Results.Consistent ⟨finished, some ⟨suite, some config⟩⟩ ↔
      ((∀ suite ∈ finished, suite.Consistent) ∧ ∀ config ∈ suite.result, config.Consistent) ∧
        config.close.Consistent := by
  rw [Results.Consistent, Results.tree, List.forall_mem_append, List.forall_mem_singleton,
    SuiteResult.consistent_iff, and_assoc]
  simp only [CurrentSuite.close, List.forall_mem_append, List.forall_mem_singleton]

theorem Results.consistent_group {finished : List SuiteResult} {suite : SuiteResult}
    {config : ConfigResult} {group : CurrentGroup} :
    Results.Consistent ⟨finished, some ⟨suite, some ⟨config, some group⟩⟩⟩ ↔
      ((∀ suite ∈ finished, suite.Consistent) ∧ ∀ config ∈ suite.result, config.Consistent) ∧
        config.totals = (config.groupResult.map GroupResult.totals).sum + group.close.totals ∧
          (∀ group ∈ config.groupResult, group.Consistent) ∧ group.close.Consistent := by
  rw [Results.consistent_config]
  exact and_congr_right fun _ => ConfigResult.consistent_append

/-- A group that is filled further, with its totals as they were. -/
theorem Results.Consistent.group {finished : List SuiteResult} {suite : SuiteResult}
    {config : ConfigResult} {group group' : CurrentGroup}
    (h : Results.Consistent ⟨finished, some ⟨suite, some ⟨config, some group⟩⟩⟩)
    (htotals : group'.close.totals = group.close.totals)
    (hgroup : group.close.Consistent → group'.close.Consistent) :
    Results.Consistent ⟨finished, some ⟨suite, some ⟨config, some group'⟩⟩⟩ := by
  rw [Results.consistent_group] at h ⊢
  rw [htotals]
  exact ⟨h.1, h.2.1, h.2.2.1, hgroup h.2.2.2⟩

theorem Moves.consistent {step : Step} {s s' : Results} (h : Moves step s s')
    (hcountable : step.Countable s) (hs : s.Consistent) : s'.Consistent := by
  cases h with
  | nextSuite =>
      rw [Results.consistent_none]
      exact ⟨hs, List.forall_mem_nil _⟩
  | allocConfig =>
      rw [Results.consistent_none] at hs
      rw [Results.consistent_config]
      exact ⟨hs, ⟨rfl, List.forall_mem_nil _⟩⟩
  | allocGroup =>
      rw [Results.consistent_config] at hs
      rw [Results.consistent_group]
      exact ⟨hs.1, hs.2.totals, hs.2.groups, ⟨rfl, List.forall_mem_nil _⟩⟩
  | allocCase =>
      apply hs.group
      · rfl
      · intro hgroup
        exact GroupResult.consistent_append.mpr ⟨hgroup.totals, hgroup.cases, rfl⟩
  | clearCase => exact hs
  | clearGroup => exact hs
  | clearConfig => exact hs
  | @assertion caseClass caseId a finished suite config group case =>
      rw [Results.consistent_group] at hs ⊢
      rcases hs with ⟨houter, htotals, hgroups, hgroup⟩
      rcases GroupResult.consistent_append.mp hgroup with ⟨hsum, hcases, hcase⟩
      refine ⟨houter, ?_, hgroups, GroupResult.consistent_append.mpr ⟨?_, hcases, ?_⟩⟩
      · calc (config.increase a.result).totals
            = config.totals + weight a.result := config.totals_increase a.result
          _ = (config.groupResult.map GroupResult.totals).sum + group.totals
                + weight a.result := congrArg (· + weight a.result) htotals
          _ = (config.groupResult.map GroupResult.totals).sum
                + (group.increase a.result).totals := by
              rw [GroupResult.totals_increase, add_assoc]
      · calc (group.increase a.result).totals
            = group.totals + weight a.result := group.totals_increase a.result
          _ = (group.caseResult.map CaseResult.totals).sum + case.totals
                + weight a.result := congrArg (· + weight a.result) hsum
          _ = (group.caseResult.map CaseResult.totals).sum
                + ((case.append a).increase a.result).totals := by
              rw [CaseResult.totals_increase, add_assoc]
              rfl
      · exact hcase.record hcountable
  | configItem items =>
      apply hs.group
      · rfl
      · intro hgroup
        rcases GroupResult.consistent_append.mp hgroup with ⟨hsum, hcases, hcase⟩
        exact GroupResult.consistent_append.mpr ⟨hsum, hcases, hcase⟩
  | @groupResult _ _ _ _ _ _ _ case results =>
      apply hs.group
      · cases case <;> rfl
      · intro hgroup
        cases case with
        | none => exact ⟨hgroup.totals, hgroup.cases⟩
        | some case => exact ⟨hgroup.totals, hgroup.cases⟩
  | ignored => exact hs

theorem Reached.consistent {s : Results} {verdicts : List TestResult}
    (h : Reached Step.Countable s verdicts) : s.Consistent := by
  induction h with
  | start => exact List.forall_mem_nil _
  | step _ _ meets after ih => exact (Step.moves after).consistent meets ih

end TeeIoValidator.Suite
