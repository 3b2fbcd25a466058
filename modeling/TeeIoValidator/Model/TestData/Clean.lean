import TeeIoValidator.Model.TestData.Run

/-! Freeing the test data, and `run` from the configuration to the end. -/

namespace TeeIoValidator.TestData

open Ownership

variable {ω : Type}

/-- A list whose blocks are freed, each after what its other fields point to. -/
def cleanAll (k : Kind) (cleaners : List (Field × (Option ℕ → HeapM ω Unit)))
    (p : Option ℕ) : HeapM ω Unit := do
  cleanList k .next cleaners (← bound) p

/-- A context that owns nothing that is freed with it. -/
def freeContext (k : Kind) (p : Option ℕ) : HeapM ω Unit := cleanBlock k [] p

def cleanTestCases (testCase : Option ℕ) : HeapM ω Unit :=
  cleanAll .runTestCase [(.testContext, freeContext .caseContext)] testCase

/-- The contexts of the switch connections are not freed. -/
def cleanTestGroups (group : Option ℕ) : HeapM ω Unit :=
  cleanAll .runTestGroup
    [(.testCase, cleanTestCases), (.testContext, freeContext .groupContext)] group

def cleanTestCaseAssertionResult (result : Option ℕ) : HeapM ω Unit :=
  cleanAll .assertionResult [] result

def cleanTestConfigItemResult (result : Option ℕ) : HeapM ω Unit :=
  cleanAll .configItemResult [] result

def cleanTestCaseResult (caseResult : Option ℕ) : HeapM ω Unit :=
  cleanAll .caseResult
    [(.assertionResult, cleanTestCaseAssertionResult),
      (.configItemResult, cleanTestConfigItemResult)] caseResult

def cleanTestGroupResults (groupResult : Option ℕ) : HeapM ω Unit :=
  cleanAll .groupResult [(.caseResult, cleanTestCaseResult)] groupResult

def cleanTestConfigItems (configItem : Option ℕ) : HeapM ω Unit :=
  cleanAll .runTestConfigItem [] configItem

def cleanTestConfigs (config : Option ℕ) : HeapM ω Unit :=
  cleanAll .runTestConfig
    [(.configItem, cleanTestConfigItems), (.testContext, freeContext .configContext)] config

/-- The loop of `clean_suite_context` over the results of the configurations. -/
def cleanConfigResults (configResult : Option ℕ) : HeapM ω Unit :=
  cleanAll .configResult [(.groupResult, cleanTestGroupResults)] configResult

def cleanSuiteContext (context : Option ℕ) : HeapM ω Unit :=
  cleanBlock .suiteContext [(.result, cleanConfigResults)] context

def cleanTestsData (testSuite : Option ℕ) : HeapM ω Unit :=
  cleanAll .runTestSuite
    [(.testGroup, cleanTestGroups), (.testConfig, cleanTestConfigs),
      (.testContext, cleanSuiteContext)] testSuite

/-- `run`. -/
def run (globals : IniConfig.Globals) (testConfig : IniConfig.IdeTestConfig) (tests : Tests ω)
    (configCheckRequired : ℕ → Bool) : HeapM ω Unit := do
  let runTestSuite ← prepareTestsData globals testConfig
  runTestSuites tests configCheckRequired (← bound) runTestSuite
  printTestResults true runTestSuite
  printTestResults false runTestSuite
  cleanTestsData runTestSuite

end TeeIoValidator.TestData
