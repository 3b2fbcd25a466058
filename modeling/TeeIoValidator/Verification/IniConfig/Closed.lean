import TeeIoValidator.Verification.IniConfig.Accepted

/-! # Closed configurations

What the records of an accepted file refer to is stored, and the counts of the tables are right,
unless the file lists too many ports: these are written behind the end of their table.
-/

namespace TeeIoValidator.IniConfig

open IniFile

structure Closed (testConfig : IdeTestConfig) : Prop where
  ports : testConfig.portsConfig.Keyed IdePort.id
  switches : testConfig.switchesConfig.Keyed IdeSwitch.id
  switchPorts : ∀ i, (testConfig.switchesConfig.records i).ports.Keyed IdePort.id
  topologies : testConfig.topologies.Keyed IdeTestTopology.id
  configurations : testConfig.configurations.Keyed IdeTestConfiguration.id
  testSuites : testConfig.testSuites.Keyed IdeTestSuite.id
  topologiesResolve : ∀ i, (testConfig.topologies.records i).id ≠ 0 →
    TopologyResolves testConfig (testConfig.topologies.records i)
  suitesResolve : ∀ i, (testConfig.testSuites.records i).id ≠ 0 →
    (testConfig.testSuites.records i).enabled = true →
    SuiteResolves testConfig (testConfig.testSuites.records i)

variable {globals : Globals} {context : IniContext} {testConfig : IdeTestConfig}

theorem Stored.closed (h : Stored globals context testConfig) : Closed testConfig where
  ports := h.names.ports.keyed
  switches := h.names.switches.keyed
  switchPorts i := (h.names.switchPorts i).keyed
  topologies := h.topologies.keyed
  configurations := h.configurations.keyed
  testSuites := h.testSuites.keyed
  topologiesResolve := h.topologiesResolve
  suitesResolve i hid _ := (h.testSuitesRead i hid).resolves

/-- The tables are in bounds and the configuration of an accepted file is closed, unless the main
section is accepted and more ports are listed than the table has room for. -/
theorem parseIdeTestInit_closed_iff (globals : Globals) (context : IniContext) :
    (parseIdeTestInit globals (some context) ≠ .error .overrun ∧
      ∀ testConfig, parseIdeTestInit globals (some context) = .ok (true, testConfig) →
        Closed testConfig) ↔
    ¬ (MainAccepted context ∧ ListsTooManyPorts context) := by
  rw [← parseIdeTestInit_eq_overrun_iff]
  constructor
  · exact fun h => h.1
  · intro h
    exact ⟨h, fun testConfig haccepted => (parseIdeTestInit_stored haccepted).closed⟩

/-- Sixteen root ports and an endpoint. -/
def seventeenPorts : List (List UInt8 × List UInt8) :=
  (List.range 16).map (fun i => (portEntryName .rootport (i + 1), text "02.0")) ++
    [(text "endpoint_1", text "00.0")]

def seventeenPortsContext : IniContext :=
  contextOf [(text "Ports", seventeenPorts), (text "Topology_1", directTopology),
    (text "Configuration_1", selectiveConfiguration), (text "TestSuite_1", selectiveSuite)]

/-- The endpoint is written behind the end of the table. -/
theorem seventeenPorts_overrun :
    ¬ ∀ (globals : Globals) (context : IniContext),
      parseIdeTestInit globals (some context) ≠ .error .overrun ∧
        ∀ testConfig, parseIdeTestInit globals (some context) = .ok (true, testConfig) →
          Closed testConfig := by
  intro h
  have hmain : (match parseIdeTestInit {} (some seventeenPortsContext) with
      | .error fault => fault == .overrun
      | .ok _ => false) = true := by decide +kernel
  apply (h {} seventeenPortsContext).1
  split at hmain
  · rename_i fault herror
    rw [herror, eq_of_beq hmain]
  · cases hmain

end TeeIoValidator.IniConfig
