import TeeIoValidator.Verification.CxlIdeTest
import TeeIoValidator.Verification.PcieIdeTest.Verdicts

/-! # Cases that pass by stopping early

The verdict of a case is read off its assertions, and some exits of the cases of several steps
record none.
-/

namespace TeeIoValidator

open Runner

/-- `KSetGo` 3.3 and 3.4 pass with both phases completed only, exactly when the phases hold of the
state in which the run function begins. A PCIe key refresh always passes with completed refreshes
only, and a CXL key refresh exactly when its port queries hold. -/
theorem severalSteps_pass_iff (lib : PcieIdeTest.PciIdeKmTestLib) (env : PcieIdeTest.Environment)
    (stream : PcieIde.Stream) (topType : PcieIde.TopologyType)
    (secureBy : PcieIdeTest.SecureBy) (configs : List PcieIdeTest.ConfigurationType)
    (w : PcieIdeTest.World) (hw : w.assertions = []) (cxlLib : CxlIde.CxlIdeKmLib)
    (cxlEnv : CxlIdeTest.Environment) (cxlConfigs : List CxlIdeTest.ConfigurationType)
    (cxl : CxlIdeTest.World) (hcxl : cxl.assertions = []) :
    (PcieIdeTest.PassesCompleted lib env stream topType secureBy .ks0 .ks1 configs .ksetgo3 w ↔
      ∀ w₁, RunBegins PcieIdeTest.caseContext (PcieIdeTest.configFunctions env stream topType)
          (.default :: configs) (PcieIdeTest.CaseId.ksetgo3.functions lib env stream topType) w w₁ →
        PcieIdeTest.PhasesHold lib env stream topType secureBy .ks0 .ks1 w₁) ∧
    (PcieIdeTest.PassesCompleted lib env stream topType secureBy .ks1 .ks0 configs .ksetgo4 w ↔
      ∀ w₁, RunBegins PcieIdeTest.caseContext (PcieIdeTest.configFunctions env stream topType)
          (.default :: configs) (PcieIdeTest.CaseId.ksetgo4.functions lib env stream topType) w w₁ →
        PcieIdeTest.PhasesHold lib env stream topType secureBy .ks1 .ks0 w₁) ∧
    (∀ case ∈ [PcieIdeTest.CaseId.keyrefreshKs0, .keyrefreshKs1], ∀ w',
      case.doRun lib env stream topType configs w = some w' → w'.result = .pass →
        false ∉ w'.refreshes.drop w.refreshes.length) ∧
    (CxlIdeTest.PassesRefreshed cxlLib cxlEnv cxlConfigs cxl ↔
      ∀ w₁, RunBegins CxlIdeTest.caseContext (CxlIdeTest.configFunctions cxlEnv) cxlConfigs
          (CxlIdeTest.keyrefresh cxlLib cxlEnv) cxl w₁ →
        CxlIdeTest.QueriesHold cxlLib cxlEnv cxlEnv.typed w₁) := by
  refine ⟨?_, ?_, ?_, CxlIdeTest.passesRefreshed_iff hcxl⟩
  · exact PcieIdeTest.passesCompleted_iff ⟨Or.inl ⟨rfl, rfl, rfl⟩⟩ hw
  · exact PcieIdeTest.passesCompleted_iff ⟨Or.inr ⟨rfl, rfl, rfl⟩⟩ hw
  · intro case hcase w' hrun hpass
    rcases PcieIdeTest.refreshesKeys with ⟨hks0, hks1⟩
    simp only [List.mem_cons, List.not_mem_nil, or_false] at hcase
    rcases hcase with rfl | rfl
    · exact PcieIdeTest.passesRefreshed hks0 hw hrun hpass
    · exact PcieIdeTest.passesRefreshed hks1 hw hrun hpass

/-! ## A small root port with its device -/

/-- A device that acknowledges the messages of both phases of `KSetGo` 3.3. -/
def switchingPorts (secure : ℕ → Bool) : PcieIdeTest.Environment :=
  PcieIdeTest.acceptingPorts (fun n => if n = 0 then .ks0 else .ks1) secure

/-- A CXL device whose first port is looked for, and a user who refreshes the keys once. -/
def refreshingPort : CxlIdeTest.Environment where
  toEnvironment := CxlIde.generatingDevice
  devFunc := 0
  bus := 0
  segment := 0
  streamId := 0
  devCaps := 0
  configBitmap := 0
  ideMode := .skid
  ideCapable := true
  keySetStopError _ := false
  typed := [false, true]

def smallCxlWorld (answers : List (Option CxlIdeTest.QueryResponse)) : CxlIdeTest.World where
  keys := ⟨fun _ => 0, 0, [], [], []⟩
  answers := answers
  portIndex := 0
  upperControl := some 0
  lowerControl := some 0
  keySetStops := []
  assertions := []
  action := .run
  refreshes := []

/-- With completed phases and queries, both cases pass. -/
theorem severalSteps_pass_iff_small :
    PcieIdeTest.PassesCompleted PcieIdeTest.pciIdeKmTest (switchingPorts fun _ => true)
        PcieIde.smallStream .selIde .bothPorts .ks0 .ks1 [] .ksetgo3 PcieIdeTest.smallWorld ∧
      CxlIdeTest.PassesRefreshed CxlIde.cxlIdeKm refreshingPort [.default]
        (smallCxlWorld [some ⟨0, 0, 0, 0⟩, some ⟨0, 0, 0, 0⟩]) := by
  have h := severalSteps_pass_iff PcieIdeTest.pciIdeKmTest (switchingPorts fun _ => true)
    PcieIde.smallStream .selIde .bothPorts [] PcieIdeTest.smallWorld rfl CxlIde.cxlIdeKm
    refreshingPort [.default] (smallCxlWorld [some ⟨0, 0, 0, 0⟩, some ⟨0, 0, 0, 0⟩]) rfl
  refine ⟨h.1.mpr ?_, h.2.2.2.mpr ?_⟩
  · intro w₁ hbegins
    cases (RunBegins.unique hbegins ⟨_, ⟨rfl, rfl, rfl⟩, rfl⟩)
    intro _
    refine ⟨rfl, ?_⟩
    intro w₂ ret w₃ hphase hswitch
    refine ⟨?_, fun _ => rfl⟩
    intro found keys hwait
    refine ⟨?_, fun _ _ => ⟨Or.inr rfl, rfl⟩, nofun⟩
    cases hphase
    cases hwait
    rfl
  · intro w₁ hbegins
    cases (RunBegins.unique hbegins ⟨_, ⟨rfl, rfl, rfl⟩, rfl⟩)
    intro found w₂ hquery
    cases hquery
    exact ⟨rfl, fun _ _ => trivial⟩

/-- `KSetGo` 3.3 when no port reports a secure stream, and a CXL key refresh whose second port
query fails. -/
theorem severalSteps_pass_early :
    (¬PcieIdeTest.PassesCompleted PcieIdeTest.pciIdeKmTest (switchingPorts fun _ => false)
        PcieIde.smallStream .selIde .rootPort .ks0 .ks1 [] .ksetgo3 PcieIdeTest.smallWorld) ∧
      ¬CxlIdeTest.PassesRefreshed CxlIde.cxlIdeKm refreshingPort [.default]
        (smallCxlWorld [some ⟨0, 0, 0, 0⟩, none]) := by
  refine ⟨?_, ?_⟩
  · intro hpasses
    rcases hpasses _ rfl rfl with ⟨w₁, hbegins, -, hcompleted⟩
    cases (RunBegins.unique hbegins ⟨_, ⟨rfl, rfl, rfl⟩, rfl⟩)
    cases hcompleted.secure
  · intro hpasses
    exact hpasses _ rfl rfl List.mem_cons_self

end TeeIoValidator
