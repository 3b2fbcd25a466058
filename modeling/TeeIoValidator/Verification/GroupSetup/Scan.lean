import TeeIoValidator.Model.GroupSetup.Scan
import TeeIoValidator.Verification.GroupSetup.Spdm

/-! The scan of the devices closes what it opens. -/

namespace TeeIoValidator.GroupSetup

open Fallible

/-- The outcome of the scan of a root port or of a port of a switch. -/
def bridgeOutcome (bus : BitVec 8) (port : ScannedPort) : Option Bool :=
  if opens port.size then acceptsBridge bus port.header else some false

/-- The outcome of `scan_devices_at_bus`. -/
def scanOutcome (endpoint : ScannedPort) : List ScannedPort → BitVec 8 → Option Bool
  | [], _ => if opens endpoint.size && headerLayout endpoint.header == 0 then some true else none
  | bridge :: bridges, bus =>
    both (bridgeOutcome bus bridge) (scanOutcome endpoint bridges bridge.header.secondaryBus)

def Scan.outcome (scan : Scan) : Option Bool :=
  scanOutcome scan.endpoint (scan.rootPort :: scan.switchPorts) scan.bus

variable (w : World)

theorem scanPort_eq (accepts : Header → Option Bool) (port : ScannedPort) :
    scanPort accepts port w =
      (if opens port.size then accepts port.header else some false).map fun res => (res, w) := by
  rw [scanPort, openConfigurationSpace_eq]
  cases opens port.size with
  | false => rfl
  | true => simp only [if_true, openFile_close]

theorem returns_scanDevicesAtBus (endpoint : ScannedPort) (bridges : List ScannedPort)
    (bus : BitVec 8) :
    (scanDevicesAtBus endpoint bridges bus).Returns w (scanOutcome endpoint bridges bus)
      fun _ w' => w' = w := by
  induction bridges generalizing bus with
  | nil =>
      rw [scanDevicesAtBus, scanOutcome]
      have heq : scanEndpointAtBus endpoint w =
          if opens endpoint.size && headerLayout endpoint.header == 0 then some (true, w)
          else none := by
        rw [scanEndpointAtBus, scanPort_eq]
        cases opens endpoint.size with
        | false => rfl
        | true => cases headerLayout endpoint.header == 0 <;> rfl
      cases hbool : (opens endpoint.size && headerLayout endpoint.header == 0) with
      | false =>
          rw [hbool] at heq
          exact heq
      | true =>
          rw [hbool] at heq
          exact ⟨w, heq, rfl⟩
  | cons bridge bridges ih =>
      rw [scanDevicesAtBus, scanOutcome]
      refine Returns.andThen (P := fun _ w' => w' = w) ?_ (fun _ h => h) ?_
      · have heq := scanPort_eq w (acceptsBridge bus) bridge
        rw [← bridgeOutcome] at heq
        cases houtcome : bridgeOutcome bus bridge with
        | none => exact heq.trans (by rw [houtcome]; rfl)
        | some b => exact ⟨w, heq.trans (by rw [houtcome]; rfl), rfl⟩
      · rintro _ rfl
        exact ih _

theorem Scan.returns_run (scan : Scan) :
    scan.run.Returns w scan.outcome fun _ w' => w' = w :=
  returns_scanDevicesAtBus w _ _ _

/-- A scan closes what it opens. -/
theorem preserves_of_unchanged {step : Fallible World} {outcome : Option Bool}
    (h : ∀ w, step.Returns w outcome fun _ w' => w' = w) : Preserves Sound step :=
  preserves_of_sameFiles (P := fun _ _ _ => True)
    fun w => (h w).mono fun _ _ heq => ⟨heq ▸ .rfl w, trivial⟩

end TeeIoValidator.GroupSetup
