import TeeIoValidator.Model.GroupSetup.Pcie
import TeeIoValidator.Verification.GroupSetup.Scan

/-! When a PCIe group's set-up leaves nothing behind. -/

namespace TeeIoValidator.GroupSetup.Pcie

open Fallible

def Connection.scanOutcome : Connection → Option Bool
  | .direct scan | .switch scan => scan.outcome
  | .p2p upper lower => both upper.outcome lower.outcome
  | .other => some false

theorem returns_scanDevices (connection : Connection) (w : World) :
    (scanDevices connection).Returns w connection.scanOutcome fun _ w' => w' = w := by
  cases connection with
  | direct scan => exact scan.returns_run w
  | switch scan => exact scan.returns_run w
  | p2p upper lower =>
      refine (upper.returns_run w).andThen (fun _ h => h) ?_
      rintro _ rfl
      exact lower.returns_run _
  | other => exact returns_check fun _ _ => rfl

/-! ## The ports -/

def DevPort.checks (port : DevPort) : Checks :=
  [(.devicePort, some (opens port.size)), (.devicePort, some port.ideCapability),
    (.doeDiscovery, port.doe), (.devicePort, port.freeIdeId)]

def DevPort.deviceName (port : DevPort) : String := "dev : " ++ port.bdf.text

/-- A device port whose initialisation fails is as it was. -/
theorem returns_initDevPort (port : DevPort) {w : World} (h : w.process.WellFormed) :
    (initDevPort port).Returns w (all port.checks) fun b w' =>
      (b = false → w'.process = w.process) ∧
        (b = true → w' = w.opened .lower port.deviceName) := by
  have houtcome : all port.checks =
      both (both (some (opens port.size)) (both (some port.ideCapability) port.doe))
        port.freeIdeId := by
    simp only [DevPort.checks, all, both_assoc, both_right_true]
  have hleft : (World.mapProcess (left w.process.next)
      (w.opened .lower port.deviceName)).process = w.process := left_entered h _
  rw [houtcome]
  refine Returns.andThen (P := fun b w' => (b = false → w'.process = w.process) ∧
    (b = true → w' = w.opened .lower port.deviceName)) ?_ (fun _ hpost => hpost) ?_
  · refine returns_openPort (Q := fun _ w' => w' = w.opened .lower port.deviceName) h
      (length_deviceName "dev : " (by decide) port.bdf)
      (fun _ => ⟨fun _ => rfl, (absurd · Bool.false_ne_true)⟩) ?_ ?_ ?_
    · exact returns_check_andThen (fun _ => rfl) fun _ => returns_check fun _ _ => rfl
    · rintro _ - rfl
      exact ⟨fun _ => hleft, (absurd · Bool.false_ne_true)⟩
    · rintro _ - rfl
      exact ⟨(absurd · Bool.false_ne_true.symm), fun _ => rfl⟩
  · rintro w' ⟨-, hopened⟩
    obtain rfl := hopened rfl
    refine Returns.undoing (P := fun _ w' => w' = w.opened .lower port.deviceName)
      (returns_check fun _ _ => rfl) ?_ ?_
    · rintro _ rfl
      refine ⟨_, ?_, fun _ => hleft, (absurd · Bool.false_ne_true)⟩
      rw [closePort, opened_cfgSpaceFd, closeConfigSpace_eq h.next_ne_zero]
    · rintro _ rfl
      exact ⟨(absurd · Bool.false_ne_true.symm), fun _ => rfl⟩

theorem preserves_initDevPort (port : DevPort) : Preserves Sound (initDevPort port) := by
  refine .andThen (preserves_openPort (length_deviceName "dev : " (by decide) port.bdf) ?_)
    (preserves_closePort (preserves_check _))
  exact .andThen (preserves_check _) (preserves_check _)

def RootPort.checks (port : RootPort) : Checks :=
  [(.rootPort, some (opens port.size)), (.rootPort, some port.ideCapability),
    (.rootMapping, port.keyp.ret), (.rootPort, some !port.streamIdUsed),
    (.rootPort, port.freeStreamIndex), (.rootPort, port.addrAssoc), (.rootPort, port.slotIds)]

/-- The initialisation of the root port closes no more than it opens. -/
theorem returns_initRootPort (port : RootPort) {w : World} (h : w.process.WellFormed) :
    (initRootPort port).Returns w (all port.checks) fun _ w' => w.count ≤ w'.count := by
  have houtcome : all port.checks =
      both (both (some (opens port.size)) (both (some port.ideCapability) port.keyp.ret))
        (both (some !port.streamIdUsed)
          (both port.freeStreamIndex (both port.addrAssoc port.slotIds))) := by
    simp only [RootPort.checks, all, both_assoc, both_right_true]
  rw [houtcome]
  refine Returns.andThen (P := fun b w' => w.count ≤ w'.count ∧
    (b = true → w.count < w'.count ∧ (w'.context.port .upper).cfgSpaceFd = w.process.next))
    ?_ (fun _ hpost => hpost.1) ?_
  · refine returns_openPort (Q := fun _ w' => w.count < w'.count ∧
      (w'.context.port .upper).cfgSpaceFd = w.process.next) h
      (length_deviceName "host : " (by decide) port.bdf)
      (fun _ => ⟨Nat.le_refl _, (absurd · Bool.false_ne_true)⟩) ?_ ?_ ?_
    · refine returns_check_andThen
        (fun _ => ⟨Nat.lt_succ_self _, opened_cfgSpaceFd ..⟩) fun _ => ?_
      refine (returns_parseKeypTable port.keyp _).mono ?_
      rintro _ w' ⟨hcount, hfd⟩
      exact ⟨Nat.lt_of_lt_of_le (Nat.lt_succ_self _) hcount, hfd.trans (opened_cfgSpaceFd ..)⟩
    · rintro w' - ⟨hcount, -⟩
      have hleft := count_le_left w.process.next w'
      exact ⟨by omega, (absurd · Bool.false_ne_true)⟩
    · rintro w' - ⟨hcount, hfd⟩
      exact ⟨Nat.le_of_lt hcount, fun _ => ⟨hcount, hfd⟩⟩
  · rintro w' ⟨-, hopened⟩
    obtain ⟨hcount, hfd⟩ := hopened rfl
    refine Returns.undoing (P := fun _ w'' => w'' = w') ?_ ?_ ?_
    · refine returns_check_andThen (fun _ => rfl) fun _ => ?_
      refine returns_check_andThen (fun _ => rfl) fun _ => ?_
      exact returns_check_andThen (fun _ => rfl) fun _ => returns_check fun _ _ => rfl
    · rintro w' rfl
      refine ⟨_, by rw [closePort, hfd, closeConfigSpace_eq h.next_ne_zero], ?_⟩
      have hleft := count_le_left w.process.next w'
      omega
    · rintro w' rfl
      exact Nat.le_of_lt hcount

theorem preserves_initRootPort (port : RootPort) : Preserves Sound (initRootPort port) := by
  refine .andThen (preserves_openPort (length_deviceName "host : " (by decide) port.bdf) ?_)
    (preserves_closePort ?_)
  · exact .andThen (preserves_check _) (preserves_parseKeypTable port.keyp)
  · exact (preserves_check _).andThen <| (preserves_check _).andThen <|
      (preserves_check _).andThen (preserves_check _)

/-! ## The set-up -/

namespace Env

variable (env : Env)

/-- The checks up to the device port. -/
def earlyChecks : Checks := (.scan, env.connection.scanOutcome) :: env.devPort.checks

def upperChecks : Checks :=
  match env.connection with
  | .direct _ | .switch _ => env.rootPort.checks
  | .p2p .. => [(.rootPort, none)]
  | .other => [(.rootPort, some false)]

/-- The checks from the root port on. -/
def lateChecks : Checks :=
  env.upperChecks ++ (env.client.checks ++ (env.spdm.checks ++ [(.portIndexQuery, env.portIndex)]))

/-- The checks of `common_test_group_setup`. -/
def checks : Checks := env.earlyChecks ++ env.lateChecks

end Env

section Setup

variable (env : Env) {w : World}

theorem returns_initUpperPort (h : w.process.WellFormed) :
    (initUpperPort env).Returns w (all env.upperChecks) fun _ w' => w.count ≤ w'.count := by
  rw [initUpperPort, Env.upperChecks]
  cases env.connection with
  | direct _ => exact returns_initRootPort env.rootPort h
  | switch _ => exact returns_initRootPort env.rootPort h
  | p2p _ _ => exact returns_check fun _ _ => Nat.le_refl _
  | other => exact returns_check fun _ _ => Nat.le_refl _

theorem preserves_initUpperPort : Preserves Sound (initUpperPort env) := by
  rw [initUpperPort]
  cases env.connection with
  | direct _ => exact preserves_initRootPort env.rootPort
  | switch _ => exact preserves_initRootPort env.rootPort
  | p2p _ _ => exact preserves_check _
  | other => exact preserves_check _

/-- Nothing that was open before the root port is closed from there on. -/
theorem returns_late (h : w.process.WellFormed) :
    Returns ((initUpperPort env).andThen <| (spdmClientInit env.client).andThen <|
        (spdmConnect env.spdm).andThen <| storeSpdm.andThen <| .check env.portIndex)
      w (all env.lateChecks) fun b w' => w.count ≤ w'.count ∧ (b = true →
        w'.context.spdmContext = true ∧ w'.context.sessionId ∈ w'.process.sessions) := by
  have houtcome : all env.lateChecks = both (all env.upperChecks)
      (both (some env.client.succeeds) (both (all env.spdm.checks) env.portIndex)) := by
    simp only [Env.lateChecks, SpdmClient.checks, all_append, all, both_right_true]
  rw [houtcome]
  refine (returns_initUpperPort env h).andThen
    (fun _ hcount => ⟨hcount, (absurd · Bool.false_ne_true)⟩) ?_
  intro initialised hcount
  refine (returns_spdmClientInit env.client initialised).andThen ?_ ?_
  · rintro w' ⟨hsame, -⟩
    exact ⟨hsame.count_eq ▸ hcount, (absurd · Bool.false_ne_true)⟩
  · rintro withContext ⟨hsame, hcontext⟩
    have hlast : ∀ w : World, (Fallible.check env.portIndex).Returns w env.portIndex
        fun _ w' => w' = w := fun _ => returns_check fun _ _ => rfl
    refine (returns_connect env.spdm hlast withContext).mono ?_
    rintro b w' ⟨hkept, hready⟩
    refine ⟨hkept ▸ hsame.count_eq ▸ hcount, fun hb => ?_⟩
    exact ⟨(hready hb).1.trans hcontext, (hready hb).2⟩

theorem returns_commonTestGroupSetup (h : w.process.WellFormed) :
    (commonTestGroupSetup env).Returns w (both (all env.earlyChecks) (all env.lateChecks))
      (Leaves (all env.earlyChecks) true w) := by
  rw [Env.earlyChecks, all, both_assoc]
  refine (returns_scanDevices env.connection w).and_outcome.andThen ?_ ?_
  · rintro _ ⟨rfl, hscan⟩
    exact .of_early (by rw [hscan]; rfl) rfl
  · rintro _ ⟨rfl, hscan⟩
    rw [hscan, both_true]
    refine (returns_initDevPort env.devPort h).and_outcome.andThen ?_ ?_
    · rintro failed ⟨⟨hrestored, -⟩, hport⟩
      exact .of_early hport (hrestored rfl)
    · rintro opened ⟨⟨-, hopened⟩, hport⟩
      obtain rfl := hopened rfl
      refine (returns_late env (h.entered env.devPort.deviceName)).mono ?_
      rintro b w' ⟨hcount, hready⟩
      exact .of_late hport (Nat.lt_of_succ_le hcount) hready

theorem preserves_commonTestGroupSetup : Preserves Sound (commonTestGroupSetup env) :=
  (preserves_of_unchanged (returns_scanDevices env.connection)).andThen <|
  (preserves_initDevPort env.devPort).andThen <|
  (preserves_initUpperPort env).andThen <|
  (preserves_of_sameFiles (returns_spdmClientInit env.client)).andThen <|
  preserves_connect env.spdm (preserves_check _)

/-- The points at which the set-up undoes what it did. -/
def cleanPoints : List Point := [.scan, .devicePort, .doeDiscovery]

theorem Env.label_lateChecks {c : Point × Option Bool} (h : c ∈ env.lateChecks) :
    c.1 ∉ cleanPoints := by
  have hlabels : ∀ c ∈ env.upperChecks, c.1 ∉ cleanPoints := by
    rw [Env.upperChecks]
    cases env.connection <;>
      simp [RootPort.checks, cleanPoints]
  simp only [Env.lateChecks, List.mem_append] at h
  rcases h with h | h | h | h
  · exact hlabels c h
  all_goals
    revert h c
    simp [SpdmClient.checks, SpdmConnection.checks, cleanPoints]

/-- The set-up is clean when no check fails, or one up to the device port does. -/
theorem setsUpCleanly_iff_checks (h : w.process.WellFormed) :
    SetsUpCleanly (commonTestGroupSetup env) w ↔
      (∀ c ∈ env.checks, c.2 = some true) ∨
        ∃ point ∈ cleanPoints, failure env.checks = some point := by
  have hearly : ∀ c ∈ env.earlyChecks, c.1 ∈ cleanPoints := by
    simp [Env.earlyChecks, DevPort.checks, cleanPoints]
  have hiff := setsUpCleanly_iff_of_checks hearly (fun _ => env.label_lateChecks)
    (returns_commonTestGroupSetup env h)
  rw [and_iff_left rfl] at hiff
  exact hiff

end Setup

end TeeIoValidator.GroupSetup.Pcie
