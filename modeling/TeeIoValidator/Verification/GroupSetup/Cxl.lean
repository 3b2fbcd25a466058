import TeeIoValidator.Model.GroupSetup.Cxl
import TeeIoValidator.Verification.GroupSetup.Scan

/-! When a CXL group's set-up leaves nothing behind. -/

namespace TeeIoValidator.GroupSetup.Cxl

open Fallible

/-! ## The mapped registers -/

/-- The outcome of `cxl_init_memcache_reg_block`. -/
def Memcache.outcome (regs : Memcache) : Option Bool :=
  both regs.located <| both (some (regs.devMem && regs.mmap)) <|
    regs.ideCapability.map fun _ => true

theorem returns_mapBarAddr (side : Side) (regs : Memcache) (w : World) :
    (mapBarAddr side regs).Returns w (some (regs.devMem && regs.mmap)) fun b w' =>
      (b = false → w' = w) ∧ (b = true → w.count < w'.count) := by
  obtain ⟨located, devMem, mmap, ideCapability⟩ := regs
  cases devMem with
  | false => exact ⟨w, rfl, fun _ => rfl, nofun⟩
  | true =>
      cases mmap with
      | false =>
          refine ⟨_, rfl, fun _ => ?_, nofun⟩
          rw [World.mapProcess, openFile_close]
      | true => exact ⟨_, rfl, nofun, fun _ => Nat.lt_succ_self _⟩

/-- The registers stay mapped when the function succeeds, and only then. -/
theorem returns_initMemcacheRegBlock (side : Side) (regs : Memcache) (w : World) :
    (initMemcacheRegBlock side regs).Returns w regs.outcome fun b w' =>
      (b = false → w' = w) ∧ (b = true → w.count < w'.count) := by
  refine returns_check_andThen (fun _ => ⟨fun _ => rfl, nofun⟩) fun _ => ?_
  refine (returns_mapBarAddr side regs w).andThen (fun _ hpost => hpost) ?_
  intro w' ⟨_, hcount⟩
  refine returns_check fun b hb => ?_
  obtain ⟨_, -, rfl⟩ := Option.map_eq_some_iff.mp hb
  exact ⟨nofun, hcount⟩

theorem preserves_initMemcacheRegBlock (side : Side) (regs : Memcache) :
    Preserves Sound (initMemcacheRegBlock side regs) := by
  refine (preserves_check _).andThen (.andThen ?_ (preserves_check _))
  intro w b w' hw hrun
  rw [mapBarAddr] at hrun
  split at hrun
  · cases hrun
    exact hw.process
  · split at hrun
    · cases hrun
      rw [World.mapProcess, openFile_close]
      exact hw.process
    · cases hrun
      refine World.WellFormed.mapRegisters hw fun p fd hfd => ?_
      rcases List.mem_cons.mp hfd with heq | hmem
      · exact Or.inl (heq ▸ List.mem_cons_self)
      · exact Or.inr (List.mem_singleton.mp hmem)

/-! ## The ports -/

/-- The checks of the device port before its DOE discovery. -/
def DevPort.earlyChecks (port : DevPort) : Checks :=
  [(.devicePort, some (opens port.size)), (.devicePort, port.dvsecs),
    (.deviceMapping, port.memcache.outcome)]

def DevPort.deviceName (port : DevPort) : String := "cxl.dev : " ++ port.bdf.text

/-- The mapping of a port's registers, after the check of its DVSECs. -/
theorem returns_mapping (dvsecs : Option Bool) (side : Side) (regs : Memcache) (w : World)
    {last : Fallible World} {outcome : Option Bool}
    (hlast : ∀ w, last.Returns w outcome fun _ w' => w.count ≤ w'.count) :
    Returns (.andThen (.check dvsecs) <| .andThen (initMemcacheRegBlock side regs) last) w
      (both (both dvsecs regs.outcome) outcome) fun _ w' =>
        (both dvsecs regs.outcome ≠ some true → w' = w) ∧
          (both dvsecs regs.outcome = some true → w.count < w'.count) := by
  rw [both_assoc]
  refine returns_check_andThen (fun hdvsecs => ?_) fun hdvsecs => ?_
  · rw [hdvsecs]
    exact ⟨fun _ => rfl, fun htrue => absurd (both_eq_true_iff.mp htrue).1 (by decide)⟩
  · rw [hdvsecs, both_true]
    refine (returns_initMemcacheRegBlock side regs _).and_outcome.andThen ?_ ?_
    · rintro w' ⟨⟨hsame, -⟩, hregs⟩
      exact ⟨fun _ => hsame rfl, fun htrue => absurd (hregs.symm.trans htrue) (by decide)⟩
    · rintro mapped ⟨⟨-, hcount⟩, hregs⟩
      refine (hlast mapped).mono fun _ w' hkept => ?_
      exact ⟨fun hne => absurd hregs hne, fun _ => Nat.lt_of_lt_of_le (hcount rfl) hkept⟩

/-- Once the registers are mapped they stay so, also when the port is closed again. -/
theorem returns_initDevPort (port : DevPort) {w : World} (h : w.process.WellFormed) :
    (initDevPort port).Returns w (both (all port.earlyChecks) port.doe) fun _ w' =>
      (all port.earlyChecks ≠ some true → w'.process = w.process) ∧
        (all port.earlyChecks = some true → w.count < w'.count) := by
  have houtcome : all port.earlyChecks =
      both (some (opens port.size)) (both port.dvsecs port.memcache.outcome) := by
    simp only [DevPort.earlyChecks, all, both_right_true]
  have hlast : ∀ w : World, (Fallible.check port.doe).Returns w port.doe
      fun _ w' => w.count ≤ w'.count := fun _ => returns_check fun _ _ => Nat.le_refl _
  have hrest := (returns_mapping port.dvsecs .lower port.memcache
    (w.opened .lower port.deviceName) hlast).and_outcome
  rw [houtcome, both_assoc]
  refine returns_openPort h (length_deviceName "cxl.dev : " (by decide) port.bdf) ?_ hrest ?_ ?_
  · intro hopens
    rw [hopens]
    exact ⟨fun _ => rfl, fun htrue => absurd (both_eq_true_iff.mp htrue).1 (by decide)⟩
  · rintro w' hopens ⟨⟨hsame, hcount⟩, -⟩
    rw [hopens, both_true]
    refine ⟨fun hne => ?_, fun htrue => ?_⟩
    · rw [hsame hne]
      exact left_entered h _
    · have hmapped : w.count + 1 < w'.count := hcount htrue
      have hleft := count_le_left w.process.next w'
      omega
  · rintro w' hopens ⟨⟨-, hcount⟩, htrue⟩
    have hinner := (both_eq_true_iff.mp htrue).1
    rw [hopens, both_true]
    exact ⟨fun hne => absurd hinner hne, fun _ => Nat.lt_of_succ_lt (hcount hinner)⟩

theorem preserves_initDevPort (port : DevPort) : Preserves Sound (initDevPort port) := by
  refine preserves_openPort (length_deviceName "cxl.dev : " (by decide) port.bdf) ?_
  exact (preserves_check _).andThen <|
    (preserves_initMemcacheRegBlock _ _).andThen (preserves_check _)

def RootPort.checks (port : RootPort) : Checks :=
  [(.rootPort, some (opens port.size)), (.rootPort, port.dvsecs),
    (.rootMapping, port.memcache.outcome), (.rootMapping, port.keyp.ret)]

def RootPort.deviceName (port : RootPort) : String := "cxl.host : " ++ port.bdf.text

/-- The initialisation of the root port closes no more than it opens. -/
theorem returns_initRootPort (port : RootPort) {w : World} (h : w.process.WellFormed) :
    (initRootPort port).Returns w (all port.checks) fun _ w' => w.count ≤ w'.count := by
  have houtcome : all port.checks = both (some (opens port.size))
      (both (both port.dvsecs port.memcache.outcome) port.keyp.ret) := by
    simp only [RootPort.checks, all, both_assoc, both_right_true]
  have hlast : ∀ w : World, (parseKeypTable port.keyp).Returns w port.keyp.ret
      fun _ w' => w.count ≤ w'.count :=
    fun w => (returns_parseKeypTable port.keyp w).mono fun _ _ hpost => hpost.1
  have hrest := returns_mapping port.dvsecs .upper port.memcache
    (w.opened .upper port.deviceName) hlast
  have hgrown : ∀ w' : World,
      ((both port.dvsecs port.memcache.outcome ≠ some true →
          w' = w.opened .upper port.deviceName) ∧
        (both port.dvsecs port.memcache.outcome = some true →
          (w.opened .upper port.deviceName).count < w'.count)) → w.count < w'.count := by
    rintro w' ⟨hsame, hcount⟩
    by_cases hmapped : both port.dvsecs port.memcache.outcome = some true
    · exact Nat.lt_of_succ_lt (hcount hmapped)
    · rw [hsame hmapped]
      exact Nat.lt_succ_self _
  rw [houtcome]
  refine returns_openPort h (length_deviceName "cxl.host : " (by decide) port.bdf)
    (fun _ => Nat.le_refl _) hrest ?_ ?_
  · intro w' _ hpost
    have hcount := hgrown w' hpost
    have hleft := count_le_left w.process.next w'
    omega
  · intro w' _ hpost
    exact Nat.le_of_lt (hgrown w' hpost)

theorem preserves_initRootPort (port : RootPort) : Preserves Sound (initRootPort port) := by
  refine preserves_openPort (length_deviceName "cxl.host : " (by decide) port.bdf)
    (.andThen (preserves_check _) ?_)
  exact (preserves_initMemcacheRegBlock _ _).andThen (preserves_parseKeypTable port.keyp)

/-! ## The set-up -/

theorem returns_scanDevices (scan : Option Scan) (w : World) :
    (scanDevices scan).Returns w (scan.bind Scan.outcome) fun _ w' => w' = w := by
  cases scan with
  | none => rfl
  | some scan => exact scan.returns_run w

/-- The context is NULL when it could not be made. -/
theorem returns_ignoringResult (client : SpdmClient) (w : World) :
    (ignoringResult (spdmClientInit client)).Returns w (some true) fun _ w' =>
      SameFiles w w' ∧ w'.spdmContext = client.succeeds := by
  obtain ⟨w', hrun, hpost⟩ := returns_spdmClientInit client w
  exact ⟨w', by rw [ignoringResult, hrun, Option.map_some], hpost⟩

namespace Env

variable (env : Env)

/-- The checks before the DOE discovery. -/
def earlyChecks : Checks := (.scan, env.scan.bind Scan.outcome) :: env.devPort.earlyChecks

/-- Whether the IDE capabilities of both sides were found. -/
def controlOutcome : Bool :=
  env.rootPort.memcache.capabilityFound && env.devPort.memcache.capabilityFound

def queryChecks : Checks :=
  match env.caseClass with
  | .query => []
  | .kSetGo => [(.cxlQuery, env.query)]
  | .other => [(.cxlQuery, env.query), (.ideMode, env.ideMode)]

/-- The checks from the DOE discovery on; whether there is an SPDM context is not one of them. -/
def lateChecks : Checks :=
  (.doeDiscovery, env.devPort.doe) :: (env.rootPort.checks ++
    (.controlRegisters, some env.controlOutcome) :: (env.spdm.checks ++ env.queryChecks))

/-- The checks of `common_test_group_setup`. -/
def checks : Checks := env.earlyChecks ++ env.lateChecks

end Env

section Setup

variable (env : Env) {w : World}

theorem returns_queryAndEnable (w : World) :
    (queryAndEnable env).Returns w (all env.queryChecks) fun _ w' => w' = w := by
  rw [queryAndEnable, Env.queryChecks]
  cases env.caseClass with
  | query => exact returns_check fun _ _ => rfl
  | kSetGo =>
      rw [all, all, both_right_true]
      exact returns_check fun _ _ => rfl
  | other =>
      rw [all, all, all, both_right_true]
      exact returns_check_andThen (fun _ => rfl) fun _ => returns_check fun _ _ => rfl

/-- Nothing that was open before the root port is closed from there on. -/
theorem returns_late (h : w.process.WellFormed) :
    Returns ((initRootPort env.rootPort).andThen <|
        (setControlReg env.rootPort.memcache env.devPort.memcache).andThen <|
        (setControlReg env.rootPort.memcache env.devPort.memcache).andThen <|
        (ignoringResult (spdmClientInit env.client)).andThen <|
        (spdmConnect env.spdm).andThen <| storeSpdm.andThen <| queryAndEnable env)
      w (both (all env.rootPort.checks) (both (some env.controlOutcome)
        (both (all env.spdm.checks) (all env.queryChecks)))) fun b w' =>
      w.count ≤ w'.count ∧ (b = true →
        w'.context.spdmContext = env.client.succeeds ∧
          w'.context.sessionId ∈ w'.process.sessions) := by
  refine (returns_initRootPort env.rootPort h).andThen
    (fun _ hcount => ⟨hcount, (absurd · Bool.false_ne_true)⟩) ?_
  intro initialised hcount
  have htwice : ∀ outcome, both (some env.controlOutcome) outcome =
      both (some env.controlOutcome)
        (both (some env.controlOutcome) (both (some true) outcome)) := by
    intro outcome
    cases env.controlOutcome with
    | false => rfl
    | true => rfl
  rw [htwice]
  refine returns_check_andThen (fun _ => ⟨hcount, (absurd · Bool.false_ne_true)⟩) fun _ => ?_
  refine returns_check_andThen (fun _ => ⟨hcount, (absurd · Bool.false_ne_true)⟩) fun _ => ?_
  refine (returns_ignoringResult env.client initialised).andThen ?_ ?_
  · rintro w' ⟨hsame, -⟩
    exact ⟨hsame.count_eq ▸ hcount, (absurd · Bool.false_ne_true)⟩
  · rintro withContext ⟨hsame, hcontext⟩
    refine (returns_connect env.spdm (returns_queryAndEnable env) withContext).mono ?_
    rintro b w' ⟨hkept, hready⟩
    refine ⟨hkept ▸ hsame.count_eq ▸ hcount, fun hb => ?_⟩
    exact ⟨(hready hb).1.trans hcontext, (hready hb).2⟩

theorem returns_commonTestGroupSetup (h : w.WellFormed) :
    (commonTestGroupSetup env).Returns w (both (all env.earlyChecks) (all env.lateChecks))
      (Leaves (all env.earlyChecks) env.client.succeeds w) := by
  have hlate : all env.lateChecks = both env.devPort.doe (both (all env.rootPort.checks)
      (both (some env.controlOutcome) (both (all env.spdm.checks) (all env.queryChecks)))) := by
    simp only [Env.lateChecks, all_append, all]
  rw [Env.earlyChecks, all, hlate, both_assoc, ← both_assoc (all env.devPort.earlyChecks)]
  refine (returns_scanDevices env.scan w).and_outcome.andThen ?_ ?_
  · rintro _ ⟨rfl, hscan⟩
    exact .of_early (by rw [hscan]; rfl) rfl
  · rintro w ⟨rfl, hscan⟩
    rw [hscan, both_true]
    refine ((returns_initDevPort env.devPort h.process).and_outcome.and_inv
      (preserves_initDevPort env.devPort) h).andThen ?_ ?_
    · rintro failed ⟨⟨⟨hrestored, hcount⟩, hport⟩, -⟩
      cases hearly : all env.devPort.earlyChecks with
      | none =>
          rw [hearly] at hport
          cases hport
      | some passed =>
          cases passed with
          | false => exact .of_early rfl (hrestored (by simp [hearly]))
          | true => exact .of_late rfl (hcount hearly) (absurd · Bool.false_ne_true)
    · rintro initialised ⟨⟨⟨-, hcount⟩, hport⟩, hwf⟩
      have hearly := (both_eq_true_iff.mp hport).1
      refine (returns_late env (World.WellFormed.process hwf)).mono ?_
      rintro b w' ⟨hkept, hready⟩
      exact .of_late hearly (Nat.lt_of_lt_of_le (hcount hearly) hkept) hready

theorem preserves_commonTestGroupSetup : Preserves Sound (commonTestGroupSetup env) := by
  exact (preserves_of_unchanged (returns_scanDevices env.scan)).andThen <|
    (preserves_initDevPort env.devPort).andThen <|
    (preserves_initRootPort env.rootPort).andThen <|
    (preserves_check _).andThen <| (preserves_check _).andThen <|
    (preserves_of_sameFiles (returns_ignoringResult env.client)).andThen <|
    preserves_connect env.spdm (preserves_of_unchanged (returns_queryAndEnable env))

/-- The points at which the set-up undoes what it did. -/
def cleanPoints : List Point := [.scan, .devicePort, .deviceMapping]

theorem Env.label_lateChecks {c : Point × Option Bool} (h : c ∈ env.lateChecks) :
    c.1 ∉ cleanPoints := by
  have hlabels : ∀ c ∈ env.queryChecks, c.1 ∉ cleanPoints := by
    rw [Env.queryChecks]
    cases env.caseClass <;> simp [cleanPoints]
  simp only [Env.lateChecks, List.mem_cons, List.mem_append] at h
  rcases h with rfl | h | rfl | h | h
  · simp [cleanPoints]
  · revert h c
    simp [RootPort.checks, cleanPoints]
  · simp [cleanPoints]
  · revert h c
    simp [SpdmConnection.checks, cleanPoints]
  · exact hlabels c h

/-- The set-up is clean when no check fails and there is an SPDM context, or when a check before
the DOE discovery fails. -/
theorem setsUpCleanly_iff_checks (h : w.WellFormed) :
    SetsUpCleanly (commonTestGroupSetup env) w ↔
      (∀ c ∈ env.checks, c.2 = some true) ∧ env.client.succeeds = true ∨
        ∃ point ∈ cleanPoints, failure env.checks = some point := by
  have hearly : ∀ c ∈ env.earlyChecks, c.1 ∈ cleanPoints := by
    simp [Env.earlyChecks, DevPort.earlyChecks, cleanPoints]
  exact setsUpCleanly_iff_of_checks hearly (fun _ => env.label_lateChecks)
    (returns_commonTestGroupSetup env h)

end Setup

end TeeIoValidator.GroupSetup.Cxl
