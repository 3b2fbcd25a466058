import TeeIoValidator.Verification.PcieIdeTest.Streams
import TeeIoValidator.Verification.Stopping

/-! # The run of a case of the PCIe IDE category between its test configurations -/

namespace TeeIoValidator.PcieIdeTest

open PcieIde Runner

variable {lib : PciIdeKmTestLib} {env : Environment} {stream : Stream}
  {topType : TopologyType}

/-! ## What configurations leave of a case -/

section Config

variable (type : ConfigurationType) (w : World)

theorem configSupport_snd : (configSupport env type w).2 = w := by
  cases type <;> rfl

theorem configEnable_sameCase : SameCase w (configEnable env stream type w).2 := by
  cases type with
  | default =>
      rw [configEnable]
      split <;> exact ⟨rfl, rfl, rfl⟩
  | pcrc => exact ⟨rfl, rfl, rfl⟩
  | selectiveIdeForConfig => exact ⟨rfl, rfl, rfl⟩
  | flitModeDisable =>
      rw [configEnable, testConfigFlitModeDisable]
      split <;> exact ⟨rfl, rfl, rfl⟩

theorem configDisable_sameCase : SameCase w (configDisable env stream type w).2 := by
  cases type with
  | default => exact ⟨rfl, rfl, rfl⟩
  | pcrc => exact ⟨rfl, rfl, rfl⟩
  | selectiveIdeForConfig => exact ⟨rfl, rfl, rfl⟩
  | flitModeDisable =>
      rw [configDisable, testConfigFlitModeDisable]
      split <;> exact ⟨rfl, rfl, rfl⟩

theorem configCheck_sameCase : SameCase w (configCheck env type w).2 := by
  cases type <;> exact ⟨rfl, rfl, rfl⟩

end Config

/-! ## Runs of a case -/

/-- `do_run_test_case` calls the setup function in a state. -/
abbrev ReachesSetup (env : Environment) (stream : Stream) (topType : TopologyType)
    (configs : List ConfigurationType) : World → World → Prop :=
  Runner.ReachesSetup caseContext (configFunctions env stream topType) (.default :: configs)

/-- The state after the configurations are disabled. -/
abbrev configsDisabled (env : Environment) (stream : Stream) (topType : TopologyType)
    (configs : List ConfigurationType) : World → World :=
  disabled (configFunctions env stream topType) (.default :: configs)

/-- A case from its setup function on. -/
abbrev CaseId.fromSetup (lib : PciIdeKmTestLib) (env : Environment) (stream : Stream)
    (topType : TopologyType) (case : CaseId) (configs : List ConfigurationType) :
    World → Option World :=
  Runner.fromSetup caseContext (configFunctions env stream topType) (.default :: configs)
    (case.functions lib env stream topType)

section Reached

variable {configs : List ConfigurationType} {w w₀ : World}

theorem ReachesSetup.topType_ne (h : ReachesSetup env stream topType configs w w₀) :
    topType ≠ .selLinkIde := by
  rintro rfl
  cases h.implemented .default List.mem_cons_self

theorem ReachesSetup.enable (h : ReachesSetup env stream topType configs w w₀) :
    configLoop (configEnable env stream) (.default :: configs) w = (true, w₀) := by
  have hsame : (configLoop (configSupport env) (.default :: configs) w).2 = w :=
    configLoop_invariant (P := (· = w)) (fun type w' hw' => by rw [configSupport_snd, hw']) _ rfl
  have henable := h.configLoop_enable
  change configLoop (configEnable env stream) (.default :: configs)
    (configLoop (configSupport env) (.default :: configs) w).2 = _ at henable
  rwa [hsame] at henable

theorem supports_sameCase {w : World} (type : ConfigurationType) (w' : World)
    (h : SameCase w w') : SameCase w (configSupport env type w').2 := by
  rwa [configSupport_snd]

theorem enables_sameCase {w : World} (type : ConfigurationType) (w' : World)
    (h : SameCase w w') : SameCase w (configEnable env stream type w').2 :=
  h.trans (configEnable_sameCase type w')

/-- The run of a case is its run from the setup function on. -/
theorem doRun_eq {case : CaseId} (h : ReachesSetup env stream topType configs w w₀) :
    case.doRun lib env stream topType configs w =
      case.fromSetup lib env stream topType configs w₀ :=
  Runner.doRun_eq
    ⟨fun type w => congrArg World.action (configSupport_snd type w),
      fun type w => (configEnable_sameCase type w).action,
      fun _ _ hsetup => (setup_sameCase hsetup).action⟩ h

/-- A run that does not come to its setup function records nothing. -/
theorem doRun_not_reached {case : CaseId} {w' : World}
    (h : ∀ w₀, ¬ReachesSetup env stream topType configs w w₀)
    (hrun : case.doRun lib env stream topType configs w = some w') : SameCase w w' :=
  Runner.doRun_not_reached supports_sameCase enables_sameCase (SameCase.refl w) h hrun

end Reached

/-! ## Teardown functions -/

theorem keySetStops_eq (lib : PciIdeKmTestLib) (env : Environment) (requests : List KSetGo)
    (w : World) :
    ∃ stops, (keySetStops lib env requests w).2 = { w with kSetStops := stops } := by
  induction requests generalizing w with
  | nil => exact ⟨w.kSetStops, rfl⟩
  | cons request requests ih =>
      have hfirst : (testFullIdeKmKeySetStop lib env request w).2 =
          { w with kSetStops := w.kSetStops ++ [request] } := by
        rw [testFullIdeKmKeySetStop, sendKSetStop]
        simp only
        split <;> rfl
      rw [keySetStops]
      rcases htest : testFullIdeKmKeySetStop lib env request w with ⟨ret, w₁⟩
      rw [htest] at hfirst
      cases hfirst
      cases ret with
      | false => exact ⟨_, rfl⟩
      | true => exact ih _

/-- The stream is disabled before the messages. -/
theorem pcieIdeTeardownCommon_eq {ks : KeySet} {w w' : World} {ret : Bool}
    (h : pcieIdeTeardownCommon lib env stream topType ks w = some (ret, w')) :
    ∃ stops, w' = { enableStream stream false w with kSetStops := stops } := by
  rw [pcieIdeTeardownCommon] at h
  split at h
  · cases h
  · rw [Option.some.injEq] at h
    rcases keySetStops_eq lib env
      ([Direction.rx, .tx].flatMap fun direction =>
        [SubStream.pr, .npr, .cpl].map (kSetGoRequest lib stream ks direction))
      (enableStream stream false w) with ⟨stops, heq⟩
    rw [h] at heq
    exact ⟨stops, heq⟩

/-- Teardown functions disable the stream or do nothing. -/
theorem teardown_eq {case : CaseId} {w w' : World}
    (h : case.teardown lib env stream topType w = some w') :
    w' = w ∨ ∃ stops, w' = { enableStream stream false w with kSetStops := stops } := by
  have hcommon : ∀ ks, (pcieIdeTeardownCommon lib env stream topType ks w).map Prod.snd = some w' →
      ∃ stops, w' = { enableStream stream false w with kSetStops := stops } := by
    intro ks h
    rcases Option.map_eq_some_iff.mp h with ⟨⟨ret, w₁⟩, hteardown, rfl⟩
    exact pcieIdeTeardownCommon_eq hteardown
  cases case with
  | ksetstop1 => cases h; exact Or.inl rfl
  | ksetstop2 => cases h; exact Or.inl rfl
  | ksetstop3 => cases h; exact Or.inl rfl
  | ksetstop4 => cases h; exact Or.inl rfl
  | _ => exact Or.inr (hcommon _ h)

theorem teardown_returns {case : CaseId} (htop : topType ≠ .selLinkIde) (w : World) :
    (case.teardown lib env stream topType w).isSome = true := by
  have hcommon : ∀ ks,
      ((pcieIdeTeardownCommon lib env stream topType ks w).map Prod.snd).isSome = true := by
    intro ks
    rw [pcieIdeTeardownCommon, if_neg htop]
    rfl
  cases case with
  | ksetstop1 => rfl
  | ksetstop2 => rfl
  | ksetstop3 => rfl
  | ksetstop4 => rfl
  | _ => exact hcommon _

end TeeIoValidator.PcieIdeTest
