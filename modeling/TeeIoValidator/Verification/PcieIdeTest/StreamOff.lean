import TeeIoValidator.Verification.PcieIdeTest.Runs

/-! # Whether a case leaves its stream disabled

The cases with a teardown function disable the stream there. The `KSetStop` cases disable it at
the start of their run function, which is not called when the setup function fails.
-/

namespace TeeIoValidator.PcieIdeTest

open PcieIde Runner

variable {lib : PciIdeKmTestLib} {env : Environment} {stream : Stream}
  {topType : TopologyType}

/-! ## Registers of the stream -/

theorem initializeKcbarRegisters_not_enabled (kcbar : Registers) (id : BitVec 8) (i : ℕ) :
    ¬Enabled (initializeKcbarRegisters kcbar id i) i := by
  rw [Enabled, not_not, initializeKcbarRegisters, mmioWriteReg32, Function.update_self,
    Field.get_set_of_disjoint (by decide)]
  rfl

theorem initializeKcbarRegisters_capabilities (kcbar : Registers) (id : BitVec 8) (i : ℕ) :
    initializeKcbarRegisters kcbar id i capabilities = kcbar capabilities := by
  have hctrl : ∀ d, capabilities ≠ txrxControl i d := fun d => capabilities_ne_txrxControl
  have htx : ∀ ks, capabilities ≠ txKeySet i ks := fun ks =>
    capabilities_ne_keysetSlotId (d := .rx)
  have hrx : ∀ ks, capabilities ≠ rxKeySet i ks := fun ks =>
    capabilities_ne_keysetSlotId (d := .tx)
  have hstream : capabilities ≠ streamControl i := capabilities_ne_streamControl
  simp only [initializeKcbarRegisters, mmioWriteReg32, Function.update_of_ne (hctrl _),
    Function.update_of_ne (htx _), Function.update_of_ne (hrx _), Function.update_of_ne hstream]

theorem enableIdeStreamInKcbar_not_enabled (kcbar : Registers) (i : ℕ) :
    ¬Enabled (enableIdeStreamInKcbar kcbar i false) i := by
  rw [Enabled, not_not, enableIdeStreamInKcbar, mmioWriteReg32, Function.update_self,
    Field.get_set]
  rfl

/-! ## A stream that is off -/

/-- The stream is disabled in both ports and in the root port's KCBar. -/
structure StreamOff (stream : Stream) (w : World) : Prop where
  upper : isIdeEnabled w.upperCtrl = false
  lower : isIdeEnabled w.lowerCtrl = false
  kcbar : ¬Enabled w.keys.kcbar stream.rpStreamIndex

theorem enableStream_streamOff (w : World) : StreamOff stream (enableStream stream false w) where
  upper := isIdeEnabled_enableIdeStreamInEcap _ false
  lower := isIdeEnabled_enableIdeStreamInEcap _ false
  kcbar := enableIdeStreamInKcbar_not_enabled _ _

/-- The registers of the stream are the same. -/
structure SameRegisters (w w' : World) : Prop where
  upperCtrl : w'.upperCtrl = w.upperCtrl
  lowerCtrl : w'.lowerCtrl = w.lowerCtrl
  kcbar : w'.keys.kcbar = w.keys.kcbar

theorem SameRegisters.trans {w w' w'' : World} (h : SameRegisters w w')
    (h' : SameRegisters w' w'') : SameRegisters w w'' where
  upperCtrl := h'.upperCtrl.trans h.upperCtrl
  lowerCtrl := h'.lowerCtrl.trans h.lowerCtrl
  kcbar := h'.kcbar.trans h.kcbar

theorem StreamOff.sameRegisters {w w' : World} (h : StreamOff stream w)
    (hsame : SameRegisters w w') : StreamOff stream w' where
  upper := by rw [hsame.upperCtrl, h.upper]
  lower := by rw [hsame.lowerCtrl, h.lower]
  kcbar := by
    rw [hsame.kcbar]
    exact h.kcbar

/-! ## Configurations -/

/-- A field above the enable bit, in both ports. -/
theorem setInBothPorts_streamOff {field : Field} (hfield : 0 < field.lsb) (enable : Bool)
    {w : World} (h : StreamOff stream w) : StreamOff stream (setInBothPorts field enable w) where
  upper := (isIdeEnabled_set hfield _ _).trans h.upper
  lower := (isIdeEnabled_set hfield _ _).trans h.lower
  kcbar := h.kcbar

theorem testConfigFlitModeDisable_streamOff (isEnable : Bool) {w : World}
    (h : StreamOff stream w) :
    StreamOff stream (testConfigFlitModeDisable env stream isEnable w).2 := by
  rw [testConfigFlitModeDisable]
  split
  · exact ⟨h.upper, isIdeEnabled_resetStreamCtrl stream, h.kcbar⟩
  · exact h

theorem configEnable_default_streamOff {w : World}
    (h : (configEnable env stream .default w).1 = true) :
    StreamOff stream (configEnable env stream .default w).2 := by
  rw [configEnable] at h ⊢
  split
  · exact ⟨isIdeEnabled_resetStreamCtrl stream, isIdeEnabled_resetStreamCtrl stream,
      initializeKcbarRegisters_not_enabled _ _ _⟩
  · rename_i hft
    rw [if_neg hft] at h
    cases h

theorem configEnable_streamOff (type : ConfigurationType) {w : World} (h : StreamOff stream w) :
    StreamOff stream (configEnable env stream type w).2 := by
  cases type with
  | default =>
      cases hret : (configEnable env stream .default w).1 with
      | true => exact configEnable_default_streamOff hret
      | false =>
          rw [configEnable] at hret ⊢
          split
          · rename_i hft
            rw [if_pos hft] at hret
            cases hret
          · exact h
  | pcrc => exact setInBothPorts_streamOff (by decide) true h
  | selectiveIdeForConfig => exact setInBothPorts_streamOff (by decide) true h
  | flitModeDisable => exact testConfigFlitModeDisable_streamOff true h

theorem configEnable_capabilities (type : ConfigurationType) (w : World) :
    (configEnable env stream type w).2.keys.kcbar capabilities = w.keys.kcbar capabilities := by
  cases type with
  | default =>
      rw [configEnable]
      split
      · exact initializeKcbarRegisters_capabilities _ _ _
      · rfl
  | pcrc => rfl
  | selectiveIdeForConfig => rfl
  | flitModeDisable =>
      rw [configEnable, testConfigFlitModeDisable]
      split <;> rfl

theorem configDisable_streamOff (type : ConfigurationType) {w : World} (h : StreamOff stream w) :
    StreamOff stream (configDisable env stream type w).2 := by
  cases type with
  | default => exact h
  | pcrc => exact setInBothPorts_streamOff (by decide) false h
  | selectiveIdeForConfig => exact setInBothPorts_streamOff (by decide) false h
  | flitModeDisable => exact testConfigFlitModeDisable_streamOff false h

theorem configDisable_upperCtrl (type : ConfigurationType) (w : World) :
    isIdeEnabled (configDisable env stream type w).2.upperCtrl = isIdeEnabled w.upperCtrl := by
  cases type with
  | default => rfl
  | pcrc => exact isIdeEnabled_set (by decide) _ _
  | selectiveIdeForConfig => exact isIdeEnabled_set (by decide) _ _
  | flitModeDisable =>
      rw [configDisable, testConfigFlitModeDisable]
      split <;> rfl

theorem configsDisabled_streamOff (configs : List ConfigurationType) {w : World}
    (h : StreamOff stream w) : StreamOff stream (configsDisabled env stream topType configs w) :=
  disabled_invariant (fun type _ hw => configDisable_streamOff type hw) h

/-- No configuration disables the stream of the root port. -/
theorem configsDisabled_upperCtrl (configs : List ConfigurationType) (w : World) :
    isIdeEnabled (configsDisabled env stream topType configs w).upperCtrl =
      isIdeEnabled w.upperCtrl :=
  disabled_invariant (P := fun w' => isIdeEnabled w'.upperCtrl = isIdeEnabled w.upperCtrl)
    (fun type w' hw' => (configDisable_upperCtrl type w').trans hw') rfl

/-- The default configuration resets the registers of the stream. -/
theorem ReachesSetup.streamOff {configs : List ConfigurationType} {w w₀ : World}
    (h : ReachesSetup env stream topType configs w w₀) : StreamOff stream w₀ :=
  configLoop_cons_invariant (fun type _ hw => configEnable_streamOff type hw)
    configEnable_default_streamOff h.enable

theorem ReachesSetup.capabilities {configs : List ConfigurationType} {w w₀ : World}
    (h : ReachesSetup env stream topType configs w w₀) :
    w₀.keys.kcbar capabilities = w.keys.kcbar capabilities :=
  h.invariant
    (P := fun w' => w'.keys.kcbar PcieIde.capabilities = w.keys.kcbar PcieIde.capabilities)
    (fun type w' hw' => (congrArg (fun w => w.keys.kcbar PcieIde.capabilities)
      (configSupport_snd type w')).trans hw')
    (fun type w' hw' => (configEnable_capabilities type w').trans hw') rfl

/-! ## Setup functions -/

/-- The registers of a root port that has the stream, but does not use it. -/
def Unused (rpStreamIndex : ℕ) (kcbar : Registers) : Prop :=
  StreamExists (kcbar capabilities) rpStreamIndex ∧ ¬Enabled kcbar rpStreamIndex

theorem unused_streamInvariant (stream : Stream) :
    StreamInvariant stream (Unused stream.rpStreamIndex) where
  key ks kSet direction substream key kcbar h := by
    rw [Unused, keyProgKcbar, cfgRootportIdeKeys_capabilities, cfgRootportIdeKeys_enabled kcbar h.1]
    exact h
  prime ks direction kcbar h := by
    rw [Unused, primeRpIdeKeySet_capabilities, primeRpIdeKeySet_enabled]
    exact h
  select ks kcbar h := by
    rw [Unused, setRpIdeKeySetSelect_capabilities, setRpIdeKeySetSelect_enabled]
    exact h

/-- How a setup ends that opens the stream. -/
theorem setupIdeStream_cases {ks : KeySet} {w w' : World} {ret : Bool} (h : StreamOff stream w)
    (hstream : StreamExists (w.keys.kcbar capabilities) stream.rpStreamIndex)
    (htop : topType ≠ .selLinkIde)
    (hsetup : setupIdeStream lib env stream topType ks false w = some (ret, w')) :
    (Opened lib env stream ks w ∧ ret = w.secure env ∧
        isIdeEnabled w'.upperCtrl = true ∧ isIdeEnabled w'.lowerCtrl = true) ∨
      (¬Opened lib env stream ks w ∧ ret = false ∧ StreamOff stream w') := by
  by_cases hopened : Opened lib env stream ks w
  · rcases setupIdeStream_opened hopened htop with ⟨keys, log, heq⟩
    rw [heq] at hsetup
    cases hsetup
    exact Or.inl ⟨hopened, rfl, isIdeEnabled_enableIdeStreamInEcap _ true,
      isIdeEnabled_enableIdeStreamInEcap _ true⟩
  · have hrefused : ∃ keys log, setupIdeStream lib env stream topType ks false w = _ ∧ _ :=
      setupIdeStream_refused (unused_streamInvariant stream) hopened
    rcases hrefused with ⟨keys, log, heq, hunused⟩
    rw [heq] at hsetup
    cases hsetup
    exact Or.inr ⟨hopened, rfl, h.upper, h.lower, (hunused ⟨hstream, h.kcbar⟩).2⟩

/-- A key switch that does not return waits for slots. -/
theorem switchAccepted_of_waits {ks : KeySet} {skipKsetgo : Bool} {w : World}
    (htop : topType ≠ .selLinkIde)
    (h : ideKeySwitchTo lib env stream topType ks skipKsetgo w = none) :
    SwitchAccepted lib env stream ks skipKsetgo w := by
  intro found keys hwait
  rw [ideKeySwitchTo, if_neg htop] at h
  split at h
  · cases h
  · split at h
    · cases h
    · rw [hwait] at h
      cases found with
      | none => cases h
      | some kSet =>
          simp only at h
          split at h
          · cases h
          · split at h
            · cases h
            · split at h <;> cases h

/-! ## Functions that disable the stream -/

theorem testPciIdeKmKeySetStop_sameRegisters (lib : PciIdeKmTestLib) (env : Environment)
    (stream : Stream) (ks : KeySet) (direction : Direction)
    (substream : SubStream) (w : World) :
    SameRegisters w (testPciIdeKmKeySetStop lib env stream ks direction substream w) :=
  ⟨rfl, rfl, rfl⟩

theorem forSubStreams_sameRegisters {test : SubStream → World → World}
    (h : ∀ substream w, SameRegisters w (test substream w)) (w : World) :
    SameRegisters w (forSubStreams test w) :=
  ((h .pr w).trans (h .npr _)).trans (h .cpl _)

/-- Whatever the device answers, and also when the messages that stop the keys are cut short. -/
theorem pcieIdeTeardownCommon_streamOff {ks : KeySet} {w w' : World} {ret : Bool}
    (h : pcieIdeTeardownCommon lib env stream topType ks w = some (ret, w')) :
    StreamOff stream w' := by
  rcases pcieIdeTeardownCommon_eq h with ⟨stops, rfl⟩
  exact (enableStream_streamOff w).sameRegisters ⟨rfl, rfl, rfl⟩

theorem ksetstopRun_streamOff {ks : KeySet} {w w' : World}
    (h : ksetstopRun lib env stream topType ks w = some w') : StreamOff stream w' := by
  rw [ksetstopRun] at h
  split at h
  · cases h
  · cases h
    have hrx := forSubStreams_sameRegisters
      (testPciIdeKmKeySetStop_sameRegisters lib env stream ks .rx)
      (enableStream stream false w)
    have htx := forSubStreams_sameRegisters
      (testPciIdeKmKeySetStop_sameRegisters lib env stream ks .tx)
      (forSubStreams (testPciIdeKmKeySetStop lib env stream ks .rx) (enableStream stream false w))
    exact (enableStream_streamOff w).sameRegisters (hrx.trans htx)

/-! ## Cases -/

/-- The cases whose teardown function is empty. -/
def CaseId.isKsetstop : CaseId → Bool
  | .ksetstop1 | .ksetstop2 | .ksetstop3 | .ksetstop4 => true
  | _ => false

theorem ksetstop_functions (lib : PciIdeKmTestLib) (env : Environment) (stream : Stream)
    (topType : TopologyType) {case : CaseId} (hcase : case.isKsetstop = true) :
    ∃ ks, case.run lib env stream topType = ksetstopRun lib env stream topType ks ∧
      case.teardown lib env stream topType = some ∧ case.configCheckRequired = false := by
  cases case with
  | ksetstop1 => exact ⟨.ks0, rfl, rfl, rfl⟩
  | ksetstop2 => exact ⟨.ks1, rfl, rfl, rfl⟩
  | ksetstop3 => exact ⟨.ks1, rfl, rfl, rfl⟩
  | ksetstop4 => exact ⟨.ks0, rfl, rfl, rfl⟩
  | _ => cases hcase

theorem teardown_streamOff {case : CaseId} {w w' : World} (hcase : case.isKsetstop = false)
    (h : case.teardown lib env stream topType w = some w') : StreamOff stream w' := by
  have hcommon : ∀ ks, (pcieIdeTeardownCommon lib env stream topType ks w).map Prod.snd = some w' →
      StreamOff stream w' := by
    intro ks h
    rcases Option.map_eq_some_iff.mp h with ⟨⟨ret, w₁⟩, hteardown, rfl⟩
    exact pcieIdeTeardownCommon_streamOff hteardown
  cases case with
  | ksetstop1 => cases hcase
  | ksetstop2 => cases hcase
  | ksetstop3 => cases hcase
  | ksetstop4 => cases hcase
  | _ => exact hcommon _ h

theorem fromSetup_streamOff {configs : List ConfigurationType} {case : CaseId} {w w' : World}
    (hcase : case.isKsetstop = false)
    (h : case.fromSetup lib env stream topType configs w = some w') : StreamOff stream w' := by
  rcases fromSetup_eq_some_iff.mp h with ⟨w₁, w₂, -, hteardown, rfl⟩ |
    ⟨w₁, w₂, w₃, -, -, hteardown, rfl⟩
  · exact configsDisabled_streamOff configs (teardown_streamOff hcase hteardown)
  · exact configsDisabled_streamOff configs (teardown_streamOff hcase hteardown)

/-- A stream that a setup function fails on is left as it is. -/
theorem fromSetup_ksetstop_iff {configs : List ConfigurationType} {case : CaseId} {w : World}
    (hcase : case.isKsetstop = true)
    (hsetup : ∀ w₁, case.setup lib env stream topType w = some (false, w₁) →
      StreamOff stream w₁ ∨ isIdeEnabled w₁.upperCtrl = true) :
    (∀ w', case.fromSetup lib env stream topType configs w = some w' → StreamOff stream w') ↔
      ∀ w₁, case.setup lib env stream topType w = some (false, w₁) → StreamOff stream w₁ := by
  rcases ksetstop_functions lib env stream topType hcase with ⟨ks, hrun, hteardown, hcheck⟩
  refine ⟨?_, ?_⟩
  · intro h w₁ heq
    rcases hsetup w₁ heq with hoff | hon
    · exact hoff
    · have hdisabled := h (configsDisabled env stream topType configs { w₁ with action := .skip })
        (fromSetup_eq_some_iff.mpr (Or.inl ⟨w₁, _, heq, congrFun hteardown _, rfl⟩))
      have hupper := hdisabled.upper
      rw [configsDisabled_upperCtrl, hon] at hupper
      cases hupper
  · intro h w' hw'
    rcases fromSetup_eq_some_iff.mp hw' with ⟨w₁, w₂, heq, hw₂, rfl⟩ |
      ⟨w₁, w₂, w₃, -, hran, hw₃, rfl⟩
    · have hoff := h w₁ heq
      rw [CaseId.functions, hteardown] at hw₂
      cases hw₂
      exact configsDisabled_streamOff configs ⟨hoff.upper, hoff.lower, hoff.kcbar⟩
    · rw [CaseId.functions, hteardown, checked, hcheck] at hw₃
      cases hw₃
      rw [CaseId.functions, hrun] at hran
      exact configsDisabled_streamOff configs (ksetstopRun_streamOff hran)

/-! ## Where setups fail -/

section Setup

variable (lib : PciIdeKmTestLib) (env : Environment) (stream : Stream)
  (topType : TopologyType)

/-- Once the device has taken what opens the stream, both ports are secure. -/
def OpensSecure (ks : KeySet) (w : World) : Prop :=
  Opened lib env stream ks w → w.secure env = true

/-- Once the device has taken what opens the stream, both ports are secure, and the device
takes what switches the key set. -/
def OpensAndSwitches (ks switchTo : KeySet) (w : World) : Prop :=
  Opened lib env stream ks w → w.secure env = true ∧
    ∀ w₁, setupIdeStream lib env stream topType ks false w = some (true, w₁) →
      SwitchAccepted lib env stream switchTo false w₁

/-- The setup function does not fail on a stream that it has opened. -/
def SetupHolds : CaseId → World → Prop
  | .ksetstop1 => OpensSecure lib env stream .ks0
  | .ksetstop2 => OpensSecure lib env stream .ks1
  | .ksetstop3 => OpensAndSwitches lib env stream topType .ks0 .ks1
  | .ksetstop4 => OpensAndSwitches lib env stream topType .ks1 .ks0
  | _ => fun _ => True

end Setup

section Failing

variable {ks : KeySet} {w : World} (h : StreamOff stream w)
  (hstream : StreamExists (w.keys.kcbar capabilities) stream.rpStreamIndex)
  (htop : topType ≠ .selLinkIde)

include h hstream htop

theorem setupIdeStream_fails {w₁ : World}
    (heq : setupIdeStream lib env stream topType ks false w = some (false, w₁)) :
    StreamOff stream w₁ ∨ isIdeEnabled w₁.upperCtrl = true := by
  rcases setupIdeStream_cases h hstream htop heq with ⟨-, -, hupper, -⟩ | ⟨-, -, hoff⟩
  · exact Or.inr hupper
  · exact Or.inl hoff

theorem opensSecure_iff :
    (∀ w₁, setupIdeStream lib env stream topType ks false w = some (false, w₁) →
      StreamOff stream w₁) ↔ OpensSecure lib env stream ks w := by
  refine ⟨?_, ?_⟩
  · intro hfails hopened
    rcases setupIdeStream_opened hopened htop with ⟨keys, log, heq⟩
    cases hsecure : w.secure env with
    | true => rfl
    | false =>
        rw [hsecure] at heq
        have hupper := (hfails _ heq).upper
        have henabled := isIdeEnabled_enableIdeStreamInEcap w.upperCtrl true
        exact absurd (henabled.symm.trans hupper) nofun
  · intro hopens w₁ heq
    rcases setupIdeStream_cases h hstream htop heq with ⟨hopened, hret, -, -⟩ | ⟨-, -, hoff⟩
    · rw [hopens hopened] at hret
      cases hret
    · exact hoff

variable {switchTo : KeySet}

theorem setupAndSwitch_fails {w₁ : World}
    (heq : setupAndSwitch lib env stream topType ks switchTo w = some (false, w₁)) :
    StreamOff stream w₁ ∨ isIdeEnabled w₁.upperCtrl = true := by
  rw [setupAndSwitch] at heq
  split at heq
  · cases heq
  · rename_i hsetup
    cases heq
    exact setupIdeStream_fails h hstream htop hsetup
  · rename_i w₂ hsetup
    rcases setupIdeStream_cases h hstream htop hsetup with ⟨-, -, hupper, hlower⟩ | ⟨-, hret, -⟩
    · rw [(switched_of_ideKeySwitchTo hupper hlower heq).upperCtrl]
      exact Or.inr hupper
    · cases hret

theorem opensAndSwitches_iff :
    (∀ w₁, setupAndSwitch lib env stream topType ks switchTo w = some (false, w₁) →
      StreamOff stream w₁) ↔ OpensAndSwitches lib env stream topType ks switchTo w := by
  refine ⟨?_, ?_⟩
  · intro hfails hopened
    have hsecure : w.secure env = true := by
      refine (opensSecure_iff h hstream htop).mp ?_ hopened
      intro w₁ heq
      refine hfails w₁ ?_
      rw [setupAndSwitch, heq]
    refine ⟨hsecure, ?_⟩
    intro w₁ hsetup
    rcases setupIdeStream_cases h hstream htop hsetup with ⟨-, -, hupper, hlower⟩ | ⟨-, hret, -⟩
    · rcases hswitch : ideKeySwitchTo lib env stream topType switchTo false w₁ with
        _ | ⟨ret, w₂⟩
      · exact switchAccepted_of_waits htop hswitch
      · have hswitched := switched_of_ideKeySwitchTo hupper hlower hswitch
        cases ret with
        | true => exact hswitched.accepted.mp rfl
        | false =>
            have hoff := (hfails w₂ (by rw [setupAndSwitch, hsetup]; exact hswitch)).upper
            rw [hswitched.upperCtrl, hupper] at hoff
            cases hoff
    · cases hret
  · intro hopens w₁ heq
    rw [setupAndSwitch] at heq
    split at heq
    · cases heq
    · rename_i hsetup
      cases heq
      exact (opensSecure_iff h hstream htop).mpr (fun hopened => (hopens hopened).1) w₁ hsetup
    · rename_i w₂ hsetup
      rcases setupIdeStream_cases h hstream htop hsetup with
        ⟨hopened, -, hupper, hlower⟩ | ⟨-, hret, -⟩
      · have haccepted := (hopens hopened).2 w₂ hsetup
        cases (switched_of_ideKeySwitchTo hupper hlower heq).accepted.mpr haccepted
      · cases hret

theorem fromSetup_streamOff_iff (configs : List ConfigurationType) (case : CaseId) :
    (∀ w', case.fromSetup lib env stream topType configs w = some w' → StreamOff stream w') ↔
      SetupHolds lib env stream topType case w := by
  have hset : ∀ {case : CaseId}, case.isKsetstop = false →
      SetupHolds lib env stream topType case w →
      ((∀ w', case.fromSetup lib env stream topType configs w = some w' → StreamOff stream w') ↔
        SetupHolds lib env stream topType case w) :=
    fun hcase hholds => ⟨fun _ => hholds, fun _ _ => fromSetup_streamOff hcase⟩
  cases case with
  | ksetstop1 =>
      refine (fromSetup_ksetstop_iff rfl ?_).trans (opensSecure_iff h hstream htop)
      exact fun _ => setupIdeStream_fails h hstream htop
  | ksetstop2 =>
      refine (fromSetup_ksetstop_iff rfl ?_).trans (opensSecure_iff h hstream htop)
      exact fun _ => setupIdeStream_fails h hstream htop
  | ksetstop3 =>
      refine (fromSetup_ksetstop_iff rfl ?_).trans (opensAndSwitches_iff h hstream htop)
      exact fun _ => setupAndSwitch_fails h hstream htop
  | ksetstop4 =>
      refine (fromSetup_ksetstop_iff rfl ?_).trans (opensAndSwitches_iff h hstream htop)
      exact fun _ => setupAndSwitch_fails h hstream htop
  | _ => exact hset rfl trivial

end Failing

/-- Every run of a case that reaches its setup function leaves the stream disabled, exactly
when no `KSetStop` case fails its setup function on a stream that it has opened. -/
theorem doRun_streamOff_iff (lib : PciIdeKmTestLib) (env : Environment) (stream : Stream)
    (topType : TopologyType) (configs : List ConfigurationType) (case : CaseId) (w : World)
    (hstream : StreamExists (w.keys.kcbar capabilities) stream.rpStreamIndex) :
    (∀ w₀ w', ReachesSetup env stream topType configs w w₀ →
        case.doRun lib env stream topType configs w = some w' → StreamOff stream w') ↔
      ∀ w₀, ReachesSetup env stream topType configs w w₀ →
        SetupHolds lib env stream topType case w₀ := by
  have hcase : ∀ w₀, ReachesSetup env stream topType configs w w₀ →
      ((∀ w', case.doRun lib env stream topType configs w = some w' → StreamOff stream w') ↔
        SetupHolds lib env stream topType case w₀) := by
    intro w₀ hreaches
    rw [doRun_eq hreaches]
    refine fromSetup_streamOff_iff hreaches.streamOff ?_ hreaches.topType_ne configs case
    rwa [hreaches.capabilities]
  refine ⟨?_, ?_⟩
  · intro hruns w₀ hreaches
    exact (hcase w₀ hreaches).mp fun w' => hruns w₀ w' hreaches
  · intro hholds w₀ w' hreaches
    exact (hcase w₀ hreaches).mpr (hholds w₀ hreaches) w'

theorem doRun_streamOff_iff_small : ∃ w₀ w',
    ReachesSetup (acceptingPorts (fun _ => .ks0) fun _ => true) smallStream .selIde [] smallWorld
      w₀ ∧
    CaseId.ksetstop1.doRun pciIdeKmTest (acceptingPorts (fun _ => .ks0) fun _ => true) smallStream
      .selIde [] smallWorld = some w' ∧
    StreamOff smallStream w' := by
  rcases (⟨_, ⟨rfl, rfl, rfl⟩⟩ : ∃ w₀, ReachesSetup (acceptingPorts (fun _ => .ks0) fun _ => true)
    smallStream .selIde [] smallWorld w₀) with ⟨w₀, hreaches⟩
  rcases (⟨_, rfl⟩ : ∃ w', CaseId.ksetstop1.doRun pciIdeKmTest
    (acceptingPorts (fun _ => .ks0) fun _ => true) smallStream .selIde [] smallWorld = some w')
    with ⟨w', hrun⟩
  exact ⟨w₀, w', hreaches, hrun,
    (doRun_streamOff_iff pciIdeKmTest (acceptingPorts (fun _ => .ks0) fun _ => true) smallStream
      .selIde [] .ksetstop1 smallWorld (by decide)).mpr (fun _ _ _ => rfl) w₀ w' hreaches hrun⟩

/-- `KSetStop` 4.1, when the stream is enabled but not secure. -/
theorem doRun_insecure_not_streamOff : ¬∀ w₀ w',
    ReachesSetup (acceptingPorts (fun _ => .ks0) fun _ => false) smallStream .selIde [] smallWorld
      w₀ →
    CaseId.ksetstop1.doRun pciIdeKmTest (acceptingPorts (fun _ => .ks0) fun _ => false) smallStream
      .selIde [] smallWorld = some w' → StreamOff smallStream w' := by
  intro h
  have hoff := h _ _ ⟨rfl, rfl, rfl⟩ rfl
  exact absurd hoff.upper (by decide)

end TeeIoValidator.PcieIdeTest
