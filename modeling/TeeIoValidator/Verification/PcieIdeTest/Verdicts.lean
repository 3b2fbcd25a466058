import TeeIoValidator.Verification.PcieIdeTest.Messages
import TeeIoValidator.Verification.PcieIdeTest.Runs

/-! # Cases of several steps that pass

`KSetGo` 3.3 and 3.4 leave their run functions early on a stream that is not secure and on a key
switch that fails, and record nothing there. A key refresh that fails is recorded.
-/

namespace TeeIoValidator.PcieIdeTest

open PcieIde Runner

variable {lib : PciIdeKmTestLib} {env : Environment} {stream : Stream}
  {topType : TopologyType}

/-! ## What lies outside the run functions -/

/-- What the case is reported with. -/
structure SameReport (w w' : World) : Prop where
  assertions : w'.assertions = w.assertions
  refreshes : w'.refreshes = w.refreshes

theorem SameCase.report {w w' : World} (h : SameCase w w') : SameReport w w' :=
  ⟨h.assertions, h.refreshes⟩

theorem SameReport.trans {w w' w'' : World} (h : SameReport w w') (h' : SameReport w' w'') :
    SameReport w w'' :=
  ⟨h'.assertions.trans h.assertions, h'.refreshes.trans h.refreshes⟩

theorem teardown_sameReport {case : CaseId} {w w' : World}
    (h : case.teardown lib env stream topType w = some w') : SameReport w w' := by
  rcases teardown_eq h with rfl | ⟨stops, rfl⟩ <;> exact ⟨rfl, rfl⟩

theorem outside_sameReport (lib : PciIdeKmTestLib) (env : Environment) (stream : Stream)
    (topType : TopologyType) (case : CaseId) :
    Outside SameReport caseContext (configFunctions env stream topType)
      (case.functions lib env stream topType) where
  refl w := ⟨rfl, rfl⟩
  trans := SameReport.trans
  support type w := by
    have hsupport : (configFunctions env stream topType).support type w =
        configSupport env type w := rfl
    rw [hsupport, configSupport_snd]
    exact ⟨rfl, rfl⟩
  enable type w := (configEnable_sameCase type w).report
  check type w := (configCheck_sameCase type w).report
  disable type w := (configDisable_sameCase type w).report
  setup h := (setup_sameCase h).report
  skip _ := ⟨rfl, rfl⟩
  teardown := teardown_sameReport

/-- What the case is reported with, and the `K_SET_GO` messages. -/
structure SameTested (w w' : World) : Prop extends SameReport w w' where
  kSetGos : w'.keys.kSetGos = w.keys.kSetGos

theorem configEnable_kSetGos (type : ConfigurationType) (w : World) :
    (configEnable env stream type w).2.keys.kSetGos = w.keys.kSetGos := by
  cases type with
  | default =>
      rw [configEnable]
      split <;> rfl
  | pcrc => rfl
  | selectiveIdeForConfig => rfl
  | flitModeDisable =>
      rw [configEnable, testConfigFlitModeDisable]
      split <;> rfl

theorem configDisable_kSetGos (type : ConfigurationType) (w : World) :
    (configDisable env stream type w).2.keys.kSetGos = w.keys.kSetGos := by
  cases type with
  | flitModeDisable =>
      rw [configDisable, testConfigFlitModeDisable]
      split <;> rfl
  | _ => rfl

/-- The cases whose setup function leaves `K_SET_GO` to the run function. -/
structure SwitchesKeySet (case : CaseId) (first second : KeySet) : Prop where
  cases : case = .ksetgo3 ∧ first = .ks0 ∧ second = .ks1 ∨
    case = .ksetgo4 ∧ first = .ks1 ∧ second = .ks0

theorem SwitchesKeySet.setup_kSetGos {case : CaseId} {first second : KeySet}
    (h : SwitchesKeySet case first second) {w w' : World} {ret : Bool}
    (hsetup : case.setup lib env stream topType w = some (ret, w')) :
    w'.keys.kSetGos = w.keys.kSetGos := by
  have hskip : ∀ ks, setupIdeStream lib env stream topType ks true w = some (ret, w') →
      w'.keys.kSetGos = w.keys.kSetGos := by
    intro ks hsetup
    cases setupIdeStream_ends hsetup with
    | programmed hprograms hret => exact hprograms.kSetGos
  rcases h.cases with ⟨rfl, -, -⟩ | ⟨rfl, -, -⟩
  · exact hskip _ hsetup
  · exact hskip _ hsetup

theorem SwitchesKeySet.outside {case : CaseId} {first second : KeySet}
    (h : SwitchesKeySet case first second) :
    Outside SameTested caseContext (configFunctions env stream topType)
      (case.functions lib env stream topType) := by
  have hreport := outside_sameReport lib env stream topType case
  refine ⟨fun w => ⟨hreport.refl w, rfl⟩,
    fun h h' => ⟨hreport.trans h.1 h'.1, h'.kSetGos.trans h.kSetGos⟩,
    fun type w => ⟨hreport.support type w, ?_⟩,
    fun type w => ⟨hreport.enable type w, configEnable_kSetGos type w⟩,
    fun type w => ⟨hreport.check type w, ?_⟩,
    fun type w => ⟨hreport.disable type w, configDisable_kSetGos type w⟩,
    fun hsetup => ⟨hreport.setup hsetup, h.setup_kSetGos hsetup⟩,
    fun w => ⟨hreport.skip w, rfl⟩, fun hteardown => ⟨hreport.teardown hteardown, ?_⟩⟩
  · exact congrArg (fun w => w.keys.kSetGos) (configSupport_snd type w)
  · cases type <;> rfl
  · rcases teardown_eq hteardown with rfl | ⟨stops, rfl⟩ <;> rfl

theorem keepsAction (lib : PciIdeKmTestLib) (env : Environment) (stream : Stream)
    (topType : TopologyType) (case : CaseId) :
    KeepsAction caseContext (configFunctions env stream topType)
      (case.functions lib env stream topType) where
  support type w := congrArg World.action (configSupport_snd type w)
  enable type w := (configEnable_sameCase type w).action
  setup _ _ hsetup := (setup_sameCase hsetup).action

/-! ## Phases -/

/-- How a first phase ends that returns. -/
structure FirstPhase (lib : PciIdeKmTestLib) (env : Environment) (stream : Stream)
    (ks : KeySet) (w : World) (ret : Bool) (w' : World) : Prop where
  kSetGos : w'.keys.kSetGos = w.keys.kSetGos ++ streamRequests lib.toPciIdeKmLib stream ks
  noneFailed : NoneFailed w'.assertions ↔ NoneFailed w.assertions ∧
    AllAcknowledged lib.toPciIdeKmLib env.toEnvironment w.keys.kSetGos.length
      (streamRequests lib.toPciIdeKmLib stream ks)
  somePassed : NoneFailed w'.assertions → SomePassed w'.assertions
  returned : ret = true ↔ NoneFailed w'.assertions ∧ env.upperSecure w.statuses = true
  upper : ret = true → isIdeEnabled w'.upperCtrl = true
  lower : ret = true → isIdeEnabled w'.lowerCtrl = true

/-- No assertion fails exactly when the six messages are acknowledged, and then the case has
passed so far. -/
theorem testKeySetGos_result (lib : PciIdeKmTestLib) (env : Environment) (stream : Stream)
    (phase1 : Bool) (ks selected : KeySet) (w : World) :
    ∃ as kcbar log, testKeySetGos lib env stream phase1 ks selected w =
        { w with
          keys := { w.keys with
            kcbar := kcbar
            kSetGos := w.keys.kSetGos ++ streamRequests lib.toPciIdeKmLib stream ks }
          assertions := w.assertions ++ as
          kSetGoKcbars := log } ∧
      (NoneFailed (w.assertions ++ as) ↔ NoneFailed w.assertions ∧
        AllAcknowledged lib.toPciIdeKmLib env.toEnvironment w.keys.kSetGos.length
          (streamRequests lib.toPciIdeKmLib stream ks)) ∧
      (testCaseResult (w.assertions ++ as) = .pass ↔ NoneFailed (w.assertions ++ as)) := by
  rcases testKeySetGos_eq lib env stream phase1 ks selected w with
    ⟨as, kcbar, heq, -, hnone, hpassed⟩
  refine ⟨as, kcbar, _, heq, ?_, ?_⟩
  · rw [noneFailed_append, hnone]
  · rw [testCaseResult_eq_pass_iff]
    refine ⟨And.left, fun h => ⟨h, ?_⟩⟩
    exact (hpassed ((noneFailed_append _ _).mp h).2).append_left w.assertions

theorem runPhase1_returns (lib : PciIdeKmTestLib) (env : Environment) (stream : Stream)
    (ks : KeySet) (htop : topType ≠ .selLinkIde) (w : World) :
    ∃ ret w', runPhase1 lib env stream topType ks w = some (ret, w') ∧
      FirstPhase lib env stream ks w ret w' := by
  rcases testKeySetGos_result lib env stream true ks ks w with ⟨as, kcbar, log, heq, hnone, hpass⟩
  rw [runPhase1, heq]
  by_cases hfailed : NoneFailed (w.assertions ++ as)
  · have hresult := hpass.mpr hfailed
    rw [if_neg (by rw [World.result]; simpa using hresult), if_neg htop]
    refine ⟨_, _, rfl, rfl, hnone, ?_, ?_, ?_, ?_⟩
    · exact fun _ => ((testCaseResult_eq_pass_iff _).mp hresult).2
    · exact ⟨fun h => ⟨hfailed, h⟩, And.right⟩
    · exact fun _ => isIdeEnabled_enableIdeStreamInEcap _ true
    · exact fun _ => isIdeEnabled_enableIdeStreamInEcap _ true
  · rw [if_pos (by rw [World.result, Ne, hpass]; exact hfailed)]
    refine ⟨_, _, rfl, rfl, hnone, (absurd · hfailed), ?_, (absurd · Bool.false_ne_true),
      (absurd · Bool.false_ne_true)⟩
    simp only [Bool.false_eq_true, false_iff, not_and]
    exact fun h => absurd h hfailed

/-- How a key switch ends between the phases that returns. -/
theorem switch_skipped {ks : KeySet} {w w' : World} {ret : Bool}
    (hupper : isIdeEnabled w.upperCtrl = true) (hlower : isIdeEnabled w.lowerCtrl = true)
    (h : ideKeySwitchTo lib env stream topType ks true w = some (ret, w')) :
    (ret = true ↔ SwitchAccepted lib env stream ks true w) ∧
      w'.assertions = w.assertions ∧ w'.keys.kSetGos = w.keys.kSetGos := by
  have hswitched := switched_of_ideKeySwitchTo hupper hlower h
  exact ⟨hswitched.accepted, hswitched.sameCase.assertions, hswitched.skipped rfl⟩

/-! ## `KSetGo` 3.3 and 3.4 -/

/-- Who says that a stream is secure: the root port, which is asked after the first phase, or
both ports, as they are when a stream is set up. -/
inductive SecureBy where
  | rootPort
  | bothPorts
  deriving Repr, DecidableEq

def SecureBy.secure (env : Environment) (w : World) : SecureBy → Bool
  | .rootPort => env.upperSecure w.statuses
  | .bothPorts => w.secure env

section Phases

variable (lib : PciIdeKmTestLib) (env : Environment) (stream : Stream)
  (topType : TopologyType) (secureBy : SecureBy) (first second : KeySet)

/-- The messages of both phases were sent and acknowledged, and the stream was secure after the
first one. -/
structure Completed (w w' : World) : Prop where
  sent : w'.keys.kSetGos = w.keys.kSetGos ++ (streamRequests lib.toPciIdeKmLib stream first ++
    streamRequests lib.toPciIdeKmLib stream second)
  acknowledged : AllAcknowledged lib.toPciIdeKmLib env.toEnvironment w.keys.kSetGos.length
    (streamRequests lib.toPciIdeKmLib stream first ++
      streamRequests lib.toPciIdeKmLib stream second)
  secure : secureBy.secure env w = true

/-- Once the first six messages are acknowledged, the root port reports a secure stream and a
key switch that returns is accepted; and if the last six messages are acknowledged too, the
stream was secure. -/
def PhasesHold (w : World) : Prop :=
  AllAcknowledged lib.toPciIdeKmLib env.toEnvironment w.keys.kSetGos.length
      (streamRequests lib.toPciIdeKmLib stream first) →
    env.upperSecure w.statuses = true ∧
      ∀ w₂ ret w₃, runPhase1 lib env stream topType first w = some (true, w₂) →
        ideKeySwitchTo lib env stream topType second true w₂ = some (ret, w₃) →
          SwitchAccepted lib env stream second true w₂ ∧
            (AllAcknowledged lib.toPciIdeKmLib env.toEnvironment w₃.keys.kSetGos.length
                (streamRequests lib.toPciIdeKmLib stream second) →
              secureBy.secure env w = true)

end Phases

/-- The run functions of the two cases. -/
def ksetgoRun (lib : PciIdeKmTestLib) (env : Environment) (stream : Stream)
    (topType : TopologyType) (first second selected : KeySet) : World → Option World :=
  runPhases lib env stream topType (runPhase1 lib env stream topType first) second
    fun w => (true, testKeySetGos lib env stream false second selected w)

theorem SwitchesKeySet.run_eq (lib : PciIdeKmTestLib) (env : Environment) (stream : Stream)
    (topType : TopologyType) {case : CaseId} {first second : KeySet}
    (h : SwitchesKeySet case first second) :
    ∃ selected, case.run lib env stream topType =
      ksetgoRun lib env stream topType first second selected := by
  rcases h.cases with ⟨rfl, rfl, rfl⟩ | ⟨rfl, rfl, rfl⟩
  · exact ⟨.ks1, rfl⟩
  · exact ⟨.ks1, rfl⟩

theorem not_completed {secureBy : SecureBy} {first second : KeySet} {w w' : World}
    (h : w'.keys.kSetGos = w.keys.kSetGos ++ streamRequests lib.toPciIdeKmLib stream first) :
    ¬Completed lib env stream secureBy first second w w' := by
  intro hcompleted
  have hsent := hcompleted.sent
  rw [h, List.append_cancel_left_eq] at hsent
  cases congrArg List.length hsent

/-- The end of a run in which the key switch returns. -/
theorem ksetgoRun_eq (selected : KeySet) {first second : KeySet} {w w₂ w₃ : World} {ret : Bool}
    (hphase : runPhase1 lib env stream topType first w = some (true, w₂))
    (hswitch : ideKeySwitchTo lib env stream topType second true w₂ = some (ret, w₃)) :
    ksetgoRun lib env stream topType first second selected w =
      some (if ret then testKeySetGos lib env stream false second selected w₃ else w₃) := by
  rw [ksetgoRun, runPhases, hphase]
  simp only [hswitch]
  cases ret <;> rfl

/-- The end of a run whose first phase fails. -/
theorem ksetgoRun_eq_phase {first second selected : KeySet} {w w₂ : World}
    (hphase : runPhase1 lib env stream topType first w = some (false, w₂)) :
    ksetgoRun lib env stream topType first second selected w = some w₂ := by
  rw [ksetgoRun, runPhases, hphase]

theorem FirstPhase.result {ks : KeySet} {w w' : World} {ret : Bool}
    (h : FirstPhase lib env stream ks w ret w') :
    w'.result = .pass ↔ NoneFailed w'.assertions := by
  rw [World.result, testCaseResult_eq_pass_iff]
  exact ⟨And.left, fun hnone => ⟨hnone, h.somePassed hnone⟩⟩

theorem phasesHold_of_completed {secureBy : SecureBy} {first second selected : KeySet}
    {w w₂ : World} {ret : Bool} (hw : NoneFailed w.assertions)
    (hphase : runPhase1 lib env stream topType first w = some (ret, w₂))
    (hfirst : FirstPhase lib env stream first w ret w₂)
    (hcompleted : ∀ w', ksetgoRun lib env stream topType first second selected w = some w' →
      w'.result = .pass → Completed lib env stream secureBy first second w w') :
    PhasesHold lib env stream topType secureBy first second w := by
  intro hack
  have hnone := hfirst.noneFailed.mpr ⟨hw, hack⟩
  refine ⟨?_, ?_⟩
  · cases ret with
    | true => exact (hfirst.returned.mp rfl).2
    | false =>
        have hdone := hcompleted w₂ (ksetgoRun_eq_phase hphase) (hfirst.result.mpr hnone)
        exact absurd hdone (not_completed hfirst.kSetGos)
  · intro w₂' ret' w₃ hphase' hswitch
    rw [hphase, Option.some.injEq, Prod.mk.injEq] at hphase'
    rcases hphase' with ⟨rfl, rfl⟩
    rcases switch_skipped (hfirst.upper rfl) (hfirst.lower rfl) hswitch with
      ⟨haccepted, hassertions, hgos⟩
    have hrun := ksetgoRun_eq selected hphase hswitch
    cases ret' with
    | false =>
        have hpass : w₃.result = .pass := by
          rw [World.result, hassertions]
          exact hfirst.result.mpr hnone
        exact absurd (hcompleted w₃ hrun hpass) (not_completed (hgos.trans hfirst.kSetGos))
    | true =>
        refine ⟨haccepted.mp rfl, ?_⟩
        intro hack₂
        rcases testKeySetGos_result lib env stream false second selected w₃ with
          ⟨as, kcbar, log, heq, hnone', hpass⟩
        refine (hcompleted _ hrun ?_).secure
        rw [if_pos rfl, heq]
        rw [← hassertions] at hnone
        exact hpass.mpr (hnone'.mpr ⟨hnone, hack₂⟩)

theorem completed_of_phasesHold {secureBy : SecureBy} {first second selected : KeySet}
    {w w₂ w' : World} {ret : Bool}
    (hphase : runPhase1 lib env stream topType first w = some (ret, w₂))
    (hfirst : FirstPhase lib env stream first w ret w₂)
    (hholds : PhasesHold lib env stream topType secureBy first second w)
    (hrun : ksetgoRun lib env stream topType first second selected w = some w')
    (hpass : w'.result = .pass) : Completed lib env stream secureBy first second w w' := by
  cases ret with
  | false =>
      rw [ksetgoRun_eq_phase hphase, Option.some.injEq] at hrun
      subst hrun
      have hnone := hfirst.result.mp hpass
      have hsecure := (hholds (hfirst.noneFailed.mp hnone).2).1
      cases hfirst.returned.mpr ⟨hnone, hsecure⟩
  | true =>
      have hack := (hfirst.noneFailed.mp (hfirst.returned.mp rfl).1).2
      rcases hswitch : ideKeySwitchTo lib env stream topType second true w₂ with _ | ⟨ret', w₃⟩
      · rw [ksetgoRun, runPhases, hphase] at hrun
        simp only [hswitch] at hrun
        cases hrun
      · rcases switch_skipped (hfirst.upper rfl) (hfirst.lower rfl) hswitch with
          ⟨haccepted, -, hgos⟩
        rcases (hholds hack).2 w₂ ret' w₃ hphase hswitch with ⟨haccept, hsecure⟩
        rw [ksetgoRun_eq selected hphase hswitch, haccepted.mpr haccept, if_pos rfl] at hrun
        rcases testKeySetGos_result lib env stream false second selected w₃ with
          ⟨as, kcbar, log, heq, hnone, hresult⟩
        rw [heq] at hrun
        cases hrun
        have hack₂ := (hnone.mp (hresult.mp hpass)).2
        refine ⟨?_, ?_, hsecure hack₂⟩
        · simp only
          rw [hgos, hfirst.kSetGos, List.append_assoc]
        · rw [allAcknowledged_append]
          rw [hgos, hfirst.kSetGos, List.length_append] at hack₂
          exact ⟨hack, hack₂⟩

theorem ksetgoRun_completed_iff (selected : KeySet) {secureBy : SecureBy}
    {first second : KeySet} {w : World}
    (htop : topType ≠ .selLinkIde) (hw : NoneFailed w.assertions) :
    (∀ w', ksetgoRun lib env stream topType first second selected w = some w' →
        w'.result = .pass → Completed lib env stream secureBy first second w w') ↔
      PhasesHold lib env stream topType secureBy first second w := by
  rcases runPhase1_returns lib env stream first htop w with
    ⟨ret, w₂, hphase, hfirst⟩
  exact ⟨phasesHold_of_completed hw hphase hfirst, fun hholds w' hrun hpass =>
    completed_of_phasesHold hphase hfirst hholds hrun hpass⟩

/-- A run that is reported as passed has completed both phases. -/
def PassesCompleted (lib : PciIdeKmTestLib) (env : Environment) (stream : Stream)
    (topType : TopologyType) (secureBy : SecureBy) (first second : KeySet)
    (configs : List ConfigurationType) (case : CaseId) (w : World) : Prop :=
  ∀ w', case.doRun lib env stream topType configs w = some w' → w'.result = .pass →
    ∃ w₁, RunBegins caseContext (configFunctions env stream topType) (.default :: configs)
        (case.functions lib env stream topType) w w₁ ∧
      w₁.keys.kSetGos = w.keys.kSetGos ∧ Completed lib env stream secureBy first second w₁ w'

/-- The two cases pass with both phases completed only, exactly when their phases hold. -/
theorem passesCompleted_iff {secureBy : SecureBy} {first second : KeySet}
    {configs : List ConfigurationType} {case : CaseId} (hcase : SwitchesKeySet case first second)
    {w : World} (hw : w.assertions = []) :
    PassesCompleted lib env stream topType secureBy first second configs case w ↔
      ∀ w₁, RunBegins caseContext (configFunctions env stream topType) (.default :: configs)
          (case.functions lib env stream topType) w w₁ →
        PhasesHold lib env stream topType secureBy first second w₁ := by
  have houtside : Outside SameTested caseContext (configFunctions env stream topType)
    (case.functions lib env stream topType) := hcase.outside
  have hkeeps := keepsAction lib env stream topType case
  have htop : ∀ {w₁}, RunBegins caseContext (configFunctions env stream topType)
      (.default :: configs) (case.functions lib env stream topType) w w₁ →
        topType ≠ .selLinkIde := by
    intro w₁ hbegins
    rcases hbegins.reaches with ⟨w₀, hreaches, -⟩
    exact ReachesSetup.topType_ne hreaches
  have hfresh : ∀ {w₁ : World}, SameTested w w₁ → NoneFailed w₁.assertions := by
    intro w₁ hsame
    rw [hsame.assertions, hw]
    exact nofun
  rcases hcase.run_eq lib env stream topType with
    ⟨selected, hrun_eq⟩
  refine ⟨?_, ?_⟩
  · intro hpasses w₁ hbegins
    have hsame := houtside.begins hbegins
    rw [← ksetgoRun_completed_iff selected (htop hbegins) (hfresh hsame)]
    intro w₂ hran hpass
    rcases houtside.doRun_returns hkeeps hbegins ((congrFun hrun_eq w₁).trans hran)
      (teardown_returns (htop hbegins) _) with ⟨w', hrun, hends⟩
    rcases hpasses w' hrun (by rw [World.result, hends.assertions]; exact hpass) with
      ⟨w₁', hbegins', -, hcompleted⟩
    cases hbegins.unique hbegins'
    exact ⟨hends.kSetGos.symm.trans hcompleted.sent, hcompleted.acknowledged, hcompleted.secure⟩
  · intro hholds w' hrun hpass
    rcases houtside.doRun_cases hkeeps hrun with hsame | ⟨w₁, w₂, hbegins, hran, hends⟩
    · rw [World.result, hsame.assertions, hw] at hpass
      cases hpass
    · have hsame := houtside.begins hbegins
      have hran : ksetgoRun lib env stream topType first second selected w₁ = some w₂ :=
        (congrFun hrun_eq w₁).symm.trans hran
      have hcompleted := (ksetgoRun_completed_iff selected (htop hbegins) (hfresh hsame)).mpr
        (hholds w₁ hbegins) w₂ hran (by rw [World.result, ← hends.assertions]; exact hpass)
      exact ⟨w₁, hbegins, hsame.kSetGos, hends.kSetGos.trans hcompleted.sent,
        hcompleted.acknowledged, hcompleted.secure⟩

/-! ## Key refresh -/

/-- The loop succeeds only with all refreshes completed. -/
theorem keyrefreshLoop_refreshed {commands : List Bool} {w w' : World} {res : Bool}
    (h : keyrefreshLoop lib env stream topType commands w = some (res, w')) :
    w'.assertions = w.assertions ∧
      ∃ log, w'.refreshes = w.refreshes ++ log ∧ (res = true → false ∉ log) := by
  induction commands generalizing w with
  | nil => cases h
  | cons quit commands ih =>
      cases quit with
      | true =>
          cases h
          exact ⟨rfl, [], (List.append_nil _).symm, fun _ => List.not_mem_nil⟩
      | false =>
          rw [keyrefreshLoop] at h
          split at h
          · cases h
          · rename_i w₁ hswitch
            cases h
            have hsame := ideKeySwitchTo_sameCase hswitch
            exact ⟨hsame.assertions, [false], congrArg (· ++ [false]) hsame.refreshes, nofun⟩
          · rename_i w₁ hswitch
            have hsame := ideKeySwitchTo_sameCase hswitch
            rcases ih h with ⟨hassertions, log, hrefreshes, hlog⟩
            refine ⟨hassertions.trans hsame.assertions, true :: log, ?_, ?_⟩
            · rw [hrefreshes, hsame.refreshes, List.append_assoc, List.singleton_append]
            · intro hres
              simpa using hlog hres

/-- The one assertion of a key refresh. -/
theorem pcieIdeKeyrefreshRunCommon_result {w w' : World} (hw : w.assertions = [])
    (h : pcieIdeKeyrefreshRunCommon lib env stream topType w = some w')
    (hpass : w'.result = .pass) : false ∉ w'.refreshes.drop w.refreshes.length := by
  rw [pcieIdeKeyrefreshRunCommon] at h
  split at h
  · cases h
  · split at h
    · cases h
    · rename_i res w₂ hloop
      cases h
      rcases keyrefreshLoop_refreshed hloop with ⟨hassertions, log, hrefreshes, hlog⟩
      have hres : res = true := by
        rw [World.result, World.record, hassertions, hw] at hpass
        cases res with
        | true => rfl
        | false => simp [testCaseResult, Assertion.check, TestResult.ofBool] at hpass
      rw [World.record, hrefreshes, List.drop_left]
      exact hlog hres

/-- The cases of a key refresh. -/
structure RefreshesKeys (case : CaseId) : Prop where
  run_eq : ∀ lib env stream topType,
    case.run lib env stream topType = pcieIdeKeyrefreshRunCommon lib env stream topType

theorem refreshesKeys : RefreshesKeys .keyrefreshKs0 ∧ RefreshesKeys .keyrefreshKs1 :=
  ⟨⟨fun _ _ _ _ => rfl⟩, ⟨fun _ _ _ _ => rfl⟩⟩

/-- A key refresh that is reported as passed has completed every refresh that it started. -/
theorem passesRefreshed {configs : List ConfigurationType} {case : CaseId}
    (hcase : RefreshesKeys case) {w w' : World} (hw : w.assertions = [])
    (hrun : case.doRun lib env stream topType configs w = some w') (hpass : w'.result = .pass) :
    false ∉ w'.refreshes.drop w.refreshes.length := by
  have houtside := outside_sameReport lib env stream topType case
  rcases houtside.doRun_cases (keepsAction lib env stream topType case) hrun with
    hsame | ⟨w₁, w₂, hbegins, hran, hends⟩
  · rw [World.result, hsame.assertions, hw] at hpass
    cases hpass
  · have hsame := houtside.begins hbegins
    have hran : pcieIdeKeyrefreshRunCommon lib env stream topType w₁ = some w₂ :=
      (congrFun (hcase.run_eq lib env stream topType) w₁).symm.trans hran
    rw [hends.refreshes, ← hsame.refreshes]
    exact pcieIdeKeyrefreshRunCommon_result (hsame.assertions.trans hw) hran
      (by rw [World.result, ← hends.assertions]; exact hpass)

end TeeIoValidator.PcieIdeTest
