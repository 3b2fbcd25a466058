import TeeIoValidator.Model.Tsp

/-! # What the TSP cases pass with -/

namespace TeeIoValidator.Tsp

open Runner

variable {lib : TspMessages} {env : Environment}

/-! ## A case and its run function -/

def start : World := ⟨⟨false, 0⟩, [], .run⟩

theorem doRunTestConfig_singleton (func : ConfigItem World → World → Bool × World)
    (item : ConfigItem World) (w : World) : doRunTestConfig func [item] w = func item w := by
  simp [doRunTestConfig]

/-- How a case is reported: its setup comes after the default configuration is supported. -/
theorem doRun_testCase {setup : World → Bool × World} {run : World → Option World} {ok : Bool}
    {w : World} (hsetup : setup start = (ok, w)) (haction : w.action = .run) :
    doRun env (testCase setup run) =
      if env.capable && ok then (run w).map World.result
      else some (if env.capable then w.result else .notTested) := by
  rw [doRun, doRunTestCase]
  simp only [doRunTestConfig_singleton, defaultConfig]
  cases hcapable : env.capable with
  | false => simp [caseContext, World.result, testCaseResult]
  | true =>
      rw [start] at hsetup
      cases ok with
      | false =>
          simp [caseContext, testCase, runSetup, hsetup, testCaseDone, doRunTestConfig_singleton,
            World.result]
      | true =>
          cases hrun : run w with
          | none => simp [caseContext, testCase, runSetup, hsetup, haction, hrun]
          | some w' =>
              simp [caseContext, testCase, runSetup, hsetup, haction, hrun, testCaseDone,
                doRunTestConfig_singleton]

/-- A case passes when its setup succeeds and its run records what passes. -/
theorem doRun_eq_pass_iff {setup : World → Bool × World} {run : World → Option World}
    (hassertions : (setup start).2.assertions = []) (haction : (setup start).2.action = .run) :
    doRun env (testCase setup run) = some .pass ↔
      env.capable = true ∧ (setup start).1 = true ∧
        ∃ w, run (setup start).2 = some w ∧ w.result = .pass := by
  have hsetup : setup start = ((setup start).1, (setup start).2) := rfl
  rw [doRun_testCase hsetup haction]
  have hnone : (setup start).2.result = .notTested := by
    rw [World.result, hassertions]
    rfl
  cases env.capable with
  | false => simp
  | true =>
      cases (setup start).1 with
      | false => simp [hnone]
      | true => simp

theorem setup_assertions (w : World) : (setup env w).2.assertions = w.assertions := by
  rw [setup]
  split
  · rfl
  · split
    · rfl
    · rfl

theorem setup_action (w : World) : (setup env w).2.action = w.action := by
  rw [setup]
  split
  · rfl
  · split
    · rfl
    · rfl

/-- The setup gets the version and the capabilities. -/
theorem setup_fst_iff (w : World) :
    (setup env w).1 = true ↔ env.getVersion = true ∧ env.getCapabilities ≠ none := by
  rw [setup]
  cases env.getVersion with
  | false => simp
  | true =>
      cases env.getCapabilities with
      | none => simp
      | some capabilities => simp

theorem setup_capabilities {capabilities : DeviceCapabilities} (w : World)
    (hversion : env.getVersion = true) (h : env.getCapabilities = some capabilities) :
    (setup env w).2.capabilities = capabilities := by
  rw [setup, hversion, h]
  rfl

theorem lockConfiguration2Setup_eq (w : World) :
    cxlTspTestLockConfiguration2Setup env w =
      ((setup env w).1 && env.lockConfiguration, (setup env w).2) := by
  rw [cxlTspTestLockConfiguration2Setup]
  rcases setup env w with ⟨_ | _, w'⟩
  · rfl
  · rfl

/-! ## Recorded checks -/

theorem check_passes_iff {id : ℕ} {res : Bool} {format : String} {values : List ℕ}
    {as : List Assertion} :
    NoneFailed (.check id res format values :: as) ↔ res = true ∧ NoneFailed as := by
  rw [NoneFailed, NoneFailed, List.forall_mem_cons]
  simp [Assertion.check]

theorem noneFailed_nil : NoneFailed [] := List.forall_mem_nil _

/-- What the response has to be for the checks to pass. -/
structure Expected (lib : TspMessages) (size : ℕ) (opCode : UInt8) (reply : Reply) : Prop where
  received : reply.error = false
  size : reply.size = size
  opCode : reply.header.opCode = opCode
  version : reply.header.tspVersion = lib.messageVersion10

theorem testResponse_passes_iff {size : ℕ} {opCode : UInt8} {more : Reply → List Assertion}
    {reply : Reply} :
    testCaseResult (testResponse lib size opCode more reply) = .pass ↔
      Expected lib size opCode reply ∧ NoneFailed (more reply) := by
  have hpass : testCaseResult (testResponse lib size opCode more reply) = .pass ↔
      NoneFailed (testResponse lib size opCode more reply) ∧
        SomePassed (testResponse lib size opCode more reply) :=
    testCaseResult_eq_pass_iff _
  rw [hpass, testResponse]
  cases herror : reply.error with
  | true =>
      refine iff_of_false ?_ fun h => Bool.false_ne_true (h.1.received.symm.trans herror)
      rintro ⟨hnone, -⟩
      simp [check_passes_iff] at hnone
  | false =>
      simp only [Bool.false_eq_true, if_false]
      cases hsize : reply.size == size with
      | false =>
          refine iff_of_false ?_ fun h => ?_
          · rintro ⟨hnone, -⟩
            simp [check_passes_iff] at hnone
          · rw [h.1.size] at hsize
            simp at hsize
      | true =>
          simp only [Bool.not_true, Bool.false_eq_true, if_false, List.cons_append,
            List.nil_append, check_passes_iff, beq_iff_eq, true_and]
          constructor
          · rintro ⟨⟨hop, hversion, hmore⟩, -⟩
            exact ⟨⟨herror, beq_iff_eq.mp hsize, hop, hversion⟩, hmore⟩
          · rintro ⟨h, hmore⟩
            refine ⟨⟨h.opCode, h.version, hmore⟩, _, List.mem_cons_self, rfl, rfl⟩

/-! ## The cases with one response -/

/-- The setup of a case gets the answers that it waits for, on ports with the capabilities. -/
def Prepared (env : Environment) : Prop :=
  env.capable = true ∧ env.getVersion = true ∧ env.getCapabilities ≠ none

theorem doRun_setup_pass_iff {run : World → Option World} :
    doRun env (testCase (setup env) run) = some .pass ↔
      Prepared env ∧ ∃ w, run (setup env start).2 = some w ∧ w.result = .pass := by
  rw [doRun_eq_pass_iff (setup_assertions start) (setup_action start), setup_fst_iff, Prepared]
  simp only [and_assoc]

theorem record_result (as : List Assertion) :
    ((setup env start).2.record as).result = testCaseResult as := by
  rw [World.result, World.record, setup_assertions]
  rfl

theorem lockConfiguration1_pass_iff :
    doRun env (lockConfiguration1 lib env) = some .pass ↔ Prepared env ∧
      Expected lib lib.getTargetCapabilitiesRspSize lib.getTargetCapabilitiesRsp env.reply := by
  rw [lockConfiguration1, cxlTspTestLockConfiguration1Setup, doRun_setup_pass_iff]
  simp only [cxlTspTestLockConfiguration1Run, Option.some.injEq, exists_eq_left', record_result,
    testCxlTspLockConfiguration, testResponse_passes_iff, noneFailed_nil, and_true]

theorem lockConfiguration2_pass_iff :
    doRun env (lockConfiguration2 lib env) = some .pass ↔
      (Prepared env ∧ env.lockConfiguration = true) ∧
        Expected lib lib.errorRspSize lib.errorRsp env.reply ∧
        env.reply.errorCode = lib.alreadyLocked ∧ env.reply.errorData = 0 := by
  have hassertions : (cxlTspTestLockConfiguration2Setup env start).2.assertions = [] := by
    rw [lockConfiguration2Setup_eq]
    exact setup_assertions start
  have haction : (cxlTspTestLockConfiguration2Setup env start).2.action = .run := by
    rw [lockConfiguration2Setup_eq]
    exact setup_action start
  rw [lockConfiguration2, doRun_eq_pass_iff hassertions haction, lockConfiguration2Setup_eq]
  simp only [cxlTspTestLockConfiguration2Run, Option.some.injEq, exists_eq_left', record_result,
    testCxlTspLockConfigurationAlreadyLocked, testResponse_passes_iff, check_passes_iff,
    noneFailed_nil, and_true, beq_iff_eq, Bool.and_eq_true, setup_fst_iff, Prepared]
  tauto

/-- The key material of the secondary sessions can be set up. -/
def SessionsReady (lib : TspMessages) (env : Environment) (capabilities : DeviceCapabilities) :
    Prop :=
  capabilities.additionalSpdmSessions = true →
    ∃ flags ∈ configurationValidityFlags capabilities.numberOfSecondarySessions,
      secondarySessionKeys lib env flags = true

theorem setConfigurationRun_result (w : World) (hw : w.assertions = []) :
    (cxlTspTestSetConfigurationRun lib env w).result = .pass ↔
      SessionsReady lib env w.capabilities ∧
        Expected lib lib.setTargetConfigurationRspSize lib.setTargetConfigurationRsp env.reply := by
  have hresponse : (w.record (testCxlTspSetConfiguration lib env.reply)).result = .pass ↔
      Expected lib lib.setTargetConfigurationRspSize lib.setTargetConfigurationRsp env.reply := by
    rw [World.result, World.record, hw, List.nil_append, testCxlTspSetConfiguration,
      testResponse_passes_iff]
    exact and_iff_left noneFailed_nil
  have hfailed : ∀ (format : String) (values : List ℕ),
      (w.record [.check 0 false format values]).result ≠ .pass := by
    intro format values
    rw [World.result, World.record, hw]
    simp [testCaseResult, Assertion.check, TestResult.ofBool]
  rw [cxlTspTestSetConfigurationRun, SessionsReady]
  cases w.capabilities.additionalSpdmSessions with
  | false => simp [hresponse]
  | true =>
      cases hflags : configurationValidityFlags w.capabilities.numberOfSecondarySessions with
      | none => simp [hfailed]
      | some flags =>
          cases hkeys : secondarySessionKeys lib env flags with
          | false => simp [hkeys, hfailed]
          | true => simp [hkeys, hresponse]

theorem setConfiguration_pass_iff :
    doRun env (setConfiguration lib env) = some .pass ↔ Prepared env ∧
      (∀ capabilities ∈ env.getCapabilities, SessionsReady lib env capabilities) ∧
      Expected lib lib.setTargetConfigurationRspSize lib.setTargetConfigurationRsp env.reply := by
  rw [setConfiguration, cxlTspTestSetConfigurationSetup, doRun_setup_pass_iff]
  refine and_congr_right fun hprepared => ?_
  obtain ⟨capabilities, hcapabilities⟩ := Option.ne_none_iff_exists'.mp hprepared.2.2
  simp only [Option.some.injEq, exists_eq_left',
    setConfigurationRun_result _ (setup_assertions start),
    setup_capabilities start hprepared.2.1 hcapabilities, hcapabilities, Option.mem_def,
    forall_eq']

end TeeIoValidator.Tsp
