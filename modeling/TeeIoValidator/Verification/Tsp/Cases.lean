import TeeIoValidator.Verification.Report.Rounds
import TeeIoValidator.Verification.Tsp.Verdicts

/-! # Whether the TSP cases pass with the documented responses, and only with them

Case 6.1 looks for the size and the op-code of another message, and the report case for the op-code
of the request.
-/

namespace TeeIoValidator.Tsp

open Report

variable {lib : TspMessages} {env : Environment}

/-! ## The report case -/

section Report

variable {P : Protocol TspHeader} {replies : ℕ → Report.Reply TspHeader} {capacity : ℕ}
  {buffer : ℕ → UInt8}

theorem stateAt_noneFailed_iff (n : ℕ) :
    NoneFailed (stateAt P replies capacity buffer n).records ↔
      ∀ k < n, NoneFailed (P.opening k) ∧ NoneFailed (P.checks (requestAt P replies k) (replies k)) := by
  induction n with
  | zero => simp [stateAt, Report.start, noneFailed_nil]
  | succ n ih =>
      rw [Nat.forall_lt_succ_right, ← ih, stateAt_succ, acceptReply]
      simp only [noneFailed_append, check_passes_iff, noneFailed_nil, and_true,
        stateAt_round, and_assoc]

/-- The first check of the size is recorded as passed. -/
theorem stateAt_somePassed (n : ℕ) :
    SomePassed (stateAt P replies capacity buffer (n + 1)).records := by
  rw [stateAt_succ, acceptReply]
  refine SomePassed.append_right ?_ _
  exact SomePassed.append_left ⟨_, List.mem_singleton_self _, rfl, rfl⟩ _

end Report

/-- What fails is a test, not a separator. -/
def FailuresCount (as : List Assertion) : Prop := ∀ a ∈ as, a.result = .failed → a.type = .test

theorem failuresCount_check (id : ℕ) (res : Bool) (format : String) (values : List ℕ) :
    FailuresCount [.check id res format values] := by
  simp [FailuresCount, Assertion.check]

theorem failuresCount_append {as as' : List Assertion} :
    FailuresCount (as ++ as') ↔ FailuresCount as ∧ FailuresCount as' :=
  List.forall_mem_append

/-- A round records failures as tests. -/
theorem round_failuresCount (replies : ℕ → Report.Reply TspHeader) {s : State TspHeader}
    (hs : FailuresCount s.records) : FailuresCount
      (Sum.elim id Prod.snd (Report.round (tspProtocol lib.toTspLib) replies s)).records := by
  have hopening : ∀ n, FailuresCount ((tspProtocol lib.toTspLib).opening n) := by
    simp [FailuresCount, tspProtocol]
  have hsend : ∀ reply, FailuresCount [(tspProtocol lib.toTspLib).sendFailed reply] :=
    fun reply => failuresCount_check _ _ _ _
  have hchecks : ∀ request reply,
      FailuresCount ((tspProtocol lib.toTspLib).checks request reply) := by
    simp [FailuresCount, tspProtocol, Assertion.check]
  have hsmall : ∀ size, FailuresCount [(tspProtocol lib.toTspLib).tooSmall size] :=
    fun size => failuresCount_check _ _ _ _
  have hmismatch : ∀ total, FailuresCount [(tspProtocol lib.toTspLib).mismatch total] :=
    fun total => failuresCount_check _ _ _ _
  rw [Report.round]
  simp only [State.record, State.copyPortion]
  split_ifs <;>
    simp only [Sum.elim_inl, Sum.elim_inr, id_eq, failuresCount_append, hs, hopening, hsend,
      hchecks, hsmall, hmismatch, failuresCount_check, and_self]

theorem stateAt_failuresCount {replies : ℕ → Report.Reply TspHeader} {capacity : ℕ}
    {buffer : ℕ → UInt8} (n : ℕ) :
    FailuresCount (stateAt (tspProtocol lib.toTspLib) replies capacity buffer n).records := by
  induction n with
  | zero => simp [stateAt, Report.start, FailuresCount]
  | succ n ih =>
      rw [stateAt_succ, acceptReply]
      simp only [failuresCount_append]
      refine ⟨⟨⟨ih, ?_⟩, failuresCount_check _ _ _ _⟩, ?_⟩
      · simp [FailuresCount, tspProtocol]
      · simp [FailuresCount, tspProtocol, Assertion.check]

/-- A reply that the code takes as right: with the op-code of the request. -/
structure TakenAsRight (lib : TspMessages) (replies : ℕ → Report.Reply TspHeader) (n : ℕ) :
    Prop where
  opCode : (replies n).header.opCode = lib.getTargetConfigurationReport
  version : (replies n).header.tspVersion = lib.messageVersion10
  portion : 0 < (replies n).portion ∧
    (replies n).portion ≤ (requestAt (tspProtocol lib.toTspLib) replies n).length

theorem noneFailed_checks_iff {replies : ℕ → Report.Reply TspHeader} {n : ℕ} :
    NoneFailed ((tspProtocol lib.toTspLib).checks (requestAt (tspProtocol lib.toTspLib) replies n)
      (replies n)) ↔ TakenAsRight lib replies n := by
  have hversion : (requestAt (tspProtocol lib.toTspLib) replies n).header.tspVersion =
      lib.messageVersion10 := rfl
  simp only [tspProtocol] at hversion ⊢
  simp only [check_passes_iff, noneFailed_nil, and_true, beq_iff_eq, Bool.and_eq_true,
    decide_eq_true_eq, hversion]
  exact ⟨fun ⟨hop, hv, hp⟩ => ⟨hop, hv, hp⟩, fun h => ⟨h.opCode, h.version, h.portion⟩⟩

/-- The rounds that end the loop with a report. -/
def Completes (lib : TspMessages) (env : Environment) (n : ℕ) : Prop :=
  Reached (tspProtocol lib.toTspLib) env.reports env.stackValue.toNat n ∧
    Accepted (tspProtocol lib.toTspLib) env.reports env.stackValue.toNat n ∧
    (env.reports n).remainder = 0

theorem getConfigurationReport_pass_iff :
    (∃ rounds, doRun env (getConfigurationReport lib env rounds) = some .pass) ↔ Prepared env ∧
      ∃ n, Completes lib env n ∧ ∀ k ≤ n, TakenAsRight lib env.reports k := by
  simp only [getConfigurationReport, cxlTspTestGetConfigurationReportSetup, doRun_setup_pass_iff,
    exists_and_left]
  refine and_congr_right fun _ => ?_
  simp only [cxlTspTestGetConfigurationReportRun, Option.map_eq_some_iff,
    Report.cxlTspTestGetConfigurationReportRun, testCxlTspGetConfigurationReport]
  constructor
  · rintro ⟨rounds, w, ⟨r, hfetch, rfl⟩, hpass⟩
    rw [record_result, testCaseResult_eq_pass_iff] at hpass
    obtain ⟨n, hleave, hreached⟩ := (fetch_returns_iff _ r).mp ⟨rounds, hfetch⟩
    by_cases haccepted : Accepted (tspProtocol lib.toTspLib) env.reports env.stackValue.toNat n
    · have hremainder : (env.reports n).remainder = 0 := by
        by_contra hne
        have hnone := (leaveAt_eq_none_iff fun _ => 0).mpr ⟨haccepted, hne⟩
        rw [hleave] at hnone
        cases hnone
      rw [leaveAt_of_complete _ haccepted hremainder] at hleave
      cases hleave
      have hnone := (stateAt_noneFailed_iff (n + 1)).mp hpass.1
      exact ⟨n, ⟨hreached, haccepted, hremainder⟩, fun k hk =>
        noneFailed_checks_iff.mp (hnone k (Nat.lt_succ_of_le hk)).2⟩
    · obtain ⟨t, ht, hstops⟩ := leaveAt_of_not_accepted (fun _ => 0) haccepted
      rw [hleave] at ht
      cases ht
      obtain ⟨a, hlast, hfailed⟩ := hstops.failed
      have hmem := List.mem_of_getLast? hlast
      have hcount : FailuresCount t.records := by
        have hstate : FailuresCount (stateAt (tspProtocol lib.toTspLib) env.reports
            env.stackValue.toNat (fun _ => 0) n).records := stateAt_failuresCount n
        have hround : FailuresCount (Sum.elim id Prod.snd
            (Report.round (tspProtocol lib.toTspLib) env.reports _)).records :=
          round_failuresCount env.reports hstate
        rw [leaveAt] at hleave
        split at hleave
        · cases hleave
        · rename_i r hr
          cases hleave
          rw [hr] at hround
          exact hround
      exact absurd hfailed (hpass.1 a hmem (hcount a hmem hfailed))
  · rintro ⟨n, ⟨hreached, haccepted, hremainder⟩, hright⟩
    have hleave := leaveAt_of_complete (fun _ => 0) haccepted hremainder
    obtain ⟨rounds, hfetch⟩ := (fetch_returns_iff _ _).mpr ⟨n, hleave, hreached⟩
    refine ⟨rounds, _, ⟨_, hfetch, rfl⟩, ?_⟩
    rw [record_result, testCaseResult_eq_pass_iff]
    refine ⟨(stateAt_noneFailed_iff (n + 1)).mpr fun k hk => ⟨?_, ?_⟩, stateAt_somePassed n⟩
    · simp [NoneFailed, tspProtocol]
    · exact noneFailed_checks_iff.mpr (hright k (Nat.le_of_lt_succ hk))

/-! ## The documented responses -/

/-- Assertions 6.1.1 to 6.1.3. -/
def Documented61 (lib : TspMessages) (env : Environment) : Prop :=
  Expected lib lib.lockTargetConfigurationRspSize lib.lockTargetConfigurationRsp env.reply

/-- Assertions 6.2.1 to 6.2.5. -/
structure Documented62 (lib : TspMessages) (env : Environment) : Prop where
  response : Expected lib lib.errorRspSize lib.errorRsp env.reply
  errorCode : env.reply.errorCode = lib.alreadyLocked
  errorData : env.reply.errorData = 0

/-- Assertions 3.1.1 to 3.1.3. -/
def Documented31 (lib : TspMessages) (env : Environment) : Prop :=
  Expected lib lib.setTargetConfigurationRspSize lib.setTargetConfigurationRsp env.reply

/-- The four assertions on a portion of the report. -/
structure DocumentedPortion (lib : TspMessages) (replies : ℕ → Report.Reply TspHeader) (n : ℕ) :
    Prop where
  received : (replies n).error = false
  size : tspReportResponseSize + (replies n).portion ≤ (replies n).size
  opCode : (replies n).header.opCode = lib.getTargetConfigurationReportRsp
  version : (replies n).header.tspVersion = lib.messageVersion10
  portion : 0 < (replies n).portion ∧
    (replies n).portion ≤ (requestAt (tspProtocol lib.toTspLib) replies n).length

/-- Case 5.1: the portions are asked for as long as something remains. -/
def Documented51 (lib : TspMessages) (env : Environment) : Prop :=
  ∀ n, (∀ k < n, (env.reports k).remainder ≠ 0) → DocumentedPortion lib env.reports n

/-- Assertion 2.1.14, on the capabilities that the setup gets. -/
def DocumentedSessions (env : Environment) : Prop :=
  ∀ capabilities ∈ env.getCapabilities,
    if capabilities.additionalSpdmSessions then
      0 < capabilities.numberOfSecondarySessions ∧ capabilities.numberOfSecondarySessions ≤ 4
    else capabilities.numberOfSecondarySessions = 0

/-- A case passes for a responder that conforms, and with the documented responses only. -/
structure Decides (conforms documented passes : Prop) : Prop where
  complete : conforms → passes
  sound : passes → documented

/-- The random numbers that the key material of the secondary sessions needs. -/
def RandomNumbers (lib : TspMessages) (env : Environment) : Prop :=
  ∀ capabilities ∈ env.getCapabilities, capabilities.additionalSpdmSessions = true →
    ∀ flags ∈ configurationValidityFlags capabilities.numberOfSecondarySessions,
      secondarySessionKeys lib env flags = true

theorem lockRsp_ne : lib.getTargetCapabilitiesRsp ≠ lib.lockTargetConfigurationRsp := by
  have h := lib.distinct
  grind

theorem reportRsp_ne : lib.getTargetConfigurationReport ≠ lib.getTargetConfigurationReportRsp := by
  have h := lib.distinct
  grind

/-- No response is right for both the code and the documentation in case 6.1. -/
theorem decides61_iff :
    Decides (Prepared env ∧ Documented61 lib env) (Documented61 lib env)
        (doRun env (lockConfiguration1 lib env) = some .pass) ↔
      (Prepared env → ¬Documented61 lib env ∧
        ¬Expected lib lib.getTargetCapabilitiesRspSize lib.getTargetCapabilitiesRsp env.reply) := by
  rw [lockConfiguration1_pass_iff]
  constructor
  · intro h hprepared
    refine ⟨fun hdocumented => ?_, fun hexpected => ?_⟩
    · exact lockRsp_ne
        ((h.complete ⟨hprepared, hdocumented⟩).2.opCode.symm.trans hdocumented.opCode)
    · exact lockRsp_ne (hexpected.opCode.symm.trans (h.sound ⟨hprepared, hexpected⟩).opCode)
  · intro h
    exact ⟨fun hconforms => absurd hconforms.2 (h hconforms.1).1,
      fun hpasses => absurd hpasses.2 (h hpasses.1).2⟩

theorem decides62 :
    Decides ((Prepared env ∧ env.lockConfiguration = true) ∧ Documented62 lib env)
      (Documented62 lib env) (doRun env (lockConfiguration2 lib env) = some .pass) := by
  rw [lockConfiguration2_pass_iff]
  exact ⟨fun ⟨hprepared, h⟩ => ⟨hprepared, h.response, h.errorCode, h.errorData⟩,
    fun ⟨_, hresponse, hcode, hdata⟩ => ⟨hresponse, hcode, hdata⟩⟩

/-- Up to four secondary sessions have flags. -/
theorem configurationValidityFlags_ne_none {n : UInt8} (hpos : 0 < n) (hle : n ≤ 4) :
    configurationValidityFlags n ≠ none := by
  have hcases : n = 1 ∨ n = 2 ∨ n = 3 ∨ n = 4 := by
    rw [UInt8.lt_iff_toNat_lt] at hpos
    rw [UInt8.le_iff_toNat_le] at hle
    simp only [← UInt8.toNat_inj]
    change 0 < n.toNat at hpos
    change n.toNat ≤ 4 at hle
    change n.toNat = 1 ∨ n.toNat = 2 ∨ n.toNat = 3 ∨ n.toNat = 4
    omega
  rcases hcases with rfl | rfl | rfl | rfl
  · decide
  · decide
  · decide
  · decide

theorem sessionsReady_iff {capabilities : DeviceCapabilities} (hdocumented :
      if capabilities.additionalSpdmSessions then
        0 < capabilities.numberOfSecondarySessions ∧ capabilities.numberOfSecondarySessions ≤ 4
      else capabilities.numberOfSecondarySessions = 0) :
    SessionsReady lib env capabilities ↔ (capabilities.additionalSpdmSessions = true →
      ∀ flags ∈ configurationValidityFlags capabilities.numberOfSecondarySessions,
        secondarySessionKeys lib env flags = true) := by
  refine imp_congr_right fun hadditional => ?_
  rw [if_pos hadditional] at hdocumented
  obtain ⟨flags, hflags⟩ := Option.ne_none_iff_exists'.mp
    (configurationValidityFlags_ne_none hdocumented.1 hdocumented.2)
  simp [hflags]

/-- Case 3.1 depends on the random numbers besides. -/
theorem decides31_iff :
    Decides (Prepared env ∧ DocumentedSessions env ∧ Documented31 lib env) (Documented31 lib env)
        (doRun env (setConfiguration lib env) = some .pass) ↔
      (Prepared env ∧ DocumentedSessions env ∧ Documented31 lib env → RandomNumbers lib env) := by
  rw [setConfiguration_pass_iff]
  constructor
  · rintro h ⟨hprepared, hsessions, hdocumented⟩ capabilities hcapabilities
    have hpasses := h.complete ⟨hprepared, hsessions, hdocumented⟩
    exact (sessionsReady_iff (hsessions capabilities hcapabilities)).mp
      (hpasses.2.1 capabilities hcapabilities)
  · intro h
    refine ⟨fun hconforms => ⟨hconforms.1, fun capabilities hcapabilities => ?_, hconforms.2.2⟩,
      fun hpasses => hpasses.2.2⟩
    exact (sessionsReady_iff (hconforms.2.1 capabilities hcapabilities)).mpr
      (h hconforms capabilities hcapabilities)

/-- No report is right for both the code and the documentation. -/
theorem decides51_iff :
    Decides (Prepared env ∧ Documented51 lib env) (Documented51 lib env)
        (∃ rounds, doRun env (getConfigurationReport lib env rounds) = some .pass) ↔
      (Prepared env → ¬Documented51 lib env ∧
        ¬∃ n, Completes lib env n ∧ ∀ k ≤ n, TakenAsRight lib env.reports k) := by
  have hfirst : Documented51 lib env →
      ¬∃ n, Completes lib env n ∧ ∀ k ≤ n, TakenAsRight lib env.reports k := by
    rintro hdocumented ⟨n, -, htaken⟩
    have hportion := hdocumented 0 fun k hk => absurd hk (Nat.not_lt_zero k)
    exact reportRsp_ne ((htaken 0 (Nat.zero_le n)).opCode.symm.trans hportion.opCode)
  rw [getConfigurationReport_pass_iff]
  constructor
  · intro h hprepared
    refine ⟨fun hdocumented => ?_, fun htaken => ?_⟩
    · exact hfirst hdocumented (h.complete ⟨hprepared, hdocumented⟩).2
    · exact hfirst (h.sound ⟨hprepared, htaken⟩) htaken
  · intro h
    exact ⟨fun hconforms => absurd hconforms.2 (h hconforms.1).1,
      fun hpasses => absurd hpasses.2 (h hpasses.1).2⟩

/-- When the four cases decide whether a responder conforms. -/
theorem tsp_cases_decide_iff (lib : TspMessages) (env : Environment) :
    (Decides (Prepared env ∧ Documented61 lib env) (Documented61 lib env)
        (doRun env (lockConfiguration1 lib env) = some .pass) ↔
      (Prepared env → ¬Documented61 lib env ∧
        ¬Expected lib lib.getTargetCapabilitiesRspSize lib.getTargetCapabilitiesRsp env.reply)) ∧
    Decides ((Prepared env ∧ env.lockConfiguration = true) ∧ Documented62 lib env)
      (Documented62 lib env) (doRun env (lockConfiguration2 lib env) = some .pass) ∧
    (Decides (Prepared env ∧ DocumentedSessions env ∧ Documented31 lib env) (Documented31 lib env)
        (doRun env (setConfiguration lib env) = some .pass) ↔
      (Prepared env ∧ DocumentedSessions env ∧ Documented31 lib env → RandomNumbers lib env)) ∧
    (Decides (Prepared env ∧ Documented51 lib env) (Documented51 lib env)
        (∃ rounds, doRun env (getConfigurationReport lib env rounds) = some .pass) ↔
      (Prepared env → ¬Documented51 lib env ∧
        ¬∃ n, Completes lib env n ∧ ∀ k ≤ n, TakenAsRight lib env.reports k)) :=
  ⟨decides61_iff, decides62, decides31_iff, decides51_iff⟩

def exampleMessages : TspMessages where
  messageVersion10 := 0x10
  getTargetConfigurationReport := 0x85
  portionLen := 1024
  maxSize := 4096
  getTargetCapabilitiesRsp := 0x02
  setTargetConfigurationRsp := 0x03
  getTargetConfigurationReportRsp := 0x05
  lockTargetConfigurationRsp := 0x06
  errorRsp := 0x7f
  getTargetCapabilitiesRspSize := 28
  setTargetConfigurationRspSize := 4
  lockTargetConfigurationRspSize := 4
  errorRspSize := 12
  alreadyLocked := 0x0b
  secondSessionCount := 4
  distinct := by decide

/-- A device that locks its configuration as documented, and reports it in one portion. -/
def lockingDevice : Environment where
  capable := true
  getVersion := true
  getCapabilities := some ⟨false, 0⟩
  lockConfiguration := true
  reply := ⟨false, 0, 4, ⟨0x10, 0x06⟩, 0, 0⟩
  reports _ := ⟨false, 0, 24, ⟨0x10, 0x05⟩, 16, 0, fun _ => 0⟩
  random _ := true
  stackValue := 4096

theorem lockingDevice_not_decided :
    ¬Decides (Prepared lockingDevice ∧ Documented61 exampleMessages lockingDevice)
      (Documented61 exampleMessages lockingDevice)
      (doRun lockingDevice (lockConfiguration1 exampleMessages lockingDevice) = some .pass) ∧
    ¬Decides (Prepared lockingDevice ∧ Documented51 exampleMessages lockingDevice)
      (Documented51 exampleMessages lockingDevice)
      (∃ rounds, doRun lockingDevice
        (getConfigurationReport exampleMessages lockingDevice rounds) = some .pass) := by
  have hprepared : Prepared lockingDevice := ⟨rfl, rfl, by decide⟩
  rw [decides61_iff, decides51_iff]
  refine ⟨fun h => (h hprepared).1 ⟨rfl, rfl, rfl, rfl⟩, fun h => (h hprepared).1 ?_⟩
  intro n hn
  cases n with
  | zero => exact ⟨rfl, by decide, rfl, rfl, by decide⟩
  | succ n => exact absurd rfl (hn 0 (Nat.succ_pos n))

end TeeIoValidator.Tsp
