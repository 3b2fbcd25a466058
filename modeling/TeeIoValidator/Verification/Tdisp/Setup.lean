import TeeIoValidator.Model.Tdisp.Case

/-! The setup functions of the TDISP cases as functions of the replies alone. -/

namespace TeeIoValidator.Tdisp

open Report Runner

/-! ## Outcomes of steps -/

/-- The number of requests that a step sends. -/
def SetupStep.exchanges : SetupStep → ℕ
  | .setIdeStream => 0
  | _ => 1

/-- The number of calls of `tdisp_test_set_ide_stream` that a step makes. -/
def SetupStep.ideStreams : SetupStep → ℕ
  | .setIdeStream => 1
  | _ => 0

/-- The size that a step checks, if it checks one. -/
def SetupStep.responseSize : SetupStep → Option ℕ
  | .getVersion => some versionResponseSize
  | .getCapabilities => some capabilitiesResponseSize
  | .lockInterface => some lockInterfaceResponseSize
  | .startInterface => some startInterfaceResponseSize
  | .stopInterface => some stopInterfaceResponseSize
  | .getState _ => some interfaceStateResponseSize
  | .getVersionAnySize | .setIdeStream => none

/-- The transfer succeeds, with a response of the size that the step checks. -/
def SetupStep.answered (step : SetupStep) (reply : Reply) : Bool :=
  !reply.error && step.responseSize.all fun size => reply.size == size

/-- The outcome of a step that finds the environment at exchange `n` and at call `k` of
`tdisp_test_set_ide_stream`. -/
def SetupStep.outcome (env : Environment) (n k : ℕ) (step : SetupStep) : StepResult :=
  match step with
  | .setIdeStream => if env.ideStream k then .next else .failed
  | .getState expected =>
    if !step.answered (env.reply n) then .failed
    else if (env.reply n).bytes 16 ≠ expected then .skip else .next
  | _ => if step.answered (env.reply n) then .next else .failed

def outcome (env : Environment) : ℕ → ℕ → List SetupStep → StepResult
  | _, _, [] => .next
  | n, k, step :: steps =>
    match step.outcome env n k with
    | .next => outcome env (n + step.exchanges) (k + step.ideStreams) steps
    | res => res

/-- The steps that are made: up to the first one that does not go on. -/
def attempted (env : Environment) : ℕ → ℕ → List SetupStep → List SetupStep
  | _, _, [] => []
  | n, k, step :: steps =>
    match step.outcome env n k with
    | .next => step :: attempted env (n + step.exchanges) (k + step.ideStreams) steps
    | _ => [step]

/-- A request that a step sends from these static variables. -/
def SetupStep.requests (st : Statics) : SetupStep → List (Phase × Request)
  | .getVersion | .getVersionAnySize => [(.setup, .getVersion)]
  | .getCapabilities => [(.setup, .getCapabilities 0)]
  | .setIdeStream => []
  | .lockInterface => [(.setup, lockRequest st)]
  | .startInterface => [(.setup, startRequest st)]
  | .stopInterface => [(.setup, .stopInterface)]
  | .getState _ => [(.setup, .getInterfaceState)]

/-- What a setup step does to the state of the program. -/
structure StepSpec (env : Environment) (c : CaseId) (step : SetupStep) (w : World)
    (r : StepResult × World) : Prop where
  result : r.1 = step.outcome env w.exchanges w.ideStreams
  exchanges : r.2.exchanges = w.exchanges + step.exchanges
  ideStreams : r.2.ideStreams = w.ideStreams + step.ideStreams
  requests : r.2.requests = w.requests ++ step.requests (w.statics c)
  records : r.2.records = w.records
  action : r.2.action = if r.1 = .skip then .skip else w.action
  setupSuccess : ∀ d, (r.2.statics d).setupSuccess = (w.statics d).setupSuccess

theorem ofSize_response (reply : Reply) (stack : ℕ → UInt8) (size : ℕ) :
    ofSize size (if reply.error then none else some (reply.response stack)) =
      if !reply.error && reply.size == size then some (reply.response stack) else none := by
  cases herr : reply.error with
  | true => simp [ofSize]
  | false =>
      by_cases hsize : reply.size = size <;> simp [ofSize, Reply.response, hsize]

theorem setStatics_setupSuccess (w : World) (c : CaseId) (st : Statics)
    (h : st.setupSuccess = (w.statics c).setupSuccess) (d : CaseId) :
    ((w.setStatics c st).statics d).setupSuccess = (w.statics d).setupSuccess := by
  by_cases hd : d = c
  · subst hd
    simpa [World.setStatics] using h
  · simp [World.setStatics, hd]

theorem SetupStep.answered_eq (step : SetupStep) {size : ℕ}
    (h : step.responseSize = some size) (reply : Reply) :
    step.answered reply = (!reply.error && reply.size == size) := by
  simp [SetupStep.answered, h]

theorem setupStep_spec (env : Environment) (c : CaseId) (step : SetupStep) (w : World) :
    StepSpec env c step w (setupStep env c step w) := by
  cases step with
  | getVersion =>
      have hans := SetupStep.answered_eq .getVersion rfl (env.reply w.exchanges)
      simp only [setupStep, tdispTestGetVersion, exchange, ofSize_response, ← hans]
      cases h : SetupStep.getVersion.answered (env.reply w.exchanges) with
      | false => exact ⟨by simp [SetupStep.outcome, h], rfl, rfl, rfl, rfl, rfl, fun _ => rfl⟩
      | true => exact ⟨by simp [SetupStep.outcome, h], rfl, rfl, rfl, rfl, rfl, fun _ => rfl⟩
  | getVersionAnySize =>
      have hans : SetupStep.getVersionAnySize.answered (env.reply w.exchanges) =
          !(env.reply w.exchanges).error := by
        simp [SetupStep.answered, SetupStep.responseSize]
      simp only [setupStep, tdispTestGetVersion, exchange]
      cases herr : (env.reply w.exchanges).error with
      | true =>
          exact ⟨by simp [SetupStep.outcome, hans, herr], rfl, rfl, rfl, rfl, rfl, fun _ => rfl⟩
      | false =>
          exact ⟨by simp [SetupStep.outcome, hans, herr], rfl, rfl, rfl, rfl, rfl, fun _ => rfl⟩
  | getCapabilities =>
      have hans := SetupStep.answered_eq .getCapabilities rfl (env.reply w.exchanges)
      simp only [setupStep, tdispTestGetCapabilities, exchange, ofSize_response, ← hans]
      cases h : SetupStep.getCapabilities.answered (env.reply w.exchanges) with
      | false => exact ⟨by simp [SetupStep.outcome, h], rfl, rfl, rfl, rfl, rfl, fun _ => rfl⟩
      | true =>
          exact ⟨by simp [SetupStep.outcome, h], rfl, rfl, rfl, rfl, rfl,
            setStatics_setupSuccess _ c _ rfl⟩
  | setIdeStream =>
      have hstep : setupStep env c .setIdeStream w =
          if env.ideStream w.ideStreams then (.next, { w with ideStreams := w.ideStreams + 1 })
          else (.failed, { w with ideStreams := w.ideStreams + 1 }) := rfl
      rw [hstep]
      by_cases h : env.ideStream w.ideStreams = true
      · rw [if_pos h]
        exact ⟨by simp [SetupStep.outcome, h], rfl, rfl, by simp [SetupStep.requests], rfl,
          rfl, fun _ => rfl⟩
      · rw [if_neg h]
        exact ⟨by simp [SetupStep.outcome, h], rfl, rfl, by simp [SetupStep.requests], rfl,
          rfl, fun _ => rfl⟩
  | lockInterface =>
      have hans := SetupStep.answered_eq .lockInterface rfl (env.reply w.exchanges)
      simp only [setupStep, tdispTestLockInterface, exchange, ofSize_response, ← hans]
      cases h : SetupStep.lockInterface.answered (env.reply w.exchanges) with
      | false => exact ⟨by simp [SetupStep.outcome, h], rfl, rfl, rfl, rfl, rfl, fun _ => rfl⟩
      | true =>
          exact ⟨by simp [SetupStep.outcome, h], rfl, rfl, rfl, rfl, rfl,
            setStatics_setupSuccess _ c _ rfl⟩
  | startInterface =>
      have hans := SetupStep.answered_eq .startInterface rfl (env.reply w.exchanges)
      simp only [setupStep, tdispTestStartInterface, exchange, ofSize_response, ← hans]
      cases h : SetupStep.startInterface.answered (env.reply w.exchanges) with
      | false => exact ⟨by simp [SetupStep.outcome, h], rfl, rfl, rfl, rfl, rfl, fun _ => rfl⟩
      | true => exact ⟨by simp [SetupStep.outcome, h], rfl, rfl, rfl, rfl, rfl, fun _ => rfl⟩
  | stopInterface =>
      have hans := SetupStep.answered_eq .stopInterface rfl (env.reply w.exchanges)
      simp only [setupStep, tdispTestStopInterface, exchange, ofSize_response, ← hans]
      cases h : SetupStep.stopInterface.answered (env.reply w.exchanges) with
      | false => exact ⟨by simp [SetupStep.outcome, h], rfl, rfl, rfl, rfl, rfl, fun _ => rfl⟩
      | true => exact ⟨by simp [SetupStep.outcome, h], rfl, rfl, rfl, rfl, rfl, fun _ => rfl⟩
  | getState expected =>
      have hans := SetupStep.answered_eq (.getState expected) rfl (env.reply w.exchanges)
      simp only [setupStep, tdispTestGetState, exchange, ofSize_response, ← hans]
      cases h : (SetupStep.getState expected).answered (env.reply w.exchanges) with
      | false => exact ⟨by simp [SetupStep.outcome, h], rfl, rfl, rfl, rfl, rfl, fun _ => rfl⟩
      | true =>
          have hsize : (env.reply w.exchanges).size = 17 := by
            rw [hans] at h
            simpa [interfaceStateResponseSize] using (Bool.and_eq_true_iff.mp h).2
          -- The state byte lies inside the response, so it is the one that was sent.
          have hstate : ((env.reply w.exchanges).response (env.stack w.exchanges)).tdiState =
              (env.reply w.exchanges).bytes 16 := by
            simp [Response.tdiState, Reply.response, hsize]
          simp only [if_true, hstate]
          by_cases hexpected : (env.reply w.exchanges).bytes 16 = expected
          · rw [if_neg (not_not_intro hexpected)]
            exact ⟨by simp [SetupStep.outcome, h, hexpected], rfl, rfl, rfl, rfl, rfl,
              fun _ => rfl⟩
          · rw [if_pos hexpected]
            exact ⟨by simp [SetupStep.outcome, h, hexpected], rfl, rfl, rfl, rfl, rfl,
              fun _ => rfl⟩

/-! ## Locks and stops -/

/-- Whether a lock is pending after a request. -/
def Request.lockPending (pending : Bool) : Request → Bool
  | .lockInterface .. => true
  | .stopInterface => false
  | _ => pending

def lockPending : Bool → List (Phase × Request) → Bool
  | pending, [] => pending
  | pending, q :: rs => lockPending (q.2.lockPending pending) rs

theorem lockPending_append (pending : Bool) (rs ts : List (Phase × Request)) :
    lockPending pending (rs ++ ts) = lockPending (lockPending pending rs) ts := by
  induction rs generalizing pending with
  | nil => rfl
  | cons q rs ih => exact ih (q.2.lockPending pending)

/-- Whether a lock is pending after the request of a step. -/
def SetupStep.lockPending (pending : Bool) : SetupStep → Bool
  | .lockInterface => true
  | .stopInterface => false
  | _ => pending

def setupLockPending : Bool → List SetupStep → Bool
  | pending, [] => pending
  | pending, step :: steps => setupLockPending (step.lockPending pending) steps

theorem SetupStep.lockPending_requests (st : Statics) (pending : Bool) (step : SetupStep) :
    Tdisp.lockPending pending (step.requests st) = step.lockPending pending := by
  cases step <;> rfl

theorem SetupStep.phase_of_mem_requests {st : Statics} {step : SetupStep} {q : Phase × Request}
    (h : q ∈ step.requests st) : q.1 = .setup := by
  cases step <;> simp_all [SetupStep.requests]

/-- A step that goes on has set up the stream, if it has called for it. -/
theorem StepSpec.streamed {env : Environment} {c : CaseId} {step : SetupStep} {w v : World}
    (h : StepSpec env c step w (.next, v)) {k : ℕ} (hle : w.ideStreams ≤ k)
    (hlt : k < v.ideStreams) : env.ideStream k = true := by
  have hnext : step.outcome env w.exchanges w.ideStreams = .next := h.result.symm
  have hcalls : v.ideStreams = w.ideStreams + step.ideStreams := h.ideStreams
  cases step with
  | setIdeStream =>
      rw [SetupStep.ideStreams] at hcalls
      obtain rfl : k = w.ideStreams := by omega
      by_contra hcall
      rw [SetupStep.outcome, if_neg hcall] at hnext
      cases hnext
  | _ => exact absurd (lt_of_lt_of_eq hlt hcalls) (Nat.not_lt.mpr hle)

/-! ## Lists of steps -/

def exchangeCount (steps : List SetupStep) : ℕ := (steps.map SetupStep.exchanges).sum

def ideStreamCount (steps : List SetupStep) : ℕ := (steps.map SetupStep.ideStreams).sum

/-- What the steps of a setup function do to the state of the program. -/
structure SetupSpec (env : Environment) (steps : List SetupStep) (w : World)
    (r : StepResult × World) : Prop where
  result : r.1 = outcome env w.exchanges w.ideStreams steps
  exchanges : r.2.exchanges =
    w.exchanges + exchangeCount (attempted env w.exchanges w.ideStreams steps)
  ideStreams : r.2.ideStreams =
    w.ideStreams + ideStreamCount (attempted env w.exchanges w.ideStreams steps)
  requests : ∃ rs, r.2.requests = w.requests ++ rs ∧ (∀ q ∈ rs, q.1 = .setup) ∧
    ∀ pending, lockPending pending rs =
      setupLockPending pending (attempted env w.exchanges w.ideStreams steps)
  records : r.2.records = w.records
  action : r.2.action = if r.1 = .skip then .skip else w.action
  setupSuccess : ∀ d, (r.2.statics d).setupSuccess = (w.statics d).setupSuccess

/-- A setup function that ends at its first step. -/
theorem StepSpec.last {env : Environment} {c : CaseId} {step : SetupStep} {w : World}
    {r : StepResult × World} (h : StepSpec env c step w r) (hstop : r.1 ≠ .next)
    (steps : List SetupStep) : SetupSpec env (step :: steps) w r := by
  have hout : outcome env w.exchanges w.ideStreams (step :: steps) = r.1 := by
    rw [outcome, ← h.result]
    cases hr : r.1 <;> simp_all
  have hatt : attempted env w.exchanges w.ideStreams (step :: steps) = [step] := by
    rw [attempted, ← h.result]
    cases hr : r.1 <;> simp_all
  refine ⟨hout.symm, ?_, ?_, ⟨_, h.requests, ?_, ?_⟩, h.records, h.action, h.setupSuccess⟩
  · simp [hatt, exchangeCount, h.exchanges]
  · simp [hatt, ideStreamCount, h.ideStreams]
  · intro q hq
    exact SetupStep.phase_of_mem_requests hq
  · intro pending
    simp [hatt, setupLockPending, SetupStep.lockPending_requests]

/-- A setup function that goes on after its first step. -/
theorem StepSpec.cons {env : Environment} {c : CaseId} {step : SetupStep}
    {steps : List SetupStep} {w v : World} {r : StepResult × World}
    (h : StepSpec env c step w (.next, v)) (hrest : SetupSpec env steps v r) :
    SetupSpec env (step :: steps) w r := by
  have hnext : step.outcome env w.exchanges w.ideStreams = .next := h.result.symm
  have hexchanges : v.exchanges = w.exchanges + step.exchanges := h.exchanges
  have hideStreams : v.ideStreams = w.ideStreams + step.ideStreams := h.ideStreams
  have hatt : attempted env w.exchanges w.ideStreams (step :: steps) =
      step :: attempted env v.exchanges v.ideStreams steps := by
    rw [attempted, hnext, hexchanges, hideStreams]
  rcases hrest.requests with ⟨rs, hrs, hphase, hpending⟩
  refine ⟨?_, ?_, ?_, ⟨step.requests (w.statics c) ++ rs, ?_, ?_, ?_⟩, ?_, ?_, ?_⟩
  · rw [hrest.result, outcome, hnext, hexchanges, hideStreams]
  · rw [hrest.exchanges, hatt, hexchanges]
    simp [exchangeCount, Nat.add_assoc]
  · rw [hrest.ideStreams, hatt, hideStreams]
    simp [ideStreamCount, Nat.add_assoc]
  · rw [hrs, h.requests, List.append_assoc]
  · intro q hq
    rcases List.mem_append.mp hq with hq | hq
    · exact SetupStep.phase_of_mem_requests hq
    · exact hphase q hq
  · intro pending
    rw [lockPending_append, SetupStep.lockPending_requests, hpending, hatt, setupLockPending]
  · rw [hrest.records, h.records]
  · rw [hrest.action, h.action]
    simp
  · intro d
    rw [hrest.setupSuccess, h.setupSuccess]

theorem setupSteps_spec (env : Environment) (c : CaseId) (steps : List SetupStep) (w : World) :
    SetupSpec env steps w (setupSteps env c steps w) := by
  induction steps generalizing w with
  | nil =>
      exact ⟨rfl, rfl, rfl, ⟨[], (List.append_nil _).symm, by simp, fun _ => rfl⟩, rfl, rfl,
        fun _ => rfl⟩
  | cons step steps ih =>
      have h := setupStep_spec env c step w
      rw [setupSteps]
      split
      · rename_i v hv
        rw [hv] at h
        exact h.cons (ih v)
      · rename_i v hv
        rw [hv] at h
        exact h.last (by simp) steps
      · rename_i v hv
        rw [hv] at h
        exact h.last (by simp) steps

theorem setupSteps_streamed {env : Environment} {c : CaseId} {steps : List SetupStep} {w : World}
    (h : (setupSteps env c steps w).1 = .next) {k : ℕ} (hle : w.ideStreams ≤ k)
    (hlt : k < (setupSteps env c steps w).2.ideStreams) : env.ideStream k = true := by
  induction steps generalizing w with
  | nil => exact absurd hlt (Nat.not_lt.mpr hle)
  | cons step steps ih =>
      have hstep := setupStep_spec env c step w
      rw [setupSteps] at h hlt
      split at h
      · rename_i v hv
        rw [hv] at hstep hlt
        rcases Nat.lt_or_ge k v.ideStreams with hk | hk
        · exact hstep.streamed hle hk
        · exact ih h hk hlt
      · cases h
      · cases h

/-! ## Setup functions that fail -/

theorem attempted_isPrefix (env : Environment) (n k : ℕ) (steps : List SetupStep) :
    attempted env n k steps <+: steps := by
  induction steps generalizing n k with
  | nil => exact List.prefix_rfl
  | cons step steps ih =>
      rw [attempted]
      split
      · exact (List.prefix_cons_inj step).mpr (ih _ _)
      · exact ⟨steps, rfl⟩

theorem attempted_of_next {env : Environment} {n k : ℕ} {steps : List SetupStep}
    (h : outcome env n k steps = .next) : attempted env n k steps = steps := by
  induction steps generalizing n k with
  | nil => rfl
  | cons step steps ih =>
      rw [outcome] at h
      rw [attempted]
      cases hstep : step.outcome env n k with
      | next =>
          simp only [hstep] at h
          exact congrArg (List.cons step) (ih h)
      | failed => simp [hstep] at h
      | skip => simp [hstep] at h

/-- The first step that does not go on ends the setup function. -/
theorem outcome_append {env : Environment} {n k : ℕ} {done : List SetupStep} {step : SetupStep}
    (hdone : outcome env n k done = .next)
    (hstep : step.outcome env (n + exchangeCount done) (k + ideStreamCount done) = .failed)
    (rest : List SetupStep) :
    outcome env n k (done ++ step :: rest) = .failed ∧
      attempted env n k (done ++ step :: rest) = done ++ [step] := by
  induction done generalizing n k with
  | nil =>
      have hstep' : step.outcome env n k = .failed := hstep
      simp [outcome, attempted, hstep']
  | cons first done ih =>
      rw [outcome] at hdone
      cases hfirst : first.outcome env n k with
      | next =>
          simp only [hfirst] at hdone
          have htail : step.outcome env (n + first.exchanges + exchangeCount done)
              (k + first.ideStreams + ideStreamCount done) = .failed := by
            simpa [exchangeCount, ideStreamCount, Nat.add_assoc] using hstep
          simpa [outcome, attempted, hfirst] using ih hdone htail
      | failed => simp [hfirst] at hdone
      | skip => simp [hfirst] at hdone

theorem exists_of_outcome_failed {env : Environment} {n k : ℕ} {steps : List SetupStep}
    (h : outcome env n k steps = .failed) :
    ∃ done step rest, steps = done ++ step :: rest ∧ outcome env n k done = .next ∧
      step.outcome env (n + exchangeCount done) (k + ideStreamCount done) = .failed := by
  induction steps generalizing n k with
  | nil => cases h
  | cons first steps ih =>
      rw [outcome] at h
      cases hfirst : first.outcome env n k with
      | next =>
          simp only [hfirst] at h
          rcases ih h with ⟨done, step, rest, rfl, hdone, hstep⟩
          refine ⟨first :: done, step, rest, rfl, ?_, ?_⟩
          · simpa [outcome, hfirst] using hdone
          · simpa [exchangeCount, ideStreamCount, Nat.add_assoc] using hstep
      | failed => exact ⟨[], first, steps, rfl, rfl, hfirst⟩
      | skip => simp [hfirst] at h

theorem setupLockPending_of_lockFree {steps : List SetupStep}
    (h : SetupStep.lockInterface ∉ steps) : setupLockPending false steps = false := by
  induction steps with
  | nil => rfl
  | cons step steps ih =>
      have hstep : step.lockPending false = false := by
        cases step <;> simp_all [SetupStep.lockPending]
      rw [setupLockPending, hstep]
      exact ih fun hmem => h (List.mem_cons_of_mem _ hmem)

end TeeIoValidator.Tdisp
