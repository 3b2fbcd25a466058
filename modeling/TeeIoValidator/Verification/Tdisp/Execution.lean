import TeeIoValidator.Verification.Tdisp.Setup

/-! # One execution of a TDISP case

The runner calls the setup, run and teardown functions of a case. What they do is given
here by the replies, and not by the static variables of the case.
-/

namespace TeeIoValidator.Tdisp

open Report Runner

/-! ## Setup functions -/

/-- The value that the setup function returns. -/
def Case.succeeds (case : Case) (env : Environment) (n k : ℕ) : Bool :=
  match outcome env n k case.setup with
  | .failed => false
  | .skip => true
  | .next =>
    match case.setupEnd with
    | .setIdeStream => env.ideStream (k + ideStreamCount (attempted env n k case.setup))
    | _ => true

/-- The flag `setup_success` after the setup function, from its value before. -/
def Case.flagAfter (case : Case) (env : Environment) (n k : ℕ) (flag : Bool) : Bool :=
  match outcome env n k case.setup with
  | .failed => flag
  | .skip => true
  | .next =>
    match case.setupEnd with
    | .succeed => true
    | .setIdeStream => env.ideStream (k + ideStreamCount (attempted env n k case.setup))
    | .stateless => flag

structure SetupFuncSpec (case : Case) (env : Environment) (c : CaseId) (w : World)
    (r : Bool × World) : Prop where
  result : r.1 = case.succeeds env w.exchanges w.ideStreams
  exchanges : r.2.exchanges =
    w.exchanges + exchangeCount (attempted env w.exchanges w.ideStreams case.setup)
  requests : ∃ rs, r.2.requests = w.requests ++ rs ∧ (∀ q ∈ rs, q.1 = .setup) ∧
    ∀ pending, lockPending pending rs =
      setupLockPending pending (attempted env w.exchanges w.ideStreams case.setup)
  records : r.2.records = w.records
  action : r.2.action =
    if outcome env w.exchanges w.ideStreams case.setup = .skip then .skip else w.action
  setupSuccess : (r.2.statics c).setupSuccess =
    case.flagAfter env w.exchanges w.ideStreams (w.statics c).setupSuccess

theorem setupFunc_spec (case : Case) (env : Environment) (c : CaseId) (w : World) :
    SetupFuncSpec case env c w (case.setupFunc env c w) := by
  have h := setupSteps_spec env c case.setup w
  rw [Case.setupFunc]
  split
  · rename_i v hv
    rw [hv] at h
    have hout : outcome env w.exchanges w.ideStreams case.setup = .failed := h.result.symm
    refine ⟨?_, h.exchanges, h.requests, h.records, ?_, ?_⟩
    · rw [Case.succeeds, hout]
    · rw [h.action, hout]
    · rw [h.setupSuccess, Case.flagAfter, hout]
  · rename_i v hv
    rw [hv] at h
    have hout : outcome env w.exchanges w.ideStreams case.setup = .skip := h.result.symm
    refine ⟨?_, h.exchanges, h.requests, h.records, ?_, ?_⟩
    · rw [Case.succeeds, hout]
    · simpa [hout] using h.action
    · simp [Case.flagAfter, hout]
  · rename_i v hv
    rw [hv] at h
    have hout : outcome env w.exchanges w.ideStreams case.setup = .next := h.result.symm
    cases hend : case.setupEnd with
    | succeed =>
        refine ⟨?_, h.exchanges, h.requests, h.records, ?_, ?_⟩
        · simp [Case.succeeds, hout, hend]
        · simpa [hout] using h.action
        · simp [Case.flagAfter, hout, hend]
    | setIdeStream =>
        have hide : v.ideStreams = w.ideStreams +
            ideStreamCount (attempted env w.exchanges w.ideStreams case.setup) := h.ideStreams
        refine ⟨?_, h.exchanges, h.requests, h.records, ?_, ?_⟩
        · simp [Case.succeeds, hout, hend, tdispTestSetIdeStream, hide]
        · simpa [hout, tdispTestSetIdeStream] using h.action
        · simp [Case.flagAfter, hout, hend, tdispTestSetIdeStream, hide]
    | stateless =>
        refine ⟨?_, h.exchanges, h.requests, h.records, ?_, ?_⟩
        · simp [Case.succeeds, hout, hend]
        · simpa [hout] using h.action
        · simpa [Case.flagAfter, hout, hend] using h.setupSuccess c

/-! ## Run functions -/

def Request.isLock : Request → Bool
  | .lockInterface .. => true
  | _ => false

/-- The step never sends a `LOCK_INTERFACE_REQUEST`. -/
def RunStep.LockFree : RunStep → Prop
  | .exchange e => ∀ st, (e.request st).isLock = false
  | _ => True

/-- What a run function does besides recording. -/
structure RunSpec (steps : List RunStep) (w v : World) : Prop where
  statics : v.statics = w.statics
  requests : ∃ rs, v.requests = w.requests ++ rs ∧ (∀ q ∈ rs, q.1 = .run) ∧
    ((∀ step ∈ steps, step.LockFree) → ∀ q ∈ rs, q.2.isLock = false)

theorem RunSpec.refl (steps : List RunStep) (w : World) : RunSpec steps w w :=
  ⟨rfl, [], (List.append_nil _).symm, by simp, by simp⟩

theorem RunSpec.trans {step : RunStep} {steps : List RunStep} {w v u : World}
    (h₁ : RunSpec [step] w v) (h₂ : RunSpec steps v u) : RunSpec (step :: steps) w u := by
  rcases h₁.requests with ⟨rs, hrs, hphase, hfree⟩
  rcases h₂.requests with ⟨ts, hts, htphase, htfree⟩
  refine ⟨h₂.statics.trans h₁.statics, rs ++ ts, ?_, ?_, ?_⟩
  · rw [hts, hrs, List.append_assoc]
  · intro q hq
    rcases List.mem_append.mp hq with hq | hq
    · exact hphase q hq
    · exact htphase q hq
  · intro h q hq
    rcases List.mem_append.mp hq with hq | hq
    · exact hfree (by simpa using h step (by simp)) q hq
    · exact htfree (fun s hs => h s (List.mem_cons_of_mem _ hs)) q hq

theorem RunSpec.stop {step : RunStep} {w v : World} (h : RunSpec [step] w v)
    (steps : List RunStep) : RunSpec (step :: steps) w v :=
  h.trans (RunSpec.refl steps v)

theorem runExchange_spec (env : Environment) (c : CaseId) (e : TestedExchange) (w : World) :
    RunSpec [.exchange e] w (runExchange env c e w).2 := by
  have hspec : ∀ v : World, v.statics = w.statics →
      v.requests = w.requests ++ [(.run, e.request (w.statics c))] →
      RunSpec [.exchange e] w v := by
    intro v hstatics hrequests
    refine ⟨hstatics, _, hrequests, by simp, ?_⟩
    intro hfree q hq
    have := hfree (.exchange e) (by simp) (w.statics c)
    simp_all
  rw [runExchange, exchange]
  cases herr : (env.reply w.exchanges).error with
  | true => exact hspec _ rfl rfl
  | false =>
      simp only [Bool.false_eq_true, if_false]
      split_ifs <;> exact hspec _ rfl rfl

theorem runFinalState_spec (env : Environment) (id : ℕ) (expected : UInt8) (w : World) :
    RunSpec [.finalState id expected] w (runFinalState env id expected w) := by
  have hspec : ∀ v : World, v.statics = w.statics →
      v.requests = w.requests ++ [(.run, .getInterfaceState)] →
      RunSpec [.finalState id expected] w v := by
    intro v hstatics hrequests
    refine ⟨hstatics, _, hrequests, by simp, ?_⟩
    intro _ q hq
    rw [List.mem_singleton.mp hq]
    rfl
  rw [runFinalState, tdispTestGetState, exchange]
  cases herr : (env.reply w.exchanges).error with
  | true => exact hspec _ rfl rfl
  | false => exact hspec _ rfl rfl

theorem runInterfaceReport_spec {env : Environment}
    {checks : (ℕ → UInt8) → ℕ → List Assertion} {fuel : ℕ} {w v : World} {go : Bool}
    (h : runInterfaceReport env checks fuel w = some (go, v)) :
    RunSpec [.interfaceReport checks] w v := by
  have hspec : ∀ (report : Report.State TdispHeader) (u : World), u.statics = w.statics →
      u.requests = w.requests ++ report.requests.map (fun request =>
        (.run, .getInterfaceReport request.offset request.length)) →
      RunSpec [.interfaceReport checks] w u := by
    intro report u hstatics hrequests
    refine ⟨hstatics, _, hrequests, ?_, ?_⟩
    · intro q hq
      rcases List.mem_map.mp hq with ⟨_, _, rfl⟩
      rfl
    · intro _ q hq
      rcases List.mem_map.mp hq with ⟨_, _, rfl⟩
      rfl
  rw [runInterfaceReport] at h
  dsimp only at h
  split at h
  · cases h
  · rename_i res report _
    split at h
    · cases h
      exact hspec report _ rfl rfl
    · cases h
      exact hspec report _ rfl rfl

theorem runSteps_spec {env : Environment} {c : CaseId} {fuel : ℕ} {steps : List RunStep}
    {w v : World} (h : runSteps env c fuel steps w = some v) : RunSpec steps w v := by
  induction steps generalizing w with
  | nil =>
      cases h
      exact RunSpec.refl [] _
  | cons step steps ih =>
      cases step with
      | exchange e =>
          have hstep := runExchange_spec env c e w
          rw [runSteps] at h
          dsimp only at h
          split at h
          · exact hstep.trans (ih h)
          · cases h
            exact hstep.stop steps
      | interfaceReport checks =>
          rw [runSteps] at h
          split at h
          · cases h
          · rename_i go u hu
            have hstep := runInterfaceReport_spec hu
            split at h
            · exact hstep.trans (ih h)
            · cases h
              exact hstep.stop steps
      | finalState id expected =>
          rw [runSteps] at h
          exact (runFinalState_spec env id expected w).trans (ih h)

/-! ### The replies decide whether a run function returns -/

theorem runExchange_exchanges (env : Environment) (c : CaseId) (e : TestedExchange) (w : World) :
    (runExchange env c e w).2.exchanges = w.exchanges + 1 := by
  rw [runExchange, exchange]
  cases herr : (env.reply w.exchanges).error with
  | true => rfl
  | false =>
      simp only [Bool.false_eq_true, if_false]
      split_ifs <;> rfl

theorem runExchange_fst (env : Environment) (c : CaseId) (e : TestedExchange) (w : World) :
    (runExchange env c e w).1 =
      (!(env.reply w.exchanges).error && (env.reply w.exchanges).size == e.size) := by
  rw [runExchange, exchange]
  cases herr : (env.reply w.exchanges).error with
  | true => rfl
  | false =>
      by_cases hsize : (env.reply w.exchanges).size = e.size <;>
        simp [Reply.response, hsize]

theorem runFinalState_exchanges (env : Environment) (id : ℕ) (expected : UInt8) (w : World) :
    (runFinalState env id expected w).exchanges = w.exchanges + 1 := by
  rw [runFinalState, tdispTestGetState, exchange]
  cases herr : (env.reply w.exchanges).error <;> rfl

theorem runInterfaceReport_congr (env : Environment)
    (checks : (ℕ → UInt8) → ℕ → List Assertion) (fuel : ℕ) {w v : World}
    (h : w.exchanges = v.exchanges) :
    (runInterfaceReport env checks fuel w).map (fun r => (r.1, r.2.exchanges)) =
      (runInterfaceReport env checks fuel v).map (fun r => (r.1, r.2.exchanges)) := by
  rw [runInterfaceReport, runInterfaceReport, h]
  dsimp only
  split
  · rfl
  · split_ifs <;> rfl

theorem runSteps_isSome_congr (env : Environment) (c : CaseId) (fuel : ℕ)
    (steps : List RunStep) {w v : World} (h : w.exchanges = v.exchanges) :
    (runSteps env c fuel steps w).isSome = (runSteps env c fuel steps v).isSome := by
  induction steps generalizing w v with
  | nil => rfl
  | cons step steps ih =>
      cases step with
      | exchange e =>
          have hfst : (runExchange env c e w).1 = (runExchange env c e v).1 := by
            rw [runExchange_fst, runExchange_fst, h]
          have hsnd : (runExchange env c e w).2.exchanges =
              (runExchange env c e v).2.exchanges := by
            rw [runExchange_exchanges, runExchange_exchanges, h]
          simp only [runSteps, hfst]
          split_ifs
          · exact ih hsnd
          · rfl
      | interfaceReport checks =>
          have hreport := runInterfaceReport_congr env checks fuel h
          simp only [runSteps]
          cases hw : runInterfaceReport env checks fuel w with
          | none =>
              cases hv : runInterfaceReport env checks fuel v with
              | none => rfl
              | some r => simp [hw, hv] at hreport
          | some r =>
              cases hv : runInterfaceReport env checks fuel v with
              | none => simp [hw, hv] at hreport
              | some u =>
                  simp only [hw, hv, Option.map_some, Option.some.injEq, Prod.mk.injEq]
                    at hreport
                  simp only [hreport.1]
                  split_ifs
                  · exact ih hreport.2
                  · rfl
      | finalState id expected =>
          rw [runSteps, runSteps]
          apply ih
          rw [runFinalState_exchanges, runFinalState_exchanges, h]

/-! ## The runner -/

theorem doRunTestConfig_singleton {σ : Type*} (func : ConfigItem σ → σ → Bool × σ)
    (item : ConfigItem σ) (s : σ) : doRunTestConfig func [item] s = func item s := by
  simp [doRunTestConfig]

/-- The functions of the case are called. -/
def Run.entered (run : Run) : Bool := run.action == .run && run.supported && run.enabled

/-- The state in which the setup function is called. -/
def Run.start (run : Run) (w : World) : World :=
  { w with action := run.action, records := [] }

@[simp] theorem Run.start_exchanges (run : Run) (w : World) :
    (run.start w).exchanges = w.exchanges := rfl
@[simp] theorem Run.start_ideStreams (run : Run) (w : World) :
    (run.start w).ideStreams = w.ideStreams := rfl
@[simp] theorem Run.start_requests (run : Run) (w : World) :
    (run.start w).requests = w.requests := rfl
@[simp] theorem Run.start_statics (run : Run) (w : World) :
    (run.start w).statics = w.statics := rfl

theorem Run.execute_eq_of_not_entered {run : Run} (h : run.entered = false) (env : Environment)
    (fuel : ℕ) (w : World) : run.execute env fuel w = some (run.start w) := by
  rcases run with ⟨c, action, supported, enabled, checked⟩
  rw [Run.entered] at h
  cases action <;> cases supported <;> cases enabled <;>
    first | rfl | simp at h

theorem Run.execute_eq_of_entered {run : Run} (h : run.entered = true) (env : Environment)
    (fuel : ℕ) (w : World) :
    run.execute env fuel w =
      let case := run.case.case env
      let r := case.setupFunc env run.case (run.start w)
      if r.1 = false then
        some (case.teardownFunc env run.case { r.2 with action := .skip })
      else if r.2.action = .skip then some (case.teardownFunc env run.case r.2)
      else (runSteps env run.case fuel case.run r.2).map (case.teardownFunc env run.case) := by
  rcases run with ⟨c, action, supported, enabled, checked⟩
  simp only [Run.entered, Bool.and_eq_true, beq_iff_eq] at h
  rcases h with ⟨⟨rfl, rfl⟩, rfl⟩
  rcases hr : (c.case env).setupFunc env c (Run.start ⟨c, .run, true, true, checked⟩ w) with
    ⟨ret, v⟩
  rw [Run.start] at hr
  simp only [Run.execute, Run.testCase, Run.configItem, doRunTestCase, doRunTestConfig_singleton,
    runSetup, testCaseDone, caseContext, Run.start]
  cases ret with
  | false => simp [hr]
  | true =>
      by_cases hskip : v.action = .skip
      · simp [hr, hskip]
      · cases hsteps : runSteps env c fuel (c.case env).run v <;> simp [hr, hskip, hsteps]

end TeeIoValidator.Tdisp
