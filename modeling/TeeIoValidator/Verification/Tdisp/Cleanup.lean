import TeeIoValidator.Verification.Tdisp.Execution

/-! # Locks that are left behind

When a case has sent a `LOCK_INTERFACE_REQUEST`, its teardown is to send a
`STOP_INTERFACE_REQUEST`. The flag that the teardown asks for is a static variable, which
only the end of the setup function writes.
-/

namespace TeeIoValidator.Tdisp

open Report Runner

/-! ## What an execution sends -/

/-- The requests that were sent between two states. -/
def sent (w v : World) : List (Phase × Request) := v.requests.drop w.requests.length

/-- Every `LOCK_INTERFACE_REQUEST` is followed by a `STOP_INTERFACE_REQUEST`. -/
def LocksStopped (rs : List (Phase × Request)) : Prop :=
  ∀ before q after, rs = before ++ q :: after → q.2.isLock = true →
    ∃ p ∈ after, p.2 = .stopInterface

theorem locksStopped_nil : LocksStopped [] := by
  intro before q after h
  simp at h

theorem locksStopped_cons_iff (q : Phase × Request) (rs : List (Phase × Request)) :
    LocksStopped (q :: rs) ↔
      (q.2.isLock = true → ∃ p ∈ rs, p.2 = .stopInterface) ∧ LocksStopped rs := by
  constructor
  · intro h
    refine ⟨h [] q rs rfl, ?_⟩
    intro before p after hrs
    exact h (q :: before) p after (by rw [hrs, List.cons_append])
  · intro h before p after hrs
    rcases List.cons_eq_append_iff.mp hrs with ⟨rfl, hcons⟩ | ⟨tail, rfl, htail⟩
    · rcases List.cons.inj hcons with ⟨rfl, rfl⟩
      exact h.1
    · exact h.2 tail p after htail

theorem Request.lockPending_eq (pending : Bool) (request : Request) :
    request.lockPending pending =
      (request.isLock || (pending && !decide (request = .stopInterface))) := by
  cases request <;> cases pending <;> rfl

theorem lockPending_eq_false_iff (pending : Bool) (rs : List (Phase × Request)) :
    lockPending pending rs = false ↔
      (pending = true → ∃ p ∈ rs, p.2 = .stopInterface) ∧ LocksStopped rs := by
  induction rs generalizing pending with
  | nil => cases pending <;> simp [lockPending, locksStopped_nil]
  | cons q rs ih =>
      have hfirst : (q.2.lockPending pending = true → ∃ p ∈ rs, p.2 = .stopInterface) ↔
          (pending = true → ∃ p ∈ q :: rs, p.2 = .stopInterface) ∧
            (q.2.isLock = true → ∃ p ∈ rs, p.2 = .stopInterface) := by
        simp only [Request.lockPending_eq, List.mem_cons, exists_eq_or_imp]
        by_cases hstop : q.2 = .stopInterface
        · simp [hstop, Request.isLock]
        · simp only [hstop, decide_false, Bool.not_false, Bool.and_true, Bool.or_eq_true, or_imp,
            false_or]
          exact and_comm
      rw [lockPending, ih, locksStopped_cons_iff, hfirst, and_assoc]

theorem locksStopped_iff (rs : List (Phase × Request)) :
    LocksStopped rs ↔ lockPending false rs = false := by
  simp [lockPending_eq_false_iff]

theorem lockPending_of_lockFree {rs : List (Phase × Request)}
    (h : ∀ q ∈ rs, q.2.isLock = false) : lockPending false rs = false := by
  rw [← locksStopped_iff]
  intro before q after hrs hlock
  have hq := h q (by simp [hrs])
  rw [hlock] at hq
  cases hq

/-! ## Cases that lock -/

theorem runLockFree_of_stateless {env : Environment} {c : CaseId}
    (h : (c.case env).setupEnd = .stateless) : ∀ step ∈ (c.case env).run, step.LockFree := by
  -- Only the first version and capabilities cases are stateless.
  cases c <;> cases h
  all_goals
    intro step hstep
    rw [List.mem_singleton.mp hstep]
    intro _
    rfl

theorem setupLockFree {env : Environment} {c : CaseId}
    (h : (c.case env).setupEnd ≠ .succeed) : SetupStep.lockInterface ∉ (c.case env).setup := by
  cases c <;> first | exact absurd rfl h | simp [CaseId.case, negotiate]

theorem setupLockPending_attempted {env : Environment} {c : CaseId}
    (h : (c.case env).setupEnd ≠ .succeed) (n k : ℕ) :
    setupLockPending false (attempted env n k (c.case env).setup) = false := by
  apply setupLockPending_of_lockFree
  intro hmem
  exact setupLockFree h ((attempted_isPrefix env n k _).subset hmem)

/-! ## Teardown -/

/-- The teardown function sends its request. -/
def Case.stops (case : Case) (env : Environment) (n k : ℕ) (flag : Bool) : Bool :=
  case.setupEnd != .stateless && case.flagAfter env n k flag

def teardownRequests (stops : Bool) : List (Phase × Request) :=
  if stops then [(.teardown, .stopInterface)] else []

theorem teardownFunc_requests (case : Case) (env : Environment) (c : CaseId) (w : World) :
    (case.teardownFunc env c w).requests =
      w.requests ++
        teardownRequests (case.setupEnd != .stateless && (w.statics c).setupSuccess) := by
  rw [Case.teardownFunc]
  cases case.setupEnd with
  | stateless => simp [teardownRequests]
  | succeed =>
      cases hflag : (w.statics c).setupSuccess <;>
        simp [teardownRequests, tdispTestStopInterface, exchange]
  | setIdeStream =>
      cases hflag : (w.statics c).setupSuccess <;>
        simp [teardownRequests, tdispTestStopInterface, exchange]

/-- The requests of an execution whose functions are called: those of the setup function,
those of the run function, which is called only after a setup function that succeeds, and
that of the teardown function. -/
structure Sent (run : Run) (env : Environment) (w : World) (rs : List (Phase × Request)) :
    Prop where
  split : ∃ srs rrs, rs = srs ++ rrs ++ teardownRequests
      ((run.case.case env).stops env w.exchanges w.ideStreams
        (w.statics run.case).setupSuccess) ∧
    (∀ q ∈ srs, q.1 = .setup) ∧ (∀ q ∈ rrs, q.1 = .run) ∧
    lockPending false srs = setupLockPending false
      (attempted env w.exchanges w.ideStreams (run.case.case env).setup) ∧
    ((run.case.case env).succeeds env w.exchanges w.ideStreams = false → rrs = []) ∧
    ((∀ step ∈ (run.case.case env).run, step.LockFree) → ∀ q ∈ rrs, q.2.isLock = false)

theorem execute_sent {run : Run} (hentered : run.entered = true) {env : Environment}
    {fuel : ℕ} {w v : World} (h : run.execute env fuel w = some v) :
    Sent run env w (sent w v) := by
  rw [Run.execute_eq_of_entered hentered] at h
  dsimp only at h
  have hsetup := setupFunc_spec (run.case.case env) env run.case (run.start w)
  generalize (run.case.case env).setupFunc env run.case (run.start w) = r at h hsetup
  rcases hsetup.requests with ⟨srs, hsrs, hphase, hpending⟩
  have hflag : ((run.case.case env).setupEnd != .stateless &&
      (r.2.statics run.case).setupSuccess) = (run.case.case env).stops env w.exchanges
        w.ideStreams (w.statics run.case).setupSuccess := by
    rw [hsetup.setupSuccess, Case.stops]
    rfl
  split_ifs at h with hret hskip
  · cases h
    refine ⟨srs, [], ?_, hphase, by simp, hpending false, fun _ => rfl, by simp⟩
    rw [sent, teardownFunc_requests, hflag, hsrs, Run.start_requests, List.append_assoc]
    simp
  · cases h
    refine ⟨srs, [], ?_, hphase, by simp, hpending false, fun _ => rfl, by simp⟩
    rw [sent, teardownFunc_requests, hflag, hsrs, Run.start_requests, List.append_assoc]
    simp
  · rcases Option.map_eq_some_iff.mp h with ⟨u, hu, rfl⟩
    have hrun := runSteps_spec hu
    rcases hrun.requests with ⟨rrs, hrrs, hrphase, hfree⟩
    refine ⟨srs, rrs, ?_, hphase, hrphase, hpending false, ?_, hfree⟩
    · rw [sent, teardownFunc_requests, hrun.statics, hflag, hrrs, hsrs, Run.start_requests,
        List.append_assoc, List.append_assoc]
      simp
    · intro hsucceeds
      rw [Bool.not_eq_false] at hret
      rw [hsetup.result] at hret
      exact absurd (hret.symm.trans hsucceeds) (by simp)

/-! ## One execution -/

/-- Two executions that find the environment in the same place both return or both do not. -/
theorem execute_isSome_congr (run : Run) (env : Environment) (fuel : ℕ) {w v : World}
    (hexchanges : w.exchanges = v.exchanges) (hideStreams : w.ideStreams = v.ideStreams) :
    (run.execute env fuel w).isSome = (run.execute env fuel v).isSome := by
  cases hentered : run.entered with
  | false =>
      rw [Run.execute_eq_of_not_entered hentered, Run.execute_eq_of_not_entered hentered]
      rfl
  | true =>
      rw [Run.execute_eq_of_entered hentered, Run.execute_eq_of_entered hentered]
      dsimp only
      have hw := setupFunc_spec (run.case.case env) env run.case (run.start w)
      have hv := setupFunc_spec (run.case.case env) env run.case (run.start v)
      generalize (run.case.case env).setupFunc env run.case (run.start w) = r at hw
      generalize (run.case.case env).setupFunc env run.case (run.start v) = t at hv
      have hresult : r.1 = t.1 := by
        rw [hw.result, hv.result]
        simp [hexchanges, hideStreams]
      have haction : r.2.action = t.2.action := by
        rw [hw.action, hv.action, Run.start_exchanges, Run.start_exchanges,
          Run.start_ideStreams, Run.start_ideStreams, hexchanges, hideStreams]
        rfl
      have hafter : r.2.exchanges = t.2.exchanges := by
        rw [hw.exchanges, hv.exchanges]
        simp [hexchanges, hideStreams]
      rw [hresult, haction]
      split_ifs
      · rfl
      · rfl
      · rw [Option.isSome_map, Option.isSome_map]
        exact runSteps_isSome_congr env run.case fuel _ hafter

/-- The requests that the teardown of an execution sends, if the execution returns. -/
def Run.teardownSent (run : Run) (env : Environment) (fuel : ℕ) (w : World) :
    Option (List (Phase × Request)) :=
  (run.execute env fuel w).map fun v => (sent w v).filter fun q => q.1 == .teardown

/-- What the case promises: its locks are stopped, and its teardown does what it would do
if the case had never been run before. -/
structure Run.CleansUp (run : Run) (env : Environment) (fuel : ℕ) (w : World) : Prop where
  locksStopped : ∀ v, run.execute env fuel w = some v → LocksStopped (sent w v)
  ownSetup : run.teardownSent env fuel w =
    run.teardownSent env fuel (w.setSetupSuccess run.case false)

/-- If the setup function of a case with a teardown fails at a step, then no earlier run of
the case has left the flag set, and the steps up to that one leave no lock behind. -/
def Run.CleanCondition (run : Run) (env : Environment) (w : World) : Prop :=
  run.entered = true → (run.case.case env).setupEnd ≠ .stateless →
    ∀ done step rest, (run.case.case env).setup = done ++ step :: rest →
      outcome env w.exchanges w.ideStreams done = .next →
      step.outcome env (w.exchanges + exchangeCount done) (w.ideStreams + ideStreamCount done) =
        .failed →
      (w.statics run.case).setupSuccess = false ∧ setupLockPending false (done ++ [step]) = false

theorem cleanCondition_iff (run : Run) (env : Environment) (w : World) :
    run.CleanCondition env w ↔
      (run.entered = true → (run.case.case env).setupEnd ≠ .stateless →
        outcome env w.exchanges w.ideStreams (run.case.case env).setup = .failed →
        (w.statics run.case).setupSuccess = false ∧ setupLockPending false
          (attempted env w.exchanges w.ideStreams (run.case.case env).setup) = false) := by
  constructor
  · intro h hentered hstate hfailed
    rcases exists_of_outcome_failed hfailed with ⟨done, step, rest, hsetup, hdone, hstep⟩
    have hattempted := (outcome_append hdone hstep rest).2
    rw [← hsetup] at hattempted
    rw [hattempted]
    exact h hentered hstate done step rest hsetup hdone hstep
  · intro h hentered hstate done step rest hsetup hdone hstep
    have happend := outcome_append hdone hstep rest
    rw [← hsetup] at happend
    rw [← happend.2]
    exact h hentered hstate happend.1

theorem filter_teardown {srs rrs : List (Phase × Request)} (hsetup : ∀ q ∈ srs, q.1 = .setup)
    (hrun : ∀ q ∈ rrs, q.1 = .run) (stops : Bool) :
    (srs ++ rrs ++ teardownRequests stops).filter (fun q => q.1 == .teardown) =
      teardownRequests stops := by
  have hsrs : srs.filter (fun q => q.1 == .teardown) = [] := by
    rw [List.filter_eq_nil_iff]
    intro q hq
    simp [hsetup q hq]
  have hrrs : rrs.filter (fun q => q.1 == .teardown) = [] := by
    rw [List.filter_eq_nil_iff]
    intro q hq
    simp [hrun q hq]
  rw [List.filter_append, List.filter_append, hsrs, hrrs]
  cases stops <;> rfl

theorem teardownSent_eq {run : Run} (hentered : run.entered = true) (env : Environment)
    (fuel : ℕ) (w : World) :
    run.teardownSent env fuel w = (run.execute env fuel w).map fun _ =>
      teardownRequests ((run.case.case env).stops env w.exchanges w.ideStreams
        (w.statics run.case).setupSuccess) := by
  rw [Run.teardownSent]
  cases h : run.execute env fuel w with
  | none => rfl
  | some v =>
      rcases (execute_sent hentered h).split with ⟨srs, rrs, hsent, hsetup, hrun, -⟩
      rw [Option.map_some, Option.map_some, hsent, filter_teardown hsetup hrun]

theorem execute_isSome_of_failed {run : Run} (hentered : run.entered = true)
    {env : Environment} {w : World}
    (h : outcome env w.exchanges w.ideStreams (run.case.case env).setup = .failed)
    (fuel : ℕ) : (run.execute env fuel w).isSome = true := by
  have hsetup := setupFunc_spec (run.case.case env) env run.case (run.start w)
  have hret : ((run.case.case env).setupFunc env run.case (run.start w)).1 = false := by
    rw [hsetup.result, Case.succeeds, Run.start_exchanges, Run.start_ideStreams, h]
  rw [Run.execute_eq_of_entered hentered]
  simp [hret]

theorem sent_of_not_entered {run : Run} (hentered : run.entered = false) {env : Environment}
    {fuel : ℕ} {w v : World} (h : run.execute env fuel w = some v) : sent w v = [] := by
  rw [Run.execute_eq_of_not_entered hentered] at h
  cases h
  simp [sent]

theorem lockPending_teardown (pending : Bool) (rs : List (Phase × Request)) :
    lockPending pending (rs ++ teardownRequests true) = false := by
  rw [lockPending_append]
  rfl

theorem stops_of_next {case : Case} {env : Environment} {n k : ℕ}
    (h : outcome env n k case.setup ≠ .failed) (flag : Bool) :
    case.stops env n k flag = case.stops env n k false := by
  rw [Case.stops, Case.stops, Case.flagAfter, Case.flagAfter]
  cases hout : outcome env n k case.setup with
  | failed => exact absurd hout h
  | skip => rfl
  | next => cases case.setupEnd <;> rfl

theorem stops_of_failed {case : Case} {env : Environment} {n k : ℕ}
    (hstate : case.setupEnd ≠ .stateless) (h : outcome env n k case.setup = .failed)
    (flag : Bool) : case.stops env n k flag = flag := by
  simp [Case.stops, Case.flagAfter, h, hstate]

theorem succeeds_of_not_stops {case : Case} {env : Environment} {n k : ℕ} {flag : Bool}
    (hstate : case.setupEnd ≠ .stateless) (h : case.stops env n k flag = false) :
    case.succeeds env n k = false := by
  rw [Case.stops, Case.flagAfter] at h
  rw [Case.succeeds]
  cases hout : outcome env n k case.setup with
  | failed => rfl
  | skip => simp [hout, hstate] at h
  | next => cases hend : case.setupEnd <;> simp_all

/-- One execution: a lock is pending at its end exactly when the setup function failed with
a lock pending and no teardown followed. -/
theorem locksStopped_sent_iff {run : Run} (hentered : run.entered = true) {env : Environment}
    {fuel : ℕ} {w v : World} (h : run.execute env fuel w = some v) :
    LocksStopped (sent w v) ↔
      ((run.case.case env).setupEnd ≠ .stateless →
        outcome env w.exchanges w.ideStreams (run.case.case env).setup = .failed →
        (w.statics run.case).setupSuccess = true ∨ setupLockPending false
          (attempted env w.exchanges w.ideStreams (run.case.case env).setup) = false) := by
  rcases (execute_sent hentered h).split with ⟨srs, rrs, hsent, -, -, hpending, hrrs, hfree⟩
  rw [locksStopped_iff, hsent]
  cases hstops : (run.case.case env).stops env w.exchanges w.ideStreams
      (w.statics run.case).setupSuccess with
  | true =>
      rw [lockPending_teardown]
      refine iff_of_true rfl ?_
      intro hstate hfailed
      rw [stops_of_failed hstate hfailed] at hstops
      exact Or.inl hstops
  | false =>
      rw [teardownRequests, if_neg Bool.false_ne_true, List.append_nil, lockPending_append,
        hpending]
      by_cases hstate : (run.case.case env).setupEnd = .stateless
      · rw [setupLockPending_attempted (by simp [hstate]),
          lockPending_of_lockFree (hfree (runLockFree_of_stateless hstate))]
        exact iff_of_true rfl fun hne => absurd hstate hne
      · rw [hrrs (succeeds_of_not_stops hstate hstops), lockPending]
        by_cases hfailed :
            outcome env w.exchanges w.ideStreams (run.case.case env).setup = .failed
        · rw [stops_of_failed hstate hfailed] at hstops
          simp [hstate, hfailed, hstops]
        · -- The setup function did not fail, so the flag is the result of the IDE stream.
          have hend : (run.case.case env).setupEnd ≠ .succeed := by
            intro hsucceed
            rw [Case.stops, Case.flagAfter, hsucceed] at hstops
            cases hout : outcome env w.exchanges w.ideStreams (run.case.case env).setup <;>
              simp_all
          rw [setupLockPending_attempted hend]
          exact iff_of_true rfl fun _ hf => absurd hf hfailed

theorem ownSetup_iff {run : Run} (hentered : run.entered = true) (env : Environment)
    (fuel : ℕ) (w : World) :
    run.teardownSent env fuel w =
        run.teardownSent env fuel (w.setSetupSuccess run.case false) ↔
      ((run.case.case env).setupEnd ≠ .stateless →
        outcome env w.exchanges w.ideStreams (run.case.case env).setup = .failed →
        (w.statics run.case).setupSuccess = false) := by
  have hsome := execute_isSome_congr run env fuel
    (w := w) (v := w.setSetupSuccess run.case false) rfl rfl
  rw [teardownSent_eq hentered, teardownSent_eq hentered]
  simp only [World.setSetupSuccess_exchanges, World.setSetupSuccess_ideStreams,
    World.setSetupSuccess_setupSuccess]
  cases hw : run.execute env fuel w with
  | none =>
      have hnone : run.execute env fuel (w.setSetupSuccess run.case false) = none := by
        rw [hw, Option.isSome_none] at hsome
        exact Option.isSome_eq_false_iff.mp hsome.symm |> Option.isNone_iff_eq_none.mp
      rw [hnone]
      refine iff_of_true rfl ?_
      intro _ hfailed
      have := execute_isSome_of_failed hentered hfailed fuel
      simp [hw] at this
  | some v =>
      rw [hw, Option.isSome_some] at hsome
      rcases Option.isSome_iff_exists.mp hsome.symm with ⟨u, hu⟩
      rw [hu, Option.map_some, Option.map_some, Option.some.injEq]
      by_cases hstate : (run.case.case env).setupEnd = .stateless
      · simp [Case.stops, hstate]
      · by_cases hfailed :
            outcome env w.exchanges w.ideStreams (run.case.case env).setup = .failed
        · rw [stops_of_failed hstate hfailed, stops_of_failed hstate hfailed]
          cases hflag : (w.statics run.case).setupSuccess <;>
            simp [teardownRequests, hstate, hfailed]
        · rw [stops_of_next hfailed]
          exact iff_of_true rfl fun _ hf => absurd hf hfailed

/-- The step lemma: one execution cleans up exactly under its condition. -/
theorem Run.cleansUp_iff (run : Run) (env : Environment) (fuel : ℕ) (w : World) :
    run.CleansUp env fuel w ↔ run.CleanCondition env w := by
  rw [cleanCondition_iff]
  cases hentered : run.entered with
  | false =>
      refine iff_of_true ⟨?_, ?_⟩ (by simp)
      · intro v hv
        rw [sent_of_not_entered hentered hv]
        exact locksStopped_nil
      · rw [Run.teardownSent, Run.teardownSent, Run.execute_eq_of_not_entered hentered,
          Run.execute_eq_of_not_entered hentered]
        simp [sent]
  | true =>
      simp only [true_imp_iff]
      constructor
      · intro h hstate hfailed
        have hflag := (ownSetup_iff hentered env fuel w).mp h.ownSetup hstate hfailed
        rcases Option.isSome_iff_exists.mp (execute_isSome_of_failed hentered hfailed fuel) with
          ⟨v, hv⟩
        have hlocks := (locksStopped_sent_iff hentered hv).mp (h.locksStopped v hv) hstate hfailed
        rw [hflag] at hlocks
        exact ⟨hflag, hlocks.resolve_left Bool.false_ne_true⟩
      · intro h
        refine ⟨?_, ?_⟩
        · intro v hv
          apply (locksStopped_sent_iff hentered hv).mpr
          intro hstate hfailed
          exact Or.inr (h hstate hfailed).2
        · apply (ownSetup_iff hentered env fuel w).mpr
          intro hstate hfailed
          exact (h hstate hfailed).1

/-! ## Sequences of executions -/

/-- `P` holds of every execution of a sequence, each in the state that it starts in. -/
def Everywhere (env : Environment) (fuel : ℕ) (P : Run → World → Prop) :
    List Run → World → Prop
  | [], _ => True
  | run :: runs, w =>
    P run w ∧ ∀ v, run.execute env fuel w = some v → Everywhere env fuel P runs v

theorem Everywhere.congr {env : Environment} {fuel : ℕ} {P Q : Run → World → Prop}
    (h : ∀ run w, P run w ↔ Q run w) (runs : List Run) (w : World) :
    Everywhere env fuel P runs w ↔ Everywhere env fuel Q runs w := by
  induction runs generalizing w with
  | nil => exact Iff.rfl
  | cons run runs ih =>
      rw [Everywhere, Everywhere, h run w]
      refine and_congr_right fun _ => ?_
      exact forall_congr' fun v => imp_congr_right fun _ => ih v

/-- Whatever the device answers and whichever cases run in whichever order, the cases clean
up exactly when every execution meets its condition. -/
theorem runs_cleanUp_iff (env : Environment) (fuel : ℕ) (runs : List Run) (w : World) :
    Everywhere env fuel (fun run v => run.CleansUp env fuel v) runs w ↔
      Everywhere env fuel (fun run v => run.CleanCondition env v) runs w :=
  Everywhere.congr (fun run v => run.cleansUp_iff env fuel v) runs w

/-! ### Two devices that are left locked or stopped twice -/

/-- A device whose replies have these sizes, hold zeros, and fail after the last one. -/
def scripted (sizes : List ℕ) : Environment where
  functionId := 0
  reply n := match sizes[n]? with
    | some size => ⟨false, size, fun _ => 0⟩
    | none => ⟨true, 0, fun _ => 0⟩
  stack _ _ := 0
  ideStream _ := true
  reportStack _ := 0
  portionLen := 0
  reportMaxSize := 0

/-- The program before its first case. -/
def initialWorld : World := ⟨0, 0, [], [], .run, fun _ => ⟨false, 0, []⟩⟩

def Run.of (c : CaseId) : Run := ⟨c, .run, true, true, true⟩

/-- In the first sequence the state request after the lock fails, and no stop is sent. In
the second one the second run fails at its first request, and its teardown sends a stop
because the first run left the flag set. -/
theorem runs_not_cleanUp :
    ¬ Everywhere (scripted [18, 44, 48]) 0
        (fun run v => run.CleansUp (scripted [18, 44, 48]) 0 v)
        [Run.of .lockInterface3] initialWorld ∧
      ¬ Everywhere (scripted [18, 44, 17, 24, 17, 16]) 0
        (fun run v => run.CleansUp (scripted [18, 44, 17, 24, 17, 16]) 0 v)
        [Run.of .lockInterface2, Run.of .lockInterface2] initialWorld := by
  refine ⟨?_, ?_⟩
  · intro h
    have heval : ((Run.of .lockInterface3).execute (scripted [18, 44, 48]) 0
        initialWorld).map (fun v => lockPending false (sent initialWorld v)) = some true := by
      decide
    rcases Option.map_eq_some_iff.mp heval with ⟨v, hv, hpending⟩
    have hlocks := (locksStopped_iff _).mp (h.1.locksStopped v hv)
    exact Bool.false_ne_true (hlocks.symm.trans hpending)
  · intro h
    have heval : ((Run.of .lockInterface2).execute (scripted [18, 44, 17, 24, 17, 16]) 0
        initialWorld).map (fun v =>
          ((Run.of .lockInterface2).teardownSent (scripted [18, 44, 17, 24, 17, 16]) 0 v,
            (Run.of .lockInterface2).teardownSent (scripted [18, 44, 17, 24, 17, 16]) 0
              (v.setSetupSuccess .lockInterface2 false))) =
        some (some [(.teardown, .stopInterface)], some []) := by
      decide
    rcases Option.map_eq_some_iff.mp heval with ⟨v, hv, hteardown⟩
    rcases Prod.mk.inj hteardown with ⟨hsent, hfresh⟩
    have hown := (h.2 v hv).1.ownSetup
    have hsame : some [(Phase.teardown, Request.stopInterface)] = some [] :=
      hsent.symm.trans (hown.trans hfresh)
    cases hsame

end TeeIoValidator.Tdisp
