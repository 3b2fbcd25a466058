import TeeIoValidator.Verification.Tdisp.Verdict

/-! # The requests of an execution

A property of the requests that the steps of a case send is carried through its setup, run and
teardown functions. The stream id of a lock is one such property.
-/

namespace TeeIoValidator.Tdisp

open Report Runner

/-! ## Carrying a property -/

/-- What a request says about the stream. -/
def Request.defaultStreamId : Request → Option UInt8
  | .lockInterface _ id _ _ => some id
  | _ => none

/-- The stream id that the requests of this kind have. -/
def Request.ZeroStream (request : Request) : Prop := ∀ id ∈ request.defaultStreamId, id = 0

theorem Request.zeroStream_of_not_lock {request : Request} (h : request.isLock = false) :
    request.ZeroStream := by
  cases request with
  | lockInterface flags id offset mask => cases h
  | _ => exact nofun

/-- Each request between two states satisfies `P`, and the stream is not set. -/
structure Sends (P : Request → Prop) (w v : World) : Prop where
  ideStreams : v.ideStreams = w.ideStreams
  requests : ∃ rs, v.requests = w.requests ++ rs ∧ ∀ q ∈ rs, P q.2

section Requests

variable {P : Request → Prop} {w v u : World}

theorem Sends.trans (h : Sends P w v) (h' : Sends P v u) : Sends P w u := by
  obtain ⟨rs, hrs, hall⟩ := h.requests
  obtain ⟨ts, hts, hall'⟩ := h'.requests
  refine ⟨h'.ideStreams.trans h.ideStreams, rs ++ ts, ?_, ?_⟩
  · rw [hts, hrs, List.append_assoc]
  · intro q hq
    rcases List.mem_append.mp hq with hq | hq
    · exact hall q hq
    · exact hall' q hq

theorem Sends.one {request : Request} {phase : Phase} (h : P request)
    (hstreams : v.ideStreams = w.ideStreams)
    (hrequests : v.requests = w.requests ++ [(phase, request)]) : Sends P w v := by
  refine ⟨hstreams, _, hrequests, ?_⟩
  intro q hq
  rw [List.mem_singleton.mp hq]
  exact h

/-- The tested requests of a step satisfy `P`. -/
def RunStep.Sends (P : Request → Prop) : RunStep → Prop
  | .exchange e => ∀ st, P (e.request st)
  | _ => True

variable (hother : ∀ request : Request, request.isLock = false → P request)

theorem runExchange_sends {e : TestedExchange} (h : ∀ st, P (e.request st)) (env : Environment)
    (c : CaseId) (w : World) : Sends P w (runExchange env c e w).2 := by
  apply Sends.one (h (w.statics c)) _ (runExchange_requests env c e w)
  rw [runExchange, exchange]
  cases (env.reply w.exchanges).error with
  | true => rfl
  | false =>
      simp only [Bool.false_eq_true, if_false]
      split_ifs <;> rfl

include hother in
theorem runFinalState_sends (env : Environment) (id : ℕ) (expected : UInt8) (w : World) :
    Sends P w (runFinalState env id expected w) := by
  apply Sends.one (hother _ rfl) _ (runFinalState_requests env id expected w)
  rw [runFinalState, tdispTestGetState, exchange]
  cases (env.reply w.exchanges).error <;> rfl

include hother in
theorem runInterfaceReport_sends {env : Environment} {checks : (ℕ → UInt8) → ℕ → List Assertion}
    {fuel : ℕ} {go : Bool} (h : runInterfaceReport env checks fuel w = some (go, v)) :
    Sends P w v := by
  obtain ⟨rs, hrs, -, hfree⟩ := (runInterfaceReport_spec h).requests
  refine ⟨?_, rs, hrs, ?_⟩
  · rw [runInterfaceReport] at h
    dsimp only at h
    split at h
    · cases h
    · split at h
      · cases h
        rfl
      · cases h
        rfl
  · intro q hq
    have hlock : q.2.isLock = false := hfree (by simp [RunStep.LockFree]) q hq
    exact hother q.2 hlock

include hother in
theorem runSteps_sends {env : Environment} {c : CaseId} {fuel : ℕ} {steps : List RunStep}
    (hsteps : ∀ step ∈ steps, step.Sends P) (h : runSteps env c fuel steps w = some v) :
    Sends P w v := by
  induction steps generalizing w with
  | nil =>
      cases h
      exact ⟨rfl, [], (List.append_nil _).symm, nofun⟩
  | cons step steps ih =>
      have hrest : ∀ step' ∈ steps, step'.Sends P :=
        fun step' hstep' => hsteps step' (List.mem_cons_of_mem _ hstep')
      cases step with
      | exchange e =>
          have hfirst := runExchange_sends (hsteps (.exchange e) List.mem_cons_self) env c w
          rw [runSteps] at h
          dsimp only at h
          split at h
          · exact hfirst.trans (ih hrest h)
          · cases h
            exact hfirst
      | interfaceReport checks =>
          rw [runSteps] at h
          split at h
          · cases h
          · rename_i go u hreport
            have hfirst := runInterfaceReport_sends hother hreport
            split at h
            · exact hfirst.trans (ih hrest h)
            · cases h
              exact hfirst
      | finalState id expected =>
          rw [runSteps] at h
          exact (runFinalState_sends hother env id expected w).trans (ih hrest h)

theorem runSteps_ideStreams {env : Environment} {c : CaseId} {fuel : ℕ} {steps : List RunStep}
    (h : runSteps env c fuel steps w = some v) : v.ideStreams = w.ideStreams := by
  have hall : ∀ step ∈ steps, step.Sends fun _ => True := by
    intro step _
    cases step <;> simp [RunStep.Sends]
  exact (runSteps_sends (fun _ _ => trivial) hall h).ideStreams

theorem teardownFunc_ideStreams (case : Case) (env : Environment) (c : CaseId) (w : World) :
    (case.teardownFunc env c w).ideStreams = w.ideStreams := by
  rw [Case.teardownFunc]
  cases case.setupEnd <;> cases (w.statics c).setupSuccess <;> rfl

include hother in
theorem teardownFunc_sends (case : Case) (env : Environment) (c : CaseId) (w : World) :
    Sends P w (case.teardownFunc env c w) := by
  refine ⟨teardownFunc_ideStreams case env c w, _, teardownFunc_requests case env c w, ?_⟩
  intro q hq
  have hstop : q = (.teardown, .stopInterface) := by
    rw [teardownRequests] at hq
    split at hq
    · exact List.mem_singleton.mp hq
    · cases hq
  rw [hstop]
  exact hother _ rfl

/-- The requests of the setup steps are those of the attempted ones. -/
theorem setupSteps_requests (env : Environment) (c : CaseId) (steps : List SetupStep)
    (w : World) :
    ∃ rs, (setupSteps env c steps w).2.requests = w.requests ++ rs ∧
      ∀ q ∈ rs, ∃ step ∈ attempted env w.exchanges w.ideStreams steps,
        ∃ st, q ∈ step.requests st := by
  induction steps generalizing w with
  | nil => exact ⟨[], (List.append_nil _).symm, nofun⟩
  | cons step steps ih =>
      have h := setupStep_spec env c step w
      have hone : ∀ q ∈ step.requests (w.statics c),
          ∃ step' ∈ attempted env w.exchanges w.ideStreams (step :: steps),
            ∃ st, q ∈ step'.requests st := by
        intro q hq
        refine ⟨step, ?_, w.statics c, hq⟩
        rw [attempted]
        cases step.outcome env w.exchanges w.ideStreams <;> exact List.mem_cons_self
      rw [setupSteps]
      split
      · rename_i v hv
        rw [hv] at h
        have hnext : step.outcome env w.exchanges w.ideStreams = .next := h.result.symm
        have hexchanges : v.exchanges = w.exchanges + step.exchanges := h.exchanges
        have hideStreams : v.ideStreams = w.ideStreams + step.ideStreams := h.ideStreams
        have hrequests : v.requests = w.requests ++ step.requests (w.statics c) := h.requests
        obtain ⟨rs, hrs, hall⟩ := ih v
        refine ⟨step.requests (w.statics c) ++ rs, ?_, ?_⟩
        · rw [hrs, hrequests, List.append_assoc]
        · intro q hq
          rcases List.mem_append.mp hq with hq | hq
          · exact hone q hq
          · obtain ⟨step', hstep', hmem⟩ := hall q hq
            refine ⟨step', ?_, hmem⟩
            rw [attempted, hnext, ← hexchanges, ← hideStreams]
            exact List.mem_cons_of_mem _ hstep'
      · rename_i v hv
        rw [hv] at h
        exact ⟨_, h.requests, hone⟩
      · rename_i v hv
        rw [hv] at h
        exact ⟨_, h.requests, hone⟩

theorem setupFunc_requests (case : Case) (env : Environment) (c : CaseId) (w : World) :
    (case.setupFunc env c w).2.requests = (setupSteps env c case.setup w).2.requests := by
  rw [Case.setupFunc]
  split
  · rename_i hsteps
    rw [hsteps]
  · rename_i hsteps
    rw [hsteps]
    rfl
  · rename_i hsteps
    rw [hsteps]
    cases case.setupEnd <;> rfl

theorem setupFunc_ideStreams {case : Case} (hsteps : .setIdeStream ∉ case.setup)
    (hend : case.setupEnd ≠ .setIdeStream) (env : Environment) (c : CaseId) (w : World) :
    (case.setupFunc env c w).2.ideStreams = w.ideStreams := by
  have hnone : ideStreamCount (attempted env w.exchanges w.ideStreams case.setup) = 0 := by
    apply List.sum_eq_zero_iff_forall_eq_nat.mpr
    intro n hn
    obtain ⟨step, hstep, rfl⟩ := List.mem_map.mp hn
    have hmem := (attempted_isPrefix _ _ _ _).subset hstep
    cases step with
    | setIdeStream => exact absurd hmem hsteps
    | _ => rfl
  have h := (setupSteps_spec env c case.setup w).ideStreams
  rw [hnone] at h
  rw [Case.setupFunc]
  split
  · rename_i hrun
    rw [hrun] at h
    exact h
  · rename_i hrun
    rw [hrun] at h
    exact h
  · rename_i hrun
    rw [hrun] at h
    cases hcase : case.setupEnd with
    | setIdeStream => exact absurd hcase hend
    | _ => exact h

include hother in
/-- The requests of an execution satisfy `P` when those of the setup steps that are attempted and
those of the run function do, where it is called. -/
theorem execute_sends {run : Run} {env : Environment} {fuel : ℕ}
    (hsetup : ∀ step ∈ attempted env w.exchanges w.ideStreams (run.case.case env).setup,
      ∀ st, ∀ q ∈ step.requests st, P q.2)
    (hrun : (run.case.case env).succeeds env w.exchanges w.ideStreams = true →
      outcome env w.exchanges w.ideStreams (run.case.case env).setup ≠ .skip →
      ∀ step ∈ (run.case.case env).run, step.Sends P)
    (h : run.execute env fuel w = some v) : ∀ q ∈ sent w v, P q.2 := by
  cases hentered : run.entered with
  | false =>
      rw [sent_of_not_entered hentered h]
      exact nofun
  | true =>
      rw [Run.execute_eq_of_entered hentered] at h
      dsimp only at h
      have hspec := setupFunc_spec (run.case.case env) env run.case (run.start w)
      obtain ⟨rs, hrs, hall⟩ := setupSteps_requests env run.case (run.case.case env).setup
        (run.start w)
      rw [← setupFunc_requests] at hrs
      generalize (run.case.case env).setupFunc env run.case (run.start w) = r at h hspec hrs
      have hall' : ∀ q ∈ rs, P q.2 := by
        intro q hq
        obtain ⟨step, hstep, st, hmem⟩ := hall q hq
        exact hsetup step hstep st q hmem
      have hafter : ∀ {u}, Sends P r.2 u → ∀ q ∈ sent w u, P q.2 := by
        intro u hu q hq
        obtain ⟨ts, hts, htail⟩ := hu.requests
        rw [sent, hts, hrs, Run.start_requests, List.append_assoc, List.drop_left] at hq
        rcases List.mem_append.mp hq with hq | hq
        · exact hall' q hq
        · exact htail q hq
      split_ifs at h with hret hskip
      · cases h
        have htear := teardownFunc_sends hother (run.case.case env) env run.case
          { r.2 with action := .skip }
        exact hafter ⟨htear.ideStreams, htear.requests⟩
      · cases h
        exact hafter (teardownFunc_sends hother (run.case.case env) env run.case r.2)
      · obtain ⟨u, hu, rfl⟩ := Option.map_eq_some_iff.mp h
        have hsucceeds : (run.case.case env).succeeds env w.exchanges w.ideStreams = true := by
          rw [Bool.not_eq_false] at hret
          exact hspec.result.symm.trans hret
        have hnot : outcome env w.exchanges w.ideStreams (run.case.case env).setup ≠ .skip := by
          intro hout
          apply hskip
          have haction := hspec.action
          rw [Run.start_exchanges, Run.start_ideStreams, if_pos hout] at haction
          exact haction
        have hsteps := runSteps_sends hother (hrun hsucceeds hnot) hu
        exact hafter (hsteps.trans (teardownFunc_sends hother _ env run.case u))

end Requests

/-- A case that does not set the stream leaves the number of the calls as it is. -/
theorem execute_ideStreams {run : Run} {env : Environment} {fuel : ℕ} {w v : World}
    (hsteps : .setIdeStream ∉ (run.case.case env).setup)
    (hend : (run.case.case env).setupEnd ≠ .setIdeStream)
    (h : run.execute env fuel w = some v) : v.ideStreams = w.ideStreams := by
  cases hentered : run.entered with
  | false =>
      rw [Run.execute_eq_of_not_entered hentered] at h
      cases h
      rfl
  | true =>
      rw [Run.execute_eq_of_entered hentered] at h
      dsimp only at h
      have hsetup := setupFunc_ideStreams hsteps hend env run.case (run.start w)
      generalize (run.case.case env).setupFunc env run.case (run.start w) = r at h hsetup
      split_ifs at h
      · cases h
        exact (teardownFunc_ideStreams _ env _ _).trans hsetup
      · cases h
        exact (teardownFunc_ideStreams _ env _ _).trans hsetup
      · obtain ⟨u, hu, rfl⟩ := Option.map_eq_some_iff.mp h
        exact (teardownFunc_ideStreams _ env _ u).trans ((runSteps_ideStreams hu).trans hsetup)

/-! ## The cases -/

/-- The cases that set the stream. -/
def CaseId.setsStream : CaseId → Bool
  | .version1 | .capabilities1 | .lockInterface2 | .interfaceReport4 | .interfaceState1 => false
  | _ => true

section Cases

variable {env : Environment} {run : Run} {fuel : ℕ} {w v : World}

theorem not_setsStream {c : CaseId} (h : c.setsStream = false) (env : Environment) :
    .setIdeStream ∉ (c.case env).setup ∧ (c.case env).setupEnd ≠ .setIdeStream := by
  cases c <;> simp_all [CaseId.setsStream, CaseId.case, negotiate]

theorem not_lock_of_mem_requests {step : SetupStep} (hne : step ≠ .lockInterface) {st : Statics}
    {q : Phase × Request} (h : q ∈ step.requests st) : q.2.isLock = false := by
  cases step with
  | lockInterface => exact absurd rfl hne
  | setIdeStream => cases h
  | _ =>
      rw [List.mem_singleton.mp h]
      rfl

theorem zeroStream_lockRequest (st : Statics) : (lockRequest st).ZeroStream := by
  intro id hid
  exact (Option.some.inj hid).symm

theorem zeroStream_setup {step : SetupStep} {st : Statics} {q : Phase × Request}
    (h : q ∈ step.requests st) : q.2.ZeroStream := by
  by_cases hlock : step = .lockInterface
  · subst hlock
    rw [List.mem_singleton.mp h]
    exact zeroStream_lockRequest st
  · exact Request.zeroStream_of_not_lock (not_lock_of_mem_requests hlock h)

theorem zeroStream_run (env : Environment) (c : CaseId) :
    ∀ step ∈ (c.case env).run, step.Sends Request.ZeroStream := by
  cases c <;>
    simp [CaseId.case, RunStep.Sends, responseExchange, errorExchange, interfaceStateRun,
      stopInterfaceRun, zeroStream_lockRequest] <;>
    exact fun _ => Request.zeroStream_of_not_lock rfl

theorem execute_zeroStream (h : run.execute env fuel w = some v) :
    ∀ q ∈ sent w v, q.2.ZeroStream :=
  execute_sends (fun _ => Request.zeroStream_of_not_lock)
    (fun _ _ _ _ => zeroStream_setup) (fun _ _ => zeroStream_run env run.case) h

/-! ### A stream that is never set -/

variable (hfail : ∀ k, env.ideStream k = false)
include hfail

theorem outcome_ne_next {steps : List SetupStep} (h : .setIdeStream ∈ steps) (n k : ℕ) :
    outcome env n k steps ≠ .next := by
  induction steps generalizing n k with
  | nil => cases h
  | cons step steps ih =>
      rw [outcome]
      rcases List.mem_cons.mp h with rfl | hrest
      · simp [SetupStep.outcome, hfail]
      · cases step.outcome env n k with
        | next => exact ih hrest _ _
        | failed => simp
        | skip => simp

theorem mem_attempted {step : SetupStep} {done rest : List SetupStep} {n k : ℕ}
    (h : step ∈ attempted env n k (done ++ .setIdeStream :: rest)) :
    step ∈ done ++ [.setIdeStream] := by
  induction done generalizing n k with
  | nil => simpa [attempted, SetupStep.outcome, hfail] using h
  | cons first done ih =>
      rw [List.cons_append, attempted] at h
      cases hfirst : first.outcome env n k with
      | next =>
          rw [hfirst] at h
          rcases List.mem_cons.mp h with rfl | hrest
          · exact List.mem_cons_self
          · exact List.mem_cons_of_mem _ (ih hrest)
      | failed =>
          rw [hfirst] at h
          rw [List.mem_singleton.mp h]
          exact List.mem_cons_self
      | skip =>
          rw [hfirst] at h
          rw [List.mem_singleton.mp h]
          exact List.mem_cons_self

theorem lockInterface_not_attempted (c : CaseId) (n k : ℕ) :
    .lockInterface ∉ attempted env n k (c.case env).setup := by
  have hshape : .lockInterface ∉ (c.case env).setup ∨
      ∃ rest, (c.case env).setup = negotiate ++ .setIdeStream :: rest := by
    cases c <;> first
      | exact Or.inr ⟨_, rfl⟩
      | exact Or.inl (by simp [CaseId.case, negotiate])
  intro hmem
  rcases hshape with hnot | ⟨rest, hsetup⟩
  · exact hnot ((attempted_isPrefix env n k _).subset hmem)
  · rw [hsetup] at hmem
    have hbefore := mem_attempted hfail hmem
    simp [negotiate] at hbefore

omit hfail in
/-- A case sets the stream in its setup function, or its run function locks nothing. -/
theorem setsStream_or_lockFree {c : CaseId} (hne : c ≠ .lockInterface2) (env : Environment) :
    .setIdeStream ∈ (c.case env).setup ∨ (c.case env).setupEnd = .setIdeStream ∨
      ∀ step ∈ (c.case env).run, step.Sends fun request => request.isLock = false := by
  cases c <;> first
    | exact absurd rfl hne
    | exact Or.inr (Or.inl rfl)
    | (left; simp [CaseId.case, negotiate, lock]; done)
    | (right; right
       simp [CaseId.case, RunStep.Sends, errorExchange, interfaceStateRun, Request.isLock])

theorem execute_not_lock_of_setsStream (hne : run.case ≠ .lockInterface2)
    (h : run.execute env fuel w = some v) : ∀ q ∈ sent w v, q.2.isLock = false := by
  apply execute_sends (P := fun request => request.isLock = false) (fun _ h => h) _ _ h
  · intro step hstep st q hq
    refine not_lock_of_mem_requests ?_ hq
    intro hlock
    exact lockInterface_not_attempted hfail _ _ _ (hlock ▸ hstep)
  · intro hsucceeds hskip
    rcases setsStream_or_lockFree hne env with hsets | hend | hfree
    · exfalso
      have hnext := outcome_ne_next hfail hsets w.exchanges w.ideStreams
      rw [Case.succeeds] at hsucceeds
      split at hsucceeds
      · cases hsucceeds
      · rename_i hout
        exact hskip hout
      · rename_i hout
        exact hnext hout
    · exfalso
      simp only [Case.succeeds, hend, hfail] at hsucceeds
      split at hsucceeds
      · cases hsucceeds
      · rename_i hout
        exact hskip hout
      · cases hsucceeds
    · exact hfree

omit hfail in
/-- Only the case that expects an error locks the interface before the stream is set. -/
theorem execute_not_lock (hne : run.case ≠ .lockInterface2)
    (hfail : run.case.setsStream = true → ∀ k, env.ideStream k = false)
    (h : run.execute env fuel w = some v) : ∀ q ∈ sent w v, q.2.isLock = false := by
  cases hsets : run.case.setsStream with
  | true => exact execute_not_lock_of_setsStream (hfail hsets) hne h
  | false =>
      obtain ⟨hsetup, hend⟩ := not_setsStream hsets env
      have hlock : .lockInterface ∉ (run.case.case env).setup := by
        cases hc : run.case <;> simp_all [CaseId.setsStream, CaseId.case, negotiate]
      apply execute_sends (P := fun request => request.isLock = false) (fun _ h => h) _ _ h
      · intro step hstep st q hq
        refine not_lock_of_mem_requests ?_ hq
        intro hstepLock
        exact hlock (hstepLock ▸ (attempted_isPrefix _ _ _ _).subset hstep)
      · intro _ _
        rcases setsStream_or_lockFree hne env with hmem | hset | hfree
        · exact absurd hmem hsetup
        · exact absurd hset hend
        · exact hfree

end Cases

end TeeIoValidator.Tdisp
