import TeeIoValidator.Verification.Tdisp.Conformance
import TeeIoValidator.Verification.Tdisp.Requests

/-! Sessions of cases against a conforming interface: whatever their order, each case leaves the
interface unlocked, and all that it records passes but for two cases. -/

namespace TeeIoValidator.Tdisp

open Report Runner

section

variable {i : Interface} {env : Environment} {configured : Bool} {tdi : ℕ → Tdi} {first : ℕ}
  {requests : List (Phase × Request)} {c : CaseId} {w v : World} {fuel : ℕ}

/-! ## The outcome of a run function -/

/-- A lock that is granted where its refusal is tested does not have the size of an error. -/
theorem lockInterface2_fails (hready : CaseId.lockInterface2.ready.Holds i true .lockInterface2 w
      (tdi w.exchanges))
    {tdi' : Tdi} (h : Answers i true (tdi w.exchanges) (lockRequest (w.statics .lockInterface2))
      (env.reply w.exchanges) tdi') :
    (env.reply w.exchanges).error = false ∧ (env.reply w.exchanges).size = 48 := by
  rw [Tdi.eq_unlocked hready.level, lockRequest, hready.flags rfl] at h
  obtain ⟨hm, -⟩ := h.of_lock
  exact ⟨hm.error, hm.size⟩

/-- A run whose interface does not meet its condition records a failure. -/
theorem runExchange_outcome_of_not (hready : c.ready.Holds i configured c w (tdi w.exchanges))
    (hid : env.functionId = i.functionId) (hcounted : w.Counted) {e : TestedExchange}
    {rest : List RunStep} (hrun : (c.case env).run = .exchange e :: rest)
    (hnot : ¬i.Satisfies configured c)
    (h : Answers i configured (tdi w.exchanges) (e.request (w.statics c))
      (env.reply w.exchanges) (tdi (w.exchanges + 1)))
    (hv : runSteps env c fuel (.exchange e :: rest) w = some v) :
    Outcome i configured tdi c w v := by
  have hexchanges := runExchange_exchanges env c e w
  have hfst := runExchange_fst env c e w
  have hcounted' : (runExchange env c e w).2.Counted := by
    rw [World.Counted, runExchange_requests, List.length_append, hcounted, hexchanges]
    rfl
  have houtcome : ¬Passes (exchangeRecords env e w.exchanges) →
      Outcome i configured tdi c w (runExchange env c e w).2 := by
    refine fun hfails => ⟨hcounted', ?_, (runExchange_spec env c e w).statics, _,
      runExchange_records env c e w, ?_, iff_of_false hfails hnot⟩
    · rw [hexchanges]
      exact Nat.le_succ _
    · rintro hnil
      rw [hnil] at hfails
      exact hfails passes_nil
  cases c with
  | capabilities1 =>
      cases hrun
      obtain ⟨hm, -⟩ := h.of_capabilities
      rw [hm.error, hm.size] at hfst
      rw [runSteps] at hv
      dsimp only at hv
      rw [hfst, if_pos (by decide)] at hv
      cases hv
      refine houtcome fun hpasses => hnot ((hm.passes_iff (env.stack w.exchanges)).mp ?_)
      rw [exchangeRecords, hm.error, hm.size, hid] at hpasses
      simpa [passes_cons] using hpasses
  | lockInterface2 =>
      cases hrun
      obtain rfl : configured = true := Bool.eq_true_of_not_eq_false hnot
      obtain ⟨herror, hsize⟩ := lockInterface2_fails hready h
      rw [herror, hsize] at hfst
      rw [runSteps] at hv
      dsimp only at hv
      rw [hfst, if_neg (by decide)] at hv
      cases hv
      refine houtcome fun hpasses => ?_
      rw [exchangeRecords, herror, hsize] at hpasses
      simp [passes_cons, errorResponseSize] at hpasses
  | _ => exact absurd trivial hnot

theorem Ready.outcome (hr : Ready i env configured tdi c fuel w)
    (ha : Answered i env configured tdi first requests) (hfirst : first ≤ w.exchanges)
    (hv : runSteps env c fuel (c.case env).run w = some v) (hsent : v.requests <+: requests) :
    Outcome i configured tdi c w v := by
  rcases run_cases env c with ⟨e, rest, hrun, -⟩ | ⟨checks, rest, hrun, hfetches⟩
  · rw [hrun] at hv
    have hprefix : (runExchange env c e w).2.requests <+: requests := by
      rw [runSteps] at hv
      dsimp only at hv
      split at hv
      · exact runSteps_requests_prefix hv hsent
      · cases hv
        exact hsent
    rw [runExchange_requests] at hprefix
    have hanswer := ha.next hr.counted hfirst hprefix
    by_cases hok : i.Satisfies configured c
    · obtain ⟨level, hmeets, hrest⟩ := case_meets hrun hr.holds hok hanswer
      obtain ⟨hgo, hpassed⟩ := runExchange_passed hr.functionId hr.counted hmeets (c := c)
      rw [runSteps] at hv
      dsimp only at hv
      rw [hgo, if_pos rfl] at hv
      exact (passed_rest ha hfirst hpassed hrest hv hsent).outcome hok
    · exact runExchange_outcome_of_not hr.holds hr.functionId hr.counted hrun hok hanswer hv
  · obtain ⟨u, hu, hpassed⟩ := hr.fetched hrun hfetches
    rw [hrun, runSteps, hu] at hv
    exact (passed_rest ha hfirst hpassed hfetches.rest hv hsent).outcome
      (hfetches.satisfied i configured)

/-! ## Setup functions -/

/-- The setup function of a case on an unlocked interface. -/
structure SetUp (i : Interface) (env : Environment) (configured : Bool) (tdi : ℕ → Tdi)
    (c : CaseId) (w : World) (r : Bool × World) : Prop where
  succeeds : r.1 = true
  holds : c.ready.Holds i configured c r.2 (tdi r.2.exchanges)
  action : r.2.action ≠ .skip
  streams : ∀ k < r.2.ideStreams, w.ideStreams ≤ k → env.ideStream k = true
  setupSuccess : (c.case env).setupEnd ≠ .stateless → (r.2.statics c).setupSuccess = true

variable (env c) in
theorem counted_setupSteps (hcounted : w.Counted) (steps : List SetupStep) :
    (setupSteps env c steps w).2.Counted := by
  induction steps generalizing w with
  | nil => exact hcounted
  | cons step steps ih =>
      have hstep := counted_setupStep env c hcounted step
      rw [setupSteps]
      split
      · rename_i u hu
        rw [hu] at hstep
        exact ih hstep
      · rename_i u hu
        rw [hu] at hstep
        exact hstep
      · rename_i u hu
        rw [hu] at hstep
        exact hstep

variable (env c) in
theorem counted_setupFunc (hcounted : w.Counted) :
    ((c.case env).setupFunc env c w).2.Counted := by
  have h := counted_setupSteps env c hcounted (c.case env).setup
  unfold Case.setupFunc
  split
  · rename_i u hu
    rw [hu] at h
    exact h
  · rename_i u hu
    rw [hu] at h
    exact h
  · rename_i u hu
    rw [hu] at h
    cases (c.case env).setupEnd <;> exact h

theorem start_holds (hunlocked : tdi w.exchanges = .unlocked) :
    Stage.start.Holds i configured c w (tdi w.exchanges) := by
  rw [hunlocked]
  refine ⟨rfl, fun h => absurd h Bool.false_ne_true, fun h => absurd h Bool.false_ne_true,
    fun nonce hnonce => ?_⟩
  rcases hnonce with hnonce | hnonce <;> cases hnonce

/-- Only the flag of the case is written. -/
theorem Stage.Holds.setSetupSuccess {stage : Stage}
    (h : stage.Holds i configured c w (tdi w.exchanges)) (b : Bool) :
    stage.Holds i configured c (w.setSetupSuccess c b) (tdi w.exchanges) := by
  refine ⟨h.level, fun hn => ?_, h.streamed, fun nonce hnonce => ?_⟩
  · simpa [World.setSetupSuccess, World.setStatics] using h.flags hn
  · simpa [World.setSetupSuccess, World.setStatics] using h.nonce nonce hnonce

theorem setupEnd_eq_setIdeStream_iff (env : Environment) (c : CaseId) :
    (c.case env).setupEnd = .setIdeStream ↔ c = .lockInterface1 := by
  cases c <;> simp [CaseId.case]

/-- Only the call at the end of a set-up moves the interface on. -/
theorem CaseId.ready_eq_stage (h : (c.case env).setupEnd ≠ .setIdeStream) : c.ready = c.stage :=
  if_neg fun hc => h ((setupEnd_eq_setIdeStream_iff env c).mpr hc)

theorem setupFunc_setUp (ha : Answered i env configured tdi first requests)
    (hcounted : w.Counted) (hfirst : first ≤ w.exchanges) (hunlocked : tdi w.exchanges = .unlocked)
    (hskip : w.action ≠ .skip)
    (hsent : ((c.case env).setupFunc env c w).2.requests <+: requests)
    (hstream : ∀ k < ((c.case env).setupFunc env c w).2.ideStreams, w.ideStreams ≤ k →
      env.ideStream k = true → configured = true) :
    SetUp i env configured tdi c w ((c.case env).setupFunc env c w) ∨
      ((c.case env).setupFunc env c w).1 = false ∧
        (∃ k < ((c.case env).setupFunc env c w).2.ideStreams, w.ideStreams ≤ k ∧
          env.ideStream k = false) ∧
        tdi ((c.case env).setupFunc env c w).2.exchanges = .unlocked := by
  have hspec := setupSteps_spec env c (c.case env).setup w
  have hsteps := setupSteps_advances ha hcounted hfirst (start_holds hunlocked)
    (advance_setup env c) (c := c)
  have hle := ideStreams_le_setupSteps env c (c.case env).setup w
  have hstreams : (setupSteps env c (c.case env).setup w).1 = .next →
      ∀ k < (setupSteps env c (c.case env).setup w).2.ideStreams, w.ideStreams ≤ k →
      env.ideStream k = true := fun h k hlt hle => setupSteps_streamed h hle hlt
  unfold Case.setupFunc at hsent hstream ⊢
  rcases hr : setupSteps env c (c.case env).setup w with ⟨result, u⟩
  rw [hr] at hspec hsteps hsent hstream hle hstreams
  cases result with
  | failed =>
      rcases hsteps hsent hstream with ⟨hnext, -⟩ | ⟨hcall, -, hunlocked'⟩
      · cases hnext
      · exact Or.inr ⟨rfl, hcall, hunlocked'⟩
  | skip =>
      rcases hsteps hsent hstream with ⟨hnext, -⟩ | ⟨-, hfailed, -⟩
      · cases hnext
      · cases hfailed
  | next =>
      have haction : u.action = w.action := hspec.action
      have hstreams' : ∀ k < u.ideStreams, w.ideStreams ≤ k → env.ideStream k = true :=
        hstreams rfl
      cases hend : (c.case env).setupEnd with
      | succeed =>
          rw [hend] at hsent hstream
          rcases hsteps hsent hstream with ⟨-, hholds⟩ | ⟨-, hfailed, -⟩
          · have hne : (c.case env).setupEnd ≠ .setIdeStream := by simp [hend]
            have hready : c.ready = c.stage := CaseId.ready_eq_stage hne
            refine Or.inl ⟨rfl, ?_, ?_, hstreams', fun _ => ?_⟩
            · rw [hready]
              exact hholds.setSetupSuccess true
            · rw [← haction] at hskip
              exact hskip
            · simp
          · cases hfailed
      | setIdeStream =>
          rw [hend] at hsent hstream
          obtain rfl := (setupEnd_eq_setIdeStream_iff env c).mp hend
          rcases hsteps hsent fun k hk => hstream k (Nat.lt_succ_of_lt hk) with
            ⟨-, hholds⟩ | ⟨-, hfailed, -⟩
          · cases hcall : env.ideStream u.ideStreams with
            | true =>
                have hconfigured : configured = true :=
                  hstream u.ideStreams (Nat.lt_succ_self _) hle hcall
                have hready : CaseId.lockInterface1.ready.Holds i configured .lockInterface1
                    (tdispTestSetIdeStream env u).2
                    (tdi (tdispTestSetIdeStream env u).2.exchanges) :=
                  ⟨hholds.level, hholds.flags, fun _ => hconfigured, hholds.nonce⟩
                refine Or.inl ⟨hcall, ?_, ?_, ?_, fun _ => ?_⟩
                · exact hready.setSetupSuccess _
                · rw [← haction] at hskip
                  exact hskip
                · intro k hk hwk
                  -- The last call is the one at the end of the function.
                  rcases Nat.lt_succ_iff_lt_or_eq.mp hk with hlt | rfl
                  · exact hstreams' k hlt hwk
                  · exact hcall
                · simp [tdispTestSetIdeStream, hcall]
            | false =>
                exact Or.inr ⟨hcall, ⟨u.ideStreams, Nat.lt_succ_self _, hle, hcall⟩,
                  Tdi.eq_unlocked hholds.level⟩
          · cases hfailed
      | stateless =>
          rw [hend] at hsent hstream
          rcases hsteps hsent hstream with ⟨-, hholds⟩ | ⟨-, hfailed, -⟩
          · have hne : (c.case env).setupEnd ≠ .setIdeStream := by simp [hend]
            have hready : c.ready = c.stage := CaseId.ready_eq_stage hne
            refine Or.inl ⟨rfl, ?_, ?_, hstreams', fun hne => absurd hend hne⟩
            · rw [hready]
              exact hholds
            · rw [← haction] at hskip
              exact hskip
          · cases hfailed

/-! ## Teardown functions -/

/-- A teardown function leaves the interface unlocked, with its request or without. -/
theorem teardownFunc_unlocked (ha : Answered i env configured tdi first requests)
    (hcounted : w.Counted) (hfirst : first ≤ w.exchanges) {case : Case}
    (hsent : (case.teardownFunc env c w).requests <+: requests)
    (hstops : tdi w.exchanges = .unlocked ∨
      case.setupEnd ≠ .stateless ∧ (w.statics c).setupSuccess = true) :
    tdi (case.teardownFunc env c w).exchanges = .unlocked ∧
      (case.teardownFunc env c w).Counted := by
  have hstop : w.requests ++ [(.teardown, .stopInterface)] <+: requests →
      tdi (w.exchanges + 1) = .unlocked := fun h => (ha.next hcounted hfirst h).of_stop.2
  have hcounted' : (tdispTestStopInterface env .teardown w).2.Counted := by
    rw [World.Counted, tdispTestStopInterface, exchange, List.length_append, hcounted]
    rfl
  unfold Case.teardownFunc at hsent ⊢
  cases hend : case.setupEnd with
  | stateless =>
      rcases hstops with hunlocked | ⟨hne, -⟩
      · exact ⟨hunlocked, hcounted⟩
      · exact absurd hend hne
  | succeed =>
      rw [hend] at hsent
      cases hflag : (w.statics c).setupSuccess with
      | true =>
          rw [hflag] at hsent
          exact ⟨hstop hsent, hcounted'⟩
      | false =>
          rw [hflag] at hstops
          exact ⟨hstops.resolve_right fun h => Bool.false_ne_true h.2, hcounted⟩
  | setIdeStream =>
      rw [hend] at hsent
      cases hflag : (w.statics c).setupSuccess with
      | true =>
          rw [hflag] at hsent
          exact ⟨hstop hsent, hcounted'⟩
      | false =>
          rw [hflag] at hstops
          exact ⟨hstops.resolve_right fun h => Bool.false_ne_true h.2, hcounted⟩

/-- The two cases without a teardown leave the interface as it is. -/
theorem stateless_unlocked (ha : Answered i env configured tdi first requests)
    (hcounted : w.Counted) (hfirst : first ≤ w.exchanges)
    (hready : c.ready.Holds i configured c w (tdi w.exchanges))
    (hend : (c.case env).setupEnd = .stateless)
    (hv : runSteps env c fuel (c.case env).run w = some v) (hsent : v.requests <+: requests) :
    tdi v.exchanges = .unlocked := by
  have hone : ∀ e, (c.case env).run = [.exchange e] → v = (runExchange env c e w).2 := by
    intro e hrun
    rw [hrun, runSteps] at hv
    dsimp only at hv
    split at hv <;> exact (Option.some.inj hv).symm
  have hanswer : ∀ e, (c.case env).run = [.exchange e] →
      Answers i configured (tdi w.exchanges) (e.request (w.statics c)) (env.reply w.exchanges)
        (tdi v.exchanges) := by
    intro e hrun
    obtain rfl := hone e hrun
    rw [runExchange_requests] at hsent
    rw [runExchange_exchanges]
    exact ha.next hcounted hfirst hsent
  cases c with
  | version1 =>
      obtain ⟨-, -, -, hsame⟩ := (hanswer _ rfl).of_version
      rw [hsame]
      exact Tdi.eq_unlocked hready.level
  | capabilities1 =>
      obtain ⟨-, hsame⟩ := (hanswer _ rfl).of_capabilities
      rw [hsame]
      exact Tdi.eq_unlocked hready.level
  | _ => cases hend

end

/-! ## Executions -/

/-- Whether one of the first `k` calls of `tdisp_test_set_ide_stream` has set up the stream. -/
def Environment.configured (env : Environment) (k : ℕ) : Bool := (List.range k).any env.ideStream

theorem Environment.configured_of_lt {env : Environment} {j k : ℕ} (hj : j < k)
    (hcall : env.ideStream j = true) : env.configured k = true :=
  List.any_eq_true.mpr ⟨j, List.mem_range.mpr hj, hcall⟩

def Run.setupResult (run : Run) (env : Environment) (w : World) : Bool × World :=
  (run.case.case env).setupFunc env run.case (run.start w)

/-- Whether the stream is set up when a run may lock the interface. -/
def Run.configured (run : Run) (env : Environment) (w : World) : Bool :=
  env.configured (run.setupResult env w).2.ideStreams

/-- The requests of an execution with their numbers: those of its setup function, those of its
report loop, which needs not end, and all that it has sent once it returns. -/
inductive Run.Sends (run : Run) (env : Environment) (fuel : ℕ) (w : World) : ℕ → Request → Prop
  where
  | setup {n : ℕ} {q : Phase × Request} : run.entered = true → w.exchanges ≤ n →
      (run.setupResult env w).2.requests[n]? = some q → run.Sends env fuel w n q.2
  | report {v : World} {k : ℕ} : run.entered = true → run.setupResult env w = (true, v) →
      v.action ≠ .skip → (∃ checks, .interfaceReport checks ∈ (run.case.case env).run) →
      Reached env.reportProtocol (env.reportReplies v.exchanges) env.reportMaxSize k →
      run.Sends env fuel w (v.exchanges + k)
        (.getInterfaceReport (offsetAt (env.reportReplies v.exchanges) k)
          (requestAt env.reportProtocol (env.reportReplies v.exchanges) k).length)
  | returned {v : World} {n : ℕ} {q : Phase × Request} : run.execute env fuel w = some v →
      w.exchanges ≤ n → v.requests[n]? = some q → run.Sends env fuel w n q.2

/-- The interface answers the requests of an execution; it is in state `tdi n` before request
`n`. -/
def Attends (i : Interface) (env : Environment) (tdi : ℕ → Tdi) (fuel : ℕ) (run : Run)
    (w : World) : Prop :=
  ∀ n request, run.Sends env fuel w n request →
    Answers i (run.configured env w) (tdi n) request (env.reply n) (tdi (n + 1))

/-- What an execution comes to: the interface is unlocked again. Nothing is recorded when the case
is not entered or a stream is not set up; otherwise something is, and all of it passes just when
the interface meets the condition of the case. -/
structure Judged (i : Interface) (env : Environment) (tdi : ℕ → Tdi) (run : Run) (w v : World) :
    Prop where
  counted : v.Counted
  unlocked : tdi v.exchanges = .unlocked
  notEntered : run.entered = false → v.records = []
  notSetUp : (∃ k < v.ideStreams, w.ideStreams ≤ k ∧ env.ideStream k = false) → v.records = []
  entered : run.entered = true →
    (v.records = [] ∧ ∃ k < v.ideStreams, w.ideStreams ≤ k ∧ env.ideStream k = false) ∨
      (v.records ≠ [] ∧ (Passes v.records ↔ i.Satisfies (run.configured env w) run.case))

/-- An interface whose report fits into the buffer of the program. -/
structure Served (i : Interface) (env : Environment) (fuel : ℕ) : Prop where
  functionId : env.functionId = i.functionId
  capacity : i.report.length ≤ env.reportMaxSize
  fuel : i.report.length ≤ fuel

section

variable {i : Interface} {env : Environment} {tdi : ℕ → Tdi} {fuel : ℕ} {run : Run} {w : World}

/-- A setup function that fails leaves nothing behind. -/
theorem judged_of_failed (h : Attends i env tdi fuel run w) (hcounted : w.Counted)
    (hentered : run.entered = true) (hfailed : (run.setupResult env w).1 = false)
    (hcall : ∃ k < (run.setupResult env w).2.ideStreams, w.ideStreams ≤ k ∧
      env.ideStream k = false)
    (hunlocked : tdi (run.setupResult env w).2.exchanges = .unlocked) :
    ∃ v, run.execute env fuel w = some v ∧ Judged i env tdi run w v := by
  have hspec := setupFunc_spec (run.case.case env) env run.case (run.start w)
  have hexecute := Run.execute_eq_of_entered hentered env fuel w
  dsimp only at hexecute
  change run.execute env fuel w = if (run.setupResult env w).1 = false then _ else _ at hexecute
  rw [if_pos hfailed] at hexecute
  have hfirst : w.exchanges ≤ (run.setupResult env w).2.exchanges := by
    rw [Run.setupResult, hspec.exchanges]
    exact Nat.le_add_right _ _
  have hanswered : Answered i env (run.configured env w) tdi w.exchanges _ :=
    ⟨fun n q hn hq => h n q.2 (.returned hexecute hn hq)⟩
  have hsetup : (run.setupResult env w).2.Counted :=
    counted_setupFunc env run.case (w := run.start w) hcounted
  have hskipped : World.Counted { (run.setupResult env w).2 with action := .skip } := hsetup
  obtain ⟨hfinal, hcounted'⟩ := teardownFunc_unlocked hanswered hskipped hfirst List.prefix_rfl
    (Or.inl hunlocked)
  have hrecords : ((run.case.case env).teardownFunc env run.case
      { (run.setupResult env w).2 with action := .skip }).records = [] := by
    rw [teardownFunc_records]
    exact hspec.records
  refine ⟨_, hexecute, hcounted', hfinal, fun _ => hrecords, fun _ => hrecords,
    fun _ => Or.inl ⟨hrecords, ?_⟩⟩
  rw [teardownFunc_ideStreams]
  exact hcall

/-- A run function that is called is judged by what it records. -/
theorem judged_of_setUp (h : Attends i env tdi fuel run w) (hs : Served i env fuel)
    (hcounted : w.Counted) (hentered : run.entered = true)
    (hset : SetUp i env (run.configured env w) tdi run.case (run.start w)
      (run.setupResult env w)) :
    ∃ v, run.execute env fuel w = some v ∧ Judged i env tdi run w v := by
  have hspec := setupFunc_spec (run.case.case env) env run.case (run.start w)
  have hcounted' := counted_setupFunc env run.case (w := run.start w) hcounted
  have hfirst : w.exchanges ≤ (run.setupResult env w).2.exchanges := by
    rw [Run.setupResult, hspec.exchanges]
    exact Nat.le_add_right _ _
  have hresult : run.setupResult env w = (true, (run.setupResult env w).2) :=
    Prod.ext hset.succeeds rfl
  have hready : Ready i env (run.configured env w) tdi run.case fuel
      (run.setupResult env w).2 :=
    ⟨hcounted', hs.functionId, hset.holds, fun hchecks k hk =>
      h _ _ (.report hentered hresult hset.action hchecks hk), hs.capacity, hs.fuel⟩
  obtain ⟨u, hu⟩ := hready.exists_runSteps
  have hexecute := Run.execute_eq_of_entered hentered env fuel w
  dsimp only at hexecute
  change run.execute env fuel w = if (run.setupResult env w).1 = false then _ else
    if (run.setupResult env w).2.action = .skip then _ else
      (runSteps env run.case fuel (run.case.case env).run (run.setupResult env w).2).map _
    at hexecute
  rw [if_neg (by rw [hset.succeeds]; decide), if_neg hset.action, hu, Option.map_some] at hexecute
  have hanswered : Answered i env (run.configured env w) tdi w.exchanges _ :=
    ⟨fun n q hn hq => h n q.2 (.returned hexecute hn hq)⟩
  have hsent : u.requests <+: ((run.case.case env).teardownFunc env run.case u).requests := by
    rw [teardownFunc_requests]
    exact List.prefix_append _ _
  have houtcome := hready.outcome hanswered hfirst hu hsent
  have hstops : tdi u.exchanges = .unlocked ∨ (run.case.case env).setupEnd ≠ .stateless ∧
      (u.statics run.case).setupSuccess = true := by
    by_cases hend : (run.case.case env).setupEnd = .stateless
    · exact Or.inl (stateless_unlocked hanswered hcounted' hfirst hset.holds hend hu hsent)
    · rw [houtcome.statics]
      exact Or.inr ⟨hend, hset.setupSuccess hend⟩
  obtain ⟨hfinal, hcountedFinal⟩ := teardownFunc_unlocked hanswered houtcome.counted
    (hfirst.trans houtcome.exchanges) List.prefix_rfl hstops
  obtain ⟨as, has, hne, hpasses⟩ := houtcome.records
  have hrecords : ((run.case.case env).teardownFunc env run.case u).records = as := by
    have hempty : (run.setupResult env w).2.records = [] := hspec.records
    rw [teardownFunc_records, has, hempty, List.nil_append]
  refine ⟨_, hexecute, hcountedFinal, hfinal, fun hf => ?_, fun hcall => ?_, fun _ => Or.inr ?_⟩
  · rw [hentered] at hf
    cases hf
  · obtain ⟨k, hk, hwk, hcallk⟩ := hcall
    rw [teardownFunc_ideStreams, runSteps_ideStreams hu] at hk
    rw [hset.streams k hk hwk] at hcallk
    cases hcallk
  · rw [hrecords]
    exact ⟨hne, hpasses⟩

theorem Attends.judged (h : Attends i env tdi fuel run w) (hs : Served i env fuel)
    (hcounted : w.Counted) (hunlocked : tdi w.exchanges = .unlocked) :
    ∃ v, run.execute env fuel w = some v ∧ Judged i env tdi run w v := by
  cases hentered : run.entered with
  | false =>
      refine ⟨_, Run.execute_eq_of_not_entered hentered env fuel w, hcounted, hunlocked,
        fun _ => rfl, fun _ => rfl, fun ht => ?_⟩
      rw [hentered] at ht
      cases ht
  | true =>
      have haction : (run.start w).action ≠ .skip := by
        rw [Run.entered, Bool.and_eq_true, Bool.and_eq_true, beq_iff_eq] at hentered
        have hrun : (run.start w).action = .run := hentered.1.1
        rw [hrun]
        decide
      have hanswered : Answered i env (run.configured env w) tdi w.exchanges
          (run.setupResult env w).2.requests :=
        ⟨fun n q hn hq => h n q.2 (.setup hentered hn hq)⟩
      rcases setupFunc_setUp hanswered (w := run.start w) hcounted le_rfl hunlocked haction
        List.prefix_rfl fun k hk _ hcall => env.configured_of_lt hk hcall with
        hset | ⟨hfailed, hcall, hunlocked'⟩
      · exact judged_of_setUp h hs hcounted hentered hset
      · exact judged_of_failed h hcounted hentered hfailed hcall hunlocked'

theorem attends_of_returned {v : World} (hv : run.execute env fuel w = some v)
    (hreport : ∀ checks, .interfaceReport checks ∉ (run.case.case env).run)
    (hanswers : ∀ n q, w.exchanges ≤ n → v.requests[n]? = some q →
      Answers i (run.configured env w) (tdi n) q.2 (env.reply n) (tdi (n + 1)))
    (hsent : run.entered = true → (run.setupResult env w).2.requests <+: v.requests) :
    Attends i env tdi fuel run w := by
  intro n request hsends
  cases hsends with
  | setup hentered hn hq =>
      obtain ⟨rest, hrest⟩ := hsent hentered
      refine hanswers n _ hn ?_
      rw [← hrest, List.getElem?_append_left (List.getElem?_eq_some_iff.mp hq).1]
      exact hq
  | report _ _ _ hchecks =>
      obtain ⟨checks, hmem⟩ := hchecks
      exact absurd hmem (hreport checks)
  | returned hv' hn hq =>
      obtain rfl := Option.some.inj (hv.symm.trans hv')
      exact hanswers n _ hn hq

end

/-- The shortest report, and no optional message. -/
def plainInterface : Interface where
  functionId := 0
  reqMsgs := 0xFE
  lockInterfaceFlagsSupported := 0
  devAddrWidth := 52
  numReqThis := 1
  numReqAll := 1
  report := List.replicate 20 0
  wellFormed := ⟨by decide, by decide, by decide, fun k hk => absurd hk (Nat.not_lt_zero k)⟩

def plainReply (messageType : UInt8) (size : ℕ) (content : List (ℕ × UInt8)) : Reply :=
  ⟨false, size, fun k => if k = 0 then tdispMessageVersion10
    else if k = 1 then messageType else (content.lookup k).getD 0⟩

/-- The answers to case 3.1. -/
def lockedOnce : Environment where
  functionId := 0
  reply n := [plainReply typeVersion 18 [(16, 1), (17, tdispMessageVersion10)],
    plainReply typeCapabilities 44 [(20, 0xFE), (41, 52), (42, 1), (43, 1)],
    plainReply typeInterfaceState 17 [], plainReply typeLockInterfaceRsp 48 [],
    plainReply typeInterfaceState 17 [(16, stateConfigLocked)]].getD n
      (plainReply typeStopInterfaceRsp 16 [])
  stack _ _ := 0
  ideStream _ := true
  reportStack _ := 0
  portionLen := 16
  reportMaxSize := 32

/-- The interface is locked by the fourth request, and unlocked by the sixth. -/
def lockedBetween (n : ℕ) : Tdi :=
  if n = 4 ∨ n = 5 then .locked (lockedOnce.reply 3).nonce else .unlocked

theorem plainReply_message {messageType : UInt8} {size : ℕ} {content : List (ℕ × UInt8)}
    (hcontent : ∀ k ∈ [4, 5, 6, 7], content.lookup k = none) :
    Message plainInterface messageType size (plainReply messageType size content) := by
  have hzero : le32 (plainReply messageType size content).bytes 4 = 0 := by
    simp only [List.forall_mem_cons] at hcontent
    simp [le32, le16, plainReply, hcontent]
  exact ⟨rfl, rfl, rfl, rfl, congrArg UInt32.ofNat hzero⟩

def lockedOnceRequests : List (Phase × Request) :=
  [(.setup, .getVersion), (.setup, .getCapabilities 0), (.setup, .getInterfaceState),
    (.run, .lockInterface 0 0 mmioReportingOffset 0), (.run, .getInterfaceState),
    (.teardown, .stopInterface)]

theorem lockedOnce_answers {n : ℕ} {q : Phase × Request}
    (hq : lockedOnceRequests[n]? = some q) :
    Answers plainInterface true (lockedBetween n) q.2 (lockedOnce.reply n)
      (lockedBetween (n + 1)) := by
  rcases n with _ | _ | _ | _ | _ | _ | n
  · obtain rfl := Option.some.inj hq
    exact .version (plainReply_message (by decide)) rfl rfl
  · obtain rfl := Option.some.inj hq
    exact .capabilities ⟨plainReply_message (by decide), rfl, rfl, by decide, rfl, rfl, rfl, rfl⟩
  · obtain rfl := Option.some.inj hq
    exact .state (plainReply_message (by decide)) rfl
  · obtain rfl := Option.some.inj hq
    exact .lock rfl rfl (plainReply_message (by decide))
  · obtain rfl := Option.some.inj hq
    exact .state (plainReply_message (by decide)) rfl
  · obtain rfl := Option.some.inj hq
    exact .stop (plainReply_message (by decide))
  · cases hq

end TeeIoValidator.Tdisp
