import TeeIoValidator.Verification.Tdisp.Cleanup

/-! # What a passed lock-interface or start-interface case says about the device

The documentation of a case lists the answers that its requests are to get. The setup
functions check the sizes of the answers and the state of the interface, the run functions
check the tested answer in full, and of the closing state answer its state alone.
-/

namespace TeeIoValidator.Tdisp

open Report Runner

/-! ## Documented answers -/

structure Answer where
  messageType : UInt8
  size : ℕ
  errorCode : Option UInt32
  tdiState : Option UInt8

/-- The bytes that were received, without what lies behind them in the buffer. -/
def Reply.message (reply : Reply) : Response := ⟨reply.size, reply.bytes⟩

namespace Answer

structure Header (a : Answer) (functionId : UInt32) (reply : Reply) : Prop where
  version : reply.message.version = tdispMessageVersion10
  messageType : reply.message.messageType = a.messageType
  functionId : reply.message.functionId = functionId

structure Content (a : Answer) (reply : Reply) : Prop where
  errorCode : ∀ code ∈ a.errorCode, reply.message.errorCode = code
  tdiState : ∀ state ∈ a.tdiState, reply.message.tdiState = state

/-- The reply is the documented answer. -/
structure GivenBy (a : Answer) (functionId : UInt32) (reply : Reply) : Prop where
  received : reply.error = false
  size : a.size ≤ reply.size
  header : a.Header functionId reply
  content : a.Content reply

/-- What a setup function asks of a reply. -/
structure Accepts (a : Answer) (reply : Reply) : Prop where
  received : reply.error = false
  size : reply.size = a.size
  content : a.Content reply

end Answer

/-- Each answer is related to the reply at its place. -/
def Replies (env : Environment) (P : Answer → Reply → Prop) : ℕ → List Answer → Prop
  | _, [] => True
  | n, a :: as => P a (env.reply n) ∧ Replies env P (n + 1) as

theorem replies_append {env : Environment} {P : Answer → Reply → Prop} (n : ℕ)
    (as bs : List Answer) :
    Replies env P n (as ++ bs) ↔ Replies env P n as ∧ Replies env P (n + as.length) bs := by
  induction as generalizing n with
  | nil => simp [Replies]
  | cons a as ih =>
      rw [List.cons_append, Replies, ih, Replies, and_assoc, List.length_cons,
        Nat.add_right_comm n 1, Nat.add_assoc n]

theorem Replies.and {env : Environment} {P Q R : Answer → Reply → Prop} {n : ℕ}
    {as : List Answer} (hP : Replies env P n as) (hQ : Replies env Q n as)
    (h : ∀ a reply, P a reply → Q a reply → R a reply) : Replies env R n as := by
  induction as generalizing n with
  | nil => trivial
  | cons a as ih => exact ⟨h a _ hP.1 hQ.1, ih hP.2 hQ.2⟩

theorem Replies.imp {env : Environment} {P Q : Answer → Reply → Prop} {n : ℕ}
    {as : List Answer} (hP : Replies env P n as) (h : ∀ a reply, P a reply → Q a reply) :
    Replies env Q n as :=
  hP.and hP fun a reply hp _ => h a reply hp

/-- The documentation of a case: the answers of its setup, whether the setup sets up an IDE
stream, and the two answers of its steps. -/
structure Documentation where
  setup : List Answer
  ideStream : Bool
  tested : Answer
  final : Answer

def versionAnswer : Answer := ⟨typeVersion, versionResponseSize, none, none⟩
def capabilitiesAnswer : Answer := ⟨typeCapabilities, capabilitiesResponseSize, none, none⟩
def lockAnswer : Answer := ⟨typeLockInterfaceRsp, lockInterfaceResponseSize, none, none⟩
def startAnswer : Answer := ⟨typeStartInterfaceRsp, startInterfaceResponseSize, none, none⟩
def stopAnswer : Answer := ⟨typeStopInterfaceRsp, stopInterfaceResponseSize, none, none⟩
def stateAnswer (state : UInt8) : Answer :=
  ⟨typeInterfaceState, interfaceStateResponseSize, none, some state⟩
def errorAnswer (code : UInt32) : Answer := ⟨typeError, errorResponseSize, some code, none⟩

/-- The documented cases 3.1 to 3.4 and 6.1 to 6.4. -/
def documentation : CaseId → Option Documentation
  | .lockInterface1 => some
    ⟨[versionAnswer, capabilitiesAnswer, stateAnswer stateConfigUnlocked], true,
      lockAnswer, stateAnswer stateConfigLocked⟩
  | .lockInterface2 => some
    ⟨[versionAnswer, capabilitiesAnswer, stateAnswer stateConfigUnlocked], false,
      errorAnswer errorInvalidRequest, stateAnswer stateConfigUnlocked⟩
  | .lockInterface3 => some
    ⟨[versionAnswer, capabilitiesAnswer, lockAnswer, stateAnswer stateConfigLocked], true,
      errorAnswer errorInvalidInterfaceState, stateAnswer stateConfigLocked⟩
  | .lockInterface4 => some
    ⟨[versionAnswer, capabilitiesAnswer, lockAnswer, startAnswer, stateAnswer stateRun], true,
      errorAnswer errorInvalidInterfaceState, stateAnswer stateRun⟩
  | .startInterface1 => some
    ⟨[versionAnswer, capabilitiesAnswer, lockAnswer, stateAnswer stateConfigLocked], true,
      startAnswer, stateAnswer stateRun⟩
  | .startInterface2 => some
    ⟨[versionAnswer, capabilitiesAnswer, lockAnswer, stateAnswer stateConfigLocked], true,
      errorAnswer errorInvalidNonce, stateAnswer stateConfigLocked⟩
  | .startInterface3 => some
    ⟨[versionAnswer, capabilitiesAnswer, lockAnswer, stopAnswer,
        stateAnswer stateConfigUnlocked], true,
      errorAnswer errorInvalidInterfaceState, stateAnswer stateConfigUnlocked⟩
  | .startInterface4 => some
    ⟨[versionAnswer, capabilitiesAnswer, lockAnswer, startAnswer, stateAnswer stateRun], true,
      errorAnswer errorInvalidInterfaceState, stateAnswer stateRun⟩
  | _ => none

/-! ## Setup steps and documented answers -/

/-- The documented answer to the request of a step. -/
def SetupStep.answer : SetupStep → Option Answer
  | .getVersion => some versionAnswer
  | .getCapabilities => some capabilitiesAnswer
  | .lockInterface => some lockAnswer
  | .startInterface => some startAnswer
  | .stopInterface => some stopAnswer
  | .getState expected => some (stateAnswer expected)
  | .getVersionAnySize | .setIdeStream => none

theorem answer_accepts_iff {step : SetupStep} {a : Answer} (h : step.answer = some a)
    (env : Environment) (n k : ℕ) :
    step.outcome env n k = .next ↔ a.Accepts (env.reply n) := by
  have hsimple : ∀ size : ℕ, step.responseSize = some size → a.size = size →
      a.errorCode = none → a.tdiState = none →
      (step.answered (env.reply n) = true ↔ a.Accepts (env.reply n)) := by
    intro size hsize hasize hcode hstate
    rw [SetupStep.answered_eq step hsize, Bool.and_eq_true, Bool.not_eq_true', beq_iff_eq]
    constructor
    · intro hans
      exact ⟨hans.1, hans.2.trans hasize.symm, by simp [hcode], by simp [hstate]⟩
    · intro hacc
      exact ⟨hacc.received, hacc.size.trans hasize⟩
  cases step with
  | getVersion =>
      cases h
      simpa [SetupStep.outcome] using hsimple _ rfl rfl rfl rfl
  | getCapabilities =>
      cases h
      simpa [SetupStep.outcome] using hsimple _ rfl rfl rfl rfl
  | lockInterface =>
      cases h
      simpa [SetupStep.outcome] using hsimple _ rfl rfl rfl rfl
  | startInterface =>
      cases h
      simpa [SetupStep.outcome] using hsimple _ rfl rfl rfl rfl
  | stopInterface =>
      cases h
      simpa [SetupStep.outcome] using hsimple _ rfl rfl rfl rfl
  | getState expected =>
      cases h
      have hans := SetupStep.answered_eq (.getState expected) rfl (env.reply n)
      rw [SetupStep.outcome]
      cases hanswered : (SetupStep.getState expected).answered (env.reply n) with
      | false =>
          refine iff_of_false (by simp) fun hacc => ?_
          rw [hans, hacc.received, hacc.size] at hanswered
          simp [stateAnswer] at hanswered
      | true =>
          rw [hans, Bool.and_eq_true, Bool.not_eq_true', beq_iff_eq] at hanswered
          simp only [Bool.not_true, Bool.false_eq_true, if_false]
          constructor
          · intro hnext
            have hstate : (env.reply n).bytes 16 = expected := by
              by_contra hne
              simp [hne] at hnext
            refine ⟨hanswered.1, hanswered.2, by simp [stateAnswer], ?_⟩
            intro state hmem
            cases hmem
            exact hstate
          · intro hacc
            have hstate : (env.reply n).bytes 16 = expected := hacc.content.tdiState expected rfl
            simp [hstate]
  | getVersionAnySize => cases h
  | setIdeStream => cases h

/-- The setup steps succeed when every answer is accepted and every IDE stream is set up. -/
theorem outcome_eq_next_iff {steps : List SetupStep}
    (hsteps : SetupStep.getVersionAnySize ∉ steps) (env : Environment) (n k : ℕ) :
    outcome env n k steps = .next ↔
      Replies env Answer.Accepts n (steps.filterMap SetupStep.answer) ∧
        ∀ i < ideStreamCount steps, env.ideStream (k + i) = true := by
  induction steps generalizing n k with
  | nil => simp [outcome, Replies, ideStreamCount]
  | cons step steps ih =>
      have htail : SetupStep.getVersionAnySize ∉ steps := fun h =>
        hsteps (List.mem_cons_of_mem _ h)
      have hcons : outcome env n k (step :: steps) = .next ↔ step.outcome env n k = .next ∧
          outcome env (n + step.exchanges) (k + step.ideStreams) steps = .next := by
        rw [outcome]
        cases hstep : step.outcome env n k <;> simp
      rw [hcons, ih htail]
      cases hanswer : step.answer with
      | some a =>
          have hone : step.exchanges = 1 ∧ step.ideStreams = 0 := by
            cases step <;> first | exact ⟨rfl, rfl⟩ | cases hanswer
          rw [answer_accepts_iff hanswer, hone.1, hone.2, List.filterMap_cons_some hanswer,
            Replies, and_assoc]
          simp [ideStreamCount, hone.2]
      | none =>
          have hset : step = .setIdeStream := by
            cases step with
            | setIdeStream => rfl
            | getVersionAnySize => exact absurd List.mem_cons_self hsteps
            | _ => simp [SetupStep.answer] at hanswer
          subst hset
          rw [List.filterMap_cons_none hanswer]
          have hcount : ideStreamCount (SetupStep.setIdeStream :: steps) =
              ideStreamCount steps + 1 := by
            simp [ideStreamCount, SetupStep.ideStreams, Nat.add_comm]
          rw [hcount, and_left_comm]
          refine and_congr_right fun _ => ?_
          simp only [SetupStep.outcome, SetupStep.ideStreams]
          constructor
          · intro h i hi
            cases i with
            | zero =>
                by_contra hne
                simp at hne
                simp [hne] at h
            | succ i =>
                rw [Nat.add_comm i 1, ← Nat.add_assoc]
                exact h.2 i (Nat.lt_of_succ_lt_succ hi)
          · intro h
            refine ⟨by simpa using h 0 (Nat.succ_pos _), ?_⟩
            intro i hi
            rw [Nat.add_assoc, Nat.add_comm 1 i]
            exact h (i + 1) (Nat.succ_lt_succ hi)

/-! ## The records of a run function -/

/-- The records of a tested exchange whose reply is the `n`-th. -/
def exchangeRecords (env : Environment) (e : TestedExchange) (n : ℕ) : List Assertion :=
  if (env.reply n).error then [.check 0 false "tdisp_send_receive_data" []]
  else
    (if e.recordPassed then [.check 0 true "tdisp_send_receive_data" []] else []) ++
      .check 1 ((env.reply n).size == e.size) "sizeof(TdispMessage) = 0x%x"
        [(env.reply n).size] ::
      if (env.reply n).size == e.size then
        e.checks env.functionId ((env.reply n).response (env.stack n))
      else []

/-- The record of the closing state request whose reply is the `n`-th. -/
def finalRecord (env : Environment) (id : ℕ) (expected : UInt8) (n : ℕ) : Assertion :=
  if (env.reply n).error then .check id false "tdisp_test_get_state failed." []
  else stateCheck id expected ((env.reply n).response (env.stack n))

/-- The tested exchange goes on to the next step. -/
def TestedExchange.goesOn (e : TestedExchange) (reply : Reply) : Bool :=
  !reply.error && reply.size == e.size

def testedRecords (env : Environment) (e : TestedExchange) (id : ℕ) (expected : UInt8) (n : ℕ) :
    List Assertion :=
  exchangeRecords env e n ++
    if e.goesOn (env.reply n) then [finalRecord env id expected (n + 1)] else []

theorem runExchange_records (env : Environment) (c : CaseId) (e : TestedExchange) (w : World) :
    (runExchange env c e w).2.records = w.records ++ exchangeRecords env e w.exchanges := by
  rw [runExchange, exchange, exchangeRecords]
  cases herr : (env.reply w.exchanges).error with
  | true => rfl
  | false =>
      by_cases hsize : (env.reply w.exchanges).size = e.size <;>
        cases e.recordPassed <;> simp [Reply.response, hsize]

theorem runFinalState_records (env : Environment) (id : ℕ) (expected : UInt8) (w : World) :
    (runFinalState env id expected w).records =
      w.records ++ [finalRecord env id expected w.exchanges] := by
  rw [runFinalState, tdispTestGetState, exchange, finalRecord]
  cases herr : (env.reply w.exchanges).error <;> rfl

theorem runExchange_requests (env : Environment) (c : CaseId) (e : TestedExchange) (w : World) :
    (runExchange env c e w).2.requests = w.requests ++ [(.run, e.request (w.statics c))] := by
  rw [runExchange, exchange]
  cases herr : (env.reply w.exchanges).error with
  | true => rfl
  | false =>
      simp only [Bool.false_eq_true, if_false]
      split_ifs <;> rfl

theorem runFinalState_requests (env : Environment) (id : ℕ) (expected : UInt8) (w : World) :
    (runFinalState env id expected w).requests =
      w.requests ++ [(.run, .getInterfaceState)] := by
  rw [runFinalState, tdispTestGetState, exchange]
  cases herr : (env.reply w.exchanges).error <;> rfl

/-- A run function of two steps returns; this is what it records and that it sends. -/
theorem runSteps_tested (env : Environment) (c : CaseId) (fuel : ℕ) (e : TestedExchange)
    (id : ℕ) (expected : UInt8) (w : World) :
    ∃ v ts, runSteps env c fuel [.exchange e, .finalState id expected] w = some v ∧
      v.records = w.records ++ testedRecords env e id expected w.exchanges ∧
      v.requests = w.requests ++ (.run, e.request (w.statics c)) :: ts := by
  have hgo : (runExchange env c e w).1 = e.goesOn (env.reply w.exchanges) :=
    runExchange_fst env c e w
  rw [runSteps, testedRecords]
  dsimp only
  rw [hgo]
  cases e.goesOn (env.reply w.exchanges) with
  | false =>
      refine ⟨(runExchange env c e w).2, [], rfl, ?_, runExchange_requests env c e w⟩
      simpa using runExchange_records env c e w
  | true =>
      refine ⟨_, [(.run, .getInterfaceState)], rfl, ?_, ?_⟩
      · rw [runFinalState_records, runExchange_records, runExchange_exchanges,
          List.append_assoc]
        rfl
      · rw [runFinalState_requests, runExchange_requests, List.append_assoc]
        rfl

/-! ## Documented cases -/

/-- The checks of a tested exchange are those of a documented answer, and read no byte
behind an answer of its size. -/
structure Tests (e : TestedExchange) (a : Answer) : Prop where
  size : e.size = a.size
  received : ∀ functionId (reply : Reply) stack, reply.size = e.size →
    e.checks functionId (reply.response stack) = e.checks functionId reply.message
  test : ∀ functionId r, ∀ x ∈ e.checks functionId r, x.type = .test
  checks : ∀ functionId (reply : Reply),
    (∀ x ∈ e.checks functionId reply.message, x.result ≠ .failed) ↔
      a.Header functionId reply ∧ a.Content reply

/-- The steps of a case ask for the answers of its documentation. -/
structure Documents (case : Case) (doc : Documentation) : Prop where
  setup : case.setup.filterMap SetupStep.answer = doc.setup
  versionSize : SetupStep.getVersionAnySize ∉ case.setup
  setupEnd : case.setupEnd = .setIdeStream ∧ ideStreamCount case.setup = 0 ∧
      doc.ideStream = true ∨
    case.setupEnd = .succeed ∧ ideStreamCount case.setup = if doc.ideStream then 1 else 0
  run : ∃ e id expected, case.run = [.exchange e, .finalState id expected] ∧
    Tests e doc.tested ∧ doc.final = stateAnswer expected

theorem response_bytes {reply : Reply} {i : ℕ} (h : i < reply.size) (stack : ℕ → UInt8) :
    (reply.response stack).bytes i = reply.message.bytes i := by
  simp [Reply.response, Reply.message, h]

theorem response_headerChecks {reply : Reply} (h : 8 ≤ reply.size) (stack : ℕ → UInt8)
    (messageType : UInt8) (functionId : UInt32) :
    headerChecks messageType functionId (reply.response stack) =
      headerChecks messageType functionId reply.message := by
  have hbytes : ∀ i < 8, (reply.response stack).bytes i = reply.message.bytes i := fun i hi =>
    response_bytes (by omega) stack
  simp only [headerChecks, Response.version, Response.messageType, Response.functionId, le32,
    le16, hbytes, Nat.reduceLT, Nat.reduceAdd]

theorem check_result (id : ℕ) (res : Bool) (format : String) (values : List ℕ) :
    (Assertion.check id res format values).result ≠ .failed ↔ res = true := by
  cases res <;> simp [Assertion.check]

theorem headerChecks_passed_iff (messageType : UInt8) (functionId : UInt32) (r : Response) :
    (∀ x ∈ headerChecks messageType functionId r, x.result ≠ .failed) ↔
      r.version = tdispMessageVersion10 ∧ r.messageType = messageType ∧
        r.functionId = functionId := by
  simp [headerChecks, check_result]

theorem tests_response {a : Answer} (hcode : a.errorCode = none) (hstate : a.tdiState = none)
    (hsize : 8 ≤ a.size) (request : Statics → Request) (recordPassed : Bool) :
    Tests ⟨request, recordPassed, a.size, headerChecks a.messageType⟩ a where
  size := rfl
  received functionId reply stack h := response_headerChecks (h ▸ hsize) stack _ _
  test functionId r x hx := by
    simp only [headerChecks, List.mem_cons, List.not_mem_nil, or_false] at hx
    rcases hx with rfl | rfl | rfl <;> rfl
  checks functionId reply := by
    dsimp only
    rw [headerChecks_passed_iff]
    constructor
    · intro h
      exact ⟨⟨h.1, h.2.1, h.2.2⟩, by simp [hcode], by simp [hstate]⟩
    · intro h
      exact ⟨h.1.version, h.1.messageType, h.1.functionId⟩

theorem tests_error (code : UInt32) (request : Statics → Request) (recordPassed : Bool) :
    Tests ⟨request, recordPassed, errorResponseSize, errorChecks code⟩ (errorAnswer code) where
  size := rfl
  received functionId reply stack h := by
    have hsize : reply.size = 24 := h
    have hbytes : ∀ i < 24, (reply.response stack).bytes i = reply.message.bytes i :=
      fun i hi => response_bytes (by omega) stack
    simp only [errorChecks, response_headerChecks (by omega : 8 ≤ reply.size),
      Response.errorCode, le32, le16, hbytes, Nat.reduceLT, Nat.reduceAdd]
  test functionId r x hx := by
    simp only [errorChecks, headerChecks, List.cons_append, List.nil_append, List.mem_cons,
      List.not_mem_nil, or_false] at hx
    rcases hx with rfl | rfl | rfl | rfl <;> rfl
  checks functionId reply := by
    simp only [errorChecks, List.forall_mem_append, headerChecks_passed_iff,
      List.forall_mem_singleton, check_result, beq_iff_eq]
    constructor
    · intro h
      refine ⟨⟨h.1.1, h.1.2.1, h.1.2.2⟩, ?_, by simp [errorAnswer]⟩
      intro c hc
      cases hc
      exact h.2
    · intro h
      exact ⟨⟨h.1.version, h.1.messageType, h.1.functionId⟩, h.2.errorCode code rfl⟩

theorem documents_case {c : CaseId} {doc : Documentation} (h : documentation c = some doc)
    (env : Environment) : Documents (c.case env) doc := by
  cases c <;> cases h
  all_goals refine ⟨rfl, by simp [CaseId.case, lock, negotiate], ?_, _, _, _, rfl, ?_, rfl⟩
  case lockInterface1.refl.refine_1 => exact Or.inl ⟨rfl, rfl, rfl⟩
  case lockInterface1.refl.refine_2 =>
    exact tests_response (a := lockAnswer) rfl rfl (by decide) lockRequest true
  case startInterface1.refl.refine_2 =>
    exact tests_response (a := startAnswer) rfl rfl (by decide) startRequest true
  all_goals first | exact Or.inr ⟨rfl, rfl⟩ | exact tests_error _ _ _

/-! ## Entering the run -/

/-- What has to hold for the run function to be called: every setup answer is accepted, and
the IDE stream of the setup is set up. -/
structure Run.Enters (run : Run) (doc : Documentation) (env : Environment) (w : World) :
    Prop where
  entered : run.entered = true
  ideStream : doc.ideStream = true → env.ideStream w.ideStreams = true
  accepted : Replies env Answer.Accepts w.exchanges doc.setup

theorem Documents.exchangeCount_eq {case : Case} {doc : Documentation}
    (h : Documents case doc) : exchangeCount case.setup = doc.setup.length := by
  rw [← h.setup]
  have hsize := h.versionSize
  generalize case.setup = steps at hsize
  induction steps with
  | nil => rfl
  | cons step steps ih =>
      have htail := ih fun hmem => hsize (List.mem_cons_of_mem _ hmem)
      rw [exchangeCount, List.map_cons, List.sum_cons]
      rw [exchangeCount] at htail
      cases step with
      | getVersionAnySize => exact absurd List.mem_cons_self hsize
      | setIdeStream => rw [List.filterMap_cons_none rfl, SetupStep.exchanges, Nat.zero_add, htail]
      | _ => simp [SetupStep.exchanges, SetupStep.answer, htail, Nat.add_comm]

/-- A setup function goes on to the run function exactly when its answers are accepted. -/
theorem Documents.goesOn_iff {case : Case} {doc : Documentation} (h : Documents case doc)
    (env : Environment) (n k : ℕ) :
    (case.succeeds env n k = true ∧ outcome env n k case.setup ≠ .skip) ↔
      (doc.ideStream = true → env.ideStream k = true) ∧ Replies env Answer.Accepts n doc.setup := by
  have hnext := outcome_eq_next_iff h.versionSize env n k
  rw [h.setup] at hnext
  have hsucceeds : (case.succeeds env n k = true ∧ outcome env n k case.setup ≠ .skip) ↔
      outcome env n k case.setup = .next ∧
        (case.setupEnd = .setIdeStream →
          env.ideStream (k + ideStreamCount (attempted env n k case.setup)) = true) := by
    rw [Case.succeeds]
    cases hout : outcome env n k case.setup with
    | failed => simp
    | skip => simp
    | next => cases case.setupEnd <;> simp
  rw [hsucceeds]
  rcases h.setupEnd with ⟨hend, hcount, hdoc⟩ | ⟨hend, hcount⟩
  · -- The IDE stream is set up at the end of the setup function.
    constructor
    · intro hgo
      refine ⟨fun _ => ?_, (hnext.mp hgo.1).1⟩
      have hide := hgo.2 hend
      rwa [attempted_of_next hgo.1, hcount] at hide
    · intro hgo
      have hout := hnext.mpr ⟨hgo.2, by simp [hcount]⟩
      refine ⟨hout, fun _ => ?_⟩
      rw [attempted_of_next hout, hcount]
      exact hgo.1 hdoc
  · have hide : (∀ i < ideStreamCount case.setup, env.ideStream (k + i) = true) ↔
        (doc.ideStream = true → env.ideStream k = true) := by
      rw [hcount]
      cases doc.ideStream <;> simp
    rw [hnext, hide, hend]
    simp [and_comm]

theorem teardownFunc_records (case : Case) (env : Environment) (c : CaseId) (w : World) :
    (case.teardownFunc env c w).records = w.records := by
  rw [Case.teardownFunc]
  cases case.setupEnd <;> cases (w.statics c).setupSuccess <;> rfl

theorem mem_teardownRequests {stops : Bool} {q : Phase × Request}
    (h : q ∈ teardownRequests stops) : q.1 = .teardown := by
  cases stops <;> simp_all [teardownRequests]

/-- The run function is not called: nothing is recorded. -/
theorem execute_of_not_enters {run : Run} {doc : Documentation} {env : Environment}
    (hdoc : Documents (run.case.case env) doc) {w : World} (h : ¬ run.Enters doc env w)
    (fuel : ℕ) :
    ∃ v, run.execute env fuel w = some v ∧ v.records = [] ∧ ∀ q ∈ sent w v, q.1 ≠ .run := by
  cases hentered : run.entered with
  | false =>
      refine ⟨_, Run.execute_eq_of_not_entered hentered env fuel w, rfl, ?_⟩
      simp [sent]
  | true =>
      have hsetup := setupFunc_spec (run.case.case env) env run.case (run.start w)
      have hgo := hdoc.goesOn_iff env w.exchanges w.ideStreams
      have hstop : ¬ ((run.case.case env).succeeds env w.exchanges w.ideStreams = true ∧
          outcome env w.exchanges w.ideStreams (run.case.case env).setup ≠ .skip) :=
        fun hsucceeds => h ⟨hentered, (hgo.mp hsucceeds).1, (hgo.mp hsucceeds).2⟩
      rw [Run.execute_eq_of_entered hentered]
      dsimp only
      generalize (run.case.case env).setupFunc env run.case (run.start w) = r at hsetup
      rcases hsetup.requests with ⟨rs, hrs, hphase, -⟩
      have hsent : ∀ action, ∀ q ∈ sent w ((run.case.case env).teardownFunc env run.case
          { r.2 with action := action }), q.1 ≠ .run := by
        intro action q hq
        rw [sent, teardownFunc_requests, hrs, Run.start_requests, List.append_assoc,
          List.drop_left] at hq
        rcases List.mem_append.mp hq with hq | hq
        · simp [hphase q hq]
        · simp [mem_teardownRequests hq]
      by_cases hret : r.1 = false
      · rw [if_pos hret]
        refine ⟨_, rfl, ?_, hsent _⟩
        rw [teardownFunc_records]
        exact hsetup.records
      · have hskip : r.2.action = .skip := by
          have hout : outcome env w.exchanges w.ideStreams (run.case.case env).setup = .skip := by
            by_contra hne
            rw [hsetup.result, Bool.not_eq_false] at hret
            exact hstop ⟨hret, hne⟩
          rw [hsetup.action, Run.start_exchanges, Run.start_ideStreams, if_pos hout]
        rw [if_neg hret, if_pos hskip]
        refine ⟨_, rfl, ?_, hsent r.2.action⟩
        rw [teardownFunc_records]
        exact hsetup.records

/-- The run function is called: it sends a request, and the records are its own. -/
theorem execute_of_enters {run : Run} {doc : Documentation} {env : Environment}
    (hdoc : Documents (run.case.case env) doc) {e : TestedExchange} {id : ℕ} {expected : UInt8}
    (hrun : (run.case.case env).run = [.exchange e, .finalState id expected]) {w : World}
    (h : run.Enters doc env w) (fuel : ℕ) :
    ∃ v, run.execute env fuel w = some v ∧
      v.records = testedRecords env e id expected (w.exchanges + doc.setup.length) ∧
      ∃ q ∈ sent w v, q.1 = .run := by
  have hsetup := setupFunc_spec (run.case.case env) env run.case (run.start w)
  have hgo := (hdoc.goesOn_iff env w.exchanges w.ideStreams).mpr ⟨h.ideStream, h.accepted⟩
  have hnext : outcome env w.exchanges w.ideStreams (run.case.case env).setup = .next := by
    have hsucceeds := hgo.1
    rw [Case.succeeds] at hsucceeds
    cases hout : outcome env w.exchanges w.ideStreams (run.case.case env).setup with
    | next => rfl
    | failed => simp [hout] at hsucceeds
    | skip => exact absurd hout hgo.2
  have hentered := h.entered
  rw [Run.execute_eq_of_entered hentered]
  dsimp only
  generalize (run.case.case env).setupFunc env run.case (run.start w) = r at hsetup
  rcases hsetup.requests with ⟨rs, hrs, -, -⟩
  have hret : r.1 = true := hsetup.result.trans hgo.1
  have haction : r.2.action = .run := by
    rw [hsetup.action, Run.start_exchanges, Run.start_ideStreams, hnext]
    simp only [Run.entered, Bool.and_eq_true, beq_iff_eq] at hentered
    exact hentered.1.1
  have hexchanges : r.2.exchanges = w.exchanges + doc.setup.length := by
    rw [hsetup.exchanges, Run.start_exchanges, Run.start_ideStreams, attempted_of_next hnext,
      hdoc.exchangeCount_eq]
  rw [if_neg (by simp [hret]), if_neg (by simp [haction]), hrun]
  rcases runSteps_tested env run.case fuel e id expected r.2 with
    ⟨v, ts, hv, hrecords, hrequests⟩
  refine ⟨_, by rw [hv, Option.map_some], ?_, (.run, e.request (r.2.statics run.case)), ?_, rfl⟩
  · rw [teardownFunc_records, hrecords, hsetup.records, hexchanges]
    rfl
  · rw [sent, teardownFunc_requests, hrequests, hrs, Run.start_requests]
    simp

/-! ## Passing -/

theorem exchangeRecords_passed_iff {e : TestedExchange} {a : Answer} (ht : Tests e a)
    (env : Environment) (n : ℕ) :
    (∀ x ∈ exchangeRecords env e n, x.result ≠ .failed) ↔
      a.Accepts (env.reply n) ∧ a.Header env.functionId (env.reply n) := by
  rw [exchangeRecords]
  cases herr : (env.reply n).error with
  | true =>
      refine iff_of_false (by simp [check_result]) fun h => ?_
      exact Bool.false_ne_true (h.1.received.symm.trans herr)
  | false =>
      have hfirst : ∀ x ∈ (if e.recordPassed then
          [Assertion.check 0 true "tdisp_send_receive_data" []] else []),
          x.result ≠ .failed := by
        cases e.recordPassed <;> simp [check_result]
      by_cases hsize : (env.reply n).size = e.size
      · have hchecks := ht.checks env.functionId (env.reply n)
        rw [← ht.received env.functionId (env.reply n) (env.stack n) hsize] at hchecks
        simp only [Bool.false_eq_true, if_false, hsize, beq_self_eq_true, if_true,
          List.forall_mem_append, List.forall_mem_cons, check_result, hchecks]
        constructor
        · intro h
          exact ⟨⟨herr, hsize.trans ht.size, h.2.2.2⟩, h.2.2.1⟩
        · intro h
          exact ⟨hfirst, trivial, h.2, h.1.content⟩
      · refine iff_of_false ?_ fun h => hsize (h.1.size.trans ht.size.symm)
        intro h
        have hrecord := h (.check 1 ((env.reply n).size == e.size)
          "sizeof(TdispMessage) = 0x%x" [(env.reply n).size]) (by simp)
        rw [check_result, beq_iff_eq] at hrecord
        exact hsize hrecord

theorem exchangeRecords_test {e : TestedExchange} {a : Answer} (ht : Tests e a)
    (env : Environment) (n : ℕ) : ∀ x ∈ exchangeRecords env e n, x.type = .test := by
  intro x hx
  rw [exchangeRecords] at hx
  split at hx
  · rw [List.mem_singleton.mp hx]
    rfl
  · rcases List.mem_append.mp hx with hx | hx
    · split at hx
      · rw [List.mem_singleton.mp hx]
        rfl
      · cases hx
    · rcases List.mem_cons.mp hx with rfl | hx
      · rfl
      · split at hx
        · exact ht.test _ _ x hx
        · cases hx

theorem finalRecord_passed_iff (env : Environment) (id : ℕ) (expected : UInt8) (n : ℕ) :
    (finalRecord env id expected n).result ≠ .failed ↔ (env.reply n).error = false ∧
      ((env.reply n).response (env.stack n)).tdiState = expected := by
  rw [finalRecord]
  cases herr : (env.reply n).error with
  | true => simp [check_result]
  | false => simp [stateCheck, check_result]

theorem finalRecord_test (env : Environment) (id : ℕ) (expected : UInt8) (n : ℕ) :
    (finalRecord env id expected n).type = .test := by
  rw [finalRecord]
  split <;> rfl

/-- The records of a run function give a pass exactly when the tested answer and the closing
state pass their checks. -/
theorem testedRecords_pass_iff {e : TestedExchange} {a : Answer} (ht : Tests e a)
    (env : Environment) (id : ℕ) (expected : UInt8) (n : ℕ) :
    testCaseResult (testedRecords env e id expected n) = .pass ↔
      (a.Accepts (env.reply n) ∧ a.Header env.functionId (env.reply n)) ∧
        (env.reply (n + 1)).error = false ∧
        ((env.reply (n + 1)).response (env.stack (n + 1))).tdiState = expected := by
  rw [testCaseResult_eq_pass_iff, ← exchangeRecords_passed_iff ht,
    ← finalRecord_passed_iff env id expected, testedRecords]
  constructor
  · intro h
    have hexchange : ∀ x ∈ exchangeRecords env e n, x.result ≠ .failed := fun x hx =>
      h.1 x (List.mem_append_left _ hx) (exchangeRecords_test ht env n x hx)
    have hacc := ((exchangeRecords_passed_iff ht env n).mp hexchange).1
    have hgo : e.goesOn (env.reply n) = true := by
      simp [TestedExchange.goesOn, hacc.received, hacc.size, ht.size]
    refine ⟨hexchange, h.1 _ ?_ (finalRecord_test env id expected (n + 1))⟩
    simp [hgo]
  · intro h
    have hacc := ((exchangeRecords_passed_iff ht env n).mp h.1).1
    have hgo : e.goesOn (env.reply n) = true := by
      simp [TestedExchange.goesOn, hacc.received, hacc.size, ht.size]
    rw [hgo, if_pos rfl]
    refine ⟨?_, finalRecord env id expected (n + 1), by simp,
      finalRecord_test env id expected (n + 1), ?_⟩
    · intro x hx _
      rcases List.mem_append.mp hx with hx | hx
      · exact h.1 x hx
      · rw [List.mem_singleton.mp hx]
        exact h.2
    · have hfinal := (finalRecord_passed_iff env id expected (n + 1)).mp h.2
      simp [finalRecord, hfinal.1, stateCheck, Assertion.check, hfinal.2]

/-! ## Bytes behind the received ones -/

def Environment.withStack (env : Environment) (stack : ℕ → ℕ → UInt8) : Environment :=
  { env with stack }

theorem case_withStack (env : Environment) (stack : ℕ → ℕ → UInt8) (c : CaseId) :
    c.case (env.withStack stack) = c.case env := by
  cases c <;> rfl

theorem replies_withStack (env : Environment) (stack : ℕ → ℕ → UInt8)
    (P : Answer → Reply → Prop) (n : ℕ) (as : List Answer) :
    Replies (env.withStack stack) P n as ↔ Replies env P n as := by
  induction as generalizing n with
  | nil => exact Iff.rfl
  | cons a as ih => exact and_congr_right fun _ => ih (n + 1)

theorem enters_withStack {run : Run} {doc : Documentation} {env : Environment}
    {stack : ℕ → ℕ → UInt8} {w : World} :
    run.Enters doc (env.withStack stack) w ↔ run.Enters doc env w := by
  constructor
  · intro h
    exact ⟨h.entered, h.ideStream, (replies_withStack env stack _ _ _).mp h.accepted⟩
  · intro h
    exact ⟨h.entered, h.ideStream, (replies_withStack env stack _ _ _).mpr h.accepted⟩

theorem exchangeRecords_withStack {e : TestedExchange} {a : Answer} (ht : Tests e a)
    (env : Environment) (stack : ℕ → ℕ → UInt8) (n : ℕ) :
    exchangeRecords (env.withStack stack) e n = exchangeRecords env e n := by
  rw [exchangeRecords, exchangeRecords]
  by_cases hsize : (env.reply n).size = e.size
  · have hchecks := ht.received env.functionId (env.reply n)
    simp only [Environment.withStack, hchecks _ hsize]
  · simp [Environment.withStack, hsize]

theorem finalRecord_withStack (env : Environment) (stack : ℕ → ℕ → UInt8) (id : ℕ)
    (expected : UInt8) (n : ℕ)
    (h : (env.reply n).error = false → interfaceStateResponseSize ≤ (env.reply n).size) :
    finalRecord (env.withStack stack) id expected n = finalRecord env id expected n := by
  rw [finalRecord, finalRecord]
  cases herr : (env.reply n).error with
  | true => simp [Environment.withStack, herr]
  | false =>
      have hsize : 16 < (env.reply n).size := h herr
      simp [Environment.withStack, herr, stateCheck, Response.tdiState, Reply.response, hsize]

/-! ## The claim on a case and its condition -/

/-- The identifiers and results of the recorded assertions. -/
def results (v : World) : List (ℕ × TestResult) := v.records.map fun a => (a.id, a.result)

/-- What a documented case promises of its verdict. -/
structure Run.Sound (run : Run) (doc : Documentation) (env : Environment) (fuel : ℕ)
    (w : World) : Prop where
  pass : ∀ v, run.execute env fuel w = some v → testCaseResult v.records = .pass →
    Replies env (fun a reply => a.GivenBy env.functionId reply) w.exchanges
      (doc.setup ++ [doc.tested, doc.final])
  received : ∀ stack, (run.execute (env.withStack stack) fuel w).map results =
    (run.execute env fuel w).map results
  entered : ∀ v, run.execute env fuel w = some v → (∃ q ∈ sent w v, q.1 = .run) →
    Replies env (fun a reply => a.GivenBy env.functionId reply) w.exchanges doc.setup

/-- The conditions on the replies that the case does not check itself, each at the point
where the case relies on it. -/
structure Run.Conforming (run : Run) (doc : Documentation) (env : Environment) (w : World) :
    Prop where
  setup : run.Enters doc env w →
    Replies env (fun a reply => a.Header env.functionId reply) w.exchanges doc.setup
  finalSize : run.Enters doc env w →
    (env.reply (w.exchanges + doc.setup.length)).error = false →
    (env.reply (w.exchanges + doc.setup.length)).size = doc.tested.size →
    (env.reply (w.exchanges + doc.setup.length + 1)).error = false →
    doc.final.size ≤ (env.reply (w.exchanges + doc.setup.length + 1)).size
  finalHeader : run.Enters doc env w →
    doc.tested.Accepts (env.reply (w.exchanges + doc.setup.length)) →
    doc.tested.Header env.functionId (env.reply (w.exchanges + doc.setup.length)) →
    (env.reply (w.exchanges + doc.setup.length + 1)).error = false →
    doc.final.Content (env.reply (w.exchanges + doc.setup.length + 1)) →
    doc.final.Header env.functionId (env.reply (w.exchanges + doc.setup.length + 1))

theorem stateAnswer_content_iff (state : UInt8) (reply : Reply) :
    (stateAnswer state).Content reply ↔ reply.message.tdiState = state := by
  constructor
  · intro h
    exact h.tdiState state rfl
  · intro h
    refine ⟨by simp [stateAnswer], ?_⟩
    intro s hs
    cases hs
    exact h

theorem response_tdiState {reply : Reply} (h : interfaceStateResponseSize ≤ reply.size)
    (stack : ℕ → UInt8) : (reply.response stack).tdiState = reply.message.tdiState :=
  response_bytes h stack

theorem givenBy_setup {run : Run} {doc : Documentation} {env : Environment} {w : World}
    (h : run.Enters doc env w)
    (hheader : Replies env (fun a reply => a.Header env.functionId reply) w.exchanges doc.setup) :
    Replies env (fun a reply => a.GivenBy env.functionId reply) w.exchanges doc.setup :=
  h.accepted.and hheader fun _ _ hacc hhead =>
    ⟨hacc.received, hacc.size.ge, hhead, hacc.content⟩

section
variable {run : Run} {doc : Documentation} {env : Environment} {w : World}
  (hdoc : Documents (run.case.case env) doc) {e : TestedExchange} {id : ℕ} {expected : UInt8}
  (hrun : (run.case.case env).run = [.exchange e, .finalState id expected])
  (ht : Tests e doc.tested) (hfinal : doc.final = stateAnswer expected)

include hdoc hrun ht hfinal

theorem sound_of_conforming (h : run.Conforming doc env w) (fuel : ℕ) :
    run.Sound doc env fuel w := by
  by_cases henters : run.Enters doc env w
  · rcases execute_of_enters hdoc hrun henters fuel with ⟨v, hv, hrecords, -⟩
    have hsetup := givenBy_setup henters (h.setup henters)
    refine ⟨?_, ?_, fun _ _ _ => hsetup⟩
    · intro u hu hpass
      cases hv.symm.trans hu
      rw [hrecords, testedRecords_pass_iff ht] at hpass
      rcases hpass with ⟨⟨hacc, hheader⟩, herr, hstate⟩
      have hsize := h.finalSize henters hacc.received hacc.size herr
      rw [hfinal] at hsize
      rw [response_tdiState hsize] at hstate
      have hcontent : doc.final.Content (env.reply (w.exchanges + doc.setup.length + 1)) := by
        rw [hfinal, stateAnswer_content_iff]
        exact hstate
      rw [replies_append]
      refine ⟨hsetup, ⟨hacc.received, hacc.size.ge, hheader, hacc.content⟩, ?_, trivial⟩
      exact ⟨herr, hfinal ▸ hsize, h.finalHeader henters hacc hheader herr hcontent, hcontent⟩
    · intro stack
      rw [← case_withStack env stack] at hdoc hrun
      rcases execute_of_enters hdoc hrun (enters_withStack.mpr henters) fuel with
        ⟨u, hu, hurecords, -⟩
      rw [hv, hu, Option.map_some, Option.map_some, results, results, hrecords, hurecords,
        testedRecords, testedRecords, exchangeRecords_withStack ht]
      cases hgo : e.goesOn (env.reply (w.exchanges + doc.setup.length)) with
      | false => simp [Environment.withStack, hgo]
      | true =>
          have hreply : (!(env.reply (w.exchanges + doc.setup.length)).error &&
              (env.reply (w.exchanges + doc.setup.length)).size == e.size) = true := hgo
          rw [Bool.and_eq_true, Bool.not_eq_true', beq_iff_eq] at hreply
          rw [finalRecord_withStack]
          · simp [Environment.withStack, hgo]
          · intro herr
            have hsize := h.finalSize henters hreply.1 (hreply.2.trans ht.size) herr
            rwa [hfinal] at hsize
  · rcases execute_of_not_enters hdoc henters fuel with ⟨v, hv, hrecords, hsent⟩
    refine ⟨?_, ?_, ?_⟩
    · intro u hu hpass
      cases hv.symm.trans hu
      rw [hrecords] at hpass
      cases hpass
    · intro stack
      rw [← case_withStack env stack] at hdoc
      rcases execute_of_not_enters hdoc (mt enters_withStack.mp henters) fuel with
        ⟨u, hu, hurecords, -⟩
      rw [hv, hu, Option.map_some, Option.map_some, results, results, hrecords, hurecords]
    · intro u hu hmem
      cases hv.symm.trans hu
      rcases hmem with ⟨q, hq, hphase⟩
      exact absurd hphase (hsent q hq)

theorem conforming_of_sound {fuel : ℕ} (h : run.Sound doc env fuel w) :
    run.Conforming doc env w := by
  have hfinalSize : run.Enters doc env w →
      (env.reply (w.exchanges + doc.setup.length)).error = false →
      (env.reply (w.exchanges + doc.setup.length)).size = doc.tested.size →
      (env.reply (w.exchanges + doc.setup.length + 1)).error = false →
      doc.final.size ≤ (env.reply (w.exchanges + doc.setup.length + 1)).size := by
    intro henters herr hsize hferr
    by_contra hshort
    have hlt : ¬ 16 < (env.reply (w.exchanges + doc.setup.length + 1)).size := by
      rw [hfinal] at hshort
      exact hshort
    have hgo : e.goesOn (env.reply (w.exchanges + doc.setup.length)) = true := by
      simp [TestedExchange.goesOn, herr, hsize, ht.size]
    -- The verdict on the final state is the one on the byte that the buffer held before.
    have hresults : ∀ state : UInt8,
        (run.execute env fuel w).map results = some
          ((exchangeRecords env e (w.exchanges + doc.setup.length)).map
            (fun a => (a.id, a.result)) ++ [(id, .ofBool (state == expected))]) := by
      intro state
      rw [← h.received fun _ _ => state]
      rw [← case_withStack env fun _ _ => state] at hdoc hrun
      rcases execute_of_enters hdoc hrun (enters_withStack.mpr henters) fuel with
        ⟨u, hu, hurecords, -⟩
      rw [hu, Option.map_some, results, hurecords, testedRecords, exchangeRecords_withStack ht]
      simp [Environment.withStack, hgo, finalRecord, hferr, stateCheck, Response.tdiState,
        Reply.response, hlt, Assertion.check]
    have hsame := (hresults expected).symm.trans (hresults (expected + 1))
    have hne : (expected + 1 == expected) = false := by
      rw [beq_eq_false_iff_ne]
      simp
    simp [hne, TestResult.ofBool] at hsame
  refine ⟨?_, hfinalSize, ?_⟩
  · intro henters
    rcases execute_of_enters hdoc hrun henters fuel with ⟨v, hv, -, hsent⟩
    exact (h.entered v hv hsent).imp fun a reply hgiven => hgiven.header
  · intro henters hacc hheader herr hcontent
    rcases execute_of_enters hdoc hrun henters fuel with ⟨v, hv, hrecords, -⟩
    have hsize := hfinalSize henters hacc.received hacc.size herr
    rw [hfinal] at hsize
    have hpass : testCaseResult v.records = .pass := by
      rw [hrecords, testedRecords_pass_iff ht]
      refine ⟨⟨hacc, hheader⟩, herr, ?_⟩
      rw [response_tdiState hsize, ← stateAnswer_content_iff, ← hfinal]
      exact hcontent
    have hgiven := h.pass v hv hpass
    rw [replies_append] at hgiven
    exact hgiven.2.2.1.header

end

/-- A lock-interface or start-interface case keeps its promise exactly when the replies meet
the conditions that it does not check. -/
theorem verdict_iff {run : Run} {doc : Documentation} (h : documentation run.case = some doc)
    (env : Environment) (fuel : ℕ) (w : World) :
    run.Sound doc env fuel w ↔ run.Conforming doc env w := by
  have hdoc := documents_case h env
  rcases hdoc.run with ⟨e, id, expected, hrun, ht, hfinal⟩
  constructor
  · intro hsound
    exact conforming_of_sound hdoc hrun ht hfinal hsound
  · intro hconforming
    exact sound_of_conforming hdoc hrun ht hfinal hconforming fuel

/-- A device whose replies have these sizes, message types and values of the byte at offset
16, and version 1.0 and function id 0. -/
def answering (answers : List (ℕ × UInt8 × UInt8)) : Environment where
  functionId := 0
  reply n := match answers[n]? with
    | some (size, messageType, content) =>
      ⟨false, size, fun i =>
        if i = 0 then tdispMessageVersion10 else if i = 1 then messageType
        else if i = 16 then content else 0⟩
    | none => ⟨true, 0, fun _ => 0⟩
  stack _ _ := 0
  ideStream _ := true
  reportStack _ := 0
  portionLen := 0
  reportMaxSize := 0

def lockInterface2Documentation : Documentation :=
  ⟨[versionAnswer, capabilitiesAnswer, stateAnswer stateConfigUnlocked], false,
    errorAnswer errorInvalidRequest, stateAnswer stateConfigUnlocked⟩

theorem lockInterface2_sound :
    (Run.of .lockInterface2).Sound lockInterface2Documentation
      (answering [(18, 0x01, 0), (44, 0x02, 0), (17, 0x05, 0), (24, 0x7F, 1), (17, 0x05, 0)])
      0 initialWorld := by
  apply (verdict_iff rfl _ 0 _).mpr
  refine ⟨?_, ?_, ?_⟩
  · intro _
    exact ⟨⟨rfl, rfl, rfl⟩, ⟨rfl, rfl, rfl⟩, ⟨rfl, rfl, rfl⟩, trivial⟩
  · intro _ _ _ _
    decide
  · intro _ _ _ _ _
    exact ⟨rfl, rfl, rfl⟩

/-- The first device passes although its closing state answer ends before the state. The
second one answers `GET_TDISP_VERSION` with an error message of the right size, and the run
is entered. -/
theorem lockInterface2_unsound :
    ¬ (Run.of .lockInterface2).Sound lockInterface2Documentation
        (answering [(18, 0x01, 0), (44, 0x02, 0), (17, 0x05, 0), (24, 0x7F, 1), (16, 0x05, 0)])
        0 initialWorld ∧
      ¬ (Run.of .lockInterface2).Sound lockInterface2Documentation
        (answering [(18, 0x7F, 0), (44, 0x02, 0), (17, 0x05, 0), (24, 0x7F, 1), (17, 0x05, 0)])
        0 initialWorld := by
  refine ⟨?_, ?_⟩
  · intro h
    have heval : ((Run.of .lockInterface2).execute
        (answering [(18, 0x01, 0), (44, 0x02, 0), (17, 0x05, 0), (24, 0x7F, 1), (16, 0x05, 0)])
        0 initialWorld).map (fun v => testCaseResult v.records) = some .pass := by
      decide
    rcases Option.map_eq_some_iff.mp heval with ⟨v, hv, hpass⟩
    rcases h.pass v hv hpass with ⟨-, -, -, -, hfinal, -⟩
    exact absurd hfinal.size (by decide)
  · intro h
    have heval : ((Run.of .lockInterface2).execute
        (answering [(18, 0x7F, 0), (44, 0x02, 0), (17, 0x05, 0), (24, 0x7F, 1), (17, 0x05, 0)])
        0 initialWorld).map (fun v => (sent initialWorld v).any fun q => q.1 == .run) =
          some true := by
      decide
    rcases Option.map_eq_some_iff.mp heval with ⟨v, hv, hrun⟩
    rcases List.any_eq_true.mp hrun with ⟨q, hq, hphase⟩
    rcases h.entered v hv ⟨q, hq, by simpa using hphase⟩ with ⟨hversion, -⟩
    exact absurd hversion.header.messageType (by decide)

end TeeIoValidator.Tdisp
