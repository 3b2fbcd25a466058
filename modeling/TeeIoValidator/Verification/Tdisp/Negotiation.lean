import TeeIoValidator.Model.Tdisp.Device
import TeeIoValidator.Verification.Tdisp.Setup

/-! The setup functions against a conforming interface: each leads it to the state that its case
is about, or stops at a stream that is not set up. -/

namespace TeeIoValidator.Tdisp

open Report Runner

/-! ## Answers by state -/

section Answers

variable {i : Interface} {configured : Bool} {s t : Tdi} {reply : Reply}

theorem Answers.of_version (h : Answers i configured s .getVersion reply t) :
    Message i typeVersion versionResponseSize reply ∧ reply.bytes 16 = 1 ∧
      reply.bytes 17 = tdispMessageVersion10 ∧ t = s := by
  cases h with
  | version hmessage hcount hentry => exact ⟨hmessage, hcount, hentry, rfl⟩

theorem Answers.of_capabilities {tsmCaps : UInt32}
    (h : Answers i configured s (.getCapabilities tsmCaps) reply t) :
    CapabilitiesMessage i reply ∧ t = s := by
  cases h with
  | capabilities hmessage => exact ⟨hmessage, rfl⟩

theorem Answers.of_state (h : Answers i configured s .getInterfaceState reply t) :
    Message i typeInterfaceState interfaceStateResponseSize reply ∧
      reply.bytes 16 = s.level.code ∧ t = s := by
  cases h with
  | state hmessage hcode => exact ⟨hmessage, hcode, rfl⟩

theorem Answers.of_stop (h : Answers i configured s .stopInterface reply t) :
    Message i typeStopInterfaceRsp stopInterfaceResponseSize reply ∧ t = .unlocked := by
  cases h with
  | stop hmessage => exact ⟨hmessage, rfl⟩

theorem Answers.of_start {nonce : List UInt8}
    (h : Answers i configured (.locked nonce) (.startInterface nonce) reply t) :
    Message i typeStartInterfaceRsp startInterfaceResponseSize reply ∧ t = .run nonce := by
  cases h with
  | start hmessage => exact ⟨hmessage, rfl⟩
  | wrongNonce hne => exact absurd rfl hne
  | startRefused hlevel => exact absurd rfl hlevel

/-- The flags that the interface supports are granted when a stream is set up. -/
theorem Answers.of_lock {stream : UInt8} {offset mask : UInt64}
    (h : Answers i true .unlocked (.lockInterface i.lockInterfaceFlagsSupported stream offset mask)
      reply t) :
    Message i typeLockInterfaceRsp lockInterfaceResponseSize reply ∧ t = .locked reply.nonce := by
  have hflags : i.lockInterfaceFlagsSupported &&& ~~~i.lockInterfaceFlagsSupported = 0 := by
    rw [← UInt16.toBitVec_inj]
    simp
  cases h with
  | lock _ _ hmessage => exact ⟨hmessage, rfl⟩
  | lockRefused hrefused => exact absurd ⟨rfl, hflags⟩ hrefused
  | lockAgain hne => exact absurd rfl hne

end Answers

theorem Tdi.eq_unlocked {tdi : Tdi} (h : tdi.level = .unlocked) : tdi = .unlocked := by
  cases tdi with
  | unlocked => rfl
  | locked nonce => cases h
  | run nonce => cases h

theorem Tdi.exists_eq_locked {tdi : Tdi} (h : tdi.level = .locked) :
    ∃ nonce, tdi = .locked nonce := by
  cases tdi with
  | unlocked => cases h
  | locked nonce => exact ⟨nonce, rfl⟩
  | run nonce => cases h

/-! ## Stages of a setup function -/

/-- What a setup function has reached: the flags of the interface, a stream, a state. -/
structure Stage where
  negotiated : Bool
  streamed : Bool
  level : Level
  deriving Repr, DecidableEq

def Stage.start : Stage := ⟨false, false, .unlocked⟩

/-- The stage after a step that goes on; none for a step that a case has at no such stage. -/
def SetupStep.advance (stage : Stage) : SetupStep → Option Stage
  | .getVersion | .getVersionAnySize => some stage
  | .getCapabilities => some { stage with negotiated := true }
  | .setIdeStream =>
    if stage.level = .unlocked then some { stage with streamed := true } else none
  | .lockInterface =>
    if stage = ⟨true, true, .unlocked⟩ then some { stage with level := .locked } else none
  | .startInterface =>
    if stage.level = .locked then some { stage with level := .run } else none
  | .stopInterface => some { stage with level := .unlocked }
  | .getState expected => if expected = stage.level.code then some stage else none

def advance : Stage → List SetupStep → Option Stage
  | stage, [] => some stage
  | stage, step :: steps => (step.advance stage).bind fun stage => advance stage steps

/-- What the program knows at a stage, and the state the interface is in. -/
structure Stage.Holds (i : Interface) (configured : Bool) (c : CaseId) (stage : Stage) (w : World)
    (tdi : Tdi) : Prop where
  level : tdi.level = stage.level
  flags : stage.negotiated = true →
    (w.statics c).lockInterfaceFlagsSupported = i.lockInterfaceFlagsSupported
  streamed : stage.streamed = true → configured = true
  nonce : ∀ nonce, tdi = .locked nonce ∨ tdi = .run nonce →
    (w.statics c).startInterfaceNonce = nonce ∧ nonce ≠ []

/-- The requests of an execution from exchange `first` on, as they are answered. -/
structure Answered (i : Interface) (env : Environment) (configured : Bool) (tdi : ℕ → Tdi)
    (first : ℕ) (requests : List (Phase × Request)) : Prop where
  answers : ∀ n q, first ≤ n → requests[n]? = some q →
    Answers i configured (tdi n) q.2 (env.reply n) (tdi (n + 1))

/-- Each request that was sent is counted. -/
def World.Counted (w : World) : Prop := w.requests.length = w.exchanges

section Setup

variable {i : Interface} {env : Environment} {configured : Bool} {tdi : ℕ → Tdi} {first : ℕ}
  {requests : List (Phase × Request)} {c : CaseId} {stage stage' : Stage} {w : World}

/-- The request that is sent next is answered. -/
theorem Answered.next (ha : Answered i env configured tdi first requests) (hcounted : w.Counted)
    (hfirst : first ≤ w.exchanges) {phase : Phase} {request : Request}
    (hsent : w.requests ++ [(phase, request)] <+: requests) :
    Answers i configured (tdi w.exchanges) request (env.reply w.exchanges)
      (tdi (w.exchanges + 1)) := by
  refine ha.answers w.exchanges (phase, request) hfirst ?_
  obtain ⟨rest, rfl⟩ := hsent
  rw [List.append_assoc, ← hcounted]
  simp

/-- An exchange that is answered by a message of the size that the step asks for. -/
theorem SetupStep.answered_of_message {step : SetupStep} {messageType : UInt8} {size : ℕ}
    {reply : Reply} (hm : Message i messageType size reply)
    (hsize : ∀ n, step.responseSize = some n → n = size) : step.answered reply = true := by
  unfold SetupStep.answered
  cases hstep : step.responseSize with
  | none => simp [hm.error]
  | some n => simp [hm.error, hm.size, hsize n hstep]

/-! ### The static variables after a step -/

theorem ofSize_of_answered {reply : Reply} {size : ℕ} (herror : reply.error = false)
    (hsize : reply.size = size) (stack : ℕ → UInt8) :
    ofSize size (if reply.error then none else some (reply.response stack)) =
      some (reply.response stack) := by
  rw [ofSize_response, herror, hsize]
  simp

/-- What lies within the size of a response was received. -/
theorem response_byte {reply : Reply} {k : ℕ} (hk : k < reply.size) (stack : ℕ → UInt8) :
    (reply.response stack).bytes k = reply.bytes k := if_pos hk

theorem response_le16 {reply : Reply} {k : ℕ} (hk : k + 1 < reply.size) (stack : ℕ → UInt8) :
    le16 (reply.response stack).bytes k = le16 reply.bytes k := by
  rw [le16, le16, response_byte (by omega), response_byte hk]

theorem response_le32 {reply : Reply} {k : ℕ} (hk : k + 3 < reply.size) (stack : ℕ → UInt8) :
    le32 (reply.response stack).bytes k = le32 reply.bytes k := by
  rw [le32, le32, response_le16 (by omega), response_le16 hk]

theorem response_nonce {reply : Reply} (hsize : reply.size = lockInterfaceResponseSize)
    (stack : ℕ → UInt8) : (reply.response stack).startInterfaceNonce = reply.nonce := by
  refine List.map_congr_left fun k hk => response_byte ?_ stack
  rw [hsize, lockInterfaceResponseSize]
  have := List.mem_range.mp hk
  omega

theorem Reply.nonce_ne_nil (reply : Reply) : reply.nonce ≠ [] := by
  simp [Reply.nonce]

theorem setupStep_statics {step : SetupStep} (hcap : step ≠ .getCapabilities)
    (hlock : step ≠ .lockInterface) (w : World) :
    (setupStep env c step w).2.statics = w.statics := by
  cases step with
  | getCapabilities => exact absurd rfl hcap
  | lockInterface => exact absurd rfl hlock
  | setIdeStream =>
      by_cases h : env.ideStream w.ideStreams = true <;>
        simp [setupStep, tdispTestSetIdeStream, h]
  | getState expected =>
      simp only [setupStep, tdispTestGetState, exchange]
      split
      · rfl
      · split <;> rfl
  | _ =>
      simp only [setupStep, tdispTestGetVersion, tdispTestStartInterface, tdispTestStopInterface,
        exchange]
      split <;> rfl

theorem setupStep_getCapabilities (hm : CapabilitiesMessage i (env.reply w.exchanges)) :
    (setupStep env c .getCapabilities w).2.statics c = { w.statics c with
      lockInterfaceFlagsSupported := i.lockInterfaceFlagsSupported } := by
  have hflags : ((env.reply w.exchanges).response
      (env.stack w.exchanges)).lockInterfaceFlagsSupported = i.lockInterfaceFlagsSupported := by
    rw [Response.lockInterfaceFlagsSupported,
      response_le16 (by rw [hm.size, capabilitiesResponseSize]; omega)]
    exact hm.lockInterfaceFlagsSupported
  simp only [setupStep, tdispTestGetCapabilities, exchange,
    ofSize_of_answered hm.error hm.size, hflags]
  simp [World.setStatics]

theorem setupStep_lockInterface
    (hm : Message i typeLockInterfaceRsp lockInterfaceResponseSize (env.reply w.exchanges)) :
    (setupStep env c .lockInterface w).2.statics c = { w.statics c with
      startInterfaceNonce := (env.reply w.exchanges).nonce } := by
  simp only [setupStep, tdispTestLockInterface, exchange,
    ofSize_of_answered hm.error hm.size, response_nonce hm.size]
  simp [World.setStatics]

/-! ### Steps -/

/-- A step that its interface answers leads to its stage; the only other step that a case has is
a stream that is not set up. -/
structure Advances (i : Interface) (configured : Bool) (tdi : ℕ → Tdi) (c : CaseId)
    (stage' : Stage) (r : StepResult × World) : Prop where
  next : r.1 = .next
  holds : stage'.Holds i configured c r.2 (tdi r.2.exchanges)

variable (env c) in
theorem counted_setupStep (hcounted : w.Counted) (step : SetupStep) :
    (setupStep env c step w).2.Counted := by
  have h := setupStep_spec env c step w
  have hlength : (step.requests (w.statics c)).length = step.exchanges := by
    cases step <;> rfl
  rw [World.Counted, h.requests, h.exchanges, List.length_append, hcounted, hlength]

/-- A step that leaves the static variables and the interface as they are. -/
theorem advances_of_same (hholds : stage.Holds i configured c w (tdi w.exchanges))
    {step : SetupStep} (hcap : step ≠ .getCapabilities) (hlock : step ≠ .lockInterface)
    (hnext : (setupStep env c step w).1 = .next)
    (htdi : tdi (setupStep env c step w).2.exchanges = tdi w.exchanges) :
    Advances i configured tdi c stage (setupStep env c step w) := by
  refine ⟨hnext, ⟨?_, ?_, hholds.streamed, ?_⟩⟩
  · rw [htdi]
    exact hholds.level
  · rw [setupStep_statics hcap hlock]
    exact hholds.flags
  · rw [setupStep_statics hcap hlock, htdi]
    exact hholds.nonce

/-- The steps whose exchange has one message as its answer go on when it arrives. -/
theorem SetupStep.outcome_of_message {step : SetupStep} {messageType : UInt8} {size n k : ℕ}
    (hm : Message i messageType size (env.reply n))
    (hsize : ∀ m, step.responseSize = some m → m = size) (hstream : step ≠ .setIdeStream)
    (hstate : ∀ expected, step ≠ .getState expected) : step.outcome env n k = .next := by
  have hanswered := SetupStep.answered_of_message hm hsize
  cases step with
  | setIdeStream => exact absurd rfl hstream
  | getState expected => exact absurd rfl (hstate expected)
  | _ => exact if_pos hanswered

section Step

variable (ha : Answered i env configured tdi first requests) (hcounted : w.Counted)
  (hfirst : first ≤ w.exchanges) (hholds : stage.Holds i configured c w (tdi w.exchanges))

include ha hcounted hfirst hholds

theorem getVersion_advances {step : SetupStep} (hstep : step = .getVersion ∨
      step = .getVersionAnySize)
    (hsent : w.requests ++ step.requests (w.statics c) <+: requests) :
    Advances i configured tdi c stage (setupStep env c step w) := by
  have h := setupStep_spec env c step w
  have hsent' : w.requests ++ [(.setup, .getVersion)] <+: requests := by
    rcases hstep with rfl | rfl <;> exact hsent
  have hexchanges : step.exchanges = 1 := by
    rcases hstep with rfl | rfl <;> rfl
  obtain ⟨hm, -, -, hsame⟩ := (ha.next hcounted hfirst hsent').of_version
  refine advances_of_same hholds ?_ ?_ ?_ ?_
  · rcases hstep with rfl | rfl <;> simp
  · rcases hstep with rfl | rfl <;> simp
  · rw [h.result]
    refine SetupStep.outcome_of_message hm ?_ ?_ ?_ <;>
      rcases hstep with rfl | rfl <;> simp [SetupStep.responseSize]
  · rw [h.exchanges, hexchanges]
    exact hsame

theorem getCapabilities_advances
    (hsent : w.requests ++ [(.setup, .getCapabilities 0)] <+: requests) :
    Advances i configured tdi c { stage with negotiated := true }
      (setupStep env c .getCapabilities w) := by
  have h := setupStep_spec env c .getCapabilities w
  obtain ⟨hm, hsame⟩ := (ha.next hcounted hfirst hsent).of_capabilities
  have htdi : tdi (setupStep env c .getCapabilities w).2.exchanges = tdi w.exchanges := by
    rw [h.exchanges]
    exact hsame
  refine ⟨?_, ?_, fun _ => ?_, hholds.streamed, ?_⟩
  · rw [h.result]
    exact SetupStep.outcome_of_message hm.toMessage (by simp [SetupStep.responseSize])
      (by simp) (by simp)
  · rw [htdi]
    exact hholds.level
  · rw [setupStep_getCapabilities hm]
  · rw [setupStep_getCapabilities hm, htdi]
    exact hholds.nonce

theorem lockInterface_advances (hstage : stage = ⟨true, true, .unlocked⟩)
    (hsent : w.requests ++ [(.setup, lockRequest (w.statics c))] <+: requests) :
    Advances i configured tdi c { stage with level := .locked }
      (setupStep env c .lockInterface w) := by
  subst hstage
  have h := setupStep_spec env c .lockInterface w
  have hanswer := ha.next hcounted hfirst hsent
  rw [Tdi.eq_unlocked hholds.level, lockRequest, hholds.flags rfl, hholds.streamed rfl] at hanswer
  obtain ⟨hm, hlocked⟩ := hanswer.of_lock
  have htdi : tdi (setupStep env c .lockInterface w).2.exchanges =
      .locked (env.reply w.exchanges).nonce := by
    rw [h.exchanges]
    exact hlocked
  refine ⟨?_, ?_, fun _ => ?_, fun _ => hholds.streamed rfl, ?_⟩
  · rw [h.result]
    exact SetupStep.outcome_of_message hm (by simp [SetupStep.responseSize]) (by simp) (by simp)
  · rw [htdi]
    rfl
  · rw [setupStep_lockInterface hm]
    exact hholds.flags rfl
  · rw [htdi, setupStep_lockInterface hm]
    intro nonce hnonce
    rcases hnonce with hnonce | hnonce
    · obtain rfl := Tdi.locked.inj hnonce
      exact ⟨rfl, Reply.nonce_ne_nil _⟩
    · cases hnonce

theorem startInterface_advances (hlevel : stage.level = .locked)
    (hsent : w.requests ++ [(.setup, startRequest (w.statics c))] <+: requests) :
    Advances i configured tdi c { stage with level := .run }
      (setupStep env c .startInterface w) := by
  have h := setupStep_spec env c .startInterface w
  obtain ⟨nonce, htdi⟩ := Tdi.exists_eq_locked (hholds.level.trans hlevel)
  have hnonce := hholds.nonce nonce (Or.inl htdi)
  have hanswer := ha.next hcounted hfirst hsent
  rw [htdi, startRequest, hnonce.1] at hanswer
  obtain ⟨hm, hrun⟩ := hanswer.of_start
  have hstate : tdi (setupStep env c .startInterface w).2.exchanges = .run nonce := by
    rw [h.exchanges]
    exact hrun
  refine ⟨?_, ?_, ?_, hholds.streamed, ?_⟩
  · rw [h.result]
    exact SetupStep.outcome_of_message hm (by simp [SetupStep.responseSize]) (by simp) (by simp)
  · rw [hstate]
    rfl
  · rw [setupStep_statics (by simp) (by simp)]
    exact hholds.flags
  · rw [hstate, setupStep_statics (by simp) (by simp)]
    intro nonce' hnonce'
    rcases hnonce' with hnonce' | hnonce'
    · cases hnonce'
    · obtain rfl := Tdi.run.inj hnonce'
      exact hnonce

theorem stopInterface_advances (hsent : w.requests ++ [(.setup, .stopInterface)] <+: requests) :
    Advances i configured tdi c { stage with level := .unlocked }
      (setupStep env c .stopInterface w) := by
  have h := setupStep_spec env c .stopInterface w
  obtain ⟨hm, hunlocked⟩ := (ha.next hcounted hfirst hsent).of_stop
  have hstate : tdi (setupStep env c .stopInterface w).2.exchanges = .unlocked := by
    rw [h.exchanges]
    exact hunlocked
  refine ⟨?_, ?_, ?_, hholds.streamed, ?_⟩
  · rw [h.result]
    exact SetupStep.outcome_of_message hm (by simp [SetupStep.responseSize]) (by simp) (by simp)
  · rw [hstate]
    rfl
  · rw [setupStep_statics (by simp) (by simp)]
    exact hholds.flags
  · rw [hstate]
    intro nonce hnonce
    rcases hnonce with hnonce | hnonce <;> cases hnonce

theorem getState_advances {expected : UInt8} (hexpected : expected = stage.level.code)
    (hsent : w.requests ++ [(.setup, .getInterfaceState)] <+: requests) :
    Advances i configured tdi c stage (setupStep env c (.getState expected) w) := by
  have h := setupStep_spec env c (.getState expected) w
  obtain ⟨hm, hcode, hsame⟩ := (ha.next hcounted hfirst hsent).of_state
  have hanswered : (SetupStep.getState expected).answered (env.reply w.exchanges) = true :=
    SetupStep.answered_of_message hm (by simp [SetupStep.responseSize])
  refine advances_of_same hholds (by simp) (by simp) ?_ ?_
  · rw [h.result, SetupStep.outcome, hanswered, hcode, hholds.level, hexpected]
    simp
  · rw [h.exchanges]
    exact hsame

omit ha hcounted hfirst in
/-- The stream is set up, or the interface is still unlocked. -/
theorem setIdeStream_advances (hlevel : stage.level = .unlocked)
    (hstream : env.ideStream w.ideStreams = true → configured = true) :
    Advances i configured tdi c { stage with streamed := true }
        (setupStep env c .setIdeStream w) ∨
      env.ideStream w.ideStreams = false ∧ (setupStep env c .setIdeStream w).1 = .failed ∧
        tdi (setupStep env c .setIdeStream w).2.exchanges = .unlocked := by
  have h := setupStep_spec env c .setIdeStream w
  have hsame : (setupStep env c .setIdeStream w).2.exchanges = w.exchanges := h.exchanges
  cases hcall : env.ideStream w.ideStreams with
  | true =>
      have hnext : (setupStep env c .setIdeStream w).1 = .next := by
        rw [h.result, SetupStep.outcome, hcall]
        rfl
      have hadv := advances_of_same hholds (by simp) (by simp) hnext (by rw [hsame])
      exact Or.inl ⟨hnext, hadv.holds.level, hadv.holds.flags, fun _ => hstream hcall,
        hadv.holds.nonce⟩
  | false =>
      refine Or.inr ⟨rfl, ?_, ?_⟩
      · rw [h.result, SetupStep.outcome, hcall]
        rfl
      · rw [hsame]
        exact Tdi.eq_unlocked (hholds.level.trans hlevel)

theorem setupStep_advances {step : SetupStep} (hadvance : step.advance stage = some stage')
    (hsent : (setupStep env c step w).2.requests <+: requests)
    (hstream : env.ideStream w.ideStreams = true → step = .setIdeStream → configured = true) :
    Advances i configured tdi c stage' (setupStep env c step w) ∨
      step = .setIdeStream ∧ env.ideStream w.ideStreams = false ∧
        (setupStep env c step w).1 = .failed ∧
        tdi (setupStep env c step w).2.exchanges = .unlocked := by
  rw [(setupStep_spec env c step w).requests] at hsent
  cases step with
  | getVersion =>
      obtain rfl := Option.some.inj hadvance
      exact Or.inl (getVersion_advances ha hcounted hfirst hholds (Or.inl rfl) hsent)
  | getVersionAnySize =>
      obtain rfl := Option.some.inj hadvance
      exact Or.inl (getVersion_advances ha hcounted hfirst hholds (Or.inr rfl) hsent)
  | getCapabilities =>
      obtain rfl := Option.some.inj hadvance
      exact Or.inl (getCapabilities_advances ha hcounted hfirst hholds hsent)
  | setIdeStream =>
      obtain ⟨hlevel, hstage⟩ := Option.ite_none_right_eq_some.mp hadvance
      obtain rfl := Option.some.inj hstage
      exact (setIdeStream_advances hholds hlevel fun h => hstream h rfl).imp id fun h => ⟨rfl, h⟩
  | lockInterface =>
      obtain ⟨hlevel, hstage⟩ := Option.ite_none_right_eq_some.mp hadvance
      obtain rfl := Option.some.inj hstage
      exact Or.inl (lockInterface_advances ha hcounted hfirst hholds hlevel hsent)
  | startInterface =>
      obtain ⟨hlevel, hstage⟩ := Option.ite_none_right_eq_some.mp hadvance
      obtain rfl := Option.some.inj hstage
      exact Or.inl (startInterface_advances ha hcounted hfirst hholds hlevel hsent)
  | stopInterface =>
      obtain rfl := Option.some.inj hadvance
      exact Or.inl (stopInterface_advances ha hcounted hfirst hholds hsent)
  | getState expected =>
      obtain ⟨hlevel, hstage⟩ := Option.ite_none_right_eq_some.mp hadvance
      obtain rfl := Option.some.inj hstage
      exact Or.inl (getState_advances ha hcounted hfirst hholds hlevel hsent)

end Step

/-! ### Whole setup functions -/

variable (env c) in
theorem ideStreams_le_setupSteps (steps : List SetupStep) (w : World) :
    w.ideStreams ≤ (setupSteps env c steps w).2.ideStreams := by
  rw [(setupSteps_spec env c steps w).ideStreams]
  exact Nat.le_add_right _ _

/-- A setup function that starts from a stage reaches its last one, or it stops at a stream that
is not set up. -/
theorem setupSteps_advances (ha : Answered i env configured tdi first requests)
    {steps : List SetupStep} (hcounted : w.Counted) (hfirst : first ≤ w.exchanges)
    (hholds : stage.Holds i configured c w (tdi w.exchanges))
    (hadvance : advance stage steps = some stage')
    (hsent : (setupSteps env c steps w).2.requests <+: requests)
    (hstream : ∀ k < (setupSteps env c steps w).2.ideStreams, w.ideStreams ≤ k →
      env.ideStream k = true → configured = true) :
    Advances i configured tdi c stage' (setupSteps env c steps w) ∨
      (∃ k < (setupSteps env c steps w).2.ideStreams, w.ideStreams ≤ k ∧
        env.ideStream k = false) ∧
        (setupSteps env c steps w).1 = .failed ∧
        tdi (setupSteps env c steps w).2.exchanges = .unlocked := by
  induction steps generalizing w stage with
  | nil =>
      obtain rfl := Option.some.inj hadvance
      exact Or.inl ⟨rfl, hholds⟩
  | cons step steps ih =>
      obtain ⟨middle, hmiddle, hrest⟩ := Option.bind_eq_some_iff.mp hadvance
      have hspec := setupStep_spec env c step w
      have hcounted' := counted_setupStep env c hcounted step
      have hstep := setupStep_advances ha hcounted hfirst hholds hmiddle
      rw [setupSteps] at hsent hstream ⊢
      rcases hr : setupStep env c step w with ⟨result, v⟩
      rw [hr] at hspec hcounted' hstep hsent hstream
      have hlt : step = .setIdeStream → w.ideStreams < v.ideStreams := by
        rintro rfl
        rw [hspec.ideStreams]
        exact Nat.lt_succ_self _
      cases result with
      | next =>
          have hle : w.ideStreams ≤ v.ideStreams :=
            hspec.ideStreams ▸ Nat.le_add_right _ _
          have hlater := ideStreams_le_setupSteps env c steps v
          obtain ⟨rs, hrs, -⟩ := (setupSteps_spec env c steps v).requests
          have hsent' : v.requests <+: requests :=
            List.IsPrefix.trans ⟨rs, hrs.symm⟩ hsent
          rcases hstep hsent' fun hcall hstep =>
            hstream w.ideStreams (lt_of_lt_of_le (hlt hstep) hlater) le_rfl hcall with
            hadv | ⟨-, -, hfailed, -⟩
          · have hfirst' : first ≤ v.exchanges := by
              rw [hspec.exchanges]
              exact hfirst.trans (Nat.le_add_right _ _)
            refine (ih hcounted' hfirst' hadv.holds hrest hsent fun k hk hvk =>
              hstream k hk (hle.trans hvk)).imp id ?_
            rintro ⟨⟨k, hk, hvk, hcallk⟩, hrest⟩
            exact ⟨⟨k, hk, hle.trans hvk, hcallk⟩, hrest⟩
          · cases hfailed
      | failed =>
          rcases hstep hsent fun hcall hstep =>
            hstream w.ideStreams (hlt hstep) le_rfl hcall with
            ⟨hnext, -⟩ | ⟨rfl, hcall, -, hunlocked⟩
          · cases hnext
          · exact Or.inr ⟨⟨w.ideStreams, hlt rfl, le_rfl, hcall⟩, rfl, hunlocked⟩
      | skip =>
          rcases hstep hsent fun hcall hstep =>
            hstream w.ideStreams (hlt hstep) le_rfl hcall with ⟨hnext, -⟩ | ⟨-, -, hfailed, -⟩
          · cases hnext
          · cases hfailed

end Setup

end TeeIoValidator.Tdisp
