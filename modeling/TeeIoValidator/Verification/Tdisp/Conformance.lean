import TeeIoValidator.Verification.Report.Serving
import TeeIoValidator.Verification.Tdisp.Negotiation
import TeeIoValidator.Verification.Tdisp.ReportStructure
import TeeIoValidator.Verification.Tdisp.Verdict

/-! The run functions against a conforming interface: what they record passes, but for two cases
that ask for more than the interface is bound to. -/

namespace TeeIoValidator.Tdisp

open Report Runner

/-! ## Checks that pass -/

def Passes (as : List Assertion) : Prop := ∀ a ∈ as, a.result = .pass

theorem passes_nil : Passes [] := by simp [Passes]

theorem passes_append {as bs : List Assertion} : Passes (as ++ bs) ↔ Passes as ∧ Passes bs :=
  List.forall_mem_append

theorem passes_cons {a : Assertion} {as : List Assertion} :
    Passes (a :: as) ↔ a.result = .pass ∧ Passes as := List.forall_mem_cons

@[simp] theorem check_result_pass {id : ℕ} {res : Bool} {format : String} {values : List ℕ} :
    (Assertion.check id res format values).result = .pass ↔ res = true := by
  simp [Assertion.check]

section Messages

variable {i : Interface} {messageType : UInt8} {size : ℕ} {reply : Reply} {stack : ℕ → UInt8}

theorem Message.passes_headerChecks (hm : Message i messageType size reply) (hsize : 8 ≤ size) :
    Passes (headerChecks messageType i.functionId (reply.response stack)) := by
  have hreceived := hm.size
  simp only [headerChecks, passes_cons, check_result_pass, Response.version, Response.messageType,
    Response.functionId, beq_iff_eq]
  rw [response_byte (by omega), response_byte (by omega), response_le32 (by omega)]
  exact ⟨hm.version, hm.messageType, hm.functionId, passes_nil⟩

theorem ErrorMessage.passes_errorChecks {code : UInt32} (hm : ErrorMessage i code reply) :
    Passes (errorChecks code i.functionId (reply.response stack)) := by
  have hreceived : reply.size = 24 := hm.size
  refine passes_append.mpr ⟨hm.passes_headerChecks (by decide), passes_cons.mpr ⟨?_, passes_nil⟩⟩
  simp only [check_result_pass, Response.errorCode, beq_iff_eq]
  rw [response_le32 (by omega)]
  exact hm.errorCode

theorem passes_stateCheck {id : ℕ} {expected : UInt8} (hsize : reply.size = 17)
    (hcode : reply.bytes 16 = expected) :
    Passes [stateCheck id expected (reply.response stack)] := by
  refine passes_cons.mpr ⟨?_, passes_nil⟩
  simp only [stateCheck, check_result_pass, Response.tdiState, beq_iff_eq]
  rw [response_byte (by omega)]
  exact hcode

theorem Message.passes_versionChecks (hm : Message i typeVersion versionResponseSize reply)
    (hcount : reply.bytes 16 = 1) (hentry : reply.bytes 17 = tdispMessageVersion10) :
    Passes (versionChecks i.functionId (reply.response stack)) := by
  have hreceived : reply.size = 18 := hm.size
  refine passes_append.mpr ⟨hm.passes_headerChecks (by decide), ?_⟩
  simp only [passes_cons, check_result_pass, Response.versionNumCount, Response.versionNumEntry,
    beq_iff_eq]
  rw [response_byte (by omega), response_byte (by omega)]
  exact ⟨hcount, hentry, passes_nil⟩

/-- What case 2.1 asks of an interface: no optional message among others. -/
structure Interface.Capable (i : Interface) : Prop where
  reqMsgs : i.reqMsgs = expectedSupportedBits
  flags : i.lockInterfaceFlagsSupported &&& 0xFFE0 = 0
  devAddrWidth : 52 ≤ i.devAddrWidth
  numReqThis : 0 < i.numReqThis
  numReqAll : 0 < i.numReqAll

theorem foldl_or_eq_zero {bs : List UInt8} (hbs : ∀ b ∈ bs, b = 0) :
    bs.foldl (· ||| ·) 0 = 0 := by
  induction bs with
  | nil => rfl
  | cons b bs ih =>
      rw [List.forall_mem_cons] at hbs
      rw [List.foldl_cons, hbs.1]
      exact ih hbs.2

variable (stack) in
theorem CapabilitiesMessage.passes_iff (hm : CapabilitiesMessage i reply) :
    Passes (capabilitiesChecks i.functionId (reply.response stack)) ↔ i.Capable := by
  have hreceived : reply.size = 44 := hm.size
  have hrest : ((List.range 14).map fun k =>
      (reply.response stack).reqMsgSupported (k + 2)).foldl (· ||| ·) 0 = 0 := by
    refine foldl_or_eq_zero fun b hb => ?_
    obtain ⟨k, hk, rfl⟩ := List.mem_map.mp hb
    have hk := List.mem_range.mp hk
    have hindex : 20 + (k + 2) = 22 + k := by omega
    rw [Response.reqMsgSupported, hindex, response_byte (by omega)]
    exact hm.reqMsgs_rest k hk
  rw [capabilitiesChecks, passes_append]
  simp only [hrest, passes_cons, check_result_pass, Response.dsmCaps,
    Response.lockInterfaceFlagsSupported, Response.devAddrWidth, Response.numReqThis,
    Response.numReqAll, response_le32 (show 16 + 3 < reply.size by omega),
    response_le16 (show 20 + 1 < reply.size by omega),
    response_le16 (show 36 + 1 < reply.size by omega),
    response_byte (show 41 < reply.size by omega), response_byte (show 42 < reply.size by omega),
    response_byte (show 43 < reply.size by omega), hm.dsmCaps, hm.reqMsgs,
    hm.lockInterfaceFlagsSupported, hm.devAddrWidth, hm.numReqThis, hm.numReqAll]
  constructor
  · rintro ⟨-, -, hmsgs, hflags, hwidth, hthis, hall, -⟩
    exact ⟨by simpa using hmsgs, by simpa using hflags, by simpa using hwidth,
      by simpa using hthis, by simpa using hall⟩
  · intro h
    exact ⟨hm.passes_headerChecks (by decide), rfl, by simpa using h.reqMsgs,
      by simpa using h.flags, by simpa using h.devAddrWidth, by simpa using h.numReqThis,
      by simpa using h.numReqAll, passes_nil⟩

end Messages

/-! ## Exchanges of a run function -/

/-- The answer passes the checks of the exchange and leaves the interface at the level. -/
structure Meets (i : Interface) (e : TestedExchange) (level : Level) (reply : Reply) (tdi : Tdi) :
    Prop where
  error : reply.error = false
  size : reply.size = e.size
  checks : ∀ stack, Passes (e.checks i.functionId (reply.response stack))
  level : tdi.level = level

/-- A part of a run function whose records pass and which leaves the interface at the level. -/
structure Passed (tdi : ℕ → Tdi) (level : Level) (w v : World) : Prop where
  counted : v.Counted
  exchanges : w.exchanges ≤ v.exchanges
  level : (tdi v.exchanges).level = level
  statics : v.statics = w.statics
  records : ∃ as, v.records = w.records ++ as ∧ as ≠ [] ∧ Passes as

section Exchanges

variable {i : Interface} {env : Environment} {configured : Bool} {tdi : ℕ → Tdi} {first : ℕ}
  {requests : List (Phase × Request)} {c : CaseId} {w u v : World} {level level' : Level}

theorem Passed.trans (h₁ : Passed tdi level w u) (h₂ : Passed tdi level' u v) :
    Passed tdi level' w v := by
  obtain ⟨as, has, hne, hpass⟩ := h₁.records
  obtain ⟨bs, hbs, -, hpass'⟩ := h₂.records
  refine ⟨h₂.counted, h₁.exchanges.trans h₂.exchanges, h₂.level,
    h₂.statics.trans h₁.statics, as ++ bs, ?_, ?_, passes_append.mpr ⟨hpass, hpass'⟩⟩
  · rw [hbs, has, List.append_assoc]
  · simp [hne]

theorem runExchange_passed (hid : env.functionId = i.functionId) (hcounted : w.Counted)
    {e : TestedExchange}
    (hmeets : Meets i e level (env.reply w.exchanges) (tdi (w.exchanges + 1))) :
    (runExchange env c e w).1 = true ∧ Passed tdi level w (runExchange env c e w).2 := by
  have hexchanges := runExchange_exchanges env c e w
  refine ⟨?_, ⟨?_, ?_, ?_, (runExchange_spec env c e w).statics, _,
    runExchange_records env c e w, ?_, ?_⟩⟩
  · rw [runExchange_fst, hmeets.error, hmeets.size]
    simp
  · rw [World.Counted, runExchange_requests, List.length_append, hcounted, hexchanges]
    rfl
  · rw [hexchanges]
    exact Nat.le_succ _
  · rw [hexchanges]
    exact hmeets.level
  · simp [exchangeRecords, hmeets.error]
  · have hchecks := hid ▸ hmeets.checks (env.stack w.exchanges)
    rw [exchangeRecords, hmeets.error, hmeets.size]
    cases e.recordPassed <;> simpa [passes_cons, Assertion.check] using hchecks

theorem runFinalState_passed (ha : Answered i env configured tdi first requests)
    (hcounted : w.Counted) (hfirst : first ≤ w.exchanges) {id : ℕ}
    (hlevel : (tdi w.exchanges).level = level)
    (hsent : w.requests ++ [(.run, .getInterfaceState)] <+: requests) :
    Passed tdi level w (runFinalState env id level.code w) := by
  have hexchanges := runFinalState_exchanges env id level.code w
  obtain ⟨hm, hcode, hsame⟩ := (ha.next hcounted hfirst hsent).of_state
  refine ⟨?_, ?_, ?_, (runFinalState_spec env id level.code w).statics, _,
    runFinalState_records env id level.code w, by simp, ?_⟩
  · rw [World.Counted, runFinalState_requests, List.length_append, hcounted, hexchanges]
    rfl
  · rw [hexchanges]
    exact Nat.le_succ _
  · rw [hexchanges, hsame]
    exact hlevel
  · rw [finalRecord, hm.error]
    exact passes_stateCheck hm.size (hcode.trans (congrArg Level.code hlevel))

end Exchanges

/-! ## Refused requests -/

section Refused

variable {i : Interface} {configured : Bool} {s t : Tdi} {reply : Reply}

theorem Answers.of_lock_again {flags : UInt16} {stream : UInt8} {offset mask : UInt64}
    (h : Answers i configured s (.lockInterface flags stream offset mask) reply t)
    (hs : s ≠ .unlocked) : ErrorMessage i errorInvalidInterfaceState reply ∧ t = s := by
  cases h with
  | lock => exact absurd rfl hs
  | lockRefused => exact absurd rfl hs
  | lockAgain _ hm => exact ⟨hm, rfl⟩

theorem Answers.of_lock_unconfigured {flags : UInt16} {stream : UInt8} {offset mask : UInt64}
    (h : Answers i false .unlocked (.lockInterface flags stream offset mask) reply t) :
    ErrorMessage i errorInvalidRequest reply ∧ t = .unlocked := by
  cases h with
  | lock hconfigured => cases hconfigured
  | lockRefused _ hm => exact ⟨hm, rfl⟩
  | lockAgain hne => exact absurd rfl hne

theorem Answers.of_start_refused {nonce : List UInt8}
    (h : Answers i configured s (.startInterface nonce) reply t) (hs : s.level ≠ .locked) :
    ErrorMessage i errorInvalidInterfaceState reply ∧ t = s := by
  cases h with
  | start => exact absurd rfl hs
  | wrongNonce => exact absurd rfl hs
  | startRefused _ hm => exact ⟨hm, rfl⟩

theorem Answers.of_wrong_nonce {nonce sent : List UInt8}
    (h : Answers i configured (.locked nonce) (.startInterface sent) reply t)
    (hne : sent ≠ nonce) : ErrorMessage i errorInvalidNonce reply ∧ t = .locked nonce := by
  cases h with
  | start => exact absurd rfl hne
  | wrongNonce _ hm => exact ⟨hm, rfl⟩
  | startRefused hlevel => exact absurd rfl hlevel

theorem Answers.of_beyond_report {offset length : ℕ}
    (h : Answers i configured s (.getInterfaceReport offset length) reply t)
    (hs : s ≠ .unlocked) (hoffset : i.report.length ≤ offset) :
    ErrorMessage i errorInvalidRequest reply ∧ t = s := by
  cases h with
  | portion _ hm =>
      have hpos := hm.portion_pos
      have htotal := hm.total
      omega
  | beyondReport _ _ hm => exact ⟨hm, rfl⟩
  | noReport => exact absurd rfl hs

theorem Answers.of_report {offset length : ℕ}
    (h : Answers i configured s (.getInterfaceReport offset length) reply t)
    (hs : s ≠ .unlocked) (hoffset : offset < i.report.length) :
    PortionMessage i offset length reply ∧ t = s := by
  cases h with
  | portion _ hm => exact ⟨hm, rfl⟩
  | beyondReport _ hle => exact absurd hoffset (Nat.not_lt.mpr hle)
  | noReport => exact absurd rfl hs

theorem Answers.of_no_report {offset length : ℕ}
    (h : Answers i configured .unlocked (.getInterfaceReport offset length) reply t) :
    ErrorMessage i errorInvalidInterfaceState reply ∧ t = .unlocked := by
  cases h with
  | portion hne => exact absurd rfl hne
  | beyondReport hne => exact absurd rfl hne
  | noReport hm => exact ⟨hm, rfl⟩

end Refused

/-! ## The exchange that a case tests -/

/-- The stage at the end of the setup steps of a case. -/
def CaseId.stage : CaseId → Stage
  | .version1 | .capabilities1 => .start
  | .lockInterface1 | .lockInterface2 | .interfaceReport4 | .interfaceState1 =>
    ⟨true, false, .unlocked⟩
  | .lockInterface3 | .interfaceReport1 | .interfaceReport3 | .interfaceReport5
  | .interfaceState2 | .startInterface1 | .startInterface2 | .stopInterface2 =>
    ⟨true, true, .locked⟩
  | .lockInterface4 | .interfaceReport2 | .interfaceState3 | .startInterface4 | .stopInterface1 =>
    ⟨true, true, .run⟩
  | .interfaceState4 | .startInterface3 | .stopInterface3 => ⟨true, true, .unlocked⟩

theorem advance_setup (env : Environment) (c : CaseId) :
    advance .start (c.case env).setup = some c.stage := by
  cases c <;> rfl

/-- The stage at which the run function of a case is called. -/
def CaseId.ready (c : CaseId) : Stage :=
  if c = .lockInterface1 then { c.stage with streamed := true } else c.stage

/-- The cases that a conforming interface passes only under a condition: the one on its
capabilities, and the one that takes it for granted that no stream is set up. -/
def Interface.Satisfies (i : Interface) (configured : Bool) : CaseId → Prop
  | .capabilities1 => i.Capable
  | .lockInterface2 => configured = false
  | _ => True

section Meets

variable {i : Interface} {env : Environment} {configured : Bool} {t t' : Tdi} {w : World}
  {reply : Reply} {request : Statics → Request} {recordPassed : Bool} {level : Level}

theorem meets_response {messageType : UInt8} {size : ℕ} (hm : Message i messageType size reply)
    (hsize : 8 ≤ size) (hlevel : t'.level = level) :
    Meets i ⟨request, true, size, headerChecks messageType⟩ level reply t' :=
  ⟨hm.error, hm.size, fun _ => hm.passes_headerChecks hsize, hlevel⟩

theorem meets_error {code : UInt32} (hm : ErrorMessage i code reply) (hlevel : t'.level = level) :
    Meets i ⟨request, recordPassed, errorResponseSize, errorChecks code⟩ level reply t' :=
  ⟨hm.error, hm.size, fun _ => hm.passes_errorChecks, hlevel⟩

theorem meets_state (h : Answers i configured t .getInterfaceState reply t')
    (hlevel : t.level = level) :
    Meets i ⟨fun _ => .getInterfaceState, true, interfaceStateResponseSize, fun functionId r =>
      headerChecks typeInterfaceState functionId r ++ [stateCheck 5 level.code r]⟩ level reply
      t' := by
  obtain ⟨hm, hcode, rfl⟩ := h.of_state
  refine ⟨hm.error, hm.size, fun _ => passes_append.mpr ⟨hm.passes_headerChecks (by decide), ?_⟩,
    hlevel⟩
  exact passes_stateCheck hm.size (hcode.trans (congrArg Level.code hlevel))

/-- The complement of a nonce is another one. -/
theorem map_not_ne {nonce : List UInt8} (hnonce : nonce ≠ []) :
    (nonce.map fun b => ~~~b) ≠ nonce := by
  cases nonce with
  | nil => exact absurd rfl hnonce
  | cons b bs =>
      intro heq
      have hhead := congrArg UInt8.toNat (List.cons.inj heq).1
      rw [UInt8.toNat_not, UInt8.size] at hhead
      have hlt := b.toNat_lt
      omega

/-- What the case tests is answered as it asks, if the interface meets its condition. -/
theorem case_meets {c : CaseId} {e : TestedExchange} {rest : List RunStep}
    (hrun : (c.case env).run = .exchange e :: rest)
    (hready : c.ready.Holds i configured c w t) (hok : i.Satisfies configured c)
    (h : Answers i configured t (e.request (w.statics c)) reply t') :
    ∃ level, Meets i e level reply t' ∧
      (rest = [] ∨ ∃ id, rest = [.finalState id level.code]) := by
  have hlevel := hready.level
  have hreport : i.report.length ≤ 0xFFFF := Nat.le_of_lt_succ i.wellFormed.length_lt
  have hne : ∀ level : Level, level ≠ .unlocked → t.level = level → t ≠ .unlocked := by
    rintro level hne hl rfl
    exact hne hl.symm
  cases c with
  | version1 =>
      cases hrun
      obtain ⟨hm, hcount, hentry, rfl⟩ := h.of_version
      exact ⟨.unlocked, ⟨hm.error, hm.size, fun _ => hm.passes_versionChecks hcount hentry, hlevel⟩,
        Or.inl rfl⟩
  | capabilities1 =>
      cases hrun
      obtain ⟨hm, rfl⟩ := h.of_capabilities
      exact ⟨.unlocked, ⟨hm.error, hm.size, fun stack => (hm.passes_iff stack).mpr hok, hlevel⟩,
        Or.inl rfl⟩
  | lockInterface1 =>
      cases hrun
      obtain rfl := Tdi.eq_unlocked hlevel
      change Answers i configured .unlocked (.lockInterface
        (w.statics .lockInterface1).lockInterfaceFlagsSupported 0 mmioReportingOffset 0) reply
        t' at h
      rw [hready.flags rfl, hready.streamed rfl] at h
      obtain ⟨hm, rfl⟩ := h.of_lock
      exact ⟨.locked, meets_response hm (by decide) rfl, Or.inr ⟨5, rfl⟩⟩
  | lockInterface2 =>
      cases hrun
      obtain rfl := Tdi.eq_unlocked hlevel
      obtain rfl : configured = false := hok
      obtain ⟨hm, rfl⟩ := h.of_lock_unconfigured
      exact ⟨.unlocked, meets_error hm rfl, Or.inr ⟨6, rfl⟩⟩
  | lockInterface3 =>
      cases hrun
      obtain ⟨hm, rfl⟩ := h.of_lock_again (hne .locked (by simp) hlevel)
      exact ⟨.locked, meets_error hm hlevel, Or.inr ⟨6, rfl⟩⟩
  | lockInterface4 =>
      cases hrun
      obtain ⟨hm, rfl⟩ := h.of_lock_again (hne .run (by simp) hlevel)
      exact ⟨.run, meets_error hm hlevel, Or.inr ⟨6, rfl⟩⟩
  | interfaceReport1 => cases hrun
  | interfaceReport2 => cases hrun
  | interfaceReport3 =>
      cases hrun
      obtain ⟨hm, rfl⟩ := h.of_beyond_report (hne .locked (by simp) hlevel) hreport
      exact ⟨.locked, meets_error hm hlevel, Or.inr ⟨6, rfl⟩⟩
  | interfaceReport4 =>
      cases hrun
      obtain rfl := Tdi.eq_unlocked hlevel
      obtain ⟨hm, rfl⟩ := h.of_no_report
      exact ⟨.unlocked, meets_error hm rfl, Or.inr ⟨6, rfl⟩⟩
  | interfaceReport5 => cases hrun
  | interfaceState1 =>
      cases hrun
      exact ⟨.unlocked, meets_state h hlevel, Or.inl rfl⟩
  | interfaceState2 =>
      cases hrun
      exact ⟨.locked, meets_state h hlevel, Or.inl rfl⟩
  | interfaceState3 =>
      cases hrun
      exact ⟨.run, meets_state h hlevel, Or.inl rfl⟩
  | interfaceState4 =>
      cases hrun
      exact ⟨.unlocked, meets_state h hlevel, Or.inl rfl⟩
  | startInterface1 =>
      cases hrun
      obtain ⟨nonce, rfl⟩ := Tdi.exists_eq_locked hlevel
      change Answers i configured (.locked nonce)
        (.startInterface (w.statics .startInterface1).startInterfaceNonce) reply t' at h
      rw [(hready.nonce nonce (Or.inl rfl)).1] at h
      obtain ⟨hm, rfl⟩ := h.of_start
      exact ⟨.run, meets_response hm (by decide) rfl, Or.inr ⟨5, rfl⟩⟩
  | startInterface2 =>
      cases hrun
      obtain ⟨nonce, rfl⟩ := Tdi.exists_eq_locked hlevel
      have hnonce := hready.nonce nonce (Or.inl rfl)
      change Answers i configured (.locked nonce) (.startInterface
        ((w.statics .startInterface2).startInterfaceNonce.map fun b => ~~~b)) reply t' at h
      rw [hnonce.1] at h
      obtain ⟨hm, rfl⟩ := h.of_wrong_nonce (map_not_ne hnonce.2)
      exact ⟨.locked, meets_error hm rfl, Or.inr ⟨6, rfl⟩⟩
  | startInterface3 =>
      cases hrun
      obtain ⟨hm, rfl⟩ := h.of_start_refused (by rw [hlevel]; decide)
      exact ⟨.unlocked, meets_error hm hlevel, Or.inr ⟨6, rfl⟩⟩
  | startInterface4 =>
      cases hrun
      obtain ⟨hm, rfl⟩ := h.of_start_refused (by rw [hlevel]; decide)
      exact ⟨.run, meets_error hm hlevel, Or.inr ⟨6, rfl⟩⟩
  | stopInterface1 =>
      cases hrun
      obtain ⟨hm, rfl⟩ := h.of_stop
      exact ⟨.unlocked, meets_response hm (by decide) rfl, Or.inr ⟨5, rfl⟩⟩
  | stopInterface2 =>
      cases hrun
      obtain ⟨hm, rfl⟩ := h.of_stop
      exact ⟨.unlocked, meets_response hm (by decide) rfl, Or.inr ⟨5, rfl⟩⟩
  | stopInterface3 =>
      cases hrun
      obtain ⟨hm, rfl⟩ := h.of_stop
      exact ⟨.unlocked, meets_response hm (by decide) rfl, Or.inr ⟨5, rfl⟩⟩

end Meets

/-! ## The report -/

/-- The replies of the report loop that begins at exchange `n`. -/
def Environment.reportReplies (env : Environment) (n : ℕ) : ℕ → Report.Reply TdispHeader :=
  fun k => (env.reply (n + k)).reportReply (env.stack (n + k))

def Environment.reportProtocol (env : Environment) : Protocol TdispHeader :=
  tdispProtocol env.portionLen env.functionId

/-- The requests of the report loop that begins at exchange `n` are answered, also of a loop that
does not end. -/
def ReportAnswered (i : Interface) (env : Environment) (configured : Bool) (tdi : ℕ → Tdi)
    (n : ℕ) : Prop :=
  ∀ k, Reached env.reportProtocol (env.reportReplies n) env.reportMaxSize k →
    Answers i configured (tdi (n + k))
      (.getInterfaceReport (offsetAt (env.reportReplies n) k)
        (requestAt env.reportProtocol (env.reportReplies n) k).length)
      (env.reply (n + k)) (tdi (n + k + 1))

section Portions

variable {i : Interface} {env : Environment} {configured : Bool} {tdi : ℕ → Tdi} {n k : ℕ}
  {reply : Reply} {stack : ℕ → UInt8} {offset length : ℕ}

theorem toNat_ofNat_le16 (bytes : ℕ → UInt8) (j : ℕ) :
    (UInt16.ofNat (le16 bytes j)).toNat = le16 bytes j :=
  UInt16.toNat_ofNat_of_lt' (le16_lt bytes j)

variable (stack) in
theorem PortionMessage.portion_eq (hm : PortionMessage i offset length reply) :
    (reply.reportReply stack).portion = le16 reply.bytes 16 ∧
      (reply.reportReply stack).remainder = le16 reply.bytes 18 := by
  have hsize : reply.size = 20 + le16 reply.bytes 16 := hm.size
  have hpos := hm.portion_pos
  constructor
  · rw [Report.Reply.portion, Reply.reportReply]
    rw [toNat_ofNat_le16, response_le16 (by omega)]
  · rw [Report.Reply.remainder, Reply.reportReply]
    rw [toNat_ofNat_le16, response_le16 (by omega)]

theorem PortionMessage.serves {P : Protocol TdispHeader} {request : Report.Request TdispHeader}
    (hm : PortionMessage i request.offset request.length reply)
    (hP : P.responseSize = tdispReportResponseSize) :
    Serves P i.report request (reply.reportReply stack) := by
  obtain ⟨hportion, hremainder⟩ := hm.portion_eq stack
  have hsize : reply.size = 20 + le16 reply.bytes 16 := hm.size
  refine ⟨hm.error, ?_, ?_, ?_, ?_, fun j hj => ?_⟩
  · rw [hP, hportion]
    exact hm.size
  · rw [hportion]
    exact hm.portion_pos
  · rw [hportion]
    exact hm.portion_le
  · rw [hportion, hremainder]
    exact hm.total
  · rw [hportion] at hj
    rw [hm.bytes j hj, Reply.reportReply]
    exact congrArg some (response_byte (by omega) stack).symm

variable (stack) in
theorem PortionMessage.passes (hm : PortionMessage i offset length reply) (portionLen : ℕ)
    (request : Report.Request TdispHeader) :
    Passes ((tdispProtocol portionLen i.functionId).checks request (reply.reportReply stack)) := by
  have hsize : reply.size = 20 + le16 reply.bytes 16 := hm.size
  have hpos := hm.portion_pos
  simp only [tdispProtocol, passes_cons, check_result_pass, (hm.portion_eq stack).1]
  simp only [Reply.reportReply, Response.version, Response.messageType, Response.functionId]
  rw [response_byte (by omega), response_byte (by omega), response_le32 (by omega), hm.version,
    hm.messageType, hm.functionId]
  exact ⟨by simp, by simp, by simp, by simpa using Nat.pos_iff_ne_zero.mp hpos, passes_nil⟩

/-- Each request that the loop gets to asks for a part of the report. -/
theorem ReportAnswered.offsetAt_lt (ha : ReportAnswered i env configured tdi n)
    (hs : tdi n ≠ .unlocked)
    (hk : Reached env.reportProtocol (env.reportReplies n) env.reportMaxSize k) :
    tdi (n + k) = tdi n ∧ offsetAt (env.reportReplies n) k < i.report.length := by
  induction k with
  | zero =>
      have hlength := i.wellFormed.length_eq
      refine ⟨rfl, ?_⟩
      rw [offsetAt, received, Nat.zero_mod]
      omega
  | succ k ih =>
      obtain ⟨htdi, hoffset⟩ := ih (hk.mono (Nat.le_succ k))
      have h := ha k (hk.mono (Nat.le_succ k))
      rw [htdi] at h
      obtain ⟨hm, hsame⟩ := h.of_report hs hoffset
      have htotal := hm.total
      have hlt := i.wellFormed.length_lt
      have hremainder : le16 (env.reply (n + k)).bytes 18 ≠ 0 := by
        have hcontinues := (hk k (Nat.lt_succ_self k)).2
        rwa [Environment.reportReplies, (hm.portion_eq _).2] at hcontinues
      refine ⟨hsame, ?_⟩
      have hoffset' : offsetAt (env.reportReplies n) (k + 1) =
          (offsetAt (env.reportReplies n) k + le16 (env.reply (n + k)).bytes 16) % 2 ^ 16 := by
        rw [offsetAt, received, offsetAt, Nat.mod_add_mod, ← (hm.portion_eq (env.stack (n + k))).1]
        rfl
      rw [hoffset', Nat.mod_eq_of_lt (by omega)]
      omega

theorem ReportAnswered.portion (ha : ReportAnswered i env configured tdi n)
    (hs : tdi n ≠ .unlocked)
    (hk : Reached env.reportProtocol (env.reportReplies n) env.reportMaxSize k) :
    tdi (n + k + 1) = tdi n ∧ PortionMessage i (offsetAt (env.reportReplies n) k)
      (requestAt env.reportProtocol (env.reportReplies n) k).length (env.reply (n + k)) := by
  obtain ⟨htdi, hoffset⟩ := ha.offsetAt_lt hs hk
  have h := ha k hk
  rw [htdi] at h
  obtain ⟨hm, hsame⟩ := h.of_report hs hoffset
  exact ⟨hsame, hm⟩

/-- What the rounds have recorded passes. -/
theorem ReportAnswered.passes (ha : ReportAnswered i env configured tdi n)
    (hid : env.functionId = i.functionId) (hs : tdi n ≠ .unlocked) (buffer : ℕ → UInt8)
    (hk : ∀ j < k, Reached env.reportProtocol (env.reportReplies n) env.reportMaxSize j) :
    Passes
      (stateAt env.reportProtocol (env.reportReplies n) env.reportMaxSize buffer k).records := by
  induction k with
  | zero => exact passes_nil
  | succ k ih =>
      have hpasses := (ha.portion hs (hk k (Nat.lt_succ_self k))).2.passes (env.stack (n + k))
        env.portionLen (requestAt env.reportProtocol (env.reportReplies n) k)
      rw [← hid] at hpasses
      rw [stateAt_succ, acceptReply]
      refine passes_append.mpr ⟨passes_append.mpr ⟨passes_append.mpr ⟨?_, passes_nil⟩, ?_⟩, hpasses⟩
      · exact ih fun j hj => hk j (Nat.lt_succ_of_lt hj)
      · simp [passes_cons, passes_nil]

/-! ### The structure of the report -/

section Structure

variable {report : List UInt8} {buffer : ℕ → UInt8}
  (hbuffer : ∀ j < report.length, report[j]? = some (buffer j))

include hbuffer

theorem buffer_le16 {j : ℕ} (hj : j + 1 < report.length) :
    le16 buffer j = le16 (report.getD · 0) j := by
  have h₀ : report.getD j 0 = buffer j := by
    rw [List.getD_eq_getElem?_getD, hbuffer j (by omega), Option.getD_some]
  have h₁ : report.getD (j + 1) 0 = buffer (j + 1) := by
    rw [List.getD_eq_getElem?_getD, hbuffer (j + 1) hj, Option.getD_some]
  rw [le16, le16, h₀, h₁]

theorem buffer_le32 {j : ℕ} (hj : j + 3 < report.length) :
    le32 buffer j = le32 (report.getD · 0) j := by
  rw [le32, le32, buffer_le16 hbuffer (by omega), buffer_le16 hbuffer (by omega)]

/-- The checks of case 4.5 pass for a well-formed report. -/
theorem WellFormedReport.passes (hr : WellFormedReport report) :
    Passes (reportStructureChecks buffer report.length) := by
  have hlt := hr.length_lt
  have hlength := hr.length_eq
  have hinfo := hr.interfaceInfo
  have hattributes := hr.rangeAttributes
  have hcount : le32 buffer 12 = le32 (report.getD · 0) 12 := buffer_le32 hbuffer (by omega)
  generalize le32 (report.getD · 0) 12 = count at hcount hlength hattributes
  have hindex : (16 + count * 16) % 2 ^ 32 = 16 + 16 * count := by omega
  have hlen : le32 buffer (16 + 16 * count) = le32 (report.getD · 0) (16 + 16 * count) :=
    buffer_le32 hbuffer (by omega)
  generalize le32 (report.getD · 0) (16 + 16 * count) = len at hlen hlength
  have hsize : report.length = (16 + count * 16 + 4 + len) % 2 ^ 32 := by omega
  have hinfo' : le16 buffer 0 &&& 0xFFE0 = 0 := by
    rw [buffer_le16 hbuffer (by omega)]
    exact hinfo
  simp only [reportStructureChecks, hcount, hindex, hlen, ← hsize, beq_self_eq_true,
    Bool.not_true, Bool.false_eq_true, if_false]
  refine passes_append.mpr ⟨passes_cons.mpr ⟨by simp, passes_cons.mpr ⟨by simp [hinfo'],
    passes_nil⟩⟩, fun a ha => ?_⟩
  obtain ⟨j, hj, rfl⟩ := List.mem_map.mp ha
  have hj := List.mem_range.mp hj
  have hrange : (16 + j * 16 + 12) % 2 ^ 32 = 16 + j * 16 + 12 := by omega
  rw [check_result_pass, hrange, buffer_le32 hbuffer (by omega), hattributes j hj]
  rfl

end Structure

end Portions

/-! ## Run functions -/

/-- What a run function does against the interface. -/
structure Outcome (i : Interface) (configured : Bool) (tdi : ℕ → Tdi) (c : CaseId) (w v : World) :
    Prop where
  counted : v.Counted
  exchanges : w.exchanges ≤ v.exchanges
  statics : v.statics = w.statics
  records : ∃ as, v.records = w.records ++ as ∧ as ≠ [] ∧
    (Passes as ↔ i.Satisfies configured c)

section Run

variable {i : Interface} {env : Environment} {configured : Bool} {tdi : ℕ → Tdi} {first : ℕ}
  {requests : List (Phase × Request)} {c : CaseId} {w v : World} {level : Level} {fuel : ℕ}

theorem Passed.outcome (h : Passed tdi level w v) (hok : i.Satisfies configured c) :
    Outcome i configured tdi c w v := by
  obtain ⟨as, has, hne, hpass⟩ := h.records
  exact ⟨h.counted, h.exchanges, h.statics, as, has, hne, iff_of_true hpass hok⟩

/-- The program after a report that was fetched, before its checks. -/
def World.fetched (w : World) (report : Report.State TdispHeader) : World :=
  { w.record report.records with
    exchanges := w.exchanges + report.requests.length
    requests := w.requests ++ report.requests.map fun request =>
      (.run, .getInterfaceReport request.offset request.length) }

theorem runInterfaceReport_of_fetch {report : Report.State TdispHeader}
    (h : fetch env.reportProtocol (env.reportReplies w.exchanges) env.reportMaxSize
      env.reportStack fuel = some (true, report)) (checks : (ℕ → UInt8) → ℕ → List Assertion) :
    runInterfaceReport env checks fuel w =
      some (true, (w.fetched report).record (checks report.buffer report.size)) := by
  have h' : tdispTestGetInterfaceReport env.portionLen env.functionId
      (fun k => (env.reply (w.exchanges + k)).reportReply (env.stack (w.exchanges + k)))
      env.reportMaxSize env.reportStack fuel = some (true, report) := h
  rw [runInterfaceReport]
  dsimp only
  rw [h']
  rfl

theorem runInterfaceReport_passed (ha : ReportAnswered i env configured tdi w.exchanges)
    (hid : env.functionId = i.functionId) (hcounted : w.Counted)
    (hs : tdi w.exchanges ≠ .unlocked) (hcap : i.report.length ≤ env.reportMaxSize)
    (hfuel : i.report.length ≤ fuel) {checks : (ℕ → UInt8) → ℕ → List Assertion}
    (hchecks : ∀ buffer : ℕ → UInt8, (∀ j < i.report.length, i.report[j]? = some (buffer j)) →
      Passes (checks buffer i.report.length)) :
    ∃ v, runInterfaceReport env checks fuel w = some (true, v) ∧
      Passed tdi (tdi w.exchanges).level w v := by
  have hserves : ∀ k, Reached env.reportProtocol (env.reportReplies w.exchanges)
      env.reportMaxSize k → Serves env.reportProtocol i.report
        (requestAt env.reportProtocol (env.reportReplies w.exchanges) k)
        (env.reportReplies w.exchanges k) :=
    fun k hk => (ha.portion hs hk).2.serves rfl
  have hlt := i.wellFormed.length_lt
  obtain ⟨k, hk, hreceived, hfetch⟩ :=
    fetch_of_serves hlt hserves hcap env.reportStack hfuel
  have hbuffer := stateAt_buffer hlt hserves env.reportStack hk
  rw [hreceived] at hbuffer
  have hpasses := ha.passes hid hs env.reportStack fun j (hj : j < k + 1) =>
    hk.mono (Nat.le_of_lt_succ hj)
  have hlength : (stateAt env.reportProtocol (env.reportReplies w.exchanges) env.reportMaxSize
      env.reportStack (k + 1)).requests.length = k + 1 := by
    rw [stateAt_requests, List.length_map, List.length_range]
  refine ⟨_, runInterfaceReport_of_fetch hfetch checks, ?_, Nat.le_add_right _ _, ?_, rfl, _,
    List.append_assoc .., ?_, ?_⟩
  · simp only [World.Counted, World.record_requests, World.record_exchanges, World.fetched,
      List.length_append, List.length_map, hlength]
    rw [hcounted]
  · simp only [World.record_exchanges, World.fetched, hlength]
    rw [← Nat.add_assoc, (ha.portion hs hk).1]
  · simp [stateAt_succ, acceptReply]
  · exact passes_append.mpr ⟨hpasses, hchecks _ hbuffer⟩

/-- A case that fetches the report, with checks that pass for a well-formed one. -/
structure FetchesReport (c : CaseId) (checks : (ℕ → UInt8) → ℕ → List Assertion)
    (rest : List RunStep) : Prop where
  level : c.ready.level ≠ .unlocked
  passes : ∀ (i : Interface) (buffer : ℕ → UInt8),
    (∀ j < i.report.length, i.report[j]? = some (buffer j)) →
      Passes (checks buffer i.report.length)
  rest : rest = [] ∨ ∃ id, rest = [.finalState id c.ready.level.code]
  satisfied : ∀ (i : Interface) configured, i.Satisfies configured c

/-- A run function tests one exchange, or it fetches the report; then it may ask for the state. -/
theorem run_cases (env : Environment) (c : CaseId) :
    (∃ e rest, (c.case env).run = .exchange e :: rest ∧
      (rest = [] ∨ ∃ id expected, rest = [.finalState id expected])) ∨
    ∃ checks rest, (c.case env).run = .interfaceReport checks :: rest ∧
      FetchesReport c checks rest := by
  cases c with
  | interfaceReport1 =>
      exact Or.inr ⟨_, _, rfl, by decide, fun _ _ _ => passes_nil, Or.inr ⟨6, rfl⟩,
        fun _ _ => trivial⟩
  | interfaceReport2 =>
      exact Or.inr ⟨_, _, rfl, by decide, fun _ _ _ => passes_nil, Or.inr ⟨6, rfl⟩,
        fun _ _ => trivial⟩
  | interfaceReport5 =>
      exact Or.inr ⟨_, _, rfl, by decide, fun i _ hbuffer => i.wellFormed.passes hbuffer,
        Or.inl rfl, fun _ _ => trivial⟩
  | version1 => exact Or.inl ⟨_, _, rfl, Or.inl rfl⟩
  | capabilities1 => exact Or.inl ⟨_, _, rfl, Or.inl rfl⟩
  | interfaceState1 => exact Or.inl ⟨_, _, rfl, Or.inl rfl⟩
  | interfaceState2 => exact Or.inl ⟨_, _, rfl, Or.inl rfl⟩
  | interfaceState3 => exact Or.inl ⟨_, _, rfl, Or.inl rfl⟩
  | interfaceState4 => exact Or.inl ⟨_, _, rfl, Or.inl rfl⟩
  | _ => exact Or.inl ⟨_, _, rfl, Or.inr ⟨_, _, rfl⟩⟩

theorem runSteps_rest {rest : List RunStep}
    (hrest : rest = [] ∨ ∃ id expected, rest = [.finalState id expected]) :
    ∃ v, runSteps env c fuel rest w = some v := by
  rcases hrest with rfl | ⟨id, expected, rfl⟩
  · exact ⟨w, rfl⟩
  · exact ⟨_, rfl⟩

/-- What is known of the interface when a run function is called. -/
structure Ready (i : Interface) (env : Environment) (configured : Bool) (tdi : ℕ → Tdi)
    (c : CaseId) (fuel : ℕ) (w : World) : Prop where
  counted : w.Counted
  functionId : env.functionId = i.functionId
  holds : c.ready.Holds i configured c w (tdi w.exchanges)
  report : (∃ checks, .interfaceReport checks ∈ (c.case env).run) →
    ReportAnswered i env configured tdi w.exchanges
  capacity : i.report.length ≤ env.reportMaxSize
  fuel : i.report.length ≤ fuel

theorem Ready.fetched (hr : Ready i env configured tdi c fuel w)
    {checks : (ℕ → UInt8) → ℕ → List Assertion} {rest : List RunStep}
    (hrun : (c.case env).run = .interfaceReport checks :: rest)
    (hfetches : FetchesReport c checks rest) :
    ∃ v, runInterfaceReport env checks fuel w = some (true, v) ∧
      Passed tdi c.ready.level w v := by
  have hs : tdi w.exchanges ≠ .unlocked := fun h => by
    have hlevel := hr.holds.level
    rw [h] at hlevel
    exact hfetches.level hlevel.symm
  rw [← hr.holds.level]
  exact runInterfaceReport_passed (hr.report ⟨checks, by simp [hrun]⟩) hr.functionId hr.counted hs
    hr.capacity hr.fuel (hfetches.passes i)

/-- A run function ends. -/
theorem Ready.exists_runSteps (hr : Ready i env configured tdi c fuel w) :
    ∃ v, runSteps env c fuel (c.case env).run w = some v := by
  rcases run_cases env c with ⟨e, rest, hrun, hrest⟩ | ⟨checks, rest, hrun, hfetches⟩
  · rw [hrun, runSteps]
    dsimp only
    split
    · exact runSteps_rest hrest
    · exact ⟨_, rfl⟩
  · obtain ⟨u, hu, -⟩ := hr.fetched hrun hfetches
    rw [hrun, runSteps, hu]
    exact runSteps_rest (hfetches.rest.imp id fun h => h.imp fun id hid => ⟨_, hid⟩)

theorem runSteps_requests_prefix {steps : List RunStep} (h : runSteps env c fuel steps w = some v)
    (hsent : v.requests <+: requests) : w.requests <+: requests := by
  obtain ⟨rs, hrs, -⟩ := (runSteps_spec h).requests
  exact List.IsPrefix.trans ⟨rs, hrs.symm⟩ hsent

/-- The closing state request of a run function that has passed so far. -/
theorem passed_rest (ha : Answered i env configured tdi first requests) {u : World}
    (hfirst : first ≤ w.exchanges) (hpassed : Passed tdi level w u) {rest : List RunStep}
    (hrest : rest = [] ∨ ∃ id, rest = [.finalState id level.code])
    (h : runSteps env c fuel rest u = some v) (hsent : v.requests <+: requests) :
    Passed tdi level w v := by
  rcases hrest with rfl | ⟨id, rfl⟩
  · cases h
    exact hpassed
  · obtain rfl : runFinalState env id level.code u = v := Option.some.inj h
    rw [runFinalState_requests] at hsent
    exact hpassed.trans (runFinalState_passed ha hpassed.counted
      (hfirst.trans hpassed.exchanges) hpassed.level hsent)

end Run

end TeeIoValidator.Tdisp
