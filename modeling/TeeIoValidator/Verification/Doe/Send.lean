import TeeIoValidator.Library.Polling
import TeeIoValidator.Verification.Doe.Accesses

/-! # Sending a data object

The polling loop leaves at the first poll that finds the busy bit clear, or the busy and
the error bit set. Only the first of the two exits writes the object. -/

namespace TeeIoValidator.Doe

open Polling

/-! ## The polling loop -/

def sendPoll (dev : Instance) : ℕ → ℕ → Option PollExit :=
  poll dev fun j => !busyAt dev j

theorem writeDataObject_eq (words : List Dword) (s : State) :
    writeDataObject words s =
      { s with accesses := s.accesses ++ words.map .writeMailbox } := by
  induction words generalizing s with
  | nil => simp [writeDataObject]
  | cons data words ih =>
      have h := ih (s.record (.writeMailbox data))
      simpa [writeDataObject, State.record] using h

/-- The state in which the loop is left at poll `i`. -/
def sendExitState (dev : Instance) (words : List Dword) (k i : ℕ) (s : State) :
    PollExit → State
  | .transfer =>
    { s with
      statusReads := k + 2 * i + 1, controlReads := s.controlReads + 1,
      accesses := s.accesses ++ words.map .writeMailbox ++ [goAccess dev s.controlReads] }
  | .error => s.atStatusRead (k + 2 * i + 2)

theorem sendLoop_eq (dev : Instance) (words : List Dword) (delay : ℕ) (s : State) :
    sendLoop dev words delay s =
      match firstDecided (sendPoll dev s.statusReads) delay 0 with
      | some (i, e) => (delay - i, sendExitState dev words s.statusReads i s e)
      | none => (0, s.atStatusRead (s.statusReads + 2 * delay)) := by
  have h : sendLoop dev words delay s = _ := pollLoop_eq dev (fun j => !busyAt dev j) _
    (fun delay s => (delay, triggerDoeGo dev (writeDataObject words s)))
    (fun delay s => (delay, s)) (fun _ => rfl) s.statusReads delay 0 s rfl
  rw [h, sendPoll]
  cases firstDecided (poll dev (fun j => !busyAt dev j) s.statusReads) delay 0 with
  | none => simp
  | some p =>
      obtain ⟨i, e⟩ := p
      cases e <;> simp [sendExitState, writeDataObject_eq]

/-! ## The whole call -/

/-- What the caller relies on: after a success the object was written once, in order, and
then announced; and nothing else is ever announced. -/
structure SendFaithful (request : List Dword) (status : Status) (as : List Access) :
    Prop where
  written : status = .success → ∃ before go after,
    as = before ++ go :: after ∧ go.setsGo ∧
      writtenDwords before = request ∧ writtenDwords after = []
  announced : ∀ before go after, as = before ++ go :: after → go.setsGo →
    writtenDwords before = request

/-- The status sequences and lengths for which a send is faithful. `k` is the status
read at which the call starts. -/
structure SendCondition (dev : Instance) (length timeout k : ℕ) : Prop where
  error_persists : ∀ i, DecidedAt (sendPoll dev (k + 1)) (sendDelay timeout) 0 i .error →
    errorAt dev (k + 2 * i + 3)
  fits : ∀ i, DecidedAt (sendPoll dev (k + 1)) (sendDelay timeout) 0 i .transfer →
    length < 2 ^ 32

theorem dataObjectCount_eq (length : ℕ) : dataObjectCount length = length % 2 ^ 32 := by
  simp [dataObjectCount]

theorem take_dataObjectCount_eq_iff (request : List Dword) :
    request.take (dataObjectCount request.length) = request ↔ request.length < 2 ^ 32 := by
  rw [dataObjectCount_eq]
  constructor
  · intro h
    have hlen := congrArg List.length h
    rw [List.length_take] at hlen
    have := Nat.mod_lt request.length (show 0 < 2 ^ 32 by decide)
    omega
  · intro h
    rw [Nat.mod_eq_of_lt h, List.take_length]

/-- Before the first access that sets the GO bit there is only one way to cut the list. -/
theorem eq_of_append_setsGo {pre post before after : List Access} {g go : Access}
    (hpre : ∀ a ∈ pre, a.setsGo = false) (hpost : ∀ a ∈ post, a.setsGo = false)
    (h : pre ++ g :: post = before ++ go :: after) (hgo : go.setsGo) : before = pre := by
  rcases List.append_eq_append_iff.mp h with ⟨as, rfl, hg⟩ | ⟨bs, rfl, hg⟩
  · cases as with
    | nil => simp
    | cons a as =>
        obtain ⟨rfl, rfl⟩ := List.cons.inj hg
        have := hpost go (by simp)
        simp [hgo] at this
  · cases bs with
    | nil => simp
    | cons b bs =>
        obtain ⟨rfl, -⟩ := List.cons.inj hg
        have := hpre go (by simp)
        simp [hgo] at this

theorem setsGo_of_mem_map_writeMailbox {words : List Dword} {a : Access}
    (h : a ∈ words.map Access.writeMailbox) : a.setsGo = false := by
  obtain ⟨data, -, rfl⟩ := List.mem_map.mp h
  rfl

/-- A call that announces nothing is faithful exactly when it does not succeed. -/
theorem sendFaithful_silent_iff {request : List Dword} {status : Status}
    {as : List Access} (hgo : ∀ a ∈ as, a.setsGo = false) :
    SendFaithful request status as ↔ status ≠ .success := by
  constructor
  · intro h hs
    obtain ⟨before, go, after, rfl, hset, -, -⟩ := h.written hs
    simp [hgo go (by simp)] at hset
  · intro h
    refine ⟨fun hs => absurd hs h, ?_⟩
    rintro before go after rfl hset
    simp [hgo go (by simp)] at hset

/-- A call that announces `words` is faithful exactly when they are the request. -/
theorem sendFaithful_announcing_iff {request words : List Dword} {status : Status}
    {pre post : List Access} {go : Access} (hset : go.setsGo)
    (hpre : ∀ a ∈ pre, a.setsGo = false) (hpost : ∀ a ∈ post, a.setsGo = false)
    (hwpre : writtenDwords pre = []) (hwpost : writtenDwords post = []) :
    SendFaithful request status
        (pre ++ words.map .writeMailbox ++ [go] ++ post) ↔ words = request := by
  have hlist : pre ++ words.map .writeMailbox ++ [go] ++ post =
      (pre ++ words.map .writeMailbox) ++ go :: post := by simp
  have hquiet : ∀ a ∈ pre ++ words.map Access.writeMailbox, a.setsGo = false := by
    intro a ha
    rcases List.mem_append.mp ha with ha | ha
    · exact hpre a ha
    · exact setsGo_of_mem_map_writeMailbox ha
  have hwords : writtenDwords (pre ++ words.map .writeMailbox) = words := by simp [hwpre]
  rw [hlist]
  constructor
  · intro h
    rw [← h.announced _ go post rfl hset, hwords]
  · rintro rfl
    refine ⟨fun _ => ⟨_, go, post, rfl, hset, hwords, hwpost⟩, ?_⟩
    intro before go' after h hset'
    rw [eq_of_append_setsGo hquiet hpost h hset', hwords]

theorem deviceDoeSendMessage_eq (dev : Instance) {request : List Dword} (timeout : ℕ)
    (s : State) (hne : request ≠ []) :
    deviceDoeSendMessage dev (some request) timeout s =
      match firstDecided (sendPoll dev (s.statusReads + 1)) (sendDelay timeout) 0 with
      | some (i, e) =>
        checkErrorAgain dev .sendFail
          (sendExitState dev (request.take (dataObjectCount request.length))
            (s.statusReads + 1) i (clearPendingError dev s) e)
      | none =>
        (.sendFail, (clearPendingError dev s).atStatusRead
          (s.statusReads + 1 + 2 * sendDelay timeout)) := by
  have hlen : 4 * request.length ≠ 0 := by
    have := List.length_pos_iff.mpr hne
    omega
  have hloop := sendLoop_eq dev (request.take (dataObjectCount request.length))
    (sendDelay timeout) (clearPendingError dev s)
  rw [clearPendingError_statusReads] at hloop
  simp only [deviceDoeSendMessage, if_neg hlen, hloop]
  cases h : firstDecided (sendPoll dev (s.statusReads + 1)) (sendDelay timeout) 0 with
  | none => simp
  | some p =>
      obtain ⟨i, e⟩ := p
      have hlt := ((firstDecided_eq_some_iff _ _ _ _ _).mp h).lt_stop
      rw [if_neg (show sendDelay timeout - i ≠ 0 by omega)]

/-- The accesses from the way out of the loop to the end of the call; `c` is the next
control read. -/
def sendExitAccesses (dev : Instance) (words : List Dword) (k i c : ℕ) :
    PollExit → List Access
  | .transfer => words.map .writeMailbox ++ [goAccess dev c] ++
      abortIfError dev (k + 2 * i + 1) (c + 1)
  | .error => abortIfError dev (k + 2 * i + 2) c

theorem accessesSince_sendExit (dev : Instance) (words : List Dword) (i : ℕ) (s : State)
    (e : PollExit) :
    accessesSince s (checkErrorAgain dev .sendFail
      (sendExitState dev words (s.statusReads + 1) i (clearPendingError dev s) e)).2 =
      abortIfError dev s.statusReads s.controlReads ++
        sendExitAccesses dev words (s.statusReads + 1) i (clearPendingError dev s).controlReads
          e := by
  apply accessesSince_of_eq_append
  rw [checkErrorAgain_accesses]
  cases e <;>
    simp only [sendExitState, sendExitAccesses, clearPendingError_accesses, List.append_assoc,
      atStatusRead_accesses, atStatusRead_statusReads, atStatusRead_controlReads]

/-- A send is faithful for exactly these status sequences. The condition fails when an
error seen with the busy bit has vanished at the next read: the object is then reported
sent without a dword written. -/
theorem deviceDoeSendMessage_faithful_iff (dev : Instance) (request : List Dword)
    (timeout : ℕ) (s : State) (hne : request ≠ []) :
    SendFaithful request (deviceDoeSendMessage dev (some request) timeout s).1
        (accessesSince s (deviceDoeSendMessage dev (some request) timeout s).2) ↔
      SendCondition dev request.length timeout s.statusReads := by
  have hquiet : ∀ k c, ∀ a ∈ abortIfError dev k c, a.setsGo = false :=
    fun _ _ _ => setsGo_of_mem_abortIfError
  rw [deviceDoeSendMessage_eq dev timeout s hne]
  cases h : firstDecided (sendPoll dev (s.statusReads + 1)) (sendDelay timeout) 0 with
  | none =>
      have hnot := not_decidedAt_of_eq_none h
      simp only
      rw [accessesSince_of_eq_append (clearPendingError_at_accesses dev s _),
        sendFaithful_silent_iff (hquiet _ _)]
      exact ⟨fun _ => ⟨fun i hi => absurd hi (hnot i _), fun i hi => absurd hi (hnot i _)⟩,
        fun _ => by decide⟩
  | some p =>
      obtain ⟨i, e⟩ := p
      have hat := (firstDecided_eq_some_iff _ _ _ _ _).mp h
      simp only [accessesSince_sendExit]
      cases e with
      | transfer =>
          rw [sendExitAccesses, ← List.append_assoc, ← List.append_assoc,
            sendFaithful_announcing_iff (goAccess_setsGo dev _) (hquiet _ _) (hquiet _ _)
              (by simp) (by simp), take_dataObjectCount_eq_iff]
          constructor
          · intro hlen
            refine ⟨fun j hj => ?_, fun _ _ => hlen⟩
            have := (hat.unique hj).2
            contradiction
          · intro hcond
            exact hcond.fits i hat
      | error =>
          have hsilent : ∀ c, ∀ a ∈ abortIfError dev s.statusReads s.controlReads ++
              abortIfError dev (s.statusReads + 1 + 2 * i + 2) c, a.setsGo = false := by
            intro c a ha
            rcases List.mem_append.mp ha with ha | ha
            · exact hquiet _ _ a ha
            · exact hquiet _ _ a ha
          have hread : s.statusReads + 1 + 2 * i + 2 = s.statusReads + 2 * i + 3 := by omega
          rw [sendExitAccesses, sendFaithful_silent_iff (hsilent _), checkErrorAgain_status]
          simp only [sendExitState, atStatusRead_statusReads, hread]
          constructor
          · intro hfail
            refine ⟨fun j hj => ?_, fun j hj => ?_⟩
            · obtain ⟨rfl, -⟩ := hat.unique hj
              by_contra herr
              simp [herr] at hfail
            · have := (hat.unique hj).2
              contradiction
          · intro hcond
            simp [hcond.error_persists i hat]

/-- A mailbox that is never busy and never in error. -/
def idleInstance : Instance := ⟨fun _ => 0, fun _ => 0, fun _ => 0⟩

theorem deviceDoeSendMessage_faithful_idle :
    SendFaithful [1, 2] (deviceDoeSendMessage idleInstance (some [1, 2]) 0 State.init).1
      (accessesSince State.init
        (deviceDoeSendMessage idleInstance (some [1, 2]) 0 State.init).2) := by
  refine (deviceDoeSendMessage_faithful_iff idleInstance [1, 2] 0 State.init (by simp)).mpr ?_
  have hpoll : ∀ k i, sendPoll idleInstance k i = some .transfer := by
    simp [sendPoll, poll, busyAt, idleInstance]
  refine ⟨fun i hi => ?_, fun _ _ => by decide⟩
  simpa [hpoll] using hi.decided

/-- Busy and in error at its first poll only. -/
def transientInstance : Instance :=
  ⟨fun k => if k = 1 then statusDoeBusy else if k = 2 then statusDoeError else 0,
    fun _ => 0, fun _ => 0⟩

/-- The transient error ends the loop with its delay left over, and the error is gone
when it is checked again. -/
theorem deviceDoeSendMessage_unwritten :
    (deviceDoeSendMessage transientInstance (some [1, 2]) 0 State.init).1 = .success ∧
      ¬ SendFaithful [1, 2]
        (deviceDoeSendMessage transientInstance (some [1, 2]) 0 State.init).1
        (accessesSince State.init
          (deviceDoeSendMessage transientInstance (some [1, 2]) 0 State.init).2) := by
  have hstatus : (deviceDoeSendMessage transientInstance (some [1, 2]) 0 State.init).1 =
      .success := by decide
  have haccess : accessesSince State.init
      (deviceDoeSendMessage transientInstance (some [1, 2]) 0 State.init).2 = [] := by decide
  refine ⟨hstatus, fun h => ?_⟩
  obtain ⟨before, go, after, hlist, -⟩ := h.written hstatus
  rw [haccess] at hlist
  simp at hlist

end TeeIoValidator.Doe
