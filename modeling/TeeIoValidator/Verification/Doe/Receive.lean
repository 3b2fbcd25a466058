import TeeIoValidator.Verification.Doe.Framing

/-! # Receiving a data object

The length of the object is taken from its second dword, so every way out of the call
leaves the mailbox at a position that the instance chose. -/

namespace TeeIoValidator.Doe

open Polling

/-! ## Reading into the buffer -/

/-- The dwords of the object at the head of the read mailbox. -/
def objectAt (dev : Instance) (m : ℕ) : ℕ → Dword := fun i => dev.readMailbox (m + i)

/-- The buffer after the dwords `index, ..., index + count - 1` were stored. -/
def Response.fill (r : Response) (object : ℕ → Dword) (index count : ℕ) : Response :=
  { r with buffer := fun i =>
      if index ≤ i ∧ i < index + count then object i else r.buffer i }

theorem Response.fill_store (r : Response) (object : ℕ → Dword) (index count : ℕ) :
    (r.store index (object index)).fill object (index + 1) count =
      r.fill object index (count + 1) := by
  simp only [Response.fill, Response.store, Response.mk.injEq, and_true]
  funext i
  by_cases hi : i = index
  · subst hi
    simp
  · have h : (index + 1 ≤ i ∧ i < index + 1 + count) ↔
        (index ≤ i ∧ i < index + (count + 1)) := by omega
    simp only [h, Function.update_of_ne hi]

theorem Response.fill_fill (r : Response) (object : ℕ → Dword) (count rest : ℕ) :
    (r.fill object 0 count).fill object count rest = r.fill object 0 (count + rest) := by
  simp only [Response.fill, Response.mk.injEq, and_true]
  funext i
  grind

theorem readDataObject_eq (dev : Instance) (m count index : ℕ) (r : Response) (s : State)
    (hs : s.mailboxReads = m + index) :
    readDataObject dev count index r s =
      (r.fill (objectAt dev m) index count,
        { s with
          mailboxReads := m + (index + count),
          accesses := s.accesses ++ readAccesses (objectAt dev m) count index }) := by
  induction count generalizing index r s with
  | zero =>
      have hr : r.fill (objectAt dev m) index 0 = r := by
        have h : ∀ i, ¬ (index ≤ i ∧ i < index + 0) := fun i => by omega
        simp only [Response.fill, if_neg (h _)]
      simp [readDataObject, readAccesses, hr, ← hs]
  | succ count ih =>
      simp only [readDataObject, readDataObjectDword, readMailboxRead, State.record, hs]
      rw [ih (index + 1) _ _ rfl]
      change (((r.store index (objectAt dev m index)).fill _ _ _), _) = _
      rw [Response.fill_store]
      have hn : m + (index + 1 + count) = m + (index + (count + 1)) := by omega
      simp [readAccesses, objectAt, hn]

/-- The number of dwords of the object at the head of the read mailbox. -/
def headCount (dev : Instance) (lengthOf : Dword → Dword) (m : ℕ) : ℕ :=
  objectCount (lengthOf (objectAt dev m 1))

theorem objectCount_pos (length : Dword) : 0 < objectCount length := by
  unfold objectCount
  split <;> omega

/-- The state after the first `count` dwords of the object were read. -/
def afterDwords (dev : Instance) (count : ℕ) (s : State) : State :=
  { s with
    mailboxReads := s.mailboxReads + count,
    accesses := s.accesses ++ readAccesses (objectAt dev s.mailboxReads) count 0 }

theorem receiveDataObject_eq (dev : Instance) (lengthOf : Dword → Dword) (delay : ℕ)
    (r : Response) (s : State) :
    receiveDataObject dev lengthOf delay r s =
      let count := headCount dev lengthOf s.mailboxReads
      if r.size < count * 4 then
        (.bufferTooSmall,
          { r.fill (objectAt dev s.mailboxReads) 0 2 with size := count * 4 },
          afterDwords dev 2 s)
      else
        (.left delay,
          { r.fill (objectAt dev s.mailboxReads) 0 (2 + (count - 2)) with size := count * 4 },
          afterDwords dev (2 + (count - 2)) s) := by
  have hheader : receiveDataObject dev lengthOf delay r s =
      let p := readDataObject dev 2 0 r s
      let count := objectCount (lengthOf (p.1.buffer 1))
      if p.1.size < count * 4 then
        (.bufferTooSmall, { p.1 with size := count * 4 }, p.2)
      else
        let q := readDataObject dev (count - 2) 2 { p.1 with size := count * 4 } p.2
        (.left delay, q.1, q.2) := rfl
  have hcount : objectCount (lengthOf
      ((r.fill (objectAt dev s.mailboxReads) 0 2).buffer 1)) =
        headCount dev lengthOf s.mailboxReads := by simp [Response.fill, headCount]
  rw [hheader, readDataObject_eq dev s.mailboxReads 2 0 r s rfl]
  simp only [hcount]
  have hsize : (r.fill (objectAt dev s.mailboxReads) 0 2).size = r.size := rfl
  rw [hsize]
  by_cases hbig : r.size < headCount dev lengthOf s.mailboxReads * 4
  · rw [if_pos hbig, if_pos hbig]
    simp [afterDwords]
  · rw [if_neg hbig, if_neg hbig, readDataObject_eq dev s.mailboxReads _ 2 _ _ (by simp),
      ← Response.fill_fill]
    simp [afterDwords, readAccesses_append, Response.fill]

/-! ## The whole call -/

def receivePoll (dev : Instance) : ℕ → ℕ → Option PollExit :=
  poll dev (readyAt dev)

/-- The object was read in full into a buffer of `capacity` bytes. -/
structure Received (lengthOf : Dword → Dword) (object : ℕ → Dword) (capacity : ℕ)
    (r : Response) (as : List Access) : Prop where
  size_eq : r.size = 4 * objectCount (lengthOf (object 1))
  size_ge : 8 ≤ r.size
  size_le : r.size ≤ capacity
  read : readDwords as = (List.range (objectCount (lengthOf (object 1)))).map object
  stored : ∀ i < objectCount (lengthOf (object 1)), r.buffer i = object i

/-- What the caller relies on. `object` gives the dwords at the head of the read mailbox
when the call starts, which is at an object boundary. -/
structure ReceiveFaithful (lengthOf : Dword → Dword) (object : ℕ → Dword) (capacity : ℕ)
    (status : Status) (response : Option Response) (as : List Access) : Prop where
  received : status = .success → ∃ r, response = some r ∧
    Received lengthOf object capacity r as
  drained : status ≠ .success → positionAfter lengthOf .boundary as = .boundary

/-- The status sequences and announced lengths for which a receive is faithful. `k` is
the status read at which the call starts and `count` the announced number of dwords. -/
structure ReceiveCondition (dev : Instance) (count capacity k : ℕ) : Prop where
  error_persists : ∀ i, DecidedAt (receivePoll dev (k + 1)) receiveDelay 0 i .error →
    errorAt dev (k + 2 * i + 3)
  fits : ∀ i, DecidedAt (receivePoll dev (k + 1)) receiveDelay 0 i .transfer →
    count * 4 ≤ capacity
  wellFormed : ∀ i, DecidedAt (receivePoll dev (k + 1)) receiveDelay 0 i .transfer →
    count = 1 → errorAt dev (k + 2 * i + 2)

theorem receiveLoop_eq (dev : Instance) (lengthOf : Dword → Dword) (r : Response)
    (delay : ℕ) (s : State) :
    receiveLoop dev lengthOf r delay s =
      match firstDecided (receivePoll dev s.statusReads) delay 0 with
      | some (i, .transfer) => receiveDataObject dev lengthOf (delay - i) r
          (s.atStatusRead (s.statusReads + 2 * i + 1))
      | some (i, .error) =>
          (.left (delay - i), r, s.atStatusRead (s.statusReads + 2 * i + 2))
      | none => (.left 0, r, s.atStatusRead (s.statusReads + 2 * delay)) := by
  have h := pollLoop_eq dev (readyAt dev) (isDoeDataObjectReadyAsserted dev)
    (fun delay s => receiveDataObject dev lengthOf delay r s)
    (fun delay s => (.left delay, r, s)) (fun _ => rfl) s.statusReads delay 0 s rfl
  rw [receiveLoop, h, receivePoll]
  cases firstDecided (poll dev (readyAt dev) s.statusReads) delay 0 with
  | none => simp
  | some p =>
      obtain ⟨i, e⟩ := p
      cases e <;> rfl

/-- The end of a call whose loop left part of its delay. -/
def finishReceive (dev : Instance) (r : Response) (s : State) :
    Status × Option Response × State :=
  ((checkErrorAgain dev .receiveFail s).1, some r, (checkErrorAgain dev .receiveFail s).2)

/-- The rest of a call that found an object ready. -/
def receiveAt (dev : Instance) (lengthOf : Dword → Dword) (r : Response) (s : State) :
    Status × Option Response × State :=
  let count := headCount dev lengthOf s.mailboxReads
  let object := objectAt dev s.mailboxReads
  if r.size < count * 4 then
    (.bufferTooSmall, some { r.fill object 0 2 with size := count * 4 }, afterDwords dev 2 s)
  else
    finishReceive dev { r.fill object 0 (2 + (count - 2)) with size := count * 4 }
      (afterDwords dev (2 + (count - 2)) s)

theorem deviceDoeReceiveMessage_eq (dev : Instance) (lengthOf : Dword → Dword)
    (r : Response) (s : State) (hcap : 8 ≤ r.size) :
    deviceDoeReceiveMessage dev lengthOf (some r) s =
      match firstDecided (receivePoll dev (s.statusReads + 1)) receiveDelay 0 with
      | some (i, .transfer) =>
        receiveAt dev lengthOf r
          ((clearPendingError dev s).atStatusRead (s.statusReads + 2 * i + 2))
      | some (i, .error) =>
        finishReceive dev r
          ((clearPendingError dev s).atStatusRead (s.statusReads + 2 * i + 3))
      | none =>
        (.receiveFail, some r, (clearPendingError dev s).atStatusRead
          (s.statusReads + 1 + 2 * receiveDelay)) := by
  have hloop := receiveLoop_eq dev lengthOf r receiveDelay (clearPendingError dev s)
  rw [clearPendingError_statusReads] at hloop
  simp only [deviceDoeReceiveMessage, if_neg (Nat.not_lt.mpr hcap), hloop]
  cases h : firstDecided (receivePoll dev (s.statusReads + 1)) receiveDelay 0 with
  | none => simp
  | some p =>
      obtain ⟨i, e⟩ := p
      have hlt := ((firstDecided_eq_some_iff _ _ _ _ _).mp h).lt_stop
      have hleft : receiveDelay - i ≠ 0 := by omega
      have hread : s.statusReads + 1 + 2 * i + 1 = s.statusReads + 2 * i + 2 := by omega
      have hread' : s.statusReads + 1 + 2 * i + 2 = s.statusReads + 2 * i + 3 := by omega
      cases e with
      | error => simp [hleft, hread', finishReceive]
      | transfer =>
          simp only [receiveDataObject_eq, receiveAt, hread, atStatusRead_mailboxReads,
            clearPendingError_mailboxReads]
          by_cases hbig : r.size < headCount dev lengthOf s.mailboxReads * 4
          · simp only [if_pos hbig]
          · simp only [if_neg hbig, hleft, if_false, finishReceive]

section

variable {dev : Instance} {lengthOf : Dword → Dword} {object : ℕ → Dword} {capacity : ℕ}

theorem receiveFaithful_of_failed_iff {status : Status} {response : Option Response}
    {as : List Access} (h : status ≠ .success) :
    ReceiveFaithful lengthOf object capacity status response as ↔
      positionAfter lengthOf .boundary as = .boundary :=
  ⟨fun hf => hf.drained h, fun hp => ⟨fun hs => absurd hs h, fun _ => hp⟩⟩

/-- The last check of the error bit turns what was read into a failure and an abort, or
leaves it as it is. -/
theorem finishReceive_faithful_iff {r : Response} {s t : State} {as : List Access}
    (h : t.accesses = s.accesses ++ as) :
    ReceiveFaithful lengthOf object capacity (finishReceive dev r t).1
        (finishReceive dev r t).2.1 (accessesSince s (finishReceive dev r t).2.2) ↔
      errorAt dev t.statusReads ∨ Received lengthOf object capacity r as := by
  have haccess : accessesSince s (finishReceive dev r t).2.2 =
      as ++ abortIfError dev t.statusReads t.controlReads := by
    apply accessesSince_of_eq_append
    rw [finishReceive, checkErrorAgain_accesses, h, List.append_assoc]
  rw [haccess, finishReceive, checkErrorAgain_status]
  cases herr : errorAt dev t.statusReads with
  | true =>
      simp only [if_true, true_or, iff_true]
      rw [receiveFaithful_of_failed_iff (by decide), positionAfter_append]
      exact positionAfter_abortIfError_of_error lengthOf _ _ herr
  | false =>
      simp only [Bool.false_eq_true, if_false, false_or, abortIfError, herr, List.append_nil]
      constructor
      · intro hf
        obtain ⟨r', hr, hrec⟩ := hf.received rfl
        rw [Option.some.inj hr]
        exact hrec
      · intro hrec
        exact ⟨fun _ => ⟨r, rfl, hrec⟩, fun hne => absurd rfl hne⟩

/-- Without a dword read there is no object. -/
theorem not_received_of_readDwords_eq_nil {r : Response} {as : List Access}
    (h : readDwords as = []) : ¬ Received lengthOf object capacity r as := by
  intro hrec
  have hlen := congrArg List.length hrec.read
  have := objectCount_pos (lengthOf (object 1))
  simp [h] at hlen
  omega

/-- Having read the announced dwords, at least the two of the header, the object is
received unless it announces less than its own header. -/
theorem received_fill_iff (r : Response) {as : List Access}
    (hfits : objectCount (lengthOf (object 1)) * 4 ≤ capacity) (has : readDwords as = []) :
    Received lengthOf object capacity
        { r.fill object 0 (2 + (objectCount (lengthOf (object 1)) - 2)) with
          size := objectCount (lengthOf (object 1)) * 4 }
        (as ++ readAccesses object (2 + (objectCount (lengthOf (object 1)) - 2)) 0) ↔
      objectCount (lengthOf (object 1)) ≠ 1 := by
  have hpos := objectCount_pos (lengthOf (object 1))
  constructor
  · intro hrec hone
    have hge := hrec.size_ge
    simp only [hone] at hge
    omega
  · intro hone
    have hcount : 2 + (objectCount (lengthOf (object 1)) - 2) =
        objectCount (lengthOf (object 1)) := by omega
    rw [hcount]
    refine ⟨by simp only; omega, by simp only; omega, hfits, ?_, ?_⟩
    · rw [readDwords_append, has, readDwords_readAccesses, List.nil_append, List.range_eq_range']
    · intro i hi
      simp [Response.fill, hi]

end

/-- The accesses of a call that started at `s` and found an object ready in state `t`. -/
theorem afterDwords_accesses {dev : Instance} {s t : State} {as : List Access}
    (h : t.accesses = s.accesses ++ as) (count : ℕ) :
    (afterDwords dev count t).accesses =
      s.accesses ++ (as ++ readAccesses (objectAt dev t.mailboxReads) count 0) := by
  rw [afterDwords, h, List.append_assoc]

theorem receiveAt_faithful_iff (dev : Instance) (lengthOf : Dword → Dword) {r : Response}
    {s t : State} {as : List Access} (hcap : 8 ≤ r.size) (h : t.accesses = s.accesses ++ as)
    (has : readDwords as = [])
    (hpos : positionAfter lengthOf .boundary as = .boundary) :
    ReceiveFaithful lengthOf (objectAt dev t.mailboxReads) r.size
        (receiveAt dev lengthOf r t).1 (receiveAt dev lengthOf r t).2.1
        (accessesSince s (receiveAt dev lengthOf r t).2.2) ↔
      headCount dev lengthOf t.mailboxReads * 4 ≤ r.size ∧
        (headCount dev lengthOf t.mailboxReads = 1 → errorAt dev t.statusReads) := by
  by_cases hbig : r.size < headCount dev lengthOf t.mailboxReads * 4
  · simp only [receiveAt, if_pos hbig]
    rw [accessesSince_of_eq_append (afterDwords_accesses h 2),
      receiveFaithful_of_failed_iff (by decide), positionAfter_append, hpos,
      positionAfter_header_readAccesses, ofRemaining_eq_boundary_iff]
    -- more than eight bytes do not fit, so dwords are left behind the header
    simp only [headCount] at hbig ⊢
    omega
  · simp only [receiveAt, if_neg hbig]
    rw [finishReceive_faithful_iff (afterDwords_accesses h _), headCount,
      received_fill_iff r (Nat.not_lt.mp hbig) has]
    simp only [headCount] at hbig
    constructor
    · rintro (herr | hone)
      · exact ⟨Nat.not_lt.mp hbig, fun _ => herr⟩
      · exact ⟨Nat.not_lt.mp hbig, fun hone' => absurd hone' hone⟩
    · rintro ⟨-, herr⟩
      by_cases hone : objectCount (lengthOf (objectAt dev t.mailboxReads 1)) = 1
      · exact .inl (herr hone)
      · exact .inr hone

/-- A receive is faithful for exactly these status sequences and lengths. The condition
fails when an error seen while waiting has vanished at the next read (a success without
an object), for an object of one dword, and for an object that exceeds the buffer (left
in the mailbox without an abort). -/
theorem deviceDoeReceiveMessage_faithful_iff (dev : Instance) (lengthOf : Dword → Dword)
    (r : Response) (s : State) (hcap : 8 ≤ r.size) :
    ReceiveFaithful lengthOf (objectAt dev s.mailboxReads) r.size
        (deviceDoeReceiveMessage dev lengthOf (some r) s).1
        (deviceDoeReceiveMessage dev lengthOf (some r) s).2.1
        (accessesSince s (deviceDoeReceiveMessage dev lengthOf (some r) s).2.2) ↔
      ReceiveCondition dev (headCount dev lengthOf s.mailboxReads) r.size s.statusReads := by
  have haccess := clearPendingError_at_accesses dev s
  have hpos := positionAfter_boundary_abortIfError lengthOf dev s.statusReads s.controlReads
  have hread := readDwords_abortIfError dev s.statusReads s.controlReads
  rw [deviceDoeReceiveMessage_eq dev lengthOf r s hcap]
  cases h : firstDecided (receivePoll dev (s.statusReads + 1)) receiveDelay 0 with
  | none =>
      have hnot := not_decidedAt_of_eq_none h
      simp only
      rw [accessesSince_of_eq_append (haccess _), receiveFaithful_of_failed_iff (by decide)]
      exact ⟨fun _ => ⟨fun i hi => absurd hi (hnot i _), fun i hi => absurd hi (hnot i _),
        fun i hi => absurd hi (hnot i _)⟩, fun _ => hpos⟩
  | some p =>
      obtain ⟨i, e⟩ := p
      have hat := (firstDecided_eq_some_iff _ _ _ _ _).mp h
      cases e with
      | error =>
          simp only
          rw [finishReceive_faithful_iff (haccess _),
            or_iff_left (not_received_of_readDwords_eq_nil hread), atStatusRead_statusReads]
          constructor
          · intro herr
            refine ⟨fun j hj => ?_, fun j hj => ?_, fun j hj => ?_⟩
            · rw [(hj.unique hat).1]
              exact herr
            · exact absurd (hj.unique hat).2 (by decide)
            · exact absurd (hj.unique hat).2 (by decide)
          · intro hcond
            exact hcond.error_persists i hat
      | transfer =>
          have hat' := receiveAt_faithful_iff dev lengthOf hcap
            (haccess (s.statusReads + 2 * i + 2)) hread hpos
          simp only [atStatusRead_mailboxReads, clearPendingError_mailboxReads,
            atStatusRead_statusReads] at hat'
          rw [hat']
          constructor
          · rintro ⟨hfits, hone⟩
            refine ⟨fun j hj => ?_, fun _ _ => hfits, fun j hj hcount => ?_⟩
            · exact absurd (hj.unique hat).2 (by decide)
            · rw [(hj.unique hat).1]
              exact hone hcount
          · intro hcond
            exact ⟨hcond.fits i hat, hcond.wellFormed i hat⟩

/-- Always ready, with an object of three dwords in its mailbox. -/
def readyInstance : Instance :=
  ⟨fun _ => statusDoeReady, fun _ => 0, fun i => if i = 1 then 3 else 7⟩

theorem deviceDoeReceiveMessage_faithful_ready :
    ReceiveFaithful id (objectAt readyInstance 0) 16
      (deviceDoeReceiveMessage readyInstance id (some ⟨fun _ => 0, 16⟩) State.init).1
      (deviceDoeReceiveMessage readyInstance id (some ⟨fun _ => 0, 16⟩) State.init).2.1
      (accessesSince State.init
        (deviceDoeReceiveMessage readyInstance id (some ⟨fun _ => 0, 16⟩) State.init).2.2) := by
  refine (deviceDoeReceiveMessage_faithful_iff readyInstance id ⟨fun _ => 0, 16⟩ State.init
    (by decide)).mpr ?_
  have hpoll : ∀ k i, receivePoll readyInstance k i = some .transfer := by
    simp [receivePoll, poll, readyAt, readyInstance, statusDoeReady]
  refine ⟨fun i hi => ?_, fun _ _ => by decide, fun _ _ h => absurd h (by decide)⟩
  simpa [hpoll] using hi.decided

/-- In error at the poll that follows the first wait only; no object is ever ready. -/
def vanishingErrorInstance : Instance :=
  ⟨fun k => if k = 2 then statusDoeError else 0, fun _ => 0, fun _ => 7⟩

/-- The call reports a success with nothing read, and the same object that is ready in
`readyInstance` is left unread without an abort when the buffer holds eight bytes. -/
theorem deviceDoeReceiveMessage_unread :
    ¬ ReceiveFaithful id (objectAt vanishingErrorInstance 0) 16
        (deviceDoeReceiveMessage vanishingErrorInstance id (some ⟨fun _ => 0, 16⟩)
          State.init).1
        (deviceDoeReceiveMessage vanishingErrorInstance id (some ⟨fun _ => 0, 16⟩)
          State.init).2.1
        (accessesSince State.init (deviceDoeReceiveMessage vanishingErrorInstance id
          (some ⟨fun _ => 0, 16⟩) State.init).2.2) ∧
      ¬ ReceiveFaithful id (objectAt readyInstance 0) 8
        (deviceDoeReceiveMessage readyInstance id (some ⟨fun _ => 0, 8⟩) State.init).1
        (deviceDoeReceiveMessage readyInstance id (some ⟨fun _ => 0, 8⟩) State.init).2.1
        (accessesSince State.init
          (deviceDoeReceiveMessage readyInstance id (some ⟨fun _ => 0, 8⟩)
            State.init).2.2) := by
  constructor
  · intro h
    have haccess : accessesSince State.init (deviceDoeReceiveMessage vanishingErrorInstance
        id (some ⟨fun _ => 0, 16⟩) State.init).2.2 = [] := by decide
    obtain ⟨r, -, hrec⟩ := h.received (by decide)
    exact not_received_of_readDwords_eq_nil (by rw [haccess]; rfl) hrec
  · intro h
    have hpos : positionAfter id .boundary (accessesSince State.init
        (deviceDoeReceiveMessage readyInstance id (some ⟨fun _ => 0, 8⟩)
          State.init).2.2) = .inside 1 := by decide
    have := h.drained (by decide)
    rw [hpos] at this
    contradiction

end TeeIoValidator.Doe
