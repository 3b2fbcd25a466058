import TeeIoValidator.Library.Polling
import TeeIoValidator.Model.Doe

/-! What the register operations of the DOE instance read and leave in the access list. -/

namespace TeeIoValidator.Doe

open Polling

/-! ## Register reads -/

def errorAt (dev : Instance) (k : ℕ) : Bool := dev.status k &&& statusDoeError != 0
def busyAt (dev : Instance) (k : ℕ) : Bool := dev.status k &&& statusDoeBusy != 0
def readyAt (dev : Instance) (k : ℕ) : Bool := dev.status k &&& statusDoeReady != 0

/-- The state at status read `k`. -/
def State.atStatusRead (s : State) (k : ℕ) : State := { s with statusReads := k }

section

variable (s : State) (k : ℕ)

@[simp] theorem atStatusRead_statusReads : (s.atStatusRead k).statusReads = k := rfl
@[simp] theorem atStatusRead_controlReads :
    (s.atStatusRead k).controlReads = s.controlReads := rfl
@[simp] theorem atStatusRead_mailboxReads :
    (s.atStatusRead k).mailboxReads = s.mailboxReads := rfl
@[simp] theorem atStatusRead_accesses : (s.atStatusRead k).accesses = s.accesses := rfl
@[simp] theorem atStatusRead_atStatusRead (j : ℕ) :
    (s.atStatusRead j).atStatusRead k = s.atStatusRead k := rfl
@[simp] theorem atStatusRead_self : s.atStatusRead s.statusReads = s := rfl

end

@[simp] theorem isDoeErrorAsserted_eq (dev : Instance) (s : State) :
    isDoeErrorAsserted dev s =
      (errorAt dev s.statusReads, s.atStatusRead (s.statusReads + 1)) := rfl

@[simp] theorem isDoeBusyAsserted_eq (dev : Instance) (s : State) :
    isDoeBusyAsserted dev s =
      (busyAt dev s.statusReads, s.atStatusRead (s.statusReads + 1)) := rfl

@[simp] theorem isDoeDataObjectReadyAsserted_eq (dev : Instance) (s : State) :
    isDoeDataObjectReadyAsserted dev s =
      (readyAt dev s.statusReads, s.atStatusRead (s.statusReads + 1)) := rfl

/-! ## Control writes -/

def Access.setsGo : Access → Bool
  | .writeControl data => data &&& controlDoeGo != 0
  | _ => false

def Access.setsAbort : Access → Bool
  | .writeControl data => data &&& controlDoeAbort != 0
  | _ => false

def abortAccess (dev : Instance) (k : ℕ) : Access :=
  .writeControl ((dev.control k ||| controlDoeAbort) &&& ~~~controlDoeGo)

def goAccess (dev : Instance) (k : ℕ) : Access :=
  .writeControl ((dev.control k &&& ~~~controlDoeAbort) ||| controlDoeGo)

@[simp] theorem abortAccess_setsGo (dev : Instance) (k : ℕ) :
    (abortAccess dev k).setsGo = false := by
  simp only [abortAccess, Access.setsGo, bne_eq_false_iff_eq, BitVec.and_assoc,
    BitVec.not_and_self]
  exact BitVec.and_zero

@[simp] theorem abortAccess_setsAbort (dev : Instance) (k : ℕ) :
    (abortAccess dev k).setsAbort = true := by
  have h : (dev.control k ||| controlDoeAbort) &&& ~~~controlDoeGo &&& controlDoeAbort =
      controlDoeAbort := by
    have hmask : ~~~controlDoeGo &&& controlDoeAbort = controlDoeAbort := by decide
    rw [BitVec.and_assoc, hmask]
    ext i hi
    simp only [BitVec.getElem_and, BitVec.getElem_or]
    grind
  simp only [abortAccess, Access.setsAbort, h]
  decide

@[simp] theorem goAccess_setsGo (dev : Instance) (k : ℕ) :
    (goAccess dev k).setsGo = true := by
  have h : ((dev.control k &&& ~~~controlDoeAbort) ||| controlDoeGo) &&& controlDoeGo =
      controlDoeGo := by
    ext i hi
    simp only [BitVec.getElem_and, BitVec.getElem_or]
    grind
  simp only [goAccess, Access.setsGo, h]
  decide

@[simp] theorem triggerDoeAbort_eq (dev : Instance) (s : State) :
    triggerDoeAbort dev s =
      { s with controlReads := s.controlReads + 1,
               accesses := s.accesses ++ [abortAccess dev s.controlReads] } := rfl

@[simp] theorem triggerDoeGo_eq (dev : Instance) (s : State) :
    triggerDoeGo dev s =
      { s with controlReads := s.controlReads + 1,
               accesses := s.accesses ++ [goAccess dev s.controlReads] } := rfl

/-! ## Accesses of a call -/

/-- The accesses that lead from `s` to a later state `s'`. -/
def accessesSince (s s' : State) : List Access := s'.accesses.drop s.accesses.length

theorem accessesSince_of_eq_append {s s' : State} {as : List Access}
    (h : s'.accesses = s.accesses ++ as) : accessesSince s s' = as := by
  simp [accessesSince, h]

/-- The dwords written to the write mailbox, in order. -/
def writtenDwords (as : List Access) : List Dword :=
  as.filterMap fun
    | .writeMailbox data => some data
    | _ => none

@[simp] theorem writtenDwords_nil : writtenDwords [] = [] := rfl

@[simp] theorem writtenDwords_append (as bs : List Access) :
    writtenDwords (as ++ bs) = writtenDwords as ++ writtenDwords bs :=
  List.filterMap_append

@[simp] theorem writtenDwords_map (words : List Dword) :
    writtenDwords (words.map .writeMailbox) = words := by
  induction words with
  | nil => rfl
  | cons data words ih =>
      rw [List.map_cons]
      exact congrArg (data :: ·) ih

@[simp] theorem writtenDwords_abortAccess (dev : Instance) (k : ℕ) (as : List Access) :
    writtenDwords (abortAccess dev k :: as) = writtenDwords as := rfl

@[simp] theorem writtenDwords_goAccess (dev : Instance) (k : ℕ) (as : List Access) :
    writtenDwords (goAccess dev k :: as) = writtenDwords as := rfl

/-- The accesses contributed by a check of the error bit at status read `k`. -/
def abortIfError (dev : Instance) (k c : ℕ) : List Access :=
  if errorAt dev k then [abortAccess dev c] else []

@[simp] theorem writtenDwords_abortIfError (dev : Instance) (k c : ℕ) :
    writtenDwords (abortIfError dev k c) = [] := by
  unfold abortIfError
  split <;> rfl

theorem setsGo_of_mem_abortIfError {dev : Instance} {k c : ℕ} {a : Access}
    (h : a ∈ abortIfError dev k c) : a.setsGo = false := by
  unfold abortIfError at h
  split at h
  · simp [List.mem_singleton.mp h]
  · simp at h

theorem clearPendingError_statusReads (dev : Instance) (s : State) :
    (clearPendingError dev s).statusReads = s.statusReads + 1 := by
  unfold clearPendingError
  cases h : errorAt dev s.statusReads <;> simp [h]

theorem clearPendingError_mailboxReads (dev : Instance) (s : State) :
    (clearPendingError dev s).mailboxReads = s.mailboxReads := by
  unfold clearPendingError
  cases h : errorAt dev s.statusReads <;> simp [h]

theorem clearPendingError_accesses (dev : Instance) (s : State) :
    (clearPendingError dev s).accesses =
      s.accesses ++ abortIfError dev s.statusReads s.controlReads := by
  unfold clearPendingError abortIfError
  cases h : errorAt dev s.statusReads <;> simp [h]

theorem clearPendingError_at_accesses (dev : Instance) (s : State) (k : ℕ) :
    ((clearPendingError dev s).atStatusRead k).accesses =
      s.accesses ++ abortIfError dev s.statusReads s.controlReads :=
  clearPendingError_accesses dev s

theorem checkErrorAgain_status (dev : Instance) (failed : Status) (s : State) :
    (checkErrorAgain dev failed s).1 =
      if errorAt dev s.statusReads then failed else .success := by
  unfold checkErrorAgain
  cases h : errorAt dev s.statusReads <;> simp [h]

theorem checkErrorAgain_accesses (dev : Instance) (failed : Status) (s : State) :
    (checkErrorAgain dev failed s).2.accesses =
      s.accesses ++ abortIfError dev s.statusReads s.controlReads := by
  unfold checkErrorAgain abortIfError
  cases h : errorAt dev s.statusReads <;> simp [h]

/-! ## The polling loop -/

inductive PollExit where
  | transfer
  | error
  deriving Repr, DecidableEq

/-- Poll `i` of a loop whose first poll is status read `k`; `ready` is the condition on
the value of a status read. -/
def poll (dev : Instance) (ready : ℕ → Bool) (k i : ℕ) : Option PollExit :=
  if ready (k + 2 * i) then some .transfer
  else if errorAt dev (k + 2 * i + 1) then some .error
  else none

theorem pollLoop_eq {ρ : Type*} (dev : Instance) (ready : ℕ → Bool)
    (isReady : State → Bool × State) (transfer leave : ℕ → State → ρ)
    (hready : ∀ s, isReady s =
      (ready s.statusReads, s.atStatusRead (s.statusReads + 1)))
    (k delay i : ℕ) (s : State) (hs : s.statusReads = k + 2 * i) :
    pollLoop dev isReady transfer leave delay s =
      match firstDecided (poll dev ready k) delay i with
      | some (j, .transfer) => transfer (delay + i - j) (s.atStatusRead (k + 2 * j + 1))
      | some (j, .error) => leave (delay + i - j) (s.atStatusRead (k + 2 * j + 2))
      | none => leave 0 (s.atStatusRead (k + 2 * (i + delay))) := by
  induction delay generalizing i s with
  | zero => simp [pollLoop, ← hs]
  | succ delay ih =>
      cases hr : ready (k + 2 * i) with
      | true =>
          have hp : poll dev ready k i = some .transfer := by simp [poll, hr]
          simp [pollLoop, hready, hs, hr, firstDecided_succ_of_some hp]
      | false =>
          cases he : errorAt dev (k + 2 * i + 1) with
          | true =>
              have hp : poll dev ready k i = some .error := by simp [poll, hr, he]
              simp [pollLoop, hready, hs, hr, he, firstDecided_succ_of_some hp]
          | false =>
              have hp : poll dev ready k i = none := by simp [poll, hr, he]
              rw [firstDecided_succ_of_none hp]
              simp only [pollLoop, hready, hs, hr, he, isDoeErrorAsserted_eq,
                atStatusRead_statusReads]
              rw [if_neg Bool.false_ne_true, if_neg Bool.false_ne_true,
                ih (i + 1) _ (by simp only [atStatusRead_statusReads]; omega)]
              have hd : delay + (i + 1) = delay + 1 + i := by omega
              have hn : i + 1 + delay = i + (delay + 1) := by omega
              cases firstDecided (poll dev ready k) delay (i + 1) with
              | none => simp [hn]
              | some p =>
                  obtain ⟨j, e⟩ := p
                  cases e <;> simp [hd]

/-- A loop that ends with its delay used up decided nothing. -/
theorem not_decidedAt_of_eq_none {dev : Instance} {ready : ℕ → Bool} {k delay : ℕ}
    (h : firstDecided (poll dev ready k) delay 0 = none) (i : ℕ) (e : PollExit) :
    ¬ DecidedAt (poll dev ready k) delay 0 i e := by
  intro hi
  have := (firstDecided_eq_none_iff _ _ _).mp h i hi.start_le hi.lt_stop
  simp [hi.decided] at this

end TeeIoValidator.Doe
