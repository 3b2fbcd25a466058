import TeeIoValidator.Verification.Doe.Send
import TeeIoValidator.Verification.Doe.Receive

/-! # Runs of exchanges

As long as no object is larger than the buffer it is received into, every exchange starts
at an object boundary. -/

namespace TeeIoValidator.Doe

open Polling

/-- The accesses from `s` to `t` lead from an object boundary to an object boundary. -/
def KeepsBoundary (lengthOf : Dword → Dword) (s t : State) : Prop :=
  ∃ as, t.accesses = s.accesses ++ as ∧ positionAfter lengthOf .boundary as = .boundary

section

variable (dev : Instance) (lengthOf : Dword → Dword)

@[refl] theorem KeepsBoundary.refl (s : State) : KeepsBoundary lengthOf s s :=
  ⟨[], by simp, rfl⟩

theorem KeepsBoundary.trans {lengthOf : Dword → Dword} {s t u : State}
    (hst : KeepsBoundary lengthOf s t) (htu : KeepsBoundary lengthOf t u) :
    KeepsBoundary lengthOf s u := by
  obtain ⟨as, hs, has⟩ := hst
  obtain ⟨bs, ht, hbs⟩ := htu
  exact ⟨as ++ bs, by rw [ht, hs, List.append_assoc], by rw [positionAfter_append, has, hbs]⟩

theorem keepsBoundary_clearPendingError (s : State) (k : ℕ) :
    KeepsBoundary lengthOf s ((clearPendingError dev s).atStatusRead k) :=
  ⟨_, clearPendingError_at_accesses dev s k, positionAfter_boundary_abortIfError _ _ _ _⟩

theorem keepsBoundary_checkErrorAgain (failed : Status) (s : State) :
    KeepsBoundary lengthOf s (checkErrorAgain dev failed s).2 :=
  ⟨_, checkErrorAgain_accesses dev failed s, positionAfter_boundary_abortIfError _ _ _ _⟩

/-! ## One exchange -/

theorem positionAfter_map_writeMailbox (p : ReadPosition) (words : List Dword) :
    positionAfter lengthOf p (words.map .writeMailbox) = p := by
  induction words with
  | nil => rfl
  | cons data words ih => exact ih

theorem goAccess_setsAbort (k : ℕ) : (goAccess dev k).setsAbort = false := by
  have h : ((dev.control k &&& ~~~controlDoeAbort) ||| controlDoeGo) &&& controlDoeAbort =
      0#32 := by
    have hmask : controlDoeGo &&& controlDoeAbort = 0#32 := by decide
    rw [BitVec.and_or_distrib_right, BitVec.and_assoc, BitVec.not_and_self, hmask]
    simp
  simp only [goAccess, Access.setsAbort, h]
  decide

theorem keepsBoundary_sendExitState (words : List Dword) (k i : ℕ) (s : State)
    (e : PollExit) : KeepsBoundary lengthOf s (sendExitState dev words k i s e) := by
  cases e with
  | error => exact ⟨[], by simp [sendExitState], rfl⟩
  | transfer =>
      refine ⟨words.map .writeMailbox ++ [goAccess dev s.controlReads], ?_, ?_⟩
      · simp [sendExitState]
      · have hgo := goAccess_setsAbort dev s.controlReads
        simp only [goAccess] at hgo
        rw [positionAfter_append, positionAfter_map_writeMailbox]
        simp [positionAfter, goAccess, ReadPosition.step, hgo]

theorem keepsBoundary_deviceDoeSendMessage (request : Option (List Dword)) (timeout : ℕ)
    (s : State) : KeepsBoundary lengthOf s (deviceDoeSendMessage dev request timeout s).2 := by
  cases request with
  | none => exact KeepsBoundary.refl lengthOf s
  | some request =>
      by_cases hne : request = []
      · subst hne
        exact KeepsBoundary.refl lengthOf s
      · rw [deviceDoeSendMessage_eq dev timeout s hne]
        cases firstDecided (sendPoll dev (s.statusReads + 1)) (sendDelay timeout) 0 with
        | none => exact keepsBoundary_clearPendingError dev lengthOf s _
        | some p =>
            have hclear := keepsBoundary_clearPendingError dev lengthOf s (s.statusReads + 1)
            rw [← clearPendingError_statusReads dev s, atStatusRead_self] at hclear
            exact hclear.trans ((keepsBoundary_sendExitState dev lengthOf _ _ _ _ _).trans
              (keepsBoundary_checkErrorAgain dev lengthOf _ _))

/-- An object that is received in full is left behind. -/
theorem keepsBoundary_receiveAt {r : Response} {s : State}
    (hfits : headCount dev lengthOf s.mailboxReads * 4 ≤ r.size) :
    KeepsBoundary lengthOf s (receiveAt dev lengthOf r s).2.2 := by
  simp only [receiveAt, if_neg (Nat.not_lt.mpr hfits)]
  refine KeepsBoundary.trans ⟨_, rfl, ?_⟩ (keepsBoundary_checkErrorAgain dev lengthOf _ _)
  rw [readAccesses_append, positionAfter_append, positionAfter_header_readAccesses]
  exact positionAfter_ofRemaining_readAccesses lengthOf _ _ _

/-- No object that a receive finds ready exceeds its buffer. -/
def ResponseFits (response : Option Response) (s : State) : Prop :=
  ∀ r i, response = some r →
    DecidedAt (receivePoll dev (s.statusReads + 1)) receiveDelay 0 i .transfer →
    headCount dev lengthOf s.mailboxReads * 4 ≤ r.size

theorem keepsBoundary_deviceDoeReceiveMessage {response : Option Response} {s : State}
    (hfits : ResponseFits dev lengthOf response s) :
    KeepsBoundary lengthOf s (deviceDoeReceiveMessage dev lengthOf response s).2.2 := by
  cases response with
  | none => exact KeepsBoundary.refl lengthOf s
  | some r =>
      by_cases hcap : r.size < 8
      · simp only [deviceDoeReceiveMessage, if_pos hcap]
        exact KeepsBoundary.refl lengthOf s
      · rw [deviceDoeReceiveMessage_eq dev lengthOf r s (Nat.not_lt.mp hcap)]
        cases h : firstDecided (receivePoll dev (s.statusReads + 1)) receiveDelay 0 with
        | none => exact keepsBoundary_clearPendingError dev lengthOf s _
        | some p =>
            obtain ⟨i, e⟩ := p
            have hat := (firstDecided_eq_some_iff _ _ _ _ _).mp h
            cases e with
            | error =>
                exact (keepsBoundary_clearPendingError dev lengthOf s _).trans
                  (keepsBoundary_checkErrorAgain dev lengthOf _ _)
            | transfer =>
                refine (keepsBoundary_clearPendingError dev lengthOf s _).trans
                  (keepsBoundary_receiveAt dev lengthOf ?_)
                rw [atStatusRead_mailboxReads, clearPendingError_mailboxReads]
                exact hfits r i rfl hat

/-! ## Runs -/

/-- The arguments of a call of `pciDoeSendReceiveData`. -/
structure Exchange where
  request : Option (List Dword)
  response : Option Response

def Exchange.run (x : Exchange) (s : State) : State :=
  (pciDoeSendReceiveData dev lengthOf x.request x.response s).2.2

def Exchange.Fits (x : Exchange) (s : State) : Prop :=
  ResponseFits dev lengthOf x.response (deviceDoeSendMessage dev x.request 0 s).2

theorem Exchange.run_keepsBoundary {x : Exchange} {s : State}
    (hfits : x.Fits dev lengthOf s) : KeepsBoundary lengthOf s (x.run dev lengthOf s) := by
  have hsend := keepsBoundary_deviceDoeSendMessage dev lengthOf x.request 0 s
  unfold Exchange.run pciDoeSendReceiveData
  split <;> rename_i heq
  · rw [Exchange.Fits, heq] at hfits
    rw [heq] at hsend
    exact hsend.trans (keepsBoundary_deviceDoeReceiveMessage dev lengthOf hfits)
  · rw [heq] at hsend
    exact hsend

def runExchanges (xs : List Exchange) (s : State) : State :=
  xs.foldl (fun s x => x.run dev lengthOf s) s

/-- The objects of all exchanges of a run fit. -/
def AllFit : List Exchange → State → Prop
  | [], _ => True
  | x :: xs, s => x.Fits dev lengthOf s ∧ AllFit xs (x.run dev lengthOf s)

/-- Every exchange of a run whose objects fit starts and ends at an object boundary. -/
theorem runExchanges_boundary (xs : List Exchange) (s : State)
    (hfit : AllFit dev lengthOf xs s)
    (hs : positionAfter lengthOf .boundary s.accesses = .boundary) :
    positionAfter lengthOf .boundary (runExchanges dev lengthOf xs s).accesses =
      .boundary := by
  induction xs generalizing s with
  | nil => exact hs
  | cons x xs ih =>
      obtain ⟨as, hrun, has⟩ := Exchange.run_keepsBoundary dev lengthOf hfit.1
      refine ih _ hfit.2 ?_
      rw [hrun, positionAfter_append, hs, has]

end

end TeeIoValidator.Doe
