import TeeIoValidator.Verification.PcieIdeTest.Streams

/-! # Tested `K_SET_GO` messages

A case that tests `K_SET_GO` sends all its messages, and no assertion about them fails exactly
when all of them are acknowledged. Which key set the root port sends with after a phase is the
one that the phase selects, which is not always the one of its messages.
-/

namespace TeeIoValidator.PcieIdeTest

open PcieIde

variable {lib : PciIdeKmTestLib} {env : Environment} {stream : Stream} {topType : TopologyType}
  {ks selected : KeySet} {phase1 : Bool}

/-! ## Assertions about one message -/

/-- The size is checked first, and the other fields only if it is right. -/
theorem gostopAssertions_noneFailed (lib : PciIdeKmTestLib) (base : ℕ) (request : KSetGo)
    (status : ℕ) (answer : Option KGostopAck) :
    NoneFailed (gostopAssertions lib base request status answer) ↔
      answer = some (acknowledgement lib.toPciIdeKmLib request) := by
  cases answer with
  | none => simp [gostopAssertions, NoneFailed]
  | some response =>
      rw [gostopAssertions, NoneFailed]
      by_cases hsize : response.size = lib.kpAckSize
      · simp only [hsize, Assertion.check, beq_self_eq_true, ne_eq, not_true_eq_false, if_false,
          List.forall_mem_cons, List.not_mem_nil, false_implies, implies_true, and_true,
          TestResult.ofBool_eq_failed_iff, forall_const, Bool.not_eq_false, beq_iff_eq,
          Bool.true_eq_false, not_false_eq_true, true_and, Option.some.injEq]
        refine ⟨?_, ?_⟩
        · rintro ⟨hid, hport, hstream, hkey⟩
          cases response
          simp only at hsize hid hport hstream hkey
          rw [acknowledgement, hsize, lib.kpAckSize_eq, hid, hport, hstream, hkey]
        · rintro rfl
          exact ⟨rfl, rfl, rfl, rfl⟩
      · have hne : response ≠ acknowledgement lib.toPciIdeKmLib request := by
          rintro rfl
          exact hsize lib.kpAckSize_eq.symm
        simp [hsize, Assertion.check, hne]

theorem gostopAssertions_somePassed {base : ℕ} {request : KSetGo} {status : ℕ}
    {answer : Option KGostopAck}
    (h : NoneFailed (gostopAssertions lib base request status answer)) :
    SomePassed (gostopAssertions lib base request status answer) := by
  rw [gostopAssertions_noneFailed] at h
  rw [h, gostopAssertions]
  refine ⟨_, List.mem_cons_self, rfl, ?_⟩
  simp [Assertion.check, acknowledgement, lib.kpAckSize_eq]

/-! ## Several messages -/

/-- What tested `K_SET_GO` messages do, one after the other. -/
def Tested (lib : PciIdeKmTestLib) (env : Environment) (requests : List KSetGo)
    (w w' : World) : Prop :=
  ∃ as, w' =
      { w with
        keys := { w.keys with kSetGos := w.keys.kSetGos ++ requests }
        assertions := w.assertions ++ as
        kSetGoKcbars := w.kSetGoKcbars ++ requests.map fun request => (request, w.keys.kcbar) } ∧
    (NoneFailed as ↔
      AllAcknowledged lib.toPciIdeKmLib env.toEnvironment w.keys.kSetGos.length requests) ∧
    (NoneFailed as → SomePassed as)

theorem Tested.trans {requests requests' : List KSetGo} {w w' w'' : World}
    (h : Tested lib env requests w w') (h' : Tested lib env requests' w' w'') :
    Tested lib env (requests ++ requests') w w'' := by
  rcases h with ⟨as, rfl, hnone, hpassed⟩
  rcases h' with ⟨as', rfl, hnone', -⟩
  refine ⟨as ++ as', ?_, ?_, ?_⟩
  · simp only [List.append_assoc, List.map_append]
  · rw [noneFailed_append, hnone, hnone', allAcknowledged_append, List.length_append]
  · intro h
    exact (hpassed ((noneFailed_append as as').mp h).1).append_right as'

theorem testIdeKmKeySetGo_tested (phase1 : Bool) (ks : KeySet) (direction : Direction)
    (substream : SubStream) (w : World) :
    Tested lib env [kSetGoRequest lib stream ks direction substream] w
      (testIdeKmKeySetGo lib env stream phase1 ks direction substream w) := by
  refine ⟨separatorAssertion (caseInfo ks direction substream) ::
    gostopAssertions lib (if phase1 then 0 else 5)
      (kSetGoRequest lib stream ks direction substream) (env.kSetGoStatus w.keys.kSetGos.length)
        (env.kGostopAck w.keys.kSetGos.length), ?_, ?_, ?_⟩
  · simp only [testIdeKmKeySetGo, World.record, List.append_assoc, List.singleton_append,
      List.map_cons, List.map_nil]
  · rw [NoneFailed, List.forall_mem_cons, ← NoneFailed, gostopAssertions_noneFailed]
    simp [AllAcknowledged, separatorAssertion]
  · intro h
    have hgostop := gostopAssertions_somePassed ((noneFailed_append [_] _).mp h).2
    exact hgostop.append_left [_]

def directionRequests (lib : PciIdeKmTestLib) (stream : Stream) (ks : KeySet)
    (direction : Direction) : List KSetGo :=
  [SubStream.pr, .npr, .cpl].map (kSetGoRequest lib stream ks direction)

theorem streamRequests_eq :
    streamRequests lib.toPciIdeKmLib stream ks =
      directionRequests lib stream ks .rx ++ directionRequests lib stream ks .tx := rfl

theorem forSubStreams_tested (lib : PciIdeKmTestLib) (env : Environment) (stream : Stream)
    (phase1 : Bool) (ks : KeySet) (direction : Direction) (w : World) :
    Tested lib env (directionRequests lib stream ks direction) w
      (forSubStreams (testIdeKmKeySetGo lib env stream phase1 ks direction) w) :=
  ((testIdeKmKeySetGo_tested phase1 ks direction .pr w).trans
    (testIdeKmKeySetGo_tested phase1 ks direction .npr _)).trans
      (testIdeKmKeySetGo_tested phase1 ks direction .cpl _)

/-! ## The six messages of a phase -/

/-- The messages received are acknowledged, and no assertion of the case has failed. -/
def ReceivesCleanly (lib : PciIdeKmTestLib) (env : Environment) (stream : Stream) (ks : KeySet)
    (w : World) : Prop :=
  AllAcknowledged lib.toPciIdeKmLib env.toEnvironment w.keys.kSetGos.length
      (directionRequests lib stream ks .rx) ∧
    NoneFailed w.assertions

theorem Tested.result {requests : List KSetGo} {w w' : World} (h : Tested lib env requests w w') :
    w'.result = .pass ↔
      AllAcknowledged lib.toPciIdeKmLib env.toEnvironment w.keys.kSetGos.length requests ∧
        NoneFailed w.assertions := by
  rcases h with ⟨as, rfl, hnone, hpassed⟩
  rw [World.result, testCaseResult_eq_pass_iff, ← hnone, and_comm (a := NoneFailed as)]
  change NoneFailed (w.assertions ++ as) ∧ SomePassed (w.assertions ++ as) ↔ _
  rw [noneFailed_append, and_iff_left_iff_imp]
  intro h
  exact (hpassed h.2).append_left w.assertions

/-- The registers after the selection between the messages. -/
def SelectedKcbar (lib : PciIdeKmTestLib) (env : Environment) (stream : Stream)
    (ks selected : KeySet) (w : World) (kcbar : Registers) : Prop :=
  (ReceivesCleanly lib env stream ks w →
    kcbar = setRpIdeKeySetSelect w.keys.kcbar stream.rpStreamIndex selected) ∧
  (¬ReceivesCleanly lib env stream ks w → kcbar = w.keys.kcbar)

theorem testKeySetGos_eq (lib : PciIdeKmTestLib) (env : Environment) (stream : Stream)
    (phase1 : Bool) (ks selected : KeySet) (w : World) :
    ∃ as kcbar, testKeySetGos lib env stream phase1 ks selected w =
        { w with
          keys := { w.keys with
            kcbar := kcbar
            kSetGos := w.keys.kSetGos ++ streamRequests lib.toPciIdeKmLib stream ks }
          assertions := w.assertions ++ as
          kSetGoKcbars := w.kSetGoKcbars ++
            ((directionRequests lib stream ks .rx).map fun request => (request, w.keys.kcbar)) ++
            (directionRequests lib stream ks .tx).map fun request => (request, kcbar) } ∧
      SelectedKcbar lib env stream ks selected w kcbar ∧
      (NoneFailed as ↔ AllAcknowledged lib.toPciIdeKmLib env.toEnvironment w.keys.kSetGos.length
        (streamRequests lib.toPciIdeKmLib stream ks)) ∧
      (NoneFailed as → SomePassed as) := by
  have hrx := forSubStreams_tested lib env stream phase1 ks .rx w
  have hselect : ∃ kcbar, SelectedKcbar lib env stream ks selected w kcbar ∧
      ∀ w₁ : World, w₁.keys.kcbar = w.keys.kcbar → (w₁.result = .pass ↔
          ReceivesCleanly lib env stream ks w) →
        (if w₁.result = .pass then selectKeySet stream selected w₁ else w₁) =
          w₁.setKcbar kcbar := by
    by_cases hclean : ReceivesCleanly lib env stream ks w
    · refine ⟨_, ⟨fun _ => rfl, fun h => absurd hclean h⟩, ?_⟩
      intro w₁ hkcbar hresult
      rw [if_pos (hresult.mpr hclean), selectKeySet, hkcbar]
    · refine ⟨_, ⟨fun h => absurd h hclean, fun _ => rfl⟩, ?_⟩
      intro w₁ hkcbar hresult
      rw [if_neg (fun h => hclean (hresult.mp h)), ← hkcbar]
      rfl
  rcases hselect with ⟨kcbar, hkcbar, hselect⟩
  have hresult := hrx.result
  rcases hrx with ⟨as, heq, hnone, hpassed⟩
  have hselect := hselect _ (by rw [heq]) hresult
  have htx := forSubStreams_tested lib env stream phase1 ks .tx (World.setKcbar
      (forSubStreams (testIdeKmKeySetGo lib env stream phase1 ks .rx) w) kcbar)
  rw [heq] at htx
  rcases htx with ⟨as', heq', hnone', -⟩
  refine ⟨as ++ as', kcbar, ?_, hkcbar, ?_, ?_⟩
  · rw [testKeySetGos, hselect, heq, heq', streamRequests_eq]
    simp only [World.setKcbar, List.append_assoc]
  · rw [noneFailed_append, hnone, hnone', streamRequests_eq, allAcknowledged_append]
    simp only [World.setKcbar, List.length_append]
  · intro h
    exact (hpassed ((noneFailed_append as as').mp h).1).append_right as'

end TeeIoValidator.PcieIdeTest
