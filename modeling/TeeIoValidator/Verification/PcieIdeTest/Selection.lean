import TeeIoValidator.Verification.PcieIdeTest.Messages

/-! # The key set that the root port sends with

The key set is selected at six places, each before the first message that lets the device
receive with it. One place selects another key set than its messages name.
-/

namespace TeeIoValidator.PcieIdeTest

open PcieIde

section Places

variable (lib : PciIdeKmTestLib) (env : Environment) (stream : Stream)
  (topType : TopologyType)

/-- Where a key set is selected. -/
inductive Place where
  | setupIdeStream (ks : KeySet) (skipKsetgo : Bool)
  | ideKeySwitchTo (ks : KeySet) (skipKsetgo : Bool)
  | ksetgo3Phase1
  | ksetgo3Phase2
  | ksetgo4Phase1
  | ksetgo4Phase2
  deriving Repr, DecidableEq

/-- The key set of the place's `K_SET_GO` messages. -/
def Place.keySet : Place → KeySet
  | .setupIdeStream ks _ => ks
  | .ideKeySwitchTo ks _ => ks
  | .ksetgo3Phase1 => .ks0
  | .ksetgo3Phase2 => .ks1
  | .ksetgo4Phase1 => .ks1
  | .ksetgo4Phase2 => .ks0

def Place.run : Place → World → Option (Bool × World)
  | .setupIdeStream ks skipKsetgo =>
    PcieIdeTest.setupIdeStream lib env stream topType ks skipKsetgo
  | .ideKeySwitchTo ks skipKsetgo =>
    PcieIdeTest.ideKeySwitchTo lib env stream topType ks skipKsetgo
  | .ksetgo3Phase1 => testKsetgo3RunPhase1 lib env stream topType
  | .ksetgo3Phase2 => fun w => some (testKsetgo3RunPhase2 lib env stream w)
  | .ksetgo4Phase1 => testKsetgo4RunPhase1 lib env stream topType
  | .ksetgo4Phase2 => fun w => some (testKsetgo4RunPhase2 lib env stream w)

/-- The place has passed: it has sent its messages, and the function or the case succeeds. -/
def Place.Passed : Place → Bool → World → Prop
  | .setupIdeStream _ skipKsetgo, ret, _ => skipKsetgo = false ∧ ret = true
  | .ideKeySwitchTo _ skipKsetgo, ret, _ => skipKsetgo = false ∧ ret = true
  | _, _, w => w.result = .pass

/-- Once the messages to receive with are acknowledged and nothing has failed, every message to
send with is sent when its key set is selected; and a place that passes leaves it selected. -/
def KeySetSelected (place : Place) (w : World) : Prop :=
  ∀ ret w', place.run lib env stream topType w = some (ret, w') →
    (ReceivesCleanly lib env stream place.keySet w →
      ∀ entry ∈ w'.kSetGoKcbars.drop w.kSetGoKcbars.length,
        Selects lib stream place.keySet entry) ∧
    (place.Passed ret w' →
      selectedKeySet w'.keys.kcbar stream.rpStreamIndex = some place.keySet)

end Places

variable {lib : PciIdeKmTestLib} {env : Environment} {stream : Stream}
  {topType : TopologyType} {ks : KeySet}

/-! ## Setup and key switch -/

/-- After the messages, the key set is still the one selected before them. -/
theorem goStream_selectedKeySet {s : State} (lib : PciIdeKmLib) (env : PcieIde.Environment)
    (h : (PcieIde.goStream lib env stream ks s).1 = true) :
    selectedKeySet (PcieIde.goStream lib env stream ks s).2.kcbar stream.rpStreamIndex =
      some ks := by
  rw [PcieIde.goStream] at h ⊢
  split
  · rename_i heq
    rw [heq] at h
    cases h
  · rw [ideKmKeySetGos_kcbar]
    exact setRpIdeKeySetSelect_selectedKeySet_self _

/-- A step that sends no message, or its messages with the key set selected. -/
structure Selecting (lib : PciIdeKmTestLib) (stream : Stream) (ks : KeySet) (skipKsetgo : Bool)
    (w : World) (ret : Bool) (w' : World) : Prop where
  log : ∃ log, w'.kSetGoKcbars = w.kSetGoKcbars ++ log ∧ ∀ entry ∈ log, Selects lib stream ks entry
  selected : skipKsetgo = false → ret = true →
    selectedKeySet w'.keys.kcbar stream.rpStreamIndex = some ks

theorem Selecting.keySetSelected {w w' : World} {ret skipKsetgo : Bool}
    (h : Selecting lib stream ks skipKsetgo w ret w') :
    (∀ entry ∈ w'.kSetGoKcbars.drop w.kSetGoKcbars.length, Selects lib stream ks entry) ∧
      (skipKsetgo = false ∧ ret = true →
        selectedKeySet w'.keys.kcbar stream.rpStreamIndex = some ks) := by
  rcases h.log with ⟨log, heq, hlog⟩
  refine ⟨?_, fun hpassed => h.selected hpassed.1 hpassed.2⟩
  rwa [heq, List.drop_left]

theorem Ends.selecting {last : World → Bool × World} {skipKsetgo ret : Bool} {w w' : World}
    (h : Ends lib env stream ks last w skipKsetgo ret w')
    (hlog : ∀ w, (last w).2.kSetGoKcbars = w.kSetGoKcbars)
    (hselected : ∀ w, selectedKeySet (last w).2.keys.kcbar stream.rpStreamIndex =
      selectedKeySet w.keys.kcbar stream.rpStreamIndex) :
    Selecting lib stream ks skipKsetgo w ret w' := by
  cases h with
  | programmed hprograms hret =>
      refine ⟨⟨[], by rw [hprograms.kSetGoKcbars, List.append_nil], nofun⟩, ?_⟩
      intro hskip hpassed
      rw [hskip, hpassed] at hret
      simp at hret
  | @refused w₁ _ hprograms hgo =>
      rcases goStream_eq lib env stream ks w₁ with
        ⟨log, heq, hselects⟩
      rw [heq, Prod.mk.injEq] at hgo
      rcases hgo with ⟨-, rfl⟩
      exact ⟨⟨log, congrArg (· ++ log) hprograms.kSetGoKcbars, hselects⟩, fun _ => nofun⟩
  | @finished w₁ w₂ hprograms hgo =>
      rcases goStream_eq lib env stream ks w₁ with
        ⟨log, heq, hselects⟩
      rw [heq, Prod.mk.injEq] at hgo
      rcases hgo with ⟨hret, rfl⟩
      refine ⟨⟨log, (hlog _).trans (congrArg (· ++ log) hprograms.kSetGoKcbars), hselects⟩, ?_⟩
      intro _ _
      rw [hselected]
      exact goStream_selectedKeySet lib.toPciIdeKmLib env.toEnvironment hret

theorem setupIdeStream_selecting {skipKsetgo ret : Bool} {w w' : World}
    (h : setupIdeStream lib env stream topType ks skipKsetgo w = some (ret, w')) :
    Selecting lib stream ks skipKsetgo w ret w' :=
  (setupIdeStream_ends h).selecting (fun _ => rfl) fun _ => enableIdeStreamInKcbar_selectedKeySet _

theorem ideKeySwitchTo_selecting {skipKsetgo ret : Bool} {w w' : World}
    (h : ideKeySwitchTo lib env stream topType ks skipKsetgo w = some (ret, w')) :
    Selecting lib stream ks skipKsetgo w ret w' :=
  (ideKeySwitchTo_ends h).selecting (fun _ => rfl) fun _ => rfl

/-! ## Phases -/

/-- What a phase leaves behind that sends the messages of a key set and selects another one, or
the same. -/
structure Phase (lib : PciIdeKmTestLib) (env : Environment) (stream : Stream)
    (ks selected : KeySet) (w w' : World) : Prop where
  log : ∃ kcbar, SelectedKcbar lib env stream ks selected w kcbar ∧
    w'.kSetGoKcbars = w.kSetGoKcbars ++
      ((directionRequests lib stream ks .rx).map fun request => (request, w.keys.kcbar)) ++
      ((directionRequests lib stream ks .tx).map fun request => (request, kcbar)) ∧
    selectedKeySet w'.keys.kcbar stream.rpStreamIndex =
      selectedKeySet kcbar stream.rpStreamIndex
  result : w'.result = .pass → ReceivesCleanly lib env stream ks w

theorem testKeySetGos_phase (lib : PciIdeKmTestLib) (env : Environment) (stream : Stream)
    (phase1 : Bool) (ks selected : KeySet) (w : World) :
    Phase lib env stream ks selected w (testKeySetGos lib env stream phase1 ks selected w) := by
  rcases testKeySetGos_eq lib env stream phase1 ks selected w with
    ⟨as, kcbar, heq, hkcbar, hnone, -⟩
  rw [heq]
  refine ⟨⟨kcbar, hkcbar, rfl, rfl⟩, ?_⟩
  intro hpass
  rw [World.result, testCaseResult_eq_pass_iff] at hpass
  have hclean := (noneFailed_append w.assertions as).mp hpass.1
  rw [hnone, streamRequests_eq, allAcknowledged_append] at hclean
  exact ⟨hclean.2.1, hclean.1⟩

theorem runPhase1_phase {ret : Bool} {w w' : World}
    (h : runPhase1 lib env stream topType ks w = some (ret, w')) :
    Phase lib env stream ks ks w w' := by
  have hphase := testKeySetGos_phase lib env stream true ks ks w
  rw [runPhase1] at h
  split at h
  · cases h
    exact hphase
  · split at h
    · cases h
    · cases h
      rcases hphase.log with ⟨kcbar, hkcbar, hlog, hselected⟩
      exact ⟨⟨kcbar, hkcbar, hlog, (enableIdeStreamInKcbar_selectedKeySet _).trans hselected⟩,
        hphase.result⟩

/-- The entries to receive with say nothing about the selection. -/
theorem selects_directionRequests (kcbar : Registers) :
    ∀ entry ∈ (directionRequests lib stream ks .rx).map fun request => (request, kcbar),
      Selects lib stream ks entry := by
  intro entry hentry substream hsend
  rcases List.mem_map.mp hentry with ⟨request, hrequest, rfl⟩
  rcases List.mem_map.mp hrequest with ⟨substream', -, rfl⟩
  cases (kSetGoMessage_injective hsend).2.1

theorem Phase.keySetSelected {w w' : World} (h : Phase lib env stream ks ks w w') :
    (ReceivesCleanly lib env stream ks w →
      ∀ entry ∈ w'.kSetGoKcbars.drop w.kSetGoKcbars.length, Selects lib stream ks entry) ∧
    (w'.result = .pass → selectedKeySet w'.keys.kcbar stream.rpStreamIndex = some ks) := by
  rcases h.log with ⟨kcbar, hkcbar, hlog, hselected⟩
  refine ⟨?_, ?_⟩
  · intro hclean entry hentry
    rw [hlog, List.append_assoc, List.drop_left] at hentry
    rcases List.mem_append.mp hentry with hentry | hentry
    · exact selects_directionRequests _ entry hentry
    · rcases List.mem_map.mp hentry with ⟨request, -, rfl⟩
      intro _ _
      rw [hkcbar.1 hclean]
      exact setRpIdeKeySetSelect_selectedKeySet_self _
  · intro hpass
    rw [hselected, hkcbar.1 (h.result hpass)]
    exact setRpIdeKeySetSelect_selectedKeySet_self _

/-- A phase that selects another key set sends its messages with that one. -/
theorem Phase.not_selects {selected : KeySet} {w w' : World}
    (h : Phase lib env stream ks selected w w') (hne : selected ≠ ks)
    (hclean : ReceivesCleanly lib env stream ks w) :
    ¬∀ entry ∈ w'.kSetGoKcbars.drop w.kSetGoKcbars.length, Selects lib stream ks entry := by
  rcases h.log with ⟨kcbar, hkcbar, hlog, -⟩
  intro hselects
  have hfirst := hselects (kSetGoRequest lib stream ks .tx .pr, kcbar) (by
    rw [hlog, List.append_assoc, List.drop_left]
    exact List.mem_append_right _ (List.mem_map_of_mem List.mem_cons_self)) .pr rfl
  rw [hkcbar.1 hclean, setRpIdeKeySetSelect_selectedKeySet_self, Option.some.injEq] at hfirst
  exact hne hfirst

/-- The key set is selected at every place but the second phase of case 3.4, and there exactly
when a message to receive with is not acknowledged or an assertion has failed. -/
theorem keySetSelected_iff (lib : PciIdeKmTestLib) (env : Environment) (stream : Stream)
    (topType : TopologyType) (place : Place) (w : World) :
    KeySetSelected lib env stream topType place w ↔
      (place = .ksetgo4Phase2 → ¬ReceivesCleanly lib env stream .ks0 w) := by
  have halways : ∀ {place : Place}, KeySetSelected lib env stream topType place w →
      place ≠ .ksetgo4Phase2 → (KeySetSelected lib env stream topType place w ↔
        (place = .ksetgo4Phase2 → ¬ReceivesCleanly lib env stream .ks0 w)) :=
    fun hselected hne => iff_of_true hselected fun heq => absurd heq hne
  cases place with
  | setupIdeStream ks skipKsetgo =>
      refine halways (fun ret w' hrun => ?_) nofun
      have hselecting := (setupIdeStream_selecting hrun).keySetSelected
      exact ⟨fun _ => hselecting.1, hselecting.2⟩
  | ideKeySwitchTo ks skipKsetgo =>
      refine halways (fun ret w' hrun => ?_) nofun
      have hselecting := (ideKeySwitchTo_selecting hrun).keySetSelected
      exact ⟨fun _ => hselecting.1, hselecting.2⟩
  | ksetgo3Phase1 =>
      refine halways (fun ret w' hrun => ?_) nofun
      have hphase : runPhase1 lib env stream topType .ks0 w = some (ret, w') := hrun
      exact (runPhase1_phase hphase).keySetSelected
  | ksetgo4Phase1 =>
      refine halways (fun ret w' hrun => ?_) nofun
      have hphase : runPhase1 lib env stream topType .ks1 w = some (ret, w') := hrun
      exact (runPhase1_phase hphase).keySetSelected
  | ksetgo3Phase2 =>
      refine halways (fun ret w' hrun => ?_) nofun
      cases hrun
      exact (testKeySetGos_phase lib env stream false .ks1 .ks1 w).keySetSelected
  | ksetgo4Phase2 =>
      have hphase := testKeySetGos_phase lib env stream false .ks0 .ks1 w
      refine ⟨?_, ?_⟩
      · intro hselected _ hclean
        exact hphase.not_selects nofun hclean ((hselected _ _ rfl).1 hclean)
      · intro hclean ret w' hrun
        cases hrun
        exact ⟨fun h => absurd h (hclean rfl), fun hpass =>
          absurd (hphase.result hpass) (hclean rfl)⟩

/-- Case 3.4 against a device that does all it is asked for. -/
theorem ksetgo4Phase2_not_keySetSelected :
    ∃ w₁ w₂ w₃, CaseId.ksetgo4.setup pciIdeKmTest (acceptingPorts (fun n => if n = 0 then .ks1
        else .ks0) fun _ => true) smallStream .selIde smallWorld = some (true, w₁) ∧
      testKsetgo4RunPhase1 pciIdeKmTest (acceptingPorts (fun n => if n = 0 then .ks1
        else .ks0) fun _ => true) smallStream .selIde w₁ = some (true, w₂) ∧
      ideKeySwitchTo pciIdeKmTest (acceptingPorts (fun n => if n = 0 then .ks1
        else .ks0) fun _ => true) smallStream .selIde .ks0 true w₂ = some (true, w₃) ∧
      ¬KeySetSelected pciIdeKmTest (acceptingPorts (fun n => if n = 0 then .ks1
        else .ks0) fun _ => true) smallStream .selIde .ksetgo4Phase2 w₃ := by
  refine ⟨_, _, _, rfl, rfl, rfl, ?_⟩
  intro hselected
  exact absurd ((hselected _ _ rfl).2 rfl) (by decide +kernel)

end TeeIoValidator.PcieIdeTest
