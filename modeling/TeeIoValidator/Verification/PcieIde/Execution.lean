import TeeIoValidator.Model.PcieIde.KeyManagement

/-! # What each step of a setup or a key refresh does

One lemma says what a successful step leaves behind, and one induction carries an invariant
through the six keys.
-/

namespace TeeIoValidator.PcieIde

variable {lib : PciIdeKmLib} {env : Environment} {stream : Stream} {ks : KeySet}
  {kSet : IdeKeySet}

/-! ## A key -/

theorem size_defaultIv : #[0, pcieIdeIvInitValue].size = 2 := rfl

/-- The message for a key. -/
def keyProgMessage (lib : PciIdeKmLib) (stream : Stream) (ks : KeySet) (direction : Direction)
    (substream : SubStream) (key : Key) : KeyProg where
  streamId := stream.streamId
  keySubStream := lib.keySets ks ||| lib.directions direction ||| lib.subStreams substream
  portIndex := stream.portIndex
  key := key
  iv := ⟨#[0, pcieIdeIvInitValue], size_defaultIv⟩

/-- The registers after a key is written. -/
def keyProgKcbar (kcbar : Registers) (stream : Stream) (ks : KeySet) (kSet : IdeKeySet)
    (direction : Direction) (substream : SubStream) (key : Key) : Registers :=
  cfgRootportIdeKeys kcbar stream.rpStreamIndex direction ks substream
    (slotId kSet direction substream) (pcieConstructRpKeys key) [pcieIdeIvInitValue, 0]

/-- What a successful key leaves behind. -/
structure KeyProgrammed (lib : PciIdeKmLib) (stream : Stream) (ks : KeySet) (kSet : IdeKeySet)
    (direction : Direction) (substream : SubStream) (key : Key) (s s' : State) : Prop where
  kcbar : s'.kcbar = keyProgKcbar s.kcbar stream ks kSet direction substream key
  keyProgs : s'.keyProgs = s.keyProgs ++ [keyProgMessage lib stream ks direction substream key]
  kSetGos : s'.kSetGos = s.kSetGos
  keyWrites : s'.keyWrites =
    s.keyWrites ++ [⟨s.kcbar, s'.kcbar, direction, (slotId kSet direction substream).toNat⟩]

theorem generateKey_state (env : Environment) (direction : Direction) (s : State) :
    ∃ randoms, (generateKey env direction s).2 = { s with randoms := randoms } := by
  rw [generateKey]
  split
  · exact ⟨s.randoms, rfl⟩
  · exact ⟨s.randoms + 1, rfl⟩

theorem ideKmKeyProg_true {direction : Direction} {substream : SubStream} {s s' : State}
    (h : ideKmKeyProg lib env stream ks kSet direction substream s = (true, s')) :
    ∃ key, KeyProgrammed lib stream ks kSet direction substream key s s' := by
  rcases generateKey_state env direction s with ⟨randoms, hstate⟩
  rw [ideKmKeyProg] at h
  split at h
  · cases h
  · rename_i key s₁ hkey
    rw [hkey] at hstate
    subst hstate
    simp only [pciIdeKmKeyProg] at h
    split at h
    · cases h
    · rename_i kpAckStatus s₂ hack
      rw [Prod.mk.injEq] at hack
      rcases hack with ⟨_, rfl⟩
      split at h
      · cases h
      · cases h
        exact ⟨key, rfl, rfl, rfl, rfl⟩

/-! ## The six keys -/

def subStreams : List SubStream := [.pr, .npr, .cpl]

/-- The keys of a stream in the order in which they are programmed. -/
def streamKeys : List (Direction × SubStream) :=
  subStreams.map (Direction.rx, ·) ++ subStreams.map (Direction.tx, ·)

theorem mem_streamKeys (direction : Direction) (substream : SubStream) :
    (direction, substream) ∈ streamKeys := by
  cases direction <;> cases substream <;> decide

section Induction

variable {P : List (Direction × SubStream) → State → Prop}
  (hkey : ∀ {done direction substream s s'}, (direction, substream) ∉ done → P done s →
    ideKmKeyProg lib env stream ks kSet direction substream s = (true, s') →
    P (done ++ [(direction, substream)]) s')

include hkey in
theorem ideKmKeyProgs_induction {direction : Direction} (substreams : List SubStream)
    {done : List (Direction × SubStream)} {s s' : State}
    (hnodup : (done ++ substreams.map (direction, ·)).Nodup) (hstart : P done s)
    (h : ideKmKeyProgs lib env stream ks kSet direction substreams s = (true, s')) :
    P (done ++ substreams.map (direction, ·)) s' := by
  induction substreams generalizing done s with
  | nil =>
      cases h
      rw [List.map_nil, List.append_nil]
      exact hstart
  | cons substream substreams ih =>
      rw [ideKmKeyProgs] at h
      split at h
      · cases h
      · rename_i s₁ hfirst
        rw [List.map_cons, List.append_cons] at hnodup ⊢
        have hnew : (direction, substream) ∉ done := by
          have hleft := (List.nodup_append.mp hnodup).1
          intro hmem
          exact (List.nodup_append.mp hleft).2.2 _ hmem _ (List.mem_singleton_self _) rfl
        exact ih hnodup (hkey hnew hstart hfirst) h

include hkey in
/-- An invariant of the keys done so far that priming keeps. -/
theorem programStream_induction
    (hprime : ∀ {done direction} {s : State}, P done s →
      P done { s with kcbar := primeRpIdeKeySet s.kcbar stream.rpStreamIndex direction ks })
    {s s' : State} (hstart : P [] s)
    (h : programStream lib env stream ks kSet s = (true, s')) : P streamKeys s' := by
  have hdirection : ∀ {done direction} {s s' : State},
      (done ++ subStreams.map (direction, ·)).Nodup → P done s →
      programDirection lib env stream ks kSet direction s = (true, s') →
      P (done ++ subStreams.map (direction, ·)) s' := by
    intro done direction s s' hnodup hP hrun
    rw [programDirection] at hrun
    split at hrun
    · cases hrun
    · rename_i s₁ hkeys
      cases hrun
      apply hprime
      exact ideKmKeyProgs_induction hkey _ hnodup hP hkeys
  rw [programStream] at h
  split at h
  · cases h
  · rename_i s₁ hrx
    have hfirst : P (subStreams.map (Direction.rx, ·)) s₁ :=
      hdirection (by decide) hstart hrx
    exact hdirection (by decide) hfirst h

end Induction

/-! ## `K_SET_GO` -/

/-- The message for a sub-stream: it names the key set as `KEY_PROG` does. -/
def kSetGoMessage (lib : PciIdeKmLib) (stream : Stream) (ks : KeySet) (direction : Direction)
    (substream : SubStream) : KSetGo where
  streamId := stream.streamId
  keySubStream := lib.keySets ks ||| lib.directions direction ||| lib.subStreams substream
  portIndex := stream.portIndex

theorem ideKmKeySetGo_true {request : KSetGo} {s s' : State}
    (h : ideKmKeySetGo lib env request s = (true, s')) :
    s' = { s with kSetGos := s.kSetGos ++ [request] } := by
  rw [ideKmKeySetGo] at h
  split at h
  · cases h
  · repeat' split at h
    all_goals cases h
    rfl

theorem ideKmKeySetGos_true {direction : Direction} {substreams : List SubStream}
    {s s' : State} (h : ideKmKeySetGos lib env stream ks direction substreams s = (true, s')) :
    s' = { s with
      kSetGos := s.kSetGos ++ substreams.map (kSetGoMessage lib stream ks direction) } := by
  induction substreams generalizing s with
  | nil =>
      cases h
      rw [List.map_nil, List.append_nil]
  | cons substream substreams ih =>
      rw [ideKmKeySetGos, ← lib.keySets_eq] at h
      split at h
      · cases h
      · rename_i s₁ hfirst
        have hone := ideKmKeySetGo_true hfirst
        subst hone
        rw [ih h]
        simp only [List.map_cons, List.append_assoc, List.singleton_append]
        rfl

theorem goStream_true {s s' : State} (h : goStream lib env stream ks s = (true, s')) :
    s' = { s with
      kcbar := setRpIdeKeySetSelect s.kcbar stream.rpStreamIndex ks
      kSetGos := s.kSetGos ++
        streamKeys.map fun key => kSetGoMessage lib stream ks key.1 key.2 } := by
  rw [goStream] at h
  split at h
  · cases h
  · rename_i s₁ hrx
    rw [ideKmKeySetGos_true h, ideKmKeySetGos_true hrx]
    simp only [List.append_assoc]
    rfl

theorem startIdeStream_true {topType : TopologyType} {s s' : State}
    (h : startIdeStream lib env stream ks topType s = some (true, s')) :
    ∃ s₁, goStream lib env stream ks s = (true, s₁) ∧
      s' = { s₁ with kcbar := enableIdeStreamInKcbar s₁.kcbar stream.rpStreamIndex true } := by
  rw [startIdeStream] at h
  split at h
  · cases h
  · rename_i s₁ hgo
    split at h
    · cases h
    · cases h
      exact ⟨s₁, hgo, rfl⟩

/-! ## Setup and key refresh -/

theorem setupIdeStream_true {topType : TopologyType} {ports : Ports} {s s' : State}
    (h : setupIdeStream lib env stream ks kSet topType ports false s = some (true, s')) :
    ∃ s₁, programStream lib env stream ks kSet s = (true, s₁) ∧
      startIdeStream lib env stream ks topType s₁ = some (true, s') := by
  rw [setupIdeStream] at h
  split at h
  · cases h
  · split at h
    · cases h
    · rename_i s₁ hprogram
      rw [if_neg Bool.false_ne_true] at h
      split at h
      · cases h
      · cases h
      · rename_i s₂ hstart
        simp only [Option.some.injEq, Prod.mk.injEq] at h
        rcases h with ⟨_, rfl⟩
        exact ⟨s₁, hprogram, hstart⟩

theorem ideKeySwitchTo_true {topType : TopologyType} {ports : Ports} {retries : List Retry}
    {kSet' : IdeKeySet} {s s' : State}
    (h : ideKeySwitchTo lib env stream kSet topType ports retries ks false s =
      some (true, kSet', s')) :
    ∃ s₁ s₂, waitForSlots retries s = some (some kSet', s₁) ∧
      programStream lib env stream ks kSet' s₁ = (true, s₂) ∧
      goStream lib env stream ks s₂ = (true, s') := by
  rw [ideKeySwitchTo] at h
  split at h
  · cases h
  · split at h
    · cases h
    · split at h
      · cases h
      · split at h
        · cases h
        · cases h
        · rename_i found s₁ hwait
          split at h
          · cases h
          · rename_i s₂ hprogram
            rw [if_neg Bool.false_ne_true] at h
            split at h
            · cases h
            · rename_i s₃ hgo
              simp only [Option.some.injEq, Prod.mk.injEq] at h
              rcases h with ⟨_, rfl, rfl⟩
              exact ⟨s₁, s₂, hwait, hprogram, hgo⟩

/-- The slots that the loop ends with are allocated in the registers it ends with. -/
theorem waitForSlots_some {retries : List Retry} {s s' : State}
    (h : waitForSlots retries s = some (some kSet, s')) :
    pcieIdeAllocSlotIds s'.kcbar = .found kSet := by
  induction retries generalizing s with
  | nil =>
      rw [waitForSlots] at h
      split at h
      · cases h
      · rename_i hfound
        cases h
        exact hfound
      · cases h
  | cons retry retries ih =>
      rw [waitForSlots] at h
      split at h
      · cases h
      · rename_i hfound
        cases h
        exact hfound
      · simp only at h
        split at h
        · cases h
        · exact ih h

/-- Waiting sends nothing and writes no key. -/
theorem waitForSlots_state {retries : List Retry} {found : Option IdeKeySet} {s s' : State}
    (h : waitForSlots retries s = some (found, s')) : ∃ kcbar, s' = { s with kcbar := kcbar } := by
  induction retries generalizing s with
  | nil =>
      rw [waitForSlots] at h
      split at h
      · cases h
      · cases h
        exact ⟨s'.kcbar, rfl⟩
      · cases h
  | cons retry retries ih =>
      rw [waitForSlots] at h
      split at h
      · cases h
      · cases h
        exact ⟨s'.kcbar, rfl⟩
      · simp only at h
        split at h
        · cases h
          exact ⟨retry.others s.kcbar, rfl⟩
        · rcases ih h with ⟨kcbar, rfl⟩
          exact ⟨kcbar, rfl⟩

/-! ## Messages

A step that fails has sent its messages as well.
-/

/-- Every message carries the id of the stream and its port index. -/
structure AimedAt (stream : Stream) (s : State) : Prop where
  keyProgs : ∀ message ∈ s.keyProgs,
    message.streamId = stream.streamId ∧ message.portIndex = stream.portIndex
  kSetGos : ∀ request ∈ s.kSetGos,
    request.streamId = stream.streamId ∧ request.portIndex = stream.portIndex

section Messages

variable (lib env ks kSet) {s : State}

theorem AimedAt.ideKmKeyProg (h : AimedAt stream s) (direction : Direction)
    (substream : SubStream) :
    AimedAt stream (ideKmKeyProg lib env stream ks kSet direction substream s).2 := by
  rcases generateKey_state env direction s with ⟨randoms, hstate⟩
  have hsent : ∀ key, ∀ message ∈ s.keyProgs ++
      [keyProgMessage lib stream ks direction substream key],
      message.streamId = stream.streamId ∧ message.portIndex = stream.portIndex := by
    intro key message hmessage
    rcases List.mem_append.mp hmessage with hbefore | hnew
    · exact h.keyProgs message hbefore
    · rw [List.mem_singleton.mp hnew]
      exact ⟨rfl, rfl⟩
  rw [PcieIde.ideKmKeyProg]
  split
  · rename_i s₁ hkey
    rw [hkey] at hstate
    subst hstate
    exact ⟨h.keyProgs, h.kSetGos⟩
  · rename_i key s₁ hkey
    rw [hkey] at hstate
    subst hstate
    simp only [pciIdeKmKeyProg]
    cases env.kpAckStatus s.keyProgs.length with
    | none => exact ⟨hsent key, h.kSetGos⟩
    | some kpAckStatus =>
        simp only
        split_ifs
        · exact ⟨hsent key, h.kSetGos⟩
        · exact ⟨hsent key, h.kSetGos⟩

theorem AimedAt.ideKmKeyProgs (h : AimedAt stream s) (direction : Direction)
    (substreams : List SubStream) :
    AimedAt stream (ideKmKeyProgs lib env stream ks kSet direction substreams s).2 := by
  induction substreams generalizing s with
  | nil => exact h
  | cons substream substreams ih =>
      have hfirst := h.ideKmKeyProg lib env ks kSet direction substream
      rw [PcieIde.ideKmKeyProgs]
      split
      · rename_i s₁ hstep
        rw [hstep] at hfirst
        exact hfirst
      · rename_i s₁ hstep
        rw [hstep] at hfirst
        exact ih hfirst

theorem AimedAt.programDirection (h : AimedAt stream s) (direction : Direction) :
    AimedAt stream (programDirection lib env stream ks kSet direction s).2 := by
  have hkeys := h.ideKmKeyProgs lib env ks kSet direction [.pr, .npr, .cpl]
  rw [PcieIde.programDirection]
  split
  · rename_i s₁ hstep
    rw [hstep] at hkeys
    exact hkeys
  · rename_i s₁ hstep
    rw [hstep] at hkeys
    exact ⟨hkeys.keyProgs, hkeys.kSetGos⟩

theorem AimedAt.programStream (h : AimedAt stream s) :
    AimedAt stream (programStream lib env stream ks kSet s).2 := by
  have hrx := h.programDirection lib env ks kSet .rx
  rw [PcieIde.programStream]
  split
  · rename_i s₁ hstep
    rw [hstep] at hrx
    exact hrx
  · rename_i s₁ hstep
    rw [hstep] at hrx
    exact hrx.programDirection lib env ks kSet .tx

theorem AimedAt.ideKmKeySetGo (h : AimedAt stream s) {request : KSetGo}
    (hrequest : request.streamId = stream.streamId ∧ request.portIndex = stream.portIndex) :
    AimedAt stream (ideKmKeySetGo lib env request s).2 := by
  have hstate : (PcieIde.ideKmKeySetGo lib env request s).2 =
      { s with kSetGos := s.kSetGos ++ [request] } := by
    rw [PcieIde.ideKmKeySetGo]
    split
    · rfl
    · split_ifs <;> rfl
  rw [hstate]
  refine ⟨h.keyProgs, ?_⟩
  intro request' hmem
  rcases List.mem_append.mp hmem with hbefore | hnew
  · exact h.kSetGos request' hbefore
  · rw [List.mem_singleton.mp hnew]
    exact hrequest

theorem AimedAt.ideKmKeySetGos (h : AimedAt stream s) (direction : Direction)
    (substreams : List SubStream) :
    AimedAt stream (ideKmKeySetGos lib env stream ks direction substreams s).2 := by
  induction substreams generalizing s with
  | nil => exact h
  | cons substream substreams ih =>
      rw [PcieIde.ideKmKeySetGos]
      have hfirst := @AimedAt.ideKmKeySetGo lib env stream s h ⟨stream.streamId,
        ks.number ||| lib.directions direction ||| lib.subStreams substream, stream.portIndex⟩
        ⟨rfl, rfl⟩
      split
      · rename_i s₁ hstep
        rw [hstep] at hfirst
        exact hfirst
      · rename_i s₁ hstep
        rw [hstep] at hfirst
        exact ih hfirst

theorem AimedAt.goStream (h : AimedAt stream s) :
    AimedAt stream (goStream lib env stream ks s).2 := by
  have hrx := h.ideKmKeySetGos lib env ks .rx [.pr, .npr, .cpl]
  rw [PcieIde.goStream]
  split
  · rename_i s₁ hstep
    rw [hstep] at hrx
    exact hrx
  · rename_i s₁ hstep
    rw [hstep] at hrx
    have hselected : AimedAt stream
        { s₁ with kcbar := setRpIdeKeySetSelect s₁.kcbar stream.rpStreamIndex ks } :=
      ⟨hrx.keyProgs, hrx.kSetGos⟩
    exact hselected.ideKmKeySetGos lib env ks .tx [.pr, .npr, .cpl]

theorem AimedAt.setupIdeStream {topType : TopologyType} {ports : Ports} {skipKsetgo b : Bool}
    {s' : State} (h : AimedAt stream s)
    (hrun : setupIdeStream lib env stream ks kSet topType ports skipKsetgo s = some (b, s')) :
    AimedAt stream s' := by
  have hprogram := h.programStream lib env ks kSet
  rw [PcieIde.setupIdeStream] at hrun
  split at hrun
  · cases hrun
    exact h
  split at hrun
  · rename_i s₁ hstep
    rw [hstep] at hprogram
    cases hrun
    exact hprogram
  · rename_i s₁ hstep
    rw [hstep] at hprogram
    have hgo := hprogram.goStream lib env ks
    split at hrun
    · cases hrun
      exact hprogram
    · simp only [startIdeStream] at hrun
      split at hrun
      · cases hrun
      · rename_i s₂ hstart
        split at hstart
        · rename_i s₃ hfailed
          rw [hfailed] at hgo
          cases hstart
          cases hrun
          exact hgo
        · split at hstart
          · cases hstart
          · cases hstart
      · rename_i s₂ hstart
        split at hstart
        · cases hstart
        · rename_i s₃ hdone
          rw [hdone] at hgo
          split at hstart
          · cases hstart
          · cases hstart
            cases hrun
            exact ⟨hgo.keyProgs, hgo.kSetGos⟩

end Messages

end TeeIoValidator.PcieIde
