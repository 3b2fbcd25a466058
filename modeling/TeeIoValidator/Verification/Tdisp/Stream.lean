import TeeIoValidator.Model.Tdisp.Stream
import TeeIoValidator.Verification.PcieIde.Closing
import TeeIoValidator.Verification.PcieIde.Keys
import TeeIoValidator.Verification.Tdisp.Requests

/-! # The stream that the cases mean

The set-up writes the stream id of the topology to the registers of both ports. The cases send the
stream id 0 and the port index 0.
-/

namespace TeeIoValidator.Tdisp

open ConfigSpace PcieIde PortQuery

/-! ## The registers of the ports -/

/-- The control register of a port's stream. -/
def controlRegister (cfg : ConfigSpace) (ideType : IdeType) (port : PortContext) : ℕ :=
  match ideType with
  | .lnkIde => lnkBlock port.ecapOffset port.ideId.toNat
  | .selIde => selBlock cfg port.ecapOffset (selIndex cfg port.ecapOffset port.ideId) + 4

/-- The IDE registers of both ports hold the stream id after the reset of `m`. -/
structure Configured (m m' : Machine) (id : BitVec 8) : Prop where
  upper : ∀ ideType, resetIdeType m.context.topType = some ideType →
    ctrlStreamId.get (devicePciRead32 m'.upperCfg
      (controlRegister m.upperCfg ideType m.context.upperPort)) = id.toNat
  lower : ∀ ideType, resetIdeType m.context.topType = some ideType →
    ctrlStreamId.get (devicePciRead32 m'.lowerCfg
      (controlRegister m.lowerCfg ideType m.context.lowerPort)) = id.toNat
  kcbar : PcieIde.streamId.get (m'.kcbar (streamControl m.context.rpStreamIndex)) = id.toNat

theorem resetIdeRegisters_control {cfg : ConfigSpace} {kcbar kcbar' : Registers}
    {port : PortContext} {topType : TopologyType} {ideType : IdeType} {id : BitVec 8}
    {rpStreamIndex : ℕ} {resetKcbar : Bool} {writes : Writes}
    (htype : resetIdeType topType = some ideType)
    (h : resetIdeRegisters cfg kcbar port topType id rpStreamIndex resetKcbar =
      some (kcbar', writes)) :
    ctrlStreamId.get (devicePciRead32 (writes.apply cfg) (controlRegister cfg ideType port)) =
        id.toNat ∧
      kcbar' = if resetKcbar then initializeKcbarRegisters kcbar id rpStreamIndex else kcbar := by
  simp only [resetIdeRegisters, htype, Option.map_eq_some_iff, Prod.mk.injEq] at h
  obtain ⟨writes', hwrites, rfl, rfl⟩ := h
  refine ⟨?_, rfl⟩
  have hvalue : ctrlStreamId.get (ctrlStreamId.set 0 id.toNat) = id.toNat := by
    rw [Field.get_set]
    exact Nat.mod_eq_of_lt id.isLt
  cases ideType with
  | lnkIde =>
      obtain ⟨-, rfl⟩ := setupIdeEcapRegs_lnkIde hwrites
      exact (congrArg ctrlStreamId.get (devicePciRead32_write _ _)).trans hvalue
  | selIde =>
      obtain ⟨-, rfl⟩ := setupIdeEcapRegs_selIde_iff.mp hwrites
      exact (congrArg ctrlStreamId.get selWrites_control).trans hvalue

theorem resetIdeType_isSome {cfg : ConfigSpace} {kcbar : Registers} {port : PortContext}
    {topType : TopologyType} {id : BitVec 8} {rpStreamIndex : ℕ} {resetKcbar : Bool}
    {result : Registers × Writes}
    (h : resetIdeRegisters cfg kcbar port topType id rpStreamIndex resetKcbar = some result) :
    ∃ ideType, resetIdeType topType = some ideType := by
  cases htype : resetIdeType topType with
  | none => simp [resetIdeRegisters, htype] at h
  | some ideType => exact ⟨ideType, rfl⟩

theorem initializeKcbarRegisters_streamId (kcbar : Registers) (id : BitVec 8) (i : ℕ) :
    PcieIde.streamId.get (initializeKcbarRegisters kcbar id i (streamControl i)) = id.toNat := by
  have hread : initializeKcbarRegisters kcbar id i (streamControl i) =
      PcieIde.streamId.set 0 id.toNat := Function.update_self _ _ _
  rw [hread, Field.get_set]
  exact Nat.mod_eq_of_lt id.isLt

/-- The reset configures the stream id of the context, and no other one. -/
theorem configured_iff {m m' : Machine} (h : testConfigResetIdeRegisters m = some m')
    (id : BitVec 8) : Configured m m' id ↔ id = m.context.streamId := by
  simp only [testConfigResetIdeRegisters] at h
  split at h
  · cases h
  rename_i m₁ hupper
  rw [resetUpperPort, Option.map_eq_some_iff] at hupper
  rw [resetLowerPort, Option.map_eq_some_iff] at h
  obtain ⟨⟨kcbar, writes⟩, hreset, rfl⟩ := hupper
  obtain ⟨⟨kcbar', writes'⟩, hreset', rfl⟩ := h
  have hregisters : Configured m
      { m with
        kcbar := kcbar', upperCfg := writes.apply m.upperCfg
        lowerCfg := writes'.apply m.lowerCfg } m.context.streamId := by
    refine ⟨fun ideType htype => (resetIdeRegisters_control htype hreset).1,
      fun ideType htype => (resetIdeRegisters_control htype hreset').1, ?_⟩
    obtain ⟨ideType, htype⟩ := resetIdeType_isSome hreset
    have hkcbar' := (resetIdeRegisters_control htype hreset').2
    have hkcbar := (resetIdeRegisters_control htype hreset).2
    rw [if_neg Bool.false_ne_true] at hkcbar'
    rw [if_pos rfl] at hkcbar
    change PcieIde.streamId.get (kcbar' _) = _
    rw [hkcbar', hkcbar]
    exact initializeKcbarRegisters_streamId _ _ _
  constructor
  · intro hid
    exact BitVec.eq_of_toNat_eq (hid.kcbar.symm.trans hregisters.kcbar)
  · intro hid
    rw [hid]
    exact hregisters

/-- A set-up that succeeds takes the stream id from the topology. -/
theorem commonTestGroupSetup_streamId {facts : GroupFacts} {start m : Machine}
    (h : commonTestGroupSetup facts start = some (true, m)) :
    m.context.streamId = start.context.topStreamId := by
  have hdev : ∀ {ok m₁}, initDevPort facts.lower facts.doe start = some (ok, m₁) →
      m₁.context.topStreamId = start.context.topStreamId := by
    intro ok m₁ hinit
    simp only [initDevPort] at hinit
    split at hinit
    · cases hinit
      rfl
    split at hinit
    · cases hinit
      rfl
    split at hinit
    · cases hinit
    · cases hinit
      rfl
    · cases hinit
      rfl
  rw [commonTestGroupSetup] at h
  split at h
  · cases h
  · cases h
  · rename_i m₁ hinit
    rw [← hdev hinit]
    simp only [initRootPort] at h
    split at h
    · cases h
    split at h
    · cases h
    split at h
    · cases h
    split at h
    · cases h
    · cases h
    split at h
    · cases h
    split at h
    · cases h
    split at h
    · cases h
    · cases h
    · cases h
      rfl

/-! ## The messages of the cases -/

/-- The answer to a `QUERY` at this index is about the lower port. -/
def PortMatches (facts : GroupFacts) (numbering : Numbering) (portIndex : BitVec 8) : Prop :=
  ∃ response, numbering portIndex = some response ∧ response.isTarget facts.lowerPort = true

/-- The messages between two states are about the stream in the registers and the lower port. -/
structure StreamAgrees (lib : PciIdeKmLib) (facts : GroupFacts) (numbering : Numbering)
    (m m' : Machine) (calls : ℕ → StreamCall) (w v : World) : Prop where
  keyProgs : ∀ k, w.ideStreams ≤ k → k < v.ideStreams → ∀ result s,
    (calls k).tdispTestSetIdeStream lib numbering m.context.rpStreamIndex .ks0 =
      some (result, s) →
    ∀ message ∈ s.keyProgs, Configured m m' message.streamId ∧
      PortMatches facts numbering message.portIndex
  kSetGos : ∀ k, w.ideStreams ≤ k → k < v.ideStreams → ∀ result s,
    (calls k).tdispTestSetIdeStream lib numbering m.context.rpStreamIndex .ks0 =
      some (result, s) →
    ∀ request ∈ s.kSetGos, Configured m m' request.streamId ∧
      PortMatches facts numbering request.portIndex
  locks : ∀ q ∈ sent w v, ∀ id ∈ q.2.defaultStreamId, Configured m m' id.toBitVec

/-- Every run of the case agrees with the registers, whatever the device answers. -/
def CaseAgrees (lib : PciIdeKmLib) (facts : GroupFacts) (numbering : Numbering) (m m' : Machine)
    (c : CaseId) : Prop :=
  ∀ (env : Environment) (calls : ℕ → StreamCall) (run : Run) (fuel : ℕ) (w v : World),
    run.case = c →
    run.execute (env.withCalls lib numbering m.context.rpStreamIndex calls) fuel w = some v →
    StreamAgrees lib facts numbering m m' calls w v

section Calls

variable {lib : PciIdeKmLib} {numbering : Numbering} {rpStreamIndex : ℕ} {ks : KeySet}
  {call : StreamCall}

theorem tdispTestSetIdeStream_of_queryError (h : numbering 0 = none) :
    call.tdispTestSetIdeStream lib numbering rpStreamIndex ks =
      some (false, ⟨call.kcbar, 0, [], [], []⟩) := by
  have hquery : (numbering 0).isNone = true := by rw [h]; rfl
  exact if_pos hquery

/-- A call that sends a message had an answer to its `QUERY`. -/
theorem answered_of_sent {result : Bool} {s : State}
    (h : call.tdispTestSetIdeStream lib numbering rpStreamIndex ks = some (result, s))
    (hsent : s.keyProgs ≠ [] ∨ s.kSetGos ≠ []) : ∃ response, numbering 0 = some response := by
  cases hanswer : numbering 0 with
  | none =>
      rw [tdispTestSetIdeStream_of_queryError hanswer] at h
      cases h
      simp at hsent
  | some response => exact ⟨response, rfl⟩

/-- A call whose `QUERY` fails sends nothing, the others mean the stream 0 and the port 0. -/
theorem tdispTestSetIdeStream_aimedAt {result : Bool} {s : State}
    (h : call.tdispTestSetIdeStream lib numbering rpStreamIndex ks = some (result, s)) :
    AimedAt ⟨0, rpStreamIndex, 0⟩ s := by
  have hstart : AimedAt ⟨0, rpStreamIndex, 0⟩ ⟨call.kcbar, 0, [], [], []⟩ := ⟨nofun, nofun⟩
  exact hstart.setupIdeStream lib call.env ks call.kSet h

/-- A call whose first `KEY_PROG` gets no answer. -/
def unansweredCall : StreamCall where
  env := ⟨true, fun _ => none, fun _ => none, fun _ => none⟩
  kSet := fun _ _ => 0
  kcbar := fun _ => 0
  ports := ⟨false, true, true, true, true⟩

theorem unansweredCall_sends {response : QueryResponse} (h : numbering 0 = some response) :
    unansweredCall.tdispTestSetIdeStream lib numbering rpStreamIndex .ks0 =
      some (false, ⟨fun _ => 0, 0, [keyProgMessage lib ⟨0, rpStreamIndex, 0⟩ .ks0 .rx .pr
        (memsetKey (fixedKeyByteValue .rx))], [], []⟩) := by
  have hquery : ¬(numbering 0).isNone = true := by rw [h]; exact nofun
  rw [StreamCall.tdispTestSetIdeStream, setupIdeStream, if_neg hquery]
  rfl

theorem withCalls_unansweredCall (env : Environment) :
    env.withCalls lib numbering rpStreamIndex (fun _ => unansweredCall) =
      { env with ideStream := fun _ => false } := by
  have hresult : (unansweredCall.tdispTestSetIdeStream lib numbering rpStreamIndex .ks0).any
      Prod.fst = false := by
    cases h : numbering 0 with
    | none => simp [tdispTestSetIdeStream_of_queryError h]
    | some response =>
        have hsends := @unansweredCall_sends lib numbering rpStreamIndex response h
        simp [hsends]
  rw [Environment.withCalls, hresult]

end Calls

/-! ## When the messages agree -/

section Agreement

variable {lib : PciIdeKmLib} {facts : GroupFacts} {numbering : Numbering} {start m m' : Machine}
  {c : CaseId}

/-- A device whose requests have no stream of their own. -/
def streamless : Environment := { scripted [18, 44, 17, 24] with ideStream := fun _ => false }

theorem lockInterface2_sends :
    ∃ v, (Run.of .lockInterface2).execute streamless 0 initialWorld = some v ∧
      ∃ q ∈ sent initialWorld v, q.2.defaultStreamId = some 0 := by
  have heval : ((Run.of .lockInterface2).execute streamless 0 initialWorld).any (fun v =>
      (sent initialWorld v).any fun q => q.2.defaultStreamId == some 0) = true := by
    decide +kernel
  obtain ⟨v, hv, hany⟩ := (Option.any_eq_true _ _).mp heval
  obtain ⟨q, hq, hid⟩ := List.any_eq_true.mp hany
  exact ⟨v, hv, q, hq, eq_of_beq hid⟩

theorem setsStream_calls (h : c.setsStream = true) :
    ∃ v, (Run.of c).execute streamless 0 initialWorld = some v ∧ 0 < v.ideStreams := by
  have heval : ∀ c : CaseId, c.setsStream = true →
      ((Run.of c).execute streamless 0 initialWorld).any (fun v => decide (0 < v.ideStreams)) =
        true := by
    intro c hc
    cases c <;> first | decide +kernel | cases hc
  obtain ⟨v, hv, hpos⟩ := (Option.any_eq_true _ _).mp (heval c h)
  exact ⟨v, hv, of_decide_eq_true hpos⟩

/-- A run in which the stream is set is one of a case that sets it. -/
theorem setsStream_of_called {run : Run} {env : Environment} {fuel k : ℕ} {w v : World}
    (h : run.execute env fuel w = some v) (hfirst : w.ideStreams ≤ k) (hlast : k < v.ideStreams) :
    run.case.setsStream = true := by
  by_contra hnot
  rw [Bool.not_eq_true] at hnot
  have hsame := execute_ideStreams (not_setsStream hnot env).1 (not_setsStream hnot env).2 h
  omega

section Configured

variable (hzero : Configured m m' 0 ↔ start.context.topStreamId = 0)
include hzero

/-- The runs of a device that answers as little as it can tell when the case agrees. -/
theorem CaseAgrees.aimed (h : CaseAgrees lib facts numbering m m' c) :
    (c = .lockInterface2 → start.context.topStreamId = 0) ∧
      (c.setsStream = true → ∀ response, numbering 0 = some response →
        start.context.topStreamId = 0 ∧ response.isTarget facts.lowerPort = true) := by
  have hcalls : (scripted [18, 44, 17, 24]).withCalls lib numbering m.context.rpStreamIndex
      (fun _ => unansweredCall) = streamless := withCalls_unansweredCall _
  constructor
  · intro hc
    obtain ⟨v, hv, q, hq, hid⟩ := lockInterface2_sends
    rw [← hcalls] at hv
    exact hzero.mp ((h _ _ _ _ _ _ hc.symm hv).locks q hq 0 hid)
  · intro hsets response hresponse
    obtain ⟨v, hv, hpos⟩ := setsStream_calls hsets
    rw [← hcalls] at hv
    obtain ⟨hid, response', hsame, htarget⟩ := (h _ _ _ _ _ _ rfl hv).keyProgs 0 (Nat.le_refl 0)
      hpos _ _ (unansweredCall_sends hresponse) _ List.mem_cons_self
    have hport : some response' = some response := hsame.symm.trans hresponse
    cases hport
    exact ⟨hzero.mp hid, htarget⟩

section Runs

variable (hlock : c = .lockInterface2 → start.context.topStreamId = 0)
  (hstream : c.setsStream = true → ∀ response, numbering 0 = some response →
    start.context.topStreamId = 0 ∧ response.isTarget facts.lowerPort = true)
  {run : Run} {env : Environment} {calls : ℕ → StreamCall} {fuel : ℕ} {w v : World}
include hstream

/-- The stream and the port that the messages of a call mean. -/
theorem call_agrees (hc : run.case = c)
    (hv : run.execute env fuel w = some v) {k : ℕ} (hfirst : w.ideStreams ≤ k)
    (hlast : k < v.ideStreams) {result : Bool} {s : State}
    (hcall : (calls k).tdispTestSetIdeStream lib numbering m.context.rpStreamIndex .ks0 =
      some (result, s)) (hsent : s.keyProgs ≠ [] ∨ s.kSetGos ≠ []) :
    Configured m m' 0 ∧ PortMatches facts numbering 0 := by
  have hsets := setsStream_of_called hv hfirst hlast
  obtain ⟨response, hanswer⟩ := answered_of_sent hcall hsent
  obtain ⟨hid, htarget⟩ := hstream (hc ▸ hsets) response hanswer
  exact ⟨hzero.mpr hid, response, hanswer, htarget⟩

include hlock

/-- `LOCK_INTERFACE_REQUEST`, whose default stream id is 0. -/
theorem lock_agrees (hc : run.case = c)
    (hv : run.execute (env.withCalls lib numbering m.context.rpStreamIndex calls) fuel w = some v)
    {q : Phase × Request} (hq : q ∈ sent w v) {id : UInt8}
    (hid : id ∈ q.2.defaultStreamId) : Configured m m' id.toBitVec := by
  subst hc
  rw [execute_zeroStream hv q hq id hid]
  apply hzero.mpr
  by_cases hc : run.case = .lockInterface2
  · exact hlock hc
  by_contra hne
  have hfail : run.case.setsStream = true → ∀ k,
      (env.withCalls lib numbering m.context.rpStreamIndex calls).ideStream k = false := by
    intro hsets k
    cases hanswer : numbering 0 with
    | none => simp [Environment.withCalls, tdispTestSetIdeStream_of_queryError hanswer]
    | some response => exact absurd (hstream hsets response hanswer).1 hne
  have hnot := execute_not_lock hc hfail hv q hq
  cases hq2 : q.2 <;> simp_all [Request.defaultStreamId, Request.isLock]

end Runs

end Configured

theorem caseAgrees_iff (hsetup : commonTestGroupSetup facts start = some (true, m))
    (hreset : testConfigResetIdeRegisters m = some m') :
    CaseAgrees lib facts numbering m m' c ↔
      (c = .lockInterface2 → start.context.topStreamId = 0) ∧
      (c.setsStream = true → ∀ response, numbering 0 = some response →
        start.context.topStreamId = 0 ∧ response.isTarget facts.lowerPort = true) := by
  have hzero : Configured m m' 0 ↔ start.context.topStreamId = 0 := by
    rw [configured_iff hreset, commonTestGroupSetup_streamId hsetup, eq_comm]
  constructor
  · intro h
    exact h.aimed hzero
  · intro ⟨hlock, hstream⟩ env calls run fuel w v hc hv
    refine ⟨?_, ?_, ?_⟩
    · intro k hfirst hlast result s hcall message hmem
      obtain ⟨hid, hport⟩ := (tdispTestSetIdeStream_aimedAt hcall).keyProgs message hmem
      rw [hid, hport]
      exact call_agrees hzero hstream hc hv hfirst hlast hcall (Or.inl (List.ne_nil_of_mem hmem))
    · intro k hfirst hlast result s hcall request hmem
      obtain ⟨hid, hport⟩ := (tdispTestSetIdeStream_aimedAt hcall).kSetGos request hmem
      rw [hid, hport]
      exact call_agrees hzero hstream hc hv hfirst hlast hcall (Or.inr (List.ne_nil_of_mem hmem))
    · intro q hq id hid
      exact lock_agrees hzero hlock hstream hc hv hq hid

end Agreement

/-- After every group set-up, the messages of all cases agree with the registers and the lower port
exactly when the stream id of the topology is 0 and an answer for the port index 0 is about the
lower port. -/
theorem casesAgree_iff (lib : PciIdeKmLib) (facts : GroupFacts) (numbering : Numbering)
    (start m m' : Machine) (hsetup : commonTestGroupSetup facts start = some (true, m))
    (hreset : testConfigResetIdeRegisters m = some m') :
    (∀ c, CaseAgrees lib facts numbering m m' c) ↔
      start.context.topStreamId = 0 ∧
      ∀ response, numbering 0 = some response → response.isTarget facts.lowerPort = true := by
  constructor
  · intro h
    refine ⟨((caseAgrees_iff hsetup hreset).mp (h .lockInterface2)).1 rfl, ?_⟩
    intro response hresponse
    exact (((caseAgrees_iff hsetup hreset).mp (h .lockInterface1)).2 rfl response hresponse).2
  · intro ⟨hid, hport⟩ c
    exact (caseAgrees_iff hsetup hreset).mpr
      ⟨fun _ => hid, fun _ response hresponse => ⟨hid, hport response hresponse⟩⟩

/-! ### A stream 1, and a lower port at index 1 -/

def smallGroup : GroupFacts := ⟨smallFacts, smallFacts, true, true, some highBridge⟩

/-- The group of a topology with this stream id. -/
def smallTopology (id : BitVec 8) : Machine :=
  { smallStart with context := zeroedContext .selIde id }

/-- A device whose lower port has this index. -/
def numberedFrom (lower : BitVec 8) : Numbering := fun portIndex =>
  some ⟨if portIndex = lower then 0 else 8, 1, 0, lower, 0⟩

theorem smallTopology_setUp {id : BitVec 8}
    (h : (commonTestGroupSetup smallGroup (smallTopology id)).any
      (fun r => r.1 && (testConfigResetIdeRegisters r.2).isSome) = true) :
    ∃ m m', commonTestGroupSetup smallGroup (smallTopology id) = some (true, m) ∧
      testConfigResetIdeRegisters m = some m' := by
  obtain ⟨⟨ok, m⟩, hsetup, hdone⟩ := (Option.any_eq_true _ _).mp h
  rw [Bool.and_eq_true] at hdone
  obtain ⟨rfl, hreset⟩ := hdone
  obtain ⟨m', hm'⟩ := Option.isSome_iff_exists.mp hreset
  exact ⟨m, m', hsetup, hm'⟩

theorem casesAgree_streamZero :
    ∃ m m', commonTestGroupSetup smallGroup (smallTopology 0) = some (true, m) ∧
      testConfigResetIdeRegisters m = some m' ∧
      ∀ c, CaseAgrees pciIdeKm smallGroup (numberedFrom 0) m m' c := by
  have hrun : (commonTestGroupSetup smallGroup (smallTopology 0)).any
      (fun r => r.1 && (testConfigResetIdeRegisters r.2).isSome) = true := by decide +kernel
  obtain ⟨m, m', hsetup, hreset⟩ := smallTopology_setUp hrun
  refine ⟨m, m', hsetup, hreset, ?_⟩
  apply (casesAgree_iff pciIdeKm smallGroup (numberedFrom 0) (smallTopology 0) m m' hsetup
    hreset).mpr
  refine ⟨rfl, ?_⟩
  intro response hresponse
  cases hresponse
  decide

/-- With the stream id 1 the lock names another stream, with the lower port at index 1 the keys go
to another port. -/
theorem not_casesAgree :
    (∃ m m', commonTestGroupSetup smallGroup (smallTopology 1) = some (true, m) ∧
      testConfigResetIdeRegisters m = some m' ∧
      ¬CaseAgrees pciIdeKm smallGroup (numberedFrom 0) m m' .lockInterface2) ∧
    ∃ m m', commonTestGroupSetup smallGroup (smallTopology 0) = some (true, m) ∧
      testConfigResetIdeRegisters m = some m' ∧
      ¬CaseAgrees pciIdeKm smallGroup (numberedFrom 1) m m' .lockInterface1 := by
  have hone : (commonTestGroupSetup smallGroup (smallTopology 1)).any
      (fun r => r.1 && (testConfigResetIdeRegisters r.2).isSome) = true := by decide +kernel
  have hzero : (commonTestGroupSetup smallGroup (smallTopology 0)).any
      (fun r => r.1 && (testConfigResetIdeRegisters r.2).isSome) = true := by decide +kernel
  constructor
  · obtain ⟨m, m', hsetup, hreset⟩ := smallTopology_setUp hone
    refine ⟨m, m', hsetup, hreset, ?_⟩
    intro h
    exact absurd (((caseAgrees_iff hsetup hreset).mp h).1 rfl) (by decide)
  · obtain ⟨m, m', hsetup, hreset⟩ := smallTopology_setUp hzero
    refine ⟨m, m', hsetup, hreset, ?_⟩
    intro h
    exact absurd (((caseAgrees_iff hsetup hreset).mp h).2 rfl _ rfl).2 (by decide)

end TeeIoValidator.Tdisp
