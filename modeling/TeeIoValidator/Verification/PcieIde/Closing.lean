import TeeIoValidator.Model.PcieIde.StreamPorts
import TeeIoValidator.Verification.PcieIde.StreamRegisters
import Mathlib.Tactic.IntervalCases

/-! # What closing a port leaves behind

Closing writes zeros from the context to the registers of the stream. One of the three address
association registers is not cleared in the context.
-/

namespace TeeIoValidator.PcieIde

open ConfigSpace

/-! ## Reading what was written -/

section Words

variable {cfg : ConfigSpace}

theorem dword_bytes (dw : Dword) : dw.byte 3 ++ dw.byte 2 ++ dw.byte 1 ++ dw.byte 0 = dw := by
  apply BitVec.eq_of_getLsbD_eq
  intro i hi
  simp only [Dword.byte, BitVec.getLsbD_append, BitVec.getLsbD_extractLsb']
  rcases (by omega : i < 8 ∨ (8 ≤ i ∧ i < 16) ∨ (16 ≤ i ∧ i < 24) ∨ (24 ≤ i ∧ i < 32)) with
    h | ⟨h, h'⟩ | ⟨h, h'⟩ | ⟨h, h'⟩ <;>
  · simp (disch := omega) only [if_pos, if_neg, decide_eq_true, Bool.true_and]
    congr 1
    omega

theorem devicePciRead32_congr {cfg' : ConfigSpace} {off : ℕ}
    (h : Block.read cfg' off 4 = Block.read cfg off 4) :
    devicePciRead32 cfg' off = devicePciRead32 cfg off := by
  simp only [Block.read, List.map_inj_left, List.mem_range] at h
  rw [devicePciRead32, devicePciRead32, h 3 (by decide), h 2 (by decide), h 1 (by decide),
    ← Nat.add_zero off, h 0 (by decide)]

@[simp] theorem devicePciRead32_write (off : ℕ) (value : Dword) :
    devicePciRead32 (devicePciWrite32 cfg off value) off = value := by
  have hread := Block.read_write cfg off
    [value.byte 0, value.byte 1, value.byte 2, value.byte 3]
  simp only [Block.read, List.length_cons, List.length_nil, List.range_succ, List.range_zero,
    List.nil_append, List.cons_append, List.map_cons, List.map_nil, List.cons.injEq,
    Nat.add_zero, Nat.reduceAdd, and_true] at hread
  obtain ⟨h0, h1, h2, h3⟩ := hread
  rw [devicePciRead32, devicePciWrite32, h0, h1, h2, h3, dword_bytes]

/-- Writes to registers that do not overlap are all there at the end. -/
theorem devicePciRead32_apply {writes : Writes}
    (hdisjoint : writes.Pairwise fun write write' => Block.Disjoint write.1 4 write'.1 4)
    {write : ℕ × Dword} (h : write ∈ writes) :
    devicePciRead32 (writes.apply cfg) write.1 = write.2 := by
  induction writes generalizing cfg with
  | nil => cases h
  | cons first writes ih =>
      rw [List.pairwise_cons] at hdisjoint
      rcases List.mem_cons.mp h with rfl | hrest
      · have hframe := @apply_read_of_disjoint (devicePciWrite32 cfg write.1 write.2) _ _ _
          hdisjoint.1
        exact (devicePciRead32_congr hframe).trans (devicePciRead32_write _ _)
      · exact ih hdisjoint.2 hrest

theorem selWrites_pairwise {block : ℕ} {streamCtrl : Dword} {rid : RidAssocRegBlock}
    {addr : AddrAssocRegBlock} :
    (selWrites block streamCtrl rid addr).Pairwise fun write write' =>
      Block.Disjoint write.1 4 write'.1 4 := by
  simp only [selWrites, List.pairwise_cons, List.forall_mem_cons, Block.Disjoint]
  refine ⟨⟨?_, ?_, ?_, ?_, ?_, List.forall_mem_nil _⟩, ⟨?_, ?_, ?_, ?_, List.forall_mem_nil _⟩,
    ⟨?_, ?_, ?_, List.forall_mem_nil _⟩, ⟨?_, ?_, List.forall_mem_nil _⟩,
    ⟨?_, List.forall_mem_nil _⟩, List.forall_mem_nil _, List.Pairwise.nil⟩ <;> omega

theorem selWrites_control {block : ℕ} {streamCtrl : Dword} {rid : RidAssocRegBlock}
    {addr : AddrAssocRegBlock} :
    devicePciRead32 ((selWrites block streamCtrl rid addr).apply cfg) (block + 4) = streamCtrl := by
  have hmem : (block + 4, streamCtrl) ∈ selWrites block streamCtrl rid addr := by
    simp [selWrites]
  have hread := @devicePciRead32_apply cfg _ selWrites_pairwise _ hmem
  exact hread

end Words

/-! ## Closed streams -/

/-- The registers of a closed stream in the IDE extended capability are zero, those of the other
streams are as they were. -/
structure EcapClosed (cfg cfg' : ConfigSpace) (ecapOffset : ℕ) (ideType : IdeType)
    (ideId : BitVec 8) : Prop where
  lnkControl : ideType = .lnkIde → devicePciRead32 cfg' (lnkBlock ecapOffset ideId.toNat) = 0
  selControl : ideType = .selIde →
    devicePciRead32 cfg' (selBlock cfg ecapOffset (selIndex cfg ecapOffset ideId) + 4) = 0
  rid : ideType = .selIde → ∀ k < 2,
    devicePciRead32 cfg' (selBlock cfg ecapOffset (selIndex cfg ecapOffset ideId) + 12 + 4 * k) = 0
  addr : ideType = .selIde → ∀ k < 3,
    devicePciRead32 cfg' (selBlock cfg ecapOffset (selIndex cfg ecapOffset ideId) + 20 + 4 * k) = 0
  others : OthersUnchanged cfg ecapOffset cfg' ideType ideId

/-- The same for KCBar. -/
structure KcbarClosed (kcbar kcbar' : Registers) (rpStreamIndex : ℕ) : Prop where
  control : kcbar' (streamControl rpStreamIndex) = 0
  txrxControl : ∀ direction, kcbar' (txrxControl rpStreamIndex direction) = 0
  keySets : ∀ direction ks, kcbar' (keysetSlotId rpStreamIndex direction ks) = 0
  others : ∀ reg, reg < getStreamCfgRegBlock rpStreamIndex ∨
    getStreamCfgRegBlock rpStreamIndex + 9 ≤ reg → kcbar' reg = kcbar reg

/-- What closing the root port should do. -/
structure RootPortClosed (m m' : Machine) : Prop where
  ecap : ∀ ideType, resetIdeType m.context.topType = some ideType →
    EcapClosed m.upperCfg m'.upperCfg m.context.upperPort.ecapOffset ideType
      m.context.upperPort.ideId
  kcbar : KcbarClosed m.kcbar m'.kcbar m.context.rpStreamIndex
  lower : m'.lowerCfg = m.lowerCfg

/-- What closing the device port should do. -/
structure DevPortClosed (m m' : Machine) : Prop where
  ecap : ∀ ideType, resetIdeType m.context.topType = some ideType →
    EcapClosed m.lowerCfg m'.lowerCfg m.context.lowerPort.ecapOffset ideType
      m.context.lowerPort.ideId
  kcbar : m'.kcbar = m.kcbar
  upper : m'.upperCfg = m.upperCfg

/-- The block of the stream has room for what is written to it. -/
def PortHasRoom (cfg : ConfigSpace) (topType : TopologyType) (port : PortContext) : Prop :=
  ∀ ideType, resetIdeType topType = some ideType →
    BlockHasRoom cfg port.ecapOffset ideType port.ideId

theorem kcbarClosed_initialize (kcbar : Registers) (i : ℕ) :
    KcbarClosed kcbar (initializeKcbarRegisters kcbar 0 i) i := by
  constructor
  · exact (Function.update_self _ _ _).trans (by decide)
  · intro direction
    cases direction <;>
      simp [initializeKcbarRegisters, mmioWriteReg32, PcieIde.txrxControl, streamControl,
        txKeySet, rxKeySet]
  · intro direction ks
    cases direction <;> cases ks <;>
      simp [initializeKcbarRegisters, mmioWriteReg32, keysetSlotId, PcieIde.txrxControl,
        streamControl, txKeySet, rxKeySet]
  · intro reg hreg
    simp only [initializeKcbarRegisters, mmioWriteReg32, Function.update_apply,
      PcieIde.txrxControl, streamControl, txKeySet, rxKeySet]
    simp (disch := omega) only [if_neg]

/-- The writes of a reset with the cleared context close the stream, except for the register that
the context keeps. -/
theorem ecapClosed_iff {cfg : ConfigSpace} {ecapOffset : ℕ} {ideType : IdeType}
    {ideId : BitVec 8} {addr : AddrAssocRegBlock} {writes : Writes}
    (hwrites : setupIdeEcapRegs cfg ideType ideId ecapOffset 0 ⟨0, 0⟩ ⟨0, 0, addr.addrAssoc3⟩ =
      some writes) (hroom : BlockHasRoom cfg ecapOffset ideType ideId) :
    EcapClosed cfg (writes.apply cfg) ecapOffset ideType ideId ↔
      (ideType = .selIde → addr.addrAssoc3 = 0) := by
  have hothers := (staysInside_setupIdeEcapRegs_iff.mpr hroom writes hwrites).2
  cases ideType with
  | lnkIde =>
      obtain ⟨-, rfl⟩ := setupIdeEcapRegs_lnkIde hwrites
      have hne : IdeType.lnkIde ≠ .selIde := by decide
      refine iff_of_true ?_ (absurd · hne)
      exact ⟨fun _ => devicePciRead32_write _ _, (absurd · hne), (absurd · hne), (absurd · hne),
        hothers⟩
  | selIde =>
      obtain ⟨-, rfl⟩ := setupIdeEcapRegs_selIde_iff.mp hwrites
      have hread : ∀ write ∈ selWrites (selBlock cfg ecapOffset (selIndex cfg ecapOffset ideId)) 0
          ⟨0, 0⟩ ⟨0, 0, addr.addrAssoc3⟩, devicePciRead32 (Writes.apply (selWrites
            (selBlock cfg ecapOffset (selIndex cfg ecapOffset ideId)) 0 ⟨0, 0⟩
              ⟨0, 0, addr.addrAssoc3⟩) cfg) write.1 = write.2 :=
        fun write hwrite => devicePciRead32_apply selWrites_pairwise hwrite
      simp only [selWrites, List.forall_mem_cons] at hread
      obtain ⟨hrid1, hrid2, haddr1, haddr2, haddr3, hctrl, -⟩ := hread
      constructor
      · intro h _
        exact haddr3.symm.trans (h.addr rfl 2 (by decide))
      · intro hzero
        have hne : IdeType.selIde ≠ .lnkIde := by decide
        refine ⟨(absurd · hne), fun _ => hctrl, fun _ k hk => ?_, fun _ k hk => ?_, hothers⟩
        · interval_cases k
          · exact hrid1
          · exact hrid2
        · interval_cases k
          · exact haddr1
          · exact haddr2
          · exact haddr3.trans (hzero rfl)

/-! ## One step -/

section Step

variable {m m' : Machine}

theorem setupIdeEcapRegs_of_reset {cfg : ConfigSpace} {kcbar kcbar' : Registers}
    {port : PortContext} {topType : TopologyType} {ideType : IdeType} {rpStreamIndex : ℕ}
    {resetKcbar : Bool} {writes : Writes} (htype : resetIdeType topType = some ideType)
    (h : resetIdeRegisters cfg kcbar port.clear topType 0 rpStreamIndex resetKcbar =
      some (kcbar', writes)) :
    setupIdeEcapRegs cfg ideType port.ideId port.ecapOffset 0 ⟨0, 0⟩
        ⟨0, 0, port.addrAssocRegBlock.addrAssoc3⟩ = some writes ∧
      kcbar' = if resetKcbar then initializeKcbarRegisters kcbar 0 rpStreamIndex else kcbar := by
  have hzero : ctrlStreamId.set 0 (0 : BitVec 8).toNat = 0 := by decide
  simp only [resetIdeRegisters, htype, hzero, Option.map_eq_some_iff, Prod.mk.injEq] at h
  obtain ⟨writes', hwrites, rfl, rfl⟩ := h
  exact ⟨hwrites, rfl⟩

theorem rootPortClosed_iff (h : closeRootPort m = some m')
    (hroom : PortHasRoom m.upperCfg m.context.topType m.context.upperPort) :
    RootPortClosed m m' ↔ (resetIdeType m.context.topType = some .selIde →
      m.context.upperPort.addrAssocRegBlock.addrAssoc3 = 0) := by
  rw [closeRootPort, resetUpperPort, Option.map_eq_some_iff] at h
  obtain ⟨⟨kcbar, writes⟩, hreset, rfl⟩ := h
  constructor
  · intro hclosed htype
    obtain ⟨hwrites, -⟩ := setupIdeEcapRegs_of_reset htype hreset
    exact (ecapClosed_iff hwrites (hroom _ htype)).mp (hclosed.ecap _ htype) rfl
  · intro hzero
    refine ⟨?_, ?_, rfl⟩
    · intro ideType htype
      obtain ⟨hwrites, -⟩ := setupIdeEcapRegs_of_reset htype hreset
      refine (ecapClosed_iff hwrites (hroom _ htype)).mpr ?_
      intro hsel
      exact hzero (hsel ▸ htype)
    · cases htype : resetIdeType m.context.topType with
      | none => simp only [resetIdeRegisters, htype] at hreset; cases hreset
      | some ideType =>
          obtain ⟨-, hkcbar⟩ := setupIdeEcapRegs_of_reset htype hreset
          rw [if_pos rfl] at hkcbar
          exact hkcbar ▸ kcbarClosed_initialize m.kcbar m.context.rpStreamIndex

theorem devPortClosed (h : closeDevPort m = some m')
    (hroom : PortHasRoom m.lowerCfg m.context.topType m.context.lowerPort)
    (hzero : m.context.lowerPort.addrAssocRegBlock.addrAssoc3 = 0) : DevPortClosed m m' := by
  rw [closeDevPort, resetLowerPort, Option.map_eq_some_iff] at h
  obtain ⟨⟨kcbar, writes⟩, hreset, rfl⟩ := h
  refine ⟨?_, ?_, rfl⟩
  · intro ideType htype
    obtain ⟨hwrites, -⟩ := setupIdeEcapRegs_of_reset htype hreset
    exact (ecapClosed_iff hwrites (hroom _ htype)).mpr fun _ => hzero
  · cases htype : resetIdeType m.context.topType with
    | none => simp only [resetIdeRegisters, htype] at hreset; cases hreset
    | some ideType => exact (setupIdeEcapRegs_of_reset htype hreset).2

/-! ## Runs

The values for a device port have no upper half of a base address, so that the register that is
not cleared is zero there in every state of a run.
-/

/-- What holds in every state of a run. -/
def LowerBaseZero (m : Machine) : Prop :=
  m.context.lowerPort.addrAssocRegBlock.addrAssoc3 = 0

theorem setLowerSegment_addr (upper lower : PortFacts) (port : PortContext) :
    (setLowerSegment upper lower port).addrAssocRegBlock = port.addrAssocRegBlock := by
  rw [setLowerSegment]
  split <;> rfl

theorem initDevPort_lowerBaseZero {facts : PortFacts} {doe ok : Bool}
    (hinv : LowerBaseZero m) (h : initDevPort facts doe m = some (ok, m')) :
    LowerBaseZero m' := by
  simp only [initDevPort] at h
  split at h
  · cases h
    exact hinv
  split at h
  · cases h
    exact hinv
  split at h
  · cases h
  · cases h
    exact hinv
  · cases h
    rfl

theorem initRootPort_lowerBaseZero {upper lower : PortFacts} {keyp ok : Bool}
    {bridge : Option ConfigSpace} (hinv : LowerBaseZero m)
    (h : initRootPort upper lower keyp bridge m = some (ok, m')) : LowerBaseZero m' := by
  simp only [initRootPort] at h
  split at h
  · cases h
    exact hinv
  split at h
  · cases h
    exact hinv
  split at h
  · cases h
    exact hinv
  split at h
  · cases h
  · cases h
    exact hinv
  split at h
  · cases h
  split at h
  · cases h
  split at h
  · cases h
  all_goals
    cases h
    exact (congrArg AddrAssocRegBlock.addrAssoc3 (setLowerSegment_addr _ _ _)).trans hinv

theorem resetUpperPort_lowerPort {stream : BitVec 8} (h : resetUpperPort stream m = some m') :
    m'.context = m.context := by
  rw [resetUpperPort, Option.map_eq_some_iff] at h
  obtain ⟨_, -, rfl⟩ := h
  rfl

theorem resetLowerPort_lowerPort {stream : BitVec 8} (h : resetLowerPort stream m = some m') :
    m'.context = m.context := by
  rw [resetLowerPort, Option.map_eq_some_iff] at h
  obtain ⟨_, -, rfl⟩ := h
  rfl

/-- Each action keeps the upper half of the device port's base at zero. -/
theorem LowerBaseZero.run {action : StreamAction} (hinv : LowerBaseZero m)
    (h : action.run m = some m') : LowerBaseZero m' := by
  cases action with
  | newGroup topType topStreamId upperCfg lowerCfg kcbar =>
      cases h
      rfl
  | initDevPort facts doe =>
      obtain ⟨⟨ok, _⟩, hinit, rfl⟩ := Option.map_eq_some_iff.mp h
      exact initDevPort_lowerBaseZero hinv hinit
  | initRootPort upper lower keyp bridge =>
      obtain ⟨⟨ok, _⟩, hinit, rfl⟩ := Option.map_eq_some_iff.mp h
      exact initRootPort_lowerBaseZero hinv hinit
  | resetRegisters =>
      simp only [StreamAction.run, testConfigResetIdeRegisters] at h
      split at h
      · cases h
      · rename_i m₁ hupper
        rw [LowerBaseZero, resetLowerPort_lowerPort h, resetUpperPort_lowerPort hupper]
        exact hinv
  | runCase kcbar upperCtrl lowerCtrl =>
      simp only [StreamAction.run] at h
      split at h
      · cases h
      · obtain ⟨_, -, rfl⟩ := Option.map_eq_some_iff.mp h
        exact hinv
  | closeDevPort =>
      rw [LowerBaseZero, resetLowerPort_lowerPort h]
      exact hinv
  | closeRootPort =>
      rw [LowerBaseZero, resetUpperPort_lowerPort h]
      exact hinv

theorem LowerBaseZero.runActions {actions : List StreamAction} (hinv : LowerBaseZero m)
    (h : runActions m actions = some m') : LowerBaseZero m' := by
  induction actions generalizing m with
  | nil =>
      cases h
      exact hinv
  | cons action actions ih =>
      rw [PcieIde.runActions, List.foldlM_cons, Option.bind_eq_bind,
        Option.bind_eq_some_iff] at h
      obtain ⟨m₁, hstep, hrest⟩ := h
      exact ih (hinv.run hstep) hrest

end Step

/-- The start of the tool: a group whose context is zero. -/
def Started (m : Machine) : Prop :=
  m.context = zeroedContext m.context.topType m.context.topStreamId

/-- After every run, closing a port whose block has room closes the stream, for the root port
exactly when its context has no upper half of a base address, or for a link stream. -/
theorem closed_after_runActions (start m m' : Machine) (actions : List StreamAction)
    (hstart : Started start) (hrun : runActions start actions = some m) :
    (closeDevPort m = some m' →
      PortHasRoom m.lowerCfg m.context.topType m.context.lowerPort → DevPortClosed m m') ∧
    (closeRootPort m = some m' →
      PortHasRoom m.upperCfg m.context.topType m.context.upperPort →
      (RootPortClosed m m' ↔ (resetIdeType m.context.topType = some .selIde →
        m.context.upperPort.addrAssocRegBlock.addrAssoc3 = 0))) := by
  have hzero : LowerBaseZero start := by rw [LowerBaseZero, hstart]; rfl
  exact ⟨fun h hroom => devPortClosed h hroom (hzero.runActions hrun),
    fun h hroom => rootPortClosed_iff h hroom⟩

/-! ## A selective stream -/

/-- A link block, and a selective block with one address association block. -/
def smallPort : ConfigSpace := ecapImage [0x03, 0, 0, 0] [0, 0, 0, 0, 0, 0, 0, 0, 1]

/-- A group of a selective stream between two ports, with three slots in KCBar. -/
def smallStart : Machine where
  upperCfg := smallPort
  lowerCfg := smallPort
  kcbar := Function.update (fun _ => 0) capabilities (numTxKeySlots.set 0 2)
  context := zeroedContext .selIde 1

def smallFacts : PortFacts := ⟨0, 1, 0, 0, 0x100, false, false⟩

/-- A bridge whose prefetchable window is above 4 GB. -/
def highBridge : ConfigSpace := fun off =>
  if off = pcieBar0Offset then 0x0C else if off = prefetchMemoryBaseUpperOffset then 1 else 0

/-- The selective block of a port. -/
def blockOf (cfg : ConfigSpace) (port : PortContext) : ℕ :=
  selIndex cfg port.ecapOffset port.ideId

theorem closed_after_initDevPort :
    ∃ m m', runActions smallStart [.initDevPort smallFacts true] = some m ∧
      closeDevPort m = some m' ∧ DevPortClosed m m' := by
  have hcheck : (runActions smallStart [.initDevPort smallFacts true]).any (fun m =>
      (closeDevPort m).any fun _ =>
        numAddr m.lowerCfg m.context.lowerPort.ecapOffset
          (blockOf m.lowerCfg m.context.lowerPort) ≠ 0) = true := by
    decide +kernel
  obtain ⟨m, hrun, hclose⟩ := (Option.any_eq_true _ _).mp hcheck
  obtain ⟨m', hclose, hroom⟩ := (Option.any_eq_true _ _).mp hclose
  refine ⟨m, m', hrun, hclose, (closed_after_runActions smallStart m m'
    [.initDevPort smallFacts true] rfl hrun).1 hclose ?_⟩
  intro ideType _ _ _
  exact of_decide_eq_true hroom

/-- The upper half of the window's base stays in the register. -/
theorem not_closed_after_initRootPort :
    ∃ m m', runActions smallStart [.initDevPort smallFacts true,
        .initRootPort smallFacts smallFacts true (some highBridge), .resetRegisters] = some m ∧
      closeRootPort m = some m' ∧ ¬RootPortClosed m m' := by
  have hcheck : (runActions smallStart [.initDevPort smallFacts true,
      .initRootPort smallFacts smallFacts true (some highBridge), .resetRegisters]).any (fun m =>
        (closeRootPort m).any fun m' =>
          m.context.topType = .selIde ∧
          devicePciRead32 m'.upperCfg (selBlock m.upperCfg m.context.upperPort.ecapOffset
            (blockOf m.upperCfg m.context.upperPort) + 20 + 4 * 2) ≠ 0) = true := by
    decide +kernel
  obtain ⟨m, hrun, hclose⟩ := (Option.any_eq_true _ _).mp hcheck
  obtain ⟨m', hclose, hread⟩ := (Option.any_eq_true _ _).mp hclose
  obtain ⟨htype, hread⟩ := of_decide_eq_true hread
  refine ⟨m, m', hrun, hclose, ?_⟩
  intro h
  have hsel : resetIdeType m.context.topType = some .selIde := by rw [htype]; rfl
  exact hread ((h.ecap .selIde hsel).addr rfl 2 (by decide))

end TeeIoValidator.PcieIde
