import TeeIoValidator.Model.PcieIde.StreamRegisters
import TeeIoValidator.Verification.PcieIde.Ecap

/-! # The registers that a stream writes

Setting up or resetting a stream writes its own block of the IDE extended capability. A selective
block that has no address association block is too short for what is written to it.
-/

namespace TeeIoValidator.PcieIde

open ConfigSpace

/-! ## Blocks -/

section Blocks

variable (cfg : ConfigSpace) (ecapOffset : ℕ)

/-- The number of address association blocks of a selective block. -/
def numAddr (i : ℕ) : ℕ :=
  numAddrAssocRegBlocks.get (devicePciRead32 cfg (selBlock cfg ecapOffset i))

/-- The selective blocks are numbered behind the link blocks. -/
def selIndex (ideId : BitVec 8) : ℕ := ideId.toNat - numLnkIde (ideCapOf cfg ecapOffset)

/-- The registers of a stream: its control register, and for a selective stream the two RID
association registers and three registers for each address association block. -/
def OwnRegister : IdeType → BitVec 8 → ℕ → Prop
  | .lnkIde, ideId, off => off = lnkBlock ecapOffset ideId.toNat
  | .selIde, ideId, off =>
    off = selBlock cfg ecapOffset (selIndex cfg ecapOffset ideId) + 4 ∨
    off = selBlock cfg ecapOffset (selIndex cfg ecapOffset ideId) + 12 ∨
    off = selBlock cfg ecapOffset (selIndex cfg ecapOffset ideId) + 16 ∨
    ∃ k < 3 * numAddr cfg ecapOffset (selIndex cfg ecapOffset ideId),
      off = selBlock cfg ecapOffset (selIndex cfg ecapOffset ideId) + 20 + 4 * k

/-- The other link blocks and the other selective blocks are as they were. -/
structure OthersUnchanged (cfg' : ConfigSpace) (ideType : IdeType) (ideId : BitVec 8) : Prop where
  lnk : ∀ i < numLnkIde (ideCapOf cfg ecapOffset), (ideType = .lnkIde → i ≠ ideId.toNat) →
    Block.read cfg' (lnkBlock ecapOffset i) 8 = Block.read cfg (lnkBlock ecapOffset i) 8
  sel : ∀ i < numSelIde (ideCapOf cfg ecapOffset),
    (ideType = .selIde → i ≠ selIndex cfg ecapOffset ideId) →
    Block.read cfg' (selBlock cfg ecapOffset i) (20 + 12 * numAddr cfg ecapOffset i) =
      Block.read cfg (selBlock cfg ecapOffset i) (20 + 12 * numAddr cfg ecapOffset i)

/-- The writes, when no assertion fails, are inside the own block. -/
def StaysInside (ideType : IdeType) (ideId : BitVec 8) (result : Option Writes) : Prop :=
  ∀ writes, result = some writes →
    (∀ write ∈ writes, OwnRegister cfg ecapOffset ideType ideId write.1) ∧
    OthersUnchanged cfg ecapOffset (writes.apply cfg) ideType ideId

/-- The selective block exists, and those before it have one address association block each. -/
structure SelReached (ideId : BitVec 8) : Prop where
  le : numLnkIde (ideCapOf cfg ecapOffset) ≤ ideId.toNat
  lt : selIndex cfg ecapOffset ideId < numSelIde (ideCapOf cfg ecapOffset)
  one : ∀ i < selIndex cfg ecapOffset ideId, numAddr cfg ecapOffset i = 1

/-- A selective block that is reached has an address association block. -/
def BlockHasRoom (ideType : IdeType) (ideId : BitVec 8) : Prop :=
  ideType = .selIde → SelReached cfg ecapOffset ideId →
    numAddr cfg ecapOffset (selIndex cfg ecapOffset ideId) ≠ 0

end Blocks

section Writing

variable {cfg : ConfigSpace} {ecapOffset : ℕ} {ideType : IdeType} {ideId : BitVec 8}

theorem selBlock_succ (i : ℕ) :
    selBlock cfg ecapOffset (i + 1) =
      selBlock cfg ecapOffset i + 20 + 12 * numAddr cfg ecapOffset i := rfl

theorem selBlock_le_of_lt {i j : ℕ} (h : i < j) :
    selBlock cfg ecapOffset i + 20 + 12 * numAddr cfg ecapOffset i ≤
      selBlock cfg ecapOffset j := by
  induction j with
  | zero => exact absurd h (Nat.not_lt_zero i)
  | succ j ih =>
      rw [selBlock_succ]
      rcases Nat.lt_succ_iff_lt_or_eq.mp h with hlt | rfl
      · have hle := ih hlt
        omega
      · exact Nat.le_refl _

theorem lnkBlock_lt_selBlock {i : ℕ} (h : i < numLnkIde (ideCapOf cfg ecapOffset)) (j : ℕ) :
    lnkBlock ecapOffset i + 8 ≤ selBlock cfg ecapOffset j := by
  have hfirst : lnkBlock ecapOffset (numLnkIde (ideCapOf cfg ecapOffset)) + 20 * j ≤
      selBlock cfg ecapOffset j := lnkBlock_le_selBlock j
  simp only [lnkBlock] at hfirst ⊢
  omega

theorem getIdeRegBlockOffset_lnkIde_iff {offset : ℕ} :
    getIdeRegBlockOffset cfg ecapOffset .lnkIde ideId = some offset ↔
      ideId.toNat < numLnkIde (ideCapOf cfg ecapOffset) ∧
        offset = lnkBlock ecapOffset ideId.toNat := by
  have hsupported : ideId.toNat < numLnkIde (ideCapOf cfg ecapOffset) →
      lnkIdeSupported.get (ideCapOf cfg ecapOffset) = 1 :=
    fun hlt => (numLnkIde_pos_iff _).mp (Nat.zero_lt_of_lt hlt)
  simp only [getIdeRegBlockOffset, and_iff_left_of_imp hsupported, lnkBlock]
  split_ifs with h
  · rw [Option.some.injEq, and_iff_right h, eq_comm]
  · simp [h]

theorem selReached_iff :
    SelReached cfg ecapOffset ideId ↔
      (selIdeSupported.get (ideCapOf cfg ecapOffset) = 1 ∧
        numLnkIde (ideCapOf cfg ecapOffset) ≤ ideId.toNat ∧
        ideId.toNat ≤ numSelIdeField.get (ideCapOf cfg ecapOffset) +
          numLnkIde (ideCapOf cfg ecapOffset)) ∧
      ∀ i < selIndex cfg ecapOffset ideId, numAddr cfg ecapOffset i = 1 := by
  constructor
  · intro h
    obtain ⟨hsupported, hnum⟩ := numSelIde_of_pos (Nat.zero_lt_of_lt h.lt)
    have hlt := h.lt
    rw [hnum, selIndex] at hlt
    exact ⟨⟨hsupported, h.le, by omega⟩, h.one⟩
  · intro ⟨⟨hsupported, hle, hlast⟩, hone⟩
    refine ⟨hle, ?_, hone⟩
    rw [numSelIde, if_pos hsupported, selIndex]
    omega

theorem getIdeRegBlockOffset_selIde_iff {offset : ℕ} :
    getIdeRegBlockOffset cfg ecapOffset .selIde ideId = some offset ↔
      SelReached cfg ecapOffset ideId ∧
        offset = selBlock cfg ecapOffset (selIndex cfg ecapOffset ideId) := by
  have hadvance := @advanceSel_eq_some_iff cfg ecapOffset (selIndex cfg ecapOffset ideId) 0 offset
  simp only [Nat.zero_add] at hadvance
  rw [selReached_iff, and_assoc]
  simp only [getIdeRegBlockOffset]
  split_ifs with h
  · rw [and_iff_right h]
    exact hadvance
  · simp [h]

/-! ## The frame of the writes -/

theorem apply_read_of_disjoint {writes : Writes} {src n : ℕ}
    (h : ∀ write ∈ writes, Block.Disjoint src n write.1 4) :
    Block.read (writes.apply cfg) src n = Block.read cfg src n := by
  induction writes generalizing cfg with
  | nil => rfl
  | cons write writes ih =>
      have hfirst : Block.Disjoint src n write.1 4 := h write List.mem_cons_self
      have hrest := @ih (devicePciWrite32 cfg write.1 write.2)
        fun write hwrite => h write (List.mem_cons_of_mem _ hwrite)
      exact hrest.trans (Block.read_write_of_disjoint cfg hfirst)

/-- A register of a selective stream lies inside its block. -/
theorem OwnRegister.inside {off : ℕ} (h : OwnRegister cfg ecapOffset .selIde ideId off) :
    selBlock cfg ecapOffset (selIndex cfg ecapOffset ideId) ≤ off ∧
      off + 4 ≤ selBlock cfg ecapOffset (selIndex cfg ecapOffset ideId) + 20 +
        12 * numAddr cfg ecapOffset (selIndex cfg ecapOffset ideId) := by
  rw [OwnRegister] at h
  rcases h with h | h | h | ⟨k, hk, h⟩ <;> omega

theorem OwnRegister.disjoint_lnk {off i : ℕ}
    (h : OwnRegister cfg ecapOffset ideType ideId off)
    (hi : i < numLnkIde (ideCapOf cfg ecapOffset)) (hne : ideType = .lnkIde → i ≠ ideId.toNat) :
    Block.Disjoint (lnkBlock ecapOffset i) 8 off 4 := by
  cases ideType with
  | lnkIde =>
      have hother := hne rfl
      simp only [OwnRegister, lnkBlock] at h
      simp only [Block.Disjoint, lnkBlock]
      omega
  | selIde =>
      have hbefore := lnkBlock_lt_selBlock hi (selIndex cfg ecapOffset ideId)
      have hinside := h.inside
      simp only [Block.Disjoint]
      omega

theorem OwnRegister.disjoint_sel {off i : ℕ}
    (h : OwnRegister cfg ecapOffset ideType ideId off)
    (hid : ideType = .lnkIde → ideId.toNat < numLnkIde (ideCapOf cfg ecapOffset))
    (hne : ideType = .selIde → i ≠ selIndex cfg ecapOffset ideId) :
    Block.Disjoint (selBlock cfg ecapOffset i) (20 + 12 * numAddr cfg ecapOffset i) off 4 := by
  cases ideType with
  | lnkIde =>
      have hbefore := lnkBlock_lt_selBlock (hid rfl) i
      simp only [OwnRegister] at h
      simp only [Block.Disjoint]
      omega
  | selIde =>
      have hinside := h.inside
      simp only [Block.Disjoint]
      rcases Nat.lt_or_gt_of_ne (hne rfl) with hlt | hgt
      · have hbefore := @selBlock_le_of_lt cfg ecapOffset _ _ hlt
        omega
      · have hbehind := @selBlock_le_of_lt cfg ecapOffset _ _ hgt
        omega

theorem othersUnchanged_of_own {writes : Writes}
    (hid : ideType = .lnkIde → ideId.toNat < numLnkIde (ideCapOf cfg ecapOffset))
    (h : ∀ write ∈ writes, OwnRegister cfg ecapOffset ideType ideId write.1) :
    OthersUnchanged cfg ecapOffset (writes.apply cfg) ideType ideId where
  lnk i hi hne := by
    apply apply_read_of_disjoint
    intro write hwrite
    exact (h write hwrite).disjoint_lnk hi hne
  sel i _ hne := by
    apply apply_read_of_disjoint
    intro write hwrite
    exact (h write hwrite).disjoint_sel hid hne

/-! ## `setup_ide_ecap_regs` -/

variable {streamCtrl : Dword} {rid : RidAssocRegBlock} {addr : AddrAssocRegBlock}

theorem setupIdeEcapRegs_lnkIde {writes : Writes}
    (h : setupIdeEcapRegs cfg .lnkIde ideId ecapOffset streamCtrl rid addr = some writes) :
    ideId.toNat < numLnkIde (ideCapOf cfg ecapOffset) ∧
      writes = [(lnkBlock ecapOffset ideId.toNat, streamCtrl)] := by
  rw [setupIdeEcapRegs] at h
  split at h
  · cases h
  · rename_i offset hoffset
    cases h
    obtain ⟨hlt, rfl⟩ := getIdeRegBlockOffset_lnkIde_iff.mp hoffset
    exact ⟨hlt, rfl⟩

/-- The writes to a selective block at an offset. -/
def selWrites (block : ℕ) (streamCtrl : Dword) (rid : RidAssocRegBlock)
    (addr : AddrAssocRegBlock) : Writes :=
  [(block + 12, rid.ridAssoc1), (block + 16, rid.ridAssoc2), (block + 20, addr.addrAssoc1),
    (block + 24, addr.addrAssoc2), (block + 28, addr.addrAssoc3), (block + 4, streamCtrl)]

theorem setupIdeEcapRegs_selIde_iff {writes : Writes} :
    setupIdeEcapRegs cfg .selIde ideId ecapOffset streamCtrl rid addr = some writes ↔
      SelReached cfg ecapOffset ideId ∧
        writes = selWrites (selBlock cfg ecapOffset (selIndex cfg ecapOffset ideId)) streamCtrl
          rid addr := by
  rw [setupIdeEcapRegs]
  constructor
  · intro h
    split at h
    · cases h
    · rename_i offset hoffset
      cases h
      obtain ⟨hreached, rfl⟩ := getIdeRegBlockOffset_selIde_iff.mp hoffset
      exact ⟨hreached, rfl⟩
  · intro ⟨hreached, hwrites⟩
    rw [getIdeRegBlockOffset_selIde_iff.mpr ⟨hreached, rfl⟩, hwrites]
    rfl

theorem selWrites_own (hroom : numAddr cfg ecapOffset (selIndex cfg ecapOffset ideId) ≠ 0) :
    ∀ write ∈ selWrites (selBlock cfg ecapOffset (selIndex cfg ecapOffset ideId)) streamCtrl rid
      addr, OwnRegister cfg ecapOffset .selIde ideId write.1 := by
  have haddr : ∀ k < 3, OwnRegister cfg ecapOffset .selIde ideId
      (selBlock cfg ecapOffset (selIndex cfg ecapOffset ideId) + 20 + 4 * k) :=
    fun k hk => Or.inr (Or.inr (Or.inr ⟨k, by omega, rfl⟩))
  simp only [selWrites, List.forall_mem_cons]
  refine ⟨Or.inr (Or.inl rfl), Or.inr (Or.inr (Or.inl rfl)), haddr 0 ?_, haddr 1 ?_, haddr 2 ?_,
    Or.inl rfl, List.forall_mem_nil _⟩
  all_goals decide

theorem staysInside_setupIdeEcapRegs_iff :
    StaysInside cfg ecapOffset ideType ideId
        (setupIdeEcapRegs cfg ideType ideId ecapOffset streamCtrl rid addr) ↔
      BlockHasRoom cfg ecapOffset ideType ideId := by
  constructor
  · intro h htype hreached hzero
    subst htype
    have hown := (h _ (setupIdeEcapRegs_selIde_iff.mpr ⟨hreached, rfl⟩)).1
      (selBlock cfg ecapOffset (selIndex cfg ecapOffset ideId) + 20, addr.addrAssoc1)
      (by simp [selWrites])
    have hinside := hown.inside
    rw [hzero] at hinside
    omega
  · intro hroom writes hwrites
    cases ideType with
    | lnkIde =>
        obtain ⟨hlt, rfl⟩ := setupIdeEcapRegs_lnkIde hwrites
        have hown : ∀ write ∈ [(lnkBlock ecapOffset ideId.toNat, streamCtrl)],
            OwnRegister cfg ecapOffset .lnkIde ideId write.1 := by
          intro write hwrite
          rw [List.mem_singleton.mp hwrite]
          rfl
        exact ⟨hown, othersUnchanged_of_own (fun _ => hlt) hown⟩
    | selIde =>
        obtain ⟨hreached, rfl⟩ := setupIdeEcapRegs_selIde_iff.mp hwrites
        have hown := @selWrites_own cfg ecapOffset ideId streamCtrl rid addr
          (hroom rfl hreached)
        exact ⟨hown, othersUnchanged_of_own (fun h => nomatch h) hown⟩

/-! ## `reset_ide_registers` -/

theorem resetIdeRegisters_writes {kcbar : Registers} {port : PortContext}
    {topType : TopologyType} {stream : BitVec 8} {rpStreamIndex : ℕ} {resetKcbar : Bool}
    (htype : resetIdeType topType = some ideType) :
    (resetIdeRegisters cfg kcbar port topType stream rpStreamIndex resetKcbar).map Prod.snd =
      setupIdeEcapRegs cfg ideType port.ideId port.ecapOffset (ctrlStreamId.set 0 stream.toNat)
        port.ridAssocRegBlock port.addrAssocRegBlock := by
  simp only [resetIdeRegisters, htype, Option.map_map]
  exact Option.map_id'

end Writing

/-- Both functions write only registers of the own block, and leave the other blocks as they are,
exactly when a selective block that they reach has an address association block. -/
theorem staysInside_iff (cfg : ConfigSpace) (ideType : IdeType) (ideId : BitVec 8)
    (ecapOffset : ℕ) (streamCtrl : Dword) (rid : RidAssocRegBlock) (addr : AddrAssocRegBlock)
    (kcbar : Registers) (port : PortContext) (topType : TopologyType) (stream : BitVec 8)
    (rpStreamIndex : ℕ) (resetKcbar : Bool) :
    (StaysInside cfg ecapOffset ideType ideId
        (setupIdeEcapRegs cfg ideType ideId ecapOffset streamCtrl rid addr) ↔
      BlockHasRoom cfg ecapOffset ideType ideId) ∧
    ((∀ resetType, resetIdeType topType = some resetType →
        StaysInside cfg port.ecapOffset resetType port.ideId
          ((resetIdeRegisters cfg kcbar port topType stream rpStreamIndex resetKcbar).map
            Prod.snd)) ↔
      ∀ resetType, resetIdeType topType = some resetType →
        BlockHasRoom cfg port.ecapOffset resetType port.ideId) := by
  refine ⟨staysInside_setupIdeEcapRegs_iff, ?_⟩
  apply forall_congr'
  intro resetType
  apply imp_congr_right
  intro htype
  rw [resetIdeRegisters_writes htype]
  exact staysInside_setupIdeEcapRegs_iff

/-- Of two selective blocks without address association blocks the first one is set up: its
values are in the capability, the control and the status register of the second one. -/
theorem setupIdeEcapRegs_leaves :
    (∃ writes, setupIdeEcapRegs (ecapImage [0x03, 0, 1, 0] []) .selIde 1 0x100 0
        mRidAssocRegBlock mAddrAssocRegBlock = some writes ∧
      devicePciRead32 (ecapImage [0x03, 0, 1, 0] []) 0x12C = 0 ∧
      devicePciRead32 (writes.apply (ecapImage [0x03, 0, 1, 0] [])) 0x12C = 0xffffffff) ∧
    ¬StaysInside (ecapImage [0x03, 0, 1, 0] []) 0x100 .selIde 1
      (setupIdeEcapRegs (ecapImage [0x03, 0, 1, 0] []) .selIde 1 0x100 0 mRidAssocRegBlock
        mAddrAssocRegBlock) := by
  refine ⟨⟨_, rfl, by decide, by decide⟩, ?_⟩
  intro h
  have hown := (h _ rfl).1 (0x128, mAddrAssocRegBlock.addrAssoc1) (by decide)
  have hend := hown.inside.2
  exact absurd hend (by decide)

end TeeIoValidator.PcieIde
