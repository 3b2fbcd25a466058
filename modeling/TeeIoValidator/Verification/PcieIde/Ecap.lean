import Mathlib.Logic.Function.Iterate
import TeeIoValidator.Model.PcieIde.Ecap
import TeeIoValidator.Verification.PcieIde.Registers

/-! # The register blocks of the IDE extended capability

The link blocks and the selective blocks follow one another; a selective block is longer with
each address association block it has. Three walks should find them at the same places.
-/

namespace TeeIoValidator.PcieIde

open ConfigSpace

/-! ## Walks over blocks -/

section Walk

variable {hit : ℕ → Bool} {next : ℕ → ℕ}

/-- A walk finds the first block that is accepted, at the offset it has reached by then. -/
theorem walkBlocks_eq_some_iff {n i offset k : ℕ} :
    walkBlocks hit next n i offset = some k ↔
      ∃ j < n, k = i + j ∧ hit (next^[j] offset) = true ∧
        ∀ m < j, hit (next^[m] offset) = false := by
  induction n generalizing i offset with
  | zero => exact ⟨fun h => (nomatch h), fun ⟨j, hj, _⟩ => absurd hj (Nat.not_lt_zero j)⟩
  | succ n ih =>
      rw [walkBlocks]
      cases hfirst : hit offset with
      | true =>
          rw [if_pos rfl, Option.some.injEq]
          constructor
          · rintro rfl
            exact ⟨0, Nat.succ_pos n, rfl, hfirst, fun m hm => absurd hm (Nat.not_lt_zero m)⟩
          · rintro ⟨j, -, hk, -, hbefore⟩
            cases j with
            | zero => exact hk.symm
            | succ j =>
                have hzero := hbefore 0 (Nat.succ_pos j)
                rw [Function.iterate_zero_apply, hfirst] at hzero
                cases hzero
      | false =>
          rw [if_neg Bool.false_ne_true, ih]
          constructor
          · rintro ⟨j, hj, rfl, hhit, hbefore⟩
            refine ⟨j + 1, Nat.succ_lt_succ hj, by omega, hhit, ?_⟩
            intro m hm
            cases m with
            | zero => exact hfirst
            | succ m => exact hbefore m (Nat.lt_of_succ_lt_succ hm)
          · rintro ⟨j, hj, hk, hhit, hbefore⟩
            cases j with
            | zero =>
                rw [Function.iterate_zero_apply, hfirst] at hhit
                cases hhit
            | succ j =>
                exact ⟨j, Nat.lt_of_succ_lt_succ hj, by omega, hhit,
                  fun m hm => hbefore (m + 1) (Nat.succ_lt_succ hm)⟩

theorem walkBlocks_isSome_iff {n i offset : ℕ} :
    (walkBlocks hit next n i offset).isSome = true ↔
      ∃ j < n, hit (next^[j] offset) = true := by
  rw [Option.isSome_iff_exists]
  simp only [walkBlocks_eq_some_iff]
  constructor
  · rintro ⟨k, j, hj, -, hhit, -⟩
    exact ⟨j, hj, hhit⟩
  · intro h
    -- the walk ends at the first of the blocks that are accepted
    have hfirst := Nat.find_spec h
    refine ⟨i + Nat.find h, Nat.find h, hfirst.1, rfl, hfirst.2, fun m hm => ?_⟩
    have hearlier := Nat.find_min h hm
    rw [not_and, Bool.not_eq_true] at hearlier
    exact hearlier (hm.trans hfirst.1)

end Walk

/-! ## The layout -/

section Layout

variable (cfg : ConfigSpace) (ecapOffset : ℕ)

def lnkBlock (i : ℕ) : ℕ := ecapOffset + 12 + 8 * i

def selBlock : ℕ → ℕ
  | 0 => lnkBlock ecapOffset (numLnkIde (ideCapOf cfg ecapOffset))
  | i + 1 =>
    selBlock i + 20 +
      12 * numAddrAssocRegBlocks.get (devicePciRead32 cfg (selBlock i))

/-- The register blocks end inside the configuration space. -/
def BlocksFit : Prop :=
  selBlock cfg ecapOffset (numSelIde (ideCapOf cfg ecapOffset)) ≤ pcieConfigSpaceSize

instance : Decidable (BlocksFit cfg ecapOffset) := inferInstanceAs (Decidable (_ ≤ _))

/-! The offsets at which the walks are when they look at a block. -/

def findLnkOffset (i : ℕ) : ℕ := findLnkNext^[i] (findLnkStart ecapOffset)

def findSelOffset (i : ℕ) : ℕ :=
  (findSelNext cfg)^[i] (findSelStart ecapOffset (ideCapOf cfg ecapOffset))

def checkLnkOffset (i : ℕ) : ℕ := checkLnkNext^[i] (checkLnkStart ecapOffset)

def checkSelOffset (i : ℕ) : ℕ :=
  (checkSelNext cfg)^[i] (checkSelStart ecapOffset (ideCapOf cfg ecapOffset))

/-- The three walks have every block at the same offset. -/
structure WalksAgree : Prop where
  lnk : ∀ i < numLnkIde (ideCapOf cfg ecapOffset),
    checkLnkOffset ecapOffset i = findLnkOffset ecapOffset i ∧
      getIdeRegBlockOffset cfg ecapOffset .lnkIde (BitVec.ofNat 8 i) =
        some (findLnkOffset ecapOffset i)
  sel : ∀ i < numSelIde (ideCapOf cfg ecapOffset),
    checkSelOffset cfg ecapOffset i = findSelOffset cfg ecapOffset i ∧
      getIdeRegBlockOffset cfg ecapOffset .selIde
          (BitVec.ofNat 8 (numLnkIde (ideCapOf cfg ecapOffset) + i)) =
        some (findSelOffset cfg ecapOffset i)

/-- An enabled stream of the key configuration unit, of a link block or of a selective block has
the id. -/
def Carried (kcbar : Registers) (id : BitVec 8) : Prop :=
  (∃ i, StreamExists (kcbar capabilities) i ∧ kcbarUsesStreamId kcbar id i = true) ∨
  (∃ i < numLnkIde (ideCapOf cfg ecapOffset),
    usesStreamId id (devicePciRead32 cfg (lnkBlock ecapOffset i)) = true) ∨
  (∃ i < numSelIde (ideCapOf cfg ecapOffset),
    usesStreamId id (devicePciRead32 cfg (selBlock cfg ecapOffset i + 4)) = true)

/-- The kind of block for a topology, and where its control register is. -/
def TopologyType.ideType : TopologyType → IdeType
  | .linkIde => .lnkIde
  | _ => .selIde

def IdeType.ctrlOffset : IdeType → ℕ
  | .lnkIde => 0
  | .selIde => 4

/-- What the walks are for. -/
structure EcapCorrect : Prop where
  agree : WalksAgree cfg ecapOffset
  check : ∀ kcbar id, checkStreamIdUsedInRootport cfg ecapOffset kcbar id = true ↔
    Carried cfg ecapOffset kcbar id
  find : ∀ kcbar topType rpOrDev ideId rpStreamIndex,
    findFreeRpStreamIndexAndIdeId cfg ecapOffset (ideCapOf cfg ecapOffset) kcbar topType rpOrDev =
      some (some (ideId, rpStreamIndex)) →
    ∃ offset, getIdeRegBlockOffset cfg ecapOffset topType.ideType ideId = some offset ∧
      ctrlEnabled.get (devicePciRead32 cfg (offset + topType.ideType.ctrlOffset)) = 0

/-- Link IDE is supported, and every selective block but the last has one address association
block; or there are no selective blocks. -/
def EcapCondition : Prop :=
  numSelIde (ideCapOf cfg ecapOffset) = 0 ∨
    (0 < numLnkIde (ideCapOf cfg ecapOffset) ∧
      ∀ i, i + 1 < numSelIde (ideCapOf cfg ecapOffset) →
        numAddrAssocRegBlocks.get (devicePciRead32 cfg (selBlock cfg ecapOffset i)) = 1)

end Layout

/-! ## The three walks -/

section Walks

variable {cfg : ConfigSpace} {ecapOffset : ℕ}

theorem findLnkOffset_eq (i : ℕ) : findLnkOffset ecapOffset i = lnkBlock ecapOffset i := by
  induction i with
  | zero => rfl
  | succ i ih =>
      rw [findLnkOffset] at ih ⊢
      rw [Function.iterate_succ_apply', ih]
      simp only [findLnkNext, linkIdeRegisterBlockSize, lnkBlock]
      omega

theorem checkLnkOffset_eq (i : ℕ) : checkLnkOffset ecapOffset i = lnkBlock ecapOffset i :=
  findLnkOffset_eq i

theorem findSelOffset_eq (i : ℕ) : findSelOffset cfg ecapOffset i = selBlock cfg ecapOffset i := by
  induction i with
  | zero =>
      simp only [findSelOffset, Function.iterate_zero_apply, findSelStart, selBlock, lnkBlock,
        linkIdeRegisterBlockSize]
      omega
  | succ i ih =>
      rw [findSelOffset] at ih ⊢
      rw [Function.iterate_succ_apply', ih, selBlock, findSelNext]
      omega

/-- With link blocks the check starts at the first selective block. -/
theorem checkSelOffset_eq (hlnk : 0 < numLnkIde (ideCapOf cfg ecapOffset)) (i : ℕ) :
    checkSelOffset cfg ecapOffset i = selBlock cfg ecapOffset i := by
  induction i with
  | zero =>
      rw [checkSelOffset, Function.iterate_zero_apply, checkSelStart, if_pos hlnk, selBlock]
      exact checkLnkOffset_eq _
  | succ i ih =>
      rw [checkSelOffset] at ih ⊢
      rw [Function.iterate_succ_apply', ih, selBlock, checkSelNext]
      omega

/-- Without them it starts four bytes before it. -/
theorem checkSelOffset_zero (hlnk : numLnkIde (ideCapOf cfg ecapOffset) = 0) :
    checkSelOffset cfg ecapOffset 0 + 4 = selBlock cfg ecapOffset 0 := by
  rw [checkSelOffset, Function.iterate_zero_apply, checkSelStart, if_neg (by omega), selBlock,
    hlnk, lnkBlock]

/-- The step over blocks stops at one that does not have one address association block. -/
theorem advanceSel_eq_some_iff {n k offset : ℕ} :
    advanceSel cfg n (selBlock cfg ecapOffset k) = some offset ↔
      (∀ i < n, numAddrAssocRegBlocks.get
        (devicePciRead32 cfg (selBlock cfg ecapOffset (k + i))) = 1) ∧
      offset = selBlock cfg ecapOffset (k + n) := by
  induction n generalizing k with
  | zero =>
      rw [advanceSel, Option.some.injEq]
      exact ⟨fun h => ⟨fun i hi => absurd hi (Nat.not_lt_zero i), h.symm⟩, fun h => h.2.symm⟩
  | succ n ih =>
      have hrest := @ih (k + 1)
      simp only [Nat.add_assoc, Nat.add_comm 1] at hrest
      rw [Nat.forall_lt_succ_left, Nat.add_zero]
      simp only [advanceSel]
      by_cases hnum : numAddrAssocRegBlocks.get
          (devicePciRead32 cfg (selBlock cfg ecapOffset k)) = 1
      · rw [if_pos hnum]
        exact hrest.trans (and_congr_left' (and_iff_right hnum).symm)
      · rw [if_neg hnum]
        exact ⟨fun h => (nomatch h), fun h => absurd h.1.1 hnum⟩

theorem numLnkIde_le (ideCap : Dword) : numLnkIde ideCap ≤ 8 := by
  have hlt : numLnkIdeField.get ideCap < 8 := Field.get_lt _ _
  rw [numLnkIde]
  split
  · omega
  · omega

theorem lnkBlock_le_selBlock (i : ℕ) :
    lnkBlock ecapOffset (numLnkIde (ideCapOf cfg ecapOffset)) + 20 * i ≤
      selBlock cfg ecapOffset i := by
  induction i with
  | zero => exact Nat.le_refl _
  | succ i ih =>
      rw [selBlock]
      omega

/-- Ids of blocks that fit into the configuration space fit into a byte. -/
theorem BlocksFit.id_lt (hfits : BlocksFit cfg ecapOffset) {i : ℕ}
    (hi : i < numLnkIde (ideCapOf cfg ecapOffset) + numSelIde (ideCapOf cfg ecapOffset)) :
    (BitVec.ofNat 8 i).toNat = i := by
  have hlnk := numLnkIde_le (ideCapOf cfg ecapOffset)
  have hle := (lnkBlock_le_selBlock _).trans hfits
  rw [pcieConfigSpaceSize] at hle
  rw [BitVec.toNat_ofNat]
  omega

theorem numLnkIde_pos_iff (ideCap : Dword) :
    0 < numLnkIde ideCap ↔ lnkIdeSupported.get ideCap = 1 := by
  rw [numLnkIde]
  split
  · rename_i hsupported
    exact ⟨fun _ => hsupported, fun _ => Nat.succ_pos _⟩
  · rename_i hsupported
    exact ⟨fun h => absurd h (Nat.lt_irrefl 0), fun h => absurd h hsupported⟩

theorem numSelIde_of_pos {ideCap : Dword} (h : 0 < numSelIde ideCap) :
    selIdeSupported.get ideCap = 1 ∧ numSelIde ideCap = numSelIdeField.get ideCap + 1 := by
  rw [numSelIde] at h ⊢
  split
  · rename_i hsupported
    exact ⟨hsupported, rfl⟩
  · rename_i hsupported
    rw [if_neg hsupported] at h
    exact absurd h (Nat.lt_irrefl 0)

theorem getIdeRegBlockOffset_lnk (hfits : BlocksFit cfg ecapOffset) {i : ℕ}
    (hi : i < numLnkIde (ideCapOf cfg ecapOffset)) :
    getIdeRegBlockOffset cfg ecapOffset .lnkIde (BitVec.ofNat 8 i) =
      some (lnkBlock ecapOffset i) := by
  have hid := hfits.id_lt (Nat.lt_add_right _ hi)
  have hsupported := (numLnkIde_pos_iff _).mp (Nat.zero_lt_of_lt hi)
  simp only [getIdeRegBlockOffset, hid, if_pos (And.intro hi hsupported), lnkBlock]

theorem getIdeRegBlockOffset_sel (hfits : BlocksFit cfg ecapOffset) {i offset : ℕ}
    (hi : i < numSelIde (ideCapOf cfg ecapOffset)) :
    getIdeRegBlockOffset cfg ecapOffset .selIde
        (BitVec.ofNat 8 (numLnkIde (ideCapOf cfg ecapOffset) + i)) = some offset ↔
      (∀ j < i, numAddrAssocRegBlocks.get
        (devicePciRead32 cfg (selBlock cfg ecapOffset j)) = 1) ∧
      offset = selBlock cfg ecapOffset i := by
  have hid := hfits.id_lt (Nat.add_lt_add_left hi _)
  rcases numSelIde_of_pos (Nat.zero_lt_of_lt hi) with ⟨hsupported, hnum⟩
  have hasserts : selIdeSupported.get (ideCapOf cfg ecapOffset) = 1 ∧
      numLnkIde (ideCapOf cfg ecapOffset) ≤ numLnkIde (ideCapOf cfg ecapOffset) + i ∧
      numLnkIde (ideCapOf cfg ecapOffset) + i ≤
        numSelIdeField.get (ideCapOf cfg ecapOffset) + numLnkIde (ideCapOf cfg ecapOffset) :=
    ⟨hsupported, by omega, by omega⟩
  simp only [getIdeRegBlockOffset, hid, if_pos hasserts, Nat.add_sub_cancel_left]
  have hadvance := @advanceSel_eq_some_iff cfg ecapOffset i 0 offset
  simp only [Nat.zero_add] at hadvance
  exact hadvance

/-! ## What the condition is for -/

theorem WalksAgree.condition (hfits : BlocksFit cfg ecapOffset)
    (h : WalksAgree cfg ecapOffset) : EcapCondition cfg ecapOffset := by
  by_cases hnone : numSelIde (ideCapOf cfg ecapOffset) = 0
  · exact Or.inl hnone
  · have hsel : 0 < numSelIde (ideCapOf cfg ecapOffset) := Nat.pos_of_ne_zero hnone
    refine Or.inr ⟨?_, ?_⟩
    · by_contra hlnk
      have hcheck := checkSelOffset_zero (Nat.eq_zero_of_not_pos hlnk)
      rw [(h.sel 0 hsel).1, findSelOffset_eq] at hcheck
      omega
    · intro i hi
      have hget := (h.sel (i + 1) hi).2
      rw [getIdeRegBlockOffset_sel hfits hi] at hget
      exact hget.1 i (Nat.lt_succ_self i)

theorem EcapCondition.one_of_lt (h : EcapCondition cfg ecapOffset) {i j : ℕ}
    (hi : i < numSelIde (ideCapOf cfg ecapOffset)) (hj : j < i) :
    numAddrAssocRegBlocks.get (devicePciRead32 cfg (selBlock cfg ecapOffset j)) = 1 := by
  rcases h with hnone | ⟨-, hone⟩
  · omega
  · exact hone j (by omega)

theorem EcapCondition.checkSelOffset_eq (h : EcapCondition cfg ecapOffset) {i : ℕ}
    (hi : i < numSelIde (ideCapOf cfg ecapOffset)) :
    checkSelOffset cfg ecapOffset i = selBlock cfg ecapOffset i := by
  rcases h with hnone | ⟨hlnk, -⟩
  · omega
  · exact PcieIde.checkSelOffset_eq hlnk i

theorem EcapCondition.getIdeRegBlockOffset_sel (h : EcapCondition cfg ecapOffset)
    (hfits : BlocksFit cfg ecapOffset) {i : ℕ}
    (hi : i < numSelIde (ideCapOf cfg ecapOffset)) :
    getIdeRegBlockOffset cfg ecapOffset .selIde
        (BitVec.ofNat 8 (numLnkIde (ideCapOf cfg ecapOffset) + i)) =
      some (selBlock cfg ecapOffset i) :=
  (PcieIde.getIdeRegBlockOffset_sel hfits hi).mpr ⟨fun _ hj => h.one_of_lt hi hj, rfl⟩

theorem EcapCondition.walksAgree (h : EcapCondition cfg ecapOffset)
    (hfits : BlocksFit cfg ecapOffset) : WalksAgree cfg ecapOffset := by
  refine ⟨?_, ?_⟩
  · intro i hi
    rw [checkLnkOffset_eq, findLnkOffset_eq, getIdeRegBlockOffset_lnk hfits hi]
    exact ⟨rfl, rfl⟩
  · intro i hi
    rw [h.checkSelOffset_eq hi, findSelOffset_eq, h.getIdeRegBlockOffset_sel hfits hi]
    exact ⟨rfl, rfl⟩

/-- The check finds every stream that has the id. -/
theorem EcapCondition.check_iff (h : EcapCondition cfg ecapOffset) (kcbar : Registers)
    (id : BitVec 8) :
    checkStreamIdUsedInRootport cfg ecapOffset kcbar id = true ↔
      Carried cfg ecapOffset kcbar id := by
  have hkcbar : (List.range (numStreamSupported.get (mmioReadReg32 kcbar capabilities) + 1)).any
      (kcbarUsesStreamId kcbar id) = true ↔
      ∃ i, StreamExists (kcbar capabilities) i ∧ kcbarUsesStreamId kcbar id i = true := by
    simp only [List.any_eq_true, List.mem_range, Nat.lt_succ_iff, StreamExists, mmioReadReg32]
  have hlnk : (walkBlocks (fun offset => usesStreamId id (devicePciRead32 cfg offset)) checkLnkNext
      (numLnkIde (ideCapOf cfg ecapOffset)) 0 (checkLnkStart ecapOffset)).isSome = true ↔
      ∃ i < numLnkIde (ideCapOf cfg ecapOffset),
        usesStreamId id (devicePciRead32 cfg (lnkBlock ecapOffset i)) = true := by
    rw [walkBlocks_isSome_iff]
    refine exists_congr fun i => and_congr_right fun hi => ?_
    rw [← checkLnkOffset_eq, checkLnkOffset]
  have hsel : (walkBlocks (fun offset => usesStreamId id (devicePciRead32 cfg (offset + 4)))
      (checkSelNext cfg) (numSelIde (ideCapOf cfg ecapOffset)) 0
      (checkSelStart ecapOffset (ideCapOf cfg ecapOffset))).isSome = true ↔
      ∃ i < numSelIde (ideCapOf cfg ecapOffset),
        usesStreamId id (devicePciRead32 cfg (selBlock cfg ecapOffset i + 4)) = true := by
    rw [walkBlocks_isSome_iff]
    refine exists_congr fun i => and_congr_right fun hi => ?_
    rw [← h.checkSelOffset_eq hi, checkSelOffset]
  rw [Carried, ← hkcbar, ← hlnk, ← hsel, checkStreamIdUsedInRootport]
  simp only [Bool.if_true_left, Bool.or_eq_true, decide_eq_true_eq]

/-- A block found for a stream is not enabled. -/
theorem findFreeIdeId_lnk {i : ℕ}
    (h : findFreeIdeId cfg ecapOffset (ideCapOf cfg ecapOffset) .linkIde = some (some i)) :
    i < numLnkIde (ideCapOf cfg ecapOffset) ∧
      ctrlEnabled.get (devicePciRead32 cfg (lnkBlock ecapOffset i)) = 0 := by
  rw [findFreeIdeId] at h
  split at h
  · cases h
  · rcases walkBlocks_eq_some_iff.mp (Option.some.inj h) with ⟨j, hj, hi, hfree, -⟩
    rw [Nat.zero_add] at hi
    subst hi
    rw [← findLnkOffset, findLnkOffset_eq, decide_eq_true_eq] at hfree
    exact ⟨hj, hfree⟩

theorem findFreeIdeId_sel {i : ℕ}
    (h : findFreeIdeId cfg ecapOffset (ideCapOf cfg ecapOffset) .selIde = some (some i)) :
    ∃ j < numSelIde (ideCapOf cfg ecapOffset), i = numLnkIde (ideCapOf cfg ecapOffset) + j ∧
      ctrlEnabled.get (devicePciRead32 cfg (selBlock cfg ecapOffset j + 4)) = 0 := by
  rw [findFreeIdeId] at h
  split at h
  · cases h
  · rcases walkBlocks_eq_some_iff.mp (Option.some.inj h) with ⟨j, hj, hi, hfree, -⟩
    rw [← findSelOffset, findSelOffset_eq, decide_eq_true_eq] at hfree
    exact ⟨j, hj, hi, hfree⟩

/-- The id that is returned is the number of the block found, in a byte. -/
theorem findFreeRpStreamIndexAndIdeId_ideId {kcbar : Registers} {topType : TopologyType}
    {rpOrDev : Bool} {ideCap : Dword} {ideId : BitVec 8} {rpStreamIndex : Option ℕ}
    (h : findFreeRpStreamIndexAndIdeId cfg ecapOffset ideCap kcbar topType rpOrDev =
      some (some (ideId, rpStreamIndex))) :
    ∃ i, findFreeIdeId cfg ecapOffset ideCap topType = some (some i) ∧
      ideId = BitVec.ofNat 8 i := by
  rw [findFreeRpStreamIndexAndIdeId] at h
  split at h
  · cases h
  · cases h
  · rename_i i hfind
    refine ⟨i, hfind, ?_⟩
    simp only at h
    split at h
    · split at h
      · cases h
      · cases h
        rfl
    · cases h
      rfl

theorem EcapCondition.ecapCorrect (h : EcapCondition cfg ecapOffset)
    (hfits : BlocksFit cfg ecapOffset) : EcapCorrect cfg ecapOffset := by
  refine ⟨h.walksAgree hfits, h.check_iff, ?_⟩
  intro kcbar topType rpOrDev ideId rpStreamIndex hfind
  rcases findFreeRpStreamIndexAndIdeId_ideId hfind with ⟨i, hid, rfl⟩
  cases topType with
  | selLinkIde => cases hid
  | linkIde =>
      rcases findFreeIdeId_lnk hid with ⟨hi, hfree⟩
      exact ⟨_, getIdeRegBlockOffset_lnk hfits hi, hfree⟩
  | selIde =>
      rcases findFreeIdeId_sel hid with ⟨j, hj, rfl, hfree⟩
      exact ⟨_, h.getIdeRegBlockOffset_sel hfits hj, hfree⟩

/-- The walks do what they are for exactly under the condition. -/
theorem ecapCorrect_iff (hfits : BlocksFit cfg ecapOffset) :
    EcapCorrect cfg ecapOffset ↔ EcapCondition cfg ecapOffset :=
  ⟨fun h => h.agree.condition hfits, fun h => h.ecapCorrect hfits⟩

end Walks

/-! ### Examples of images -/

/-- The image of a capability at 0x100: `PCIE_IDE_CAP` and four double words behind
`PCIE_IDE_CTRL`. -/
def ecapImage (ideCap block : List (BitVec 8)) : ConfigSpace := fun off =>
  if off < 0x104 then 0
  else if off < 0x108 then ideCap.getD (off - 0x104) 0
  else if off < 0x10C then 0
  else block.getD (off - 0x10C) 0

/-- One link block and one selective block. -/
theorem ecapCorrect_both :
    EcapCorrect (ecapImage [0x03, 0, 0, 0] []) 0x100 ↔
      EcapCondition (ecapImage [0x03, 0, 0, 0] []) 0x100 :=
  ecapCorrect_iff (by decide)

/-- One selective block, which carries the enabled stream 5, and no link IDE. -/
theorem ecapCorrect_fails :
    BlocksFit (ecapImage [0x02, 0, 0, 0] [0, 0, 0, 0, 0x01, 0, 0, 5]) 0x100 ∧
    checkStreamIdUsedInRootport (ecapImage [0x02, 0, 0, 0] [0, 0, 0, 0, 0x01, 0, 0, 5]) 0x100
      (fun _ => 0) 5 = false ∧
    ¬EcapCorrect (ecapImage [0x02, 0, 0, 0] [0, 0, 0, 0, 0x01, 0, 0, 5]) 0x100 := by
  have hcheck : checkStreamIdUsedInRootport
      (ecapImage [0x02, 0, 0, 0] [0, 0, 0, 0, 0x01, 0, 0, 5]) 0x100 (fun _ => 0) 5 = false := by
    decide +kernel
  have hcarried : Carried (ecapImage [0x02, 0, 0, 0] [0, 0, 0, 0, 0x01, 0, 0, 5]) 0x100
      (fun _ => 0) 5 :=
    Or.inr (Or.inr ⟨0, by decide, by decide⟩)
  refine ⟨by decide, hcheck, fun h => ?_⟩
  rw [(h.check _ _).mpr hcarried] at hcheck
  cases hcheck

end TeeIoValidator.PcieIde
