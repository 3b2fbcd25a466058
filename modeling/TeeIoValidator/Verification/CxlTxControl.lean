import Mathlib.Order.Lattice
import TeeIoValidator.Model.CxlTxControl

/-! The transmitters' fields become the maxima, and the rest of the registers stays as it was where
no reserved bit is set in a register that is written. -/

namespace TeeIoValidator.CxlTxControl

/-! ## One register -/

/-- A field of a register is raised to a minimum, without its other bits. -/
structure Raised (tx : Field) (rxMin : ℕ) (reg reg' : Dword) : Prop where
  field : tx.get reg' = max (tx.get reg) rxMin
  otherBits : ∀ i < 32, i < tx.lsb ∨ tx.lsb + tx.width ≤ i → reg'.getLsbD i = reg.getLsbD i

/-- Nothing is written, or there are no other bits to lose. -/
def Writable (tx : Field) (rxMin : ℕ) (reg : Dword) : Prop :=
  rxMin ≤ tx.get reg ∨
    ∀ i < 32, i < tx.lsb ∨ tx.lsb + tx.width ≤ i → reg.getLsbD i = false

section Program

variable {control reg : ℕ} {tx : Field} {rxMin : ℕ} {regs : Registers}

theorem program_of_le (h : rxMin ≤ tx.get (regs control)) : program control tx rxMin regs = regs :=
  if_neg (by simpa [mmioReadReg32] using h)

theorem program_of_ne (h : reg ≠ control) : program control tx rxMin regs reg = regs reg := by
  rw [program]
  split
  · exact Function.update_of_ne h _ _
  · rfl

theorem program_of_lt (h : tx.get (regs control) < rxMin) :
    program control tx rxMin regs control = BitVec.ofNat 32 rxMin := by
  rw [program, if_pos (by simpa [mmioReadReg32] using h)]
  exact Function.update_self _ _ _

/-- A field at the low end of a register that is written as a whole. -/
theorem get_ofNat (hlsb : tx.lsb = 0) (hmin : rxMin < 2 ^ tx.width) :
    tx.get (BitVec.ofNat 32 rxMin) = rxMin := by
  have hwidth : tx.width ≤ 32 := by
    have := tx.fits
    omega
  have hle : (2 : ℕ) ^ tx.width ≤ 2 ^ 32 := Nat.pow_le_pow_right (by decide) hwidth
  rw [Field.get, BitVec.extractLsb'_toNat, BitVec.toNat_ofNat, hlsb, Nat.shiftRight_zero,
    Nat.mod_eq_of_lt (Nat.lt_of_lt_of_le hmin hle), Nat.mod_eq_of_lt hmin]

theorem get_program (hlsb : tx.lsb = 0) (hmin : rxMin < 2 ^ tx.width) :
    tx.get (program control tx rxMin regs control) = max (tx.get (regs control)) rxMin := by
  by_cases h : tx.get (regs control) < rxMin
  · rw [program_of_lt h, get_ofNat hlsb hmin, Nat.max_eq_right (Nat.le_of_lt h)]
  · rw [program_of_le (Nat.le_of_not_lt h), Nat.max_eq_left (Nat.le_of_not_lt h)]

theorem raised_program_iff (hlsb : tx.lsb = 0) (hmin : rxMin < 2 ^ tx.width) :
    Raised tx rxMin (regs control) (program control tx rxMin regs control) ↔
      Writable tx rxMin (regs control) := by
  by_cases h : tx.get (regs control) < rxMin
  · have hzero : ∀ i, i < tx.lsb ∨ tx.lsb + tx.width ≤ i → rxMin.testBit i = false := by
      intro i hi
      have hle : (2 : ℕ) ^ tx.width ≤ 2 ^ i := Nat.pow_le_pow_right (by decide) (by omega)
      exact Nat.testBit_lt_two_pow (Nat.lt_of_lt_of_le hmin hle)
    have hwritten : ∀ i < 32, i < tx.lsb ∨ tx.lsb + tx.width ≤ i →
        (program control tx rxMin regs control).getLsbD i = false := by
      intro i hi hout
      rw [program_of_lt h, BitVec.getLsbD_ofNat, hzero i hout, Bool.and_false]
    constructor
    · intro hraised
      refine Or.inr fun i hi hout => ?_
      rw [← hraised.otherBits i hi hout, hwritten i hi hout]
    · intro hwritable
      refine ⟨get_program hlsb hmin, fun i hi hout => ?_⟩
      rw [hwritten i hi hout, hwritable.resolve_left (by omega) i hi hout]
  · refine iff_of_true ⟨get_program hlsb hmin, fun i _ _ => ?_⟩ (Or.inl (Nat.le_of_not_lt h))
    rw [program_of_le (Nat.le_of_not_lt h)]

end Program

/-! ## One side -/

/-- The registers of a side after both functions. -/
def raisedSide (flit : Bool) (own peer : Registers) : Registers :=
  program truncationTransmitDelayControl txTruncationTransmitDelay (minTruncationDelay flit peer)
    (program keyRefreshTimeControl txKeyRefreshTime (minKeyRefreshTime flit peer) own)

/-- What the functions are to do to a side. -/
structure SideMeets (flit : Bool) (own peer own' : Registers) : Prop where
  keyRefresh : Raised txKeyRefreshTime (minKeyRefreshTime flit peer)
    (own keyRefreshTimeControl) (own' keyRefreshTimeControl)
  truncation : Raised txTruncationTransmitDelay (minTruncationDelay flit peer)
    (own truncationTransmitDelayControl) (own' truncationTransmitDelayControl)
  others : ∀ reg, reg ≠ keyRefreshTimeControl → reg ≠ truncationTransmitDelayControl →
    own' reg = own reg

/-- The truncation control need not be written, or its reserved bits are clear. -/
def SideWritable (flit : Bool) (own peer : Registers) : Prop :=
  Writable txTruncationTransmitDelay (minTruncationDelay flit peer)
    (own truncationTransmitDelayControl)

section Side

variable {flit : Bool} {own peer peer' : Registers}

/-- A register that neither function writes. -/
def Untouched (reg : ℕ) : Prop :=
  reg ≠ keyRefreshTimeControl ∧ reg ≠ truncationTransmitDelayControl

theorem raisedSide_of_untouched {reg : ℕ} (h : Untouched reg) :
    raisedSide flit own peer reg = own reg := by
  rw [raisedSide, program_of_ne h.2, program_of_ne h.1]

/-- The minima are read from registers that are not written. -/
theorem minKeyRefreshTime_congr (h : ∀ reg, Untouched reg → peer reg = peer' reg) :
    minKeyRefreshTime flit peer = minKeyRefreshTime flit peer' := by
  have hreg : Untouched (cxlGetKeyRefreshCapPtr flit) := by
    cases flit <;> exact ⟨by decide, by decide⟩
  rw [minKeyRefreshTime, minKeyRefreshTime, mmioReadReg32, mmioReadReg32, h _ hreg]

theorem minTruncationDelay_congr (h : ∀ reg, Untouched reg → peer reg = peer' reg) :
    minTruncationDelay flit peer = minTruncationDelay flit peer' := by
  rw [minTruncationDelay, minTruncationDelay, mmioReadReg32, mmioReadReg32,
    h _ ⟨by decide, by decide⟩]

theorem raisedSide_congr (h : ∀ reg, Untouched reg → peer reg = peer' reg) :
    raisedSide flit own peer = raisedSide flit own peer' := by
  rw [raisedSide, raisedSide, minKeyRefreshTime_congr h, minTruncationDelay_congr h]

theorem minKeyRefreshTime_lt (flit : Bool) (peer : Registers) :
    minKeyRefreshTime flit peer < 2 ^ txKeyRefreshTime.width :=
  rxMinKeyRefreshTime.get_lt _

theorem minTruncationDelay_lt (flit : Bool) (peer : Registers) :
    minTruncationDelay flit peer < 2 ^ txTruncationTransmitDelay.width := by
  rw [minTruncationDelay, cxlGetRxMinTruncationDelay]
  cases flit
  · exact rxMinTruncationTransmitDelay.get_lt _
  · exact rxMinTruncationTransmitDelay2.get_lt _

theorem raisedSide_keyRefreshTimeControl :
    raisedSide flit own peer keyRefreshTimeControl =
      program keyRefreshTimeControl txKeyRefreshTime (minKeyRefreshTime flit peer) own
        keyRefreshTimeControl :=
  program_of_ne (by decide)

theorem raised_truncation_iff :
    Raised txTruncationTransmitDelay (minTruncationDelay flit peer)
        (own truncationTransmitDelayControl)
        (raisedSide flit own peer truncationTransmitDelayControl) ↔
      SideWritable flit own peer := by
  have h := @raised_program_iff truncationTransmitDelayControl txTruncationTransmitDelay _
    (program keyRefreshTimeControl txKeyRefreshTime (minKeyRefreshTime flit peer) own)
    rfl (minTruncationDelay_lt flit peer)
  rwa [program_of_ne (by decide)] at h

theorem sideMeets_raisedSide_iff :
    SideMeets flit own peer (raisedSide flit own peer) ↔ SideWritable flit own peer := by
  refine ⟨fun h => raised_truncation_iff.mp h.truncation, fun h => ⟨?_, ?_, ?_⟩⟩
  · rw [raisedSide_keyRefreshTimeControl]
    refine (raised_program_iff rfl (minKeyRefreshTime_lt flit peer)).mpr (Or.inr ?_)
    -- the field fills the register
    intro i hi hout
    simp only [txKeyRefreshTime] at hout
    omega
  · exact raised_truncation_iff.mpr h
  · exact fun reg hkey htruncation => raisedSide_of_untouched ⟨hkey, htruncation⟩

/-- A side that has been raised is not written again. -/
theorem raisedSide_raisedSide (flit : Bool) (own peer : Registers) :
    raisedSide flit (raisedSide flit own peer) peer = raisedSide flit own peer := by
  have hkey : minKeyRefreshTime flit peer ≤
      txKeyRefreshTime.get (raisedSide flit own peer keyRefreshTimeControl) := by
    rw [raisedSide_keyRefreshTimeControl, get_program rfl (minKeyRefreshTime_lt flit peer)]
    exact Nat.le_max_right _ _
  have htruncation : minTruncationDelay flit peer ≤
      txTruncationTransmitDelay.get (raisedSide flit own peer truncationTransmitDelayControl) := by
    rw [raisedSide, get_program rfl (minTruncationDelay_lt flit peer)]
    exact Nat.le_max_right _ _
  generalize raisedSide flit own peer = raised at *
  rw [raisedSide, program_of_le hkey, program_of_le htruncation]

end Side

/-! ## Both sides -/

/-- What the functions are to do when both succeed. -/
structure Meets (p p' : Ports) : Prop where
  sides : ∀ host dev, p.host = some host → p.dev = some dev →
    ∃ host' dev', p'.host = some host' ∧ p'.dev = some dev' ∧
      SideMeets p.pcieFlitEnabled host dev host' ∧ SideMeets p.pcieFlitEnabled dev host dev'
  again : setControlRegs p' = (true, p')

theorem setControlRegs_eq (flit : Bool) (host dev : Registers) :
    setControlRegs ⟨flit, some host, some dev⟩ =
      (true, ⟨flit, some (raisedSide flit host dev), some (raisedSide flit dev host)⟩) := by
  have hkey : minKeyRefreshTime flit (program keyRefreshTimeControl txKeyRefreshTime
      (minKeyRefreshTime flit dev) host) = minKeyRefreshTime flit host :=
    minKeyRefreshTime_congr fun reg h => program_of_ne h.1
  have hdev : minTruncationDelay flit (program keyRefreshTimeControl txKeyRefreshTime
      (minKeyRefreshTime flit host) dev) = minTruncationDelay flit dev :=
    minTruncationDelay_congr fun reg h => program_of_ne h.1
  have hhost : minTruncationDelay flit (raisedSide flit host dev) = minTruncationDelay flit host :=
    minTruncationDelay_congr fun reg h => raisedSide_of_untouched h
  rw [raisedSide] at hhost
  simp only [setControlRegs, cxlIdeSetKeyRefreshControlReg,
    cxlIdeSetTruncationTransmitControlReg, hkey, hdev, hhost, raisedSide]

/-- Without both structures the functions fail. -/
theorem setControlRegs_eq_true {p p' : Ports} (h : setControlRegs p = (true, p')) :
    ∃ host dev, p = ⟨p.pcieFlitEnabled, some host, some dev⟩ ∧
      p' = ⟨p.pcieFlitEnabled, some (raisedSide p.pcieFlitEnabled host dev),
        some (raisedSide p.pcieFlitEnabled dev host)⟩ := by
  obtain ⟨flit, _ | host, _ | dev⟩ := p
  · cases h
  · cases h
  · cases h
  · rw [setControlRegs_eq] at h
    exact ⟨host, dev, rfl, (Prod.mk.inj h).2.symm⟩

theorem setControlRegs_again (flit : Bool) (host dev : Registers) :
    setControlRegs ⟨flit, some (raisedSide flit host dev), some (raisedSide flit dev host)⟩ =
      (true, ⟨flit, some (raisedSide flit host dev), some (raisedSide flit dev host)⟩) := by
  rw [setControlRegs_eq, raisedSide_congr fun reg h => raisedSide_of_untouched h,
    raisedSide_raisedSide,
    @raisedSide_congr _ (raisedSide flit dev host) _ _ fun reg h => raisedSide_of_untouched h,
    raisedSide_raisedSide]

/-- The functions do what they are to exactly when each truncation control is large enough, or has
no reserved bit set. -/
theorem meets_setControlRegs_iff (p : Ports) :
    (∀ p', setControlRegs p = (true, p') → Meets p p') ↔
      ∀ host dev, p.host = some host → p.dev = some dev →
        SideWritable p.pcieFlitEnabled host dev ∧ SideWritable p.pcieFlitEnabled dev host := by
  constructor
  · intro h host dev hhost hdev
    obtain ⟨flit, _, _⟩ := p
    obtain rfl : _ = some host := hhost
    obtain rfl : _ = some dev := hdev
    obtain ⟨_, _, hhost', hdev', hhostMeets, hdevMeets⟩ :=
      (h _ (setControlRegs_eq flit host dev)).sides host dev rfl rfl
    cases hhost'
    cases hdev'
    exact ⟨sideMeets_raisedSide_iff.mp hhostMeets, sideMeets_raisedSide_iff.mp hdevMeets⟩
  · intro h p' hp'
    obtain ⟨host, dev, hp, rfl⟩ := setControlRegs_eq_true hp'
    rw [hp] at h ⊢
    obtain ⟨hhost, hdev⟩ := h host dev rfl rfl
    refine ⟨?_, setControlRegs_again _ host dev⟩
    intro _ _ hhost' hdev'
    cases hhost'
    cases hdev'
    exact ⟨_, _, rfl, rfl, sideMeets_raisedSide_iff.mpr hhost, sideMeets_raisedSide_iff.mpr hdev⟩

/-- A host whose truncation control has a reserved bit set and the delay 0, and a device that
advertises the delay 1. -/
def reservedBitSet : Ports where
  pcieFlitEnabled := false
  host := some (Function.update (fun _ => 0) truncationTransmitDelayControl 0x100)
  dev := some (Function.update (fun _ => 0) truncationTransmitDelayCapability 1)

/-- The reserved bit is cleared. -/
theorem not_meets_reservedBitSet :
    ¬∀ p', setControlRegs reservedBitSet = (true, p') → Meets reservedBitSet p' := by
  intro h
  obtain ⟨_, _, hhost, -, hmeets, -⟩ := (h _ (setControlRegs_eq _ _ _)).sides _ _ rfl rfl
  cases hhost
  have hbit := hmeets.truncation.otherBits 8 (by decide) (Or.inr (by decide))
  exact absurd hbit (by decide +kernel)

end TeeIoValidator.CxlTxControl
