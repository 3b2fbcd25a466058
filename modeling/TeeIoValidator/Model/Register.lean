import TeeIoValidator.Library.Block

/-! The registers of a root port: a memory of double words, at their double-word offsets. -/

namespace TeeIoValidator

abbrev Dword := BitVec 32

abbrev Registers := ℕ → Dword

def mmioReadReg32 (regs : Registers) (reg : ℕ) : Dword := regs reg

def mmioWriteReg32 (regs : Registers) (reg : ℕ) (value : Dword) : Registers :=
  Function.update regs reg value

/-- `reg_memcpy_dw`. -/
def regMemcpyDw (regs : Registers) (dst : ℕ) (src : List Dword) : Registers :=
  Block.write regs dst src

/-- Byte `i` of a double word in memory, from the least significant one on. -/
def Dword.byte (dw : Dword) (i : ℕ) : BitVec 8 := dw.extractLsb' (8 * i) 8

/-- A bit field of a register: `width` bits from bit `lsb` on. -/
structure Field where
  lsb : ℕ
  width : ℕ
  fits : lsb + width ≤ 32

namespace Field

/-! Places that fields of different registers share. -/

theorem fits_0_1 : 0 + 1 ≤ 32 := by decide
theorem fits_0_8 : 0 + 8 ≤ 32 := by decide
theorem fits_0_16 : 0 + 16 ≤ 32 := by decide
theorem fits_1_1 : 1 + 1 ≤ 32 := by decide
theorem fits_3_1 : 3 + 1 ≤ 32 := by decide
theorem fits_8_1 : 8 + 1 ≤ 32 := by decide
theorem fits_8_8 : 8 + 8 ≤ 32 := by decide
theorem fits_16_4 : 16 + 4 ≤ 32 := by decide
theorem fits_20_12 : 20 + 12 ≤ 32 := by decide
theorem fits_24_8 : 24 + 8 ≤ 32 := by decide

variable (f g : Field)

def get (reg : Dword) : ℕ := (reg.extractLsb' f.lsb f.width).toNat

def mask : Dword := (BitVec.allOnes f.width).setWidth 32 <<< f.lsb

/-- The register with the field set to the low bits of `value`. -/
def set (reg : Dword) (value : ℕ) : Dword :=
  (reg &&& ~~~f.mask) ||| ((BitVec.ofNat f.width value).setWidth 32 <<< f.lsb)

theorem getLsbD_mask (i : ℕ) :
    f.mask.getLsbD i = decide (f.lsb ≤ i ∧ i < f.lsb + f.width) := by
  have hfits := f.fits
  simp only [mask, BitVec.getLsbD_shiftLeft, BitVec.getLsbD_setWidth, BitVec.getLsbD_allOnes]
  rw [Bool.eq_iff_iff]
  simp
  omega

theorem getLsbD_set_of_mem (reg : Dword) (value : ℕ) {i : ℕ} (h : i < f.width) :
    (f.set reg value).getLsbD (f.lsb + i) = value.testBit i := by
  have hfits := f.fits
  have hmask : f.mask.getLsbD (f.lsb + i) = true := by
    rw [getLsbD_mask, decide_eq_true_eq]
    omega
  have hvalue : ((BitVec.ofNat f.width value).setWidth 32 <<< f.lsb).getLsbD (f.lsb + i) =
      value.testBit i := by
    rw [BitVec.getLsbD_shiftLeft, BitVec.getLsbD_setWidth, BitVec.getLsbD_ofNat,
      Nat.add_sub_cancel_left]
    have hlt : f.lsb + i < 32 := by omega
    have hwidth : i < 32 := by omega
    simp [h, hlt, hwidth]
  rw [set, BitVec.getLsbD_or, BitVec.getLsbD_and, BitVec.getLsbD_not, hmask, hvalue]
  simp

theorem getLsbD_set_of_not_mem (reg : Dword) (value : ℕ) {i : ℕ} (hi : i < 32)
    (h : i < f.lsb ∨ f.lsb + f.width ≤ i) : (f.set reg value).getLsbD i = reg.getLsbD i := by
  have hmask : f.mask.getLsbD i = false := by
    rw [getLsbD_mask, decide_eq_false_iff_not]
    omega
  have hvalue : ((BitVec.ofNat f.width value).setWidth 32 <<< f.lsb).getLsbD i = false := by
    rcases h with h | h
    · simp [h]
    · have hge : f.width ≤ i - f.lsb := by omega
      simp [hge]
  rw [set, BitVec.getLsbD_or, BitVec.getLsbD_and, BitVec.getLsbD_not, hmask, hvalue]
  simp [hi]

theorem get_lt (reg : Dword) : f.get reg < 2 ^ f.width :=
  BitVec.isLt _

@[simp] theorem get_set (reg : Dword) (value : ℕ) :
    f.get (f.set reg value) = value % 2 ^ f.width := by
  have hbits : (f.set reg value).extractLsb' f.lsb f.width = BitVec.ofNat f.width value := by
    apply BitVec.eq_of_getLsbD_eq
    intro i hi
    rw [BitVec.getLsbD_extractLsb', getLsbD_set_of_mem f reg value hi, BitVec.getLsbD_ofNat]
  rw [get, hbits, BitVec.toNat_ofNat]

/-- Setting one field leaves the others as they are. -/
theorem get_set_of_disjoint {f g : Field}
    (h : f.lsb + f.width ≤ g.lsb ∨ g.lsb + g.width ≤ f.lsb) (reg : Dword) (value : ℕ) :
    f.get (g.set reg value) = f.get reg := by
  have hbits : (g.set reg value).extractLsb' f.lsb f.width = reg.extractLsb' f.lsb f.width := by
    apply BitVec.eq_of_getLsbD_eq
    intro i hi
    have hfits := f.fits
    have hset := g.getLsbD_set_of_not_mem reg value (i := f.lsb + i) (by omega) (by omega)
    rw [BitVec.getLsbD_extractLsb', BitVec.getLsbD_extractLsb', hset]
  rw [get, get, hbits]

end Field

end TeeIoValidator
