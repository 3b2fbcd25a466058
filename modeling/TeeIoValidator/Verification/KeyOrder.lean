import TeeIoValidator.Model.KeyOrder
import TeeIoValidator.Model.PcieIde.KeyManagement
import TeeIoValidator.Verification.CxlIde

/-! # The byte order of keys and IVs in the root port's registers

A conversion is a permutation of the bytes of a buffer. The permutations are compared with the
tables of `doc/key_byte_order.md`, and with each other.
-/

namespace TeeIoValidator.KeyOrder

/-! ## `doc/key_byte_order.md` -/

/-- A `KEY_PROG` message: the first of four bytes is in bits 31 to 24 of its double word. -/
def keyProgMessage (aes : Buffer) : Buffer := fun j => aes (4 * (j / 4) + (3 - j % 4))

/-- `Key_Slot_DW0` to the last one: the last byte of the key comes first. -/
def keySlot (size : ℕ) (key : Buffer) : Buffer := fun j => key (size - 1 - j)

/-- `Link_Enc_Key_0` to `Link_Enc_Key_3`: the order of AES-GCM. -/
def linkEncKey (key : Buffer) : Buffer := key

/-- `Link_Enc_IV`: bytes 11 to 4 of the IV. -/
def linkEncIv (iv : Buffer) : Buffer := fun j => iv (11 - j)

/-! ## Permutations of a buffer -/

def reverseDws (size : ℕ) (m : Buffer) : Buffer := fun j => m (4 * (size / 4 - 1 - j / 4) + j % 4)

def reverseInsideDws (m : Buffer) : Buffer := fun j => m (4 * (j / 4) + (3 - j % 4))

def reverseBytes (size : ℕ) (m : Buffer) : Buffer := fun j => m (size - 1 - j)

/-- The last two double words of an IV in the opposite order. -/
def swapLastDws (iv : Buffer) : Buffer := fun j => if j < 4 then iv (8 + j) else iv j

/-- A conversion of a buffer of a size leaves the image in the other one, whatever was there
before, and changes nothing behind it. -/
def Produces (construct : Option Buffer → ℕ → Option Buffer → ℕ → Option Buffer) (size : ℕ)
    (m image : Buffer) : Prop :=
  ∀ rpKeys, ∃ out, construct (some m) size (some rpKeys) size = some out ∧
    (∀ j < size, out j = image j) ∧ ∀ j, size ≤ j → out j = rpKeys j

/-- The same for the IV of a `KEY_PROG` message. -/
def ProducesIv (iv image : Buffer) : Prop :=
  ∀ rpIv, ∃ out, cxlConstructRpIv iv 12 rpIv 8 = some out ∧
    (∀ j < 8, out j = image j) ∧ ∀ j, 8 ≤ j → out j = rpIv j

/-! ## The loops -/

theorem storeDw_apply (m src : Buffer) (i k j : ℕ) :
    storeDw m i (loadDw src k) j =
      if 4 * i ≤ j ∧ j < 4 * i + 4 then src (4 * k + (j - 4 * i)) else m j := by
  have hlength : (loadDw src k).length = 4 := Block.read_length _ _ _
  rw [storeDw, Block.write_apply]
  by_cases h : 4 * i ≤ j ∧ j < 4 * i + 4
  · rw [dif_pos (by rwa [hlength]), if_pos h]
    simp [loadDw, Block.read]
  · rw [dif_neg (by rwa [hlength]), if_neg h]

theorem revertBytesInsideDw_apply (dw : ℕ) (m : Buffer) (j : ℕ) :
    revertBytesInsideDw dw m j =
      if dw ≤ j ∧ j < dw + 4 then m (dw + 3 - (j - dw)) else m j := by
  by_cases hin : dw ≤ j ∧ j < dw + 4
  · rw [if_pos hin]
    have hcases : j = dw ∨ j = dw + 1 ∨ j = dw + 2 ∨ j = dw + 3 := by omega
    rcases hcases with rfl | rfl | rfl | rfl <;> simp [revertBytesInsideDw, swapBytes]
  · rw [if_neg hin]
    have h0 : j ≠ dw := by omega
    have h1 : j ≠ dw + 1 := by omega
    have h2 : j ≠ dw + 2 := by omega
    have h3 : j ≠ dw + 3 := by omega
    simp [revertBytesInsideDw, swapBytes, h0, h1, h2, h3]

/-- When each round fills its double word with the bytes of `f`, the loop fills the buffer. -/
theorem forEachDw_apply {body : ℕ → Buffer → Buffer} {f : Buffer} {n : ℕ}
    (hbody : ∀ i < n, ∀ m j, body i m j = if 4 * i ≤ j ∧ j < 4 * i + 4 then f j else m j)
    (m : Buffer) (j : ℕ) :
    forEachDw body n m j = if j < 4 * n then f j else m j := by
  induction n with
  | zero => simp [forEachDw]
  | succ n ih =>
      rw [forEachDw, hbody n (Nat.lt_succ_self n), ih fun i hi => hbody i (Nat.lt_succ_of_lt hi)]
      split_ifs <;> first | rfl | omega

theorem pcieConvert_apply (src rpKeys : Buffer) (n j : ℕ) :
    pcieConvert src n rpKeys j = if j < 4 * n then reverseDws (4 * n) src j else rpKeys j := by
  apply forEachDw_apply
  intro i hi m j
  rw [storeDw_apply]
  split_ifs with h
  · have hdw : n - i - 1 = 4 * n / 4 - 1 - j / 4 := by omega
    have hbyte : j - 4 * i = j % 4 := by omega
    rw [reverseDws, hdw, hbyte]
  · rfl

theorem cxlConvert_apply (src rpKeys : Buffer) (n j : ℕ) :
    cxlConvert src n rpKeys j = if j < 4 * n then reverseInsideDws src j else rpKeys j := by
  apply forEachDw_apply
  intro i _ m j
  rw [revertBytesInsideDw_apply]
  split_ifs with h
  · have hin : 4 * i ≤ 4 * i + 3 - (j - 4 * i) ∧ 4 * i + 3 - (j - 4 * i) < 4 * i + 4 := by omega
    have hbyte : 4 * i + (4 * i + 3 - (j - 4 * i) - 4 * i) = 4 * (j / 4) + (3 - j % 4) := by omega
    rw [storeDw_apply, if_pos hin, reverseInsideDws, hbyte]
  · rw [storeDw_apply, if_neg h]

/-! ## What the conversions produce -/

section

variable {size : ℕ}

theorem constructRpKeys_produces {convert : Buffer → ℕ → Buffer → Buffer} {m image : Buffer}
    (h0 : size ≠ 0) (h4 : size % 4 = 0)
    (h : ∀ rpKeys j, convert m (size / 4) rpKeys j = if j < size then image j else rpKeys j) :
    Produces (constructRpKeys convert) size m image := by
  intro rpKeys
  refine ⟨convert m (size / 4) rpKeys, ?_, ?_, ?_⟩
  · simp [constructRpKeys, h0, h4]
  · intro j hj
    rw [h, if_pos hj]
  · intro j hj
    rw [h, if_neg (Nat.not_lt.mpr hj)]

theorem pcieConstructRpKeys_produces (h0 : size ≠ 0) (h4 : size % 4 = 0) (m : Buffer) :
    Produces pcieConstructRpKeys size m (reverseDws size m) := by
  apply constructRpKeys_produces h0 h4
  intro rpKeys j
  rw [pcieConvert_apply, Nat.mul_div_cancel' (Nat.dvd_of_mod_eq_zero h4)]

theorem cxlConstructRpKeys_produces (h0 : size ≠ 0) (h4 : size % 4 = 0) (m : Buffer) :
    Produces cxlConstructRpKeys size m (reverseInsideDws m) := by
  apply constructRpKeys_produces h0 h4
  intro rpKeys j
  rw [cxlConvert_apply, Nat.mul_div_cancel' (Nat.dvd_of_mod_eq_zero h4)]

theorem cxlConstructRpIv_produces (iv : Buffer) :
    ProducesIv iv (swapLastDws iv) := by
  intro rpIv
  refine ⟨_, rfl, ?_, ?_⟩
  · intro j hj
    rw [storeDw_apply, storeDw_apply, swapLastDws]
    split_ifs <;> first | omega | (congr 1 <;> omega)
  · intro j hj
    rw [storeDw_apply, storeDw_apply, if_neg (by omega), if_neg (by omega)]

/-- Only the bytes of the image inside the buffer count. -/
theorem Produces.congr {construct : Option Buffer → ℕ → Option Buffer → ℕ → Option Buffer}
    {m image image' : Buffer} (h : Produces construct size m image)
    (heq : ∀ j < size, image j = image' j) : Produces construct size m image' := by
  intro rpKeys
  obtain ⟨out, hout, hin, hbehind⟩ := h rpKeys
  exact ⟨out, hout, fun j hj => (hin j hj).trans (heq j hj), hbehind⟩

theorem Produces.unique {construct : Option Buffer → ℕ → Option Buffer → ℕ → Option Buffer}
    {m image image' : Buffer} (h : Produces construct size m image)
    (h' : Produces construct size m image') : ∀ j < size, image j = image' j := by
  intro j hj
  obtain ⟨out, hout, hin, _⟩ := h m
  obtain ⟨out', hout', hin', _⟩ := h' m
  have hsame : out = out' := Option.some.inj (hout.symm.trans hout')
  rw [← hin j hj, ← hin' j hj, hsame]

theorem ProducesIv.congr {iv image image' : Buffer} (h : ProducesIv iv image)
    (heq : ∀ j < 8, image j = image' j) : ProducesIv iv image' := by
  intro rpIv
  obtain ⟨out, hout, hin, hbehind⟩ := h rpIv
  exact ⟨out, hout, fun j hj => (hin j hj).trans (heq j hj), hbehind⟩

theorem ProducesIv.unique {iv image image' : Buffer} (h : ProducesIv iv image)
    (h' : ProducesIv iv image') : ∀ j < 8, image j = image' j := by
  intro j hj
  obtain ⟨out, hout, hin, _⟩ := h iv
  obtain ⟨out', hout', hin', _⟩ := h' iv
  have hsame : out = out' := Option.some.inj (hout.symm.trans hout')
  rw [← hin j hj, ← hin' j hj, hsame]

/-! ## How the permutations compose -/

theorem reverseDws_congr (h4 : size % 4 = 0) {m m' : Buffer} (h : ∀ j < size, m j = m' j) :
    ∀ j < size, reverseDws size m j = reverseDws size m' j := by
  intro j hj
  exact h _ (by omega)

theorem reverseInsideDws_congr (h4 : size % 4 = 0) {m m' : Buffer} (h : ∀ j < size, m j = m' j) :
    ∀ j < size, reverseInsideDws m j = reverseInsideDws m' j := by
  intro j hj
  exact h _ (by omega)

theorem reverseDws_reverseDws (h4 : size % 4 = 0) (m : Buffer) :
    ∀ j < size, reverseDws size (reverseDws size m) j = m j := by
  intro j hj
  simp only [reverseDws]
  congr 1
  omega

@[simp] theorem reverseInsideDws_reverseInsideDws (m : Buffer) :
    reverseInsideDws (reverseInsideDws m) = m := by
  funext j
  simp only [reverseInsideDws]
  congr 1
  omega

theorem reverseInsideDws_reverseDws (h4 : size % 4 = 0) (m : Buffer) :
    ∀ j < size, reverseInsideDws (reverseDws size m) j = reverseBytes size m j := by
  intro j hj
  simp only [reverseInsideDws, reverseDws, reverseBytes]
  congr 1
  omega

theorem reverseDws_reverseInsideDws (h4 : size % 4 = 0) (m : Buffer) :
    ∀ j < size, reverseDws size (reverseInsideDws m) j = reverseBytes size m j := by
  intro j hj
  simp only [reverseInsideDws, reverseDws, reverseBytes]
  congr 1
  omega

theorem keySlot_eq (h4 : size % 4 = 0) (key : Buffer) :
    ∀ j < size, reverseDws size (keyProgMessage key) j = keySlot size key j :=
  reverseDws_reverseInsideDws h4 key

theorem linkEncKey_eq (key : Buffer) : reverseInsideDws (keyProgMessage key) = linkEncKey key :=
  reverseInsideDws_reverseInsideDws key

theorem linkEncIv_eq (iv : Buffer) :
    ∀ j < 8, swapLastDws (keyProgMessage iv) j = linkEncIv iv j := by
  intro j hj
  simp only [swapLastDws, keyProgMessage, linkEncIv]
  split_ifs <;> (congr 1; omega)

/-- Two IVs have the same image if and only if they agree behind the first double word. -/
theorem swapLastDws_eq_iff (iv iv' : Buffer) :
    (∀ j < 8, swapLastDws iv j = swapLastDws iv' j) ↔ ∀ j, 4 ≤ j → j < 12 → iv j = iv' j := by
  constructor
  · intro h j hj hlt
    by_cases hmiddle : j < 8
    · have hbyte := h j hmiddle
      rwa [swapLastDws, swapLastDws, if_neg (by omega), if_neg (by omega)] at hbyte
    · have hbyte := h (j - 8) (by omega)
      rw [swapLastDws, swapLastDws, if_pos (by omega), if_pos (by omega)] at hbyte
      rwa [Nat.add_sub_cancel' (Nat.le_of_not_lt hmiddle)] at hbyte
  · intro h j hj
    rw [swapLastDws, swapLastDws]
    split_ifs <;> exact h _ (by omega) (by omega)

end

/-- The registers get the documented images of the key and the IV that a `KEY_PROG` message
carries, and the conversions compose as permutations of the bytes. -/
theorem rootPortImages (size : ℕ) (h0 : size ≠ 0) (h4 : size % 4 = 0) :
    (∀ key, Produces pcieConstructRpKeys size (keyProgMessage key) (keySlot size key)) ∧
    (∀ key, Produces cxlConstructRpKeys size (keyProgMessage key) (linkEncKey key)) ∧
    (∀ iv, ProducesIv (keyProgMessage iv) (linkEncIv iv)) ∧
    (∀ m, Produces pcieConstructRpKeys size m (reverseDws size m)) ∧
    (∀ m, Produces cxlConstructRpKeys size m (reverseInsideDws m)) ∧
    (∀ m image, Produces pcieConstructRpKeys size m image →
      Produces pcieConstructRpKeys size image m) ∧
    (∀ m image, Produces cxlConstructRpKeys size m image →
      Produces cxlConstructRpKeys size image m) ∧
    (∀ m pcie cxl, Produces pcieConstructRpKeys size m pcie →
      Produces cxlConstructRpKeys size m cxl →
      Produces cxlConstructRpKeys size pcie (reverseBytes size m) ∧
        Produces pcieConstructRpKeys size cxl (reverseBytes size m)) ∧
    ∀ iv iv' image image', ProducesIv iv image → ProducesIv iv' image' →
      ((∀ j < 8, image j = image' j) ↔ ∀ j, 4 ≤ j → j < 12 → iv j = iv' j) := by
  have hpcie := pcieConstructRpKeys_produces h0 h4
  have hcxl := cxlConstructRpKeys_produces h0 h4
  refine ⟨?_, ?_, ?_, hpcie, hcxl, ?_, ?_, ?_, ?_⟩
  · intro key
    exact (hpcie _).congr (keySlot_eq h4 key)
  · intro key
    rw [← linkEncKey_eq]
    exact hcxl _
  · intro iv
    exact (cxlConstructRpIv_produces _).congr (linkEncIv_eq iv)
  · intro m image himage
    apply (hpcie image).congr
    intro j hj
    rw [reverseDws_congr h4 (himage.unique (hpcie m)) j hj, reverseDws_reverseDws h4 m j hj]
  · intro m image himage
    apply (hcxl image).congr
    intro j hj
    rw [reverseInsideDws_congr h4 (himage.unique (hcxl m)) j hj,
      reverseInsideDws_reverseInsideDws]
  · intro m pcie cxl hpcieImage hcxlImage
    refine ⟨(hcxl pcie).congr ?_, (hpcie cxl).congr ?_⟩
    · intro j hj
      rw [reverseInsideDws_congr h4 (hpcieImage.unique (hpcie m)) j hj,
        reverseInsideDws_reverseDws h4 m j hj]
    · intro j hj
      rw [reverseDws_congr h4 (hcxlImage.unique (hcxl m)) j hj,
        reverseDws_reverseInsideDws h4 m j hj]
  · intro iv iv' image image' himage himage'
    have hswap := himage.unique (cxlConstructRpIv_produces iv)
    have hswap' := himage'.unique (cxlConstructRpIv_produces iv')
    rw [← swapLastDws_eq_iff]
    constructor
    · intro h j hj
      rw [← hswap j hj, ← hswap' j hj, h j hj]
    · intro h j hj
      rw [hswap j hj, hswap' j hj, h j hj]

/-- A key of 32 bytes. -/
theorem rootPortImages_aes256 :
    (∀ key, Produces pcieConstructRpKeys 32 (keyProgMessage key) (keySlot 32 key)) ∧
    ∀ key, Produces cxlConstructRpKeys 32 (keyProgMessage key) (linkEncKey key) :=
  have h := rootPortImages 32 (by decide) (by decide)
  ⟨h.1, h.2.1⟩

/-! ## The double words of the setup

The setup of a stream handles keys and IVs as double words, the conversions handle bytes.
-/

/-- The double word `i` of a buffer as the register gets it. -/
def dword (m : Buffer) (i : ℕ) : Dword :=
  m (4 * i + 3) ++ m (4 * i + 2) ++ m (4 * i + 1) ++ m (4 * i)

def dwords (m : Buffer) (n : ℕ) : Vector Dword n := Vector.ofFn fun i => dword m i

theorem dwords_congr {m m' : Buffer} {n : ℕ} (h : ∀ j < 4 * n, m j = m' j) :
    dwords m n = dwords m' n := by
  apply Vector.ext
  intro i hi
  simp only [dwords, Vector.getElem_ofFn, dword]
  rw [h _ (by omega), h _ (by omega), h _ (by omega), h (4 * i) (by omega)]

theorem revertBytesInsideDw_dword (m : Buffer) (i : ℕ) :
    CxlIde.revertBytesInsideDw (dword m i) = dword (reverseInsideDws m) i := by
  obtain ⟨h0, h1, h2, h3⟩ :=
    CxlIde.byte_append (m (4 * i + 3)) (m (4 * i + 2)) (m (4 * i + 1)) (m (4 * i))
  have hbyte : ∀ b < 4, reverseInsideDws m (4 * i + b) = m (4 * i + (3 - b)) := by
    intro b hb
    rw [reverseInsideDws]
    congr 1
    omega
  rw [CxlIde.revertBytesInsideDw, dword, h0, h1, h2, h3, dword, hbyte 3 (by decide),
    hbyte 2 (by decide), hbyte 1 (by decide), ← Nat.add_zero (4 * i), hbyte 0 (by decide)]

theorem pcieConstructRpKeys_dwords {m image : Buffer}
    (h : Produces pcieConstructRpKeys 32 m image) :
    PcieIde.pcieConstructRpKeys (dwords m 8) = (dwords image 8).toList := by
  have himage : dwords image 8 = dwords (reverseDws 32 m) 8 :=
    dwords_congr (h.unique (pcieConstructRpKeys_produces (by decide) (by decide) m))
  rw [himage]
  rfl

theorem cxlConstructRpKeys_dwords {m image : Buffer}
    (h : Produces cxlConstructRpKeys 32 m image) :
    CxlIde.cxlConstructRpKeys (dwords m 8) = (dwords image 8).toList := by
  have himage : dwords image 8 = dwords (reverseInsideDws m) 8 :=
    dwords_congr (h.unique (cxlConstructRpKeys_produces (by decide) (by decide) m))
  rw [himage, CxlIde.cxlConstructRpKeys, ← Vector.toList_map]
  congr 1
  apply Vector.ext
  intro i hi
  simp only [dwords, Vector.getElem_map, Vector.getElem_ofFn, revertBytesInsideDw_dword]

theorem cxlConstructRpIv_dwords {iv image : Buffer} (h : ProducesIv iv image) :
    CxlIde.cxlConstructRpIv (dwords iv 3) = (dwords image 2).toList := by
  have himage : dwords image 2 = dwords (swapLastDws iv) 2 :=
    dwords_congr (h.unique (cxlConstructRpIv_produces iv))
  rw [himage]
  rfl

end TeeIoValidator.KeyOrder
