import TeeIoValidator.Model.CxlIde

/-! # The keys of a CXL IDE stream on its two sides

After a successful setup, the root port's registers and the `KEY_PROG` messages stand for
the same AES-GCM keys and IVs, each side in its own byte order.
-/

namespace TeeIoValidator.CxlIde

/-! ## The documented byte order -/

/-- The AES-GCM key of a `KEY_PROG` message: its double words have the first byte on top. -/
def keyProgKeyBytes (key : Key) : List (BitVec 8) :=
  key.toList.flatMap fun dw => [dw.byte 3, dw.byte 2, dw.byte 1, dw.byte 0]

/-- The AES-GCM key of `Link_Enc_Key_0` to `Link_Enc_Key_3`. -/
def registerKeyBytes (regs : Registers) (encKeys : ℕ) : List (BitVec 8) :=
  (Block.read regs encKeys 8).flatMap fun dw => [dw.byte 0, dw.byte 1, dw.byte 2, dw.byte 3]

/-- Bytes 4 to 11 of the AES-GCM IV of a `KEY_PROG` message. -/
def keyProgIvBytes (iv : Iv) : List (BitVec 8) :=
  [getElem iv 1 Iv.one_lt, getElem iv 2 Iv.two_lt].flatMap fun dw =>
    [dw.byte 3, dw.byte 2, dw.byte 1, dw.byte 0]

/-- Bytes 4 to 11 of the AES-GCM IV of `Link_Enc_IV`, from its top byte on. -/
def registerIvBytes (regs : Registers) (txrxIv : ℕ) : List (BitVec 8) :=
  (Block.read regs txrxIv 2).reverse.flatMap fun dw =>
    [dw.byte 3, dw.byte 2, dw.byte 1, dw.byte 0]

theorem byte_append (a b c d : BitVec 8) :
    Dword.byte (a ++ b ++ c ++ d) 0 = d ∧ Dword.byte (a ++ b ++ c ++ d) 1 = c ∧
      Dword.byte (a ++ b ++ c ++ d) 2 = b ∧ Dword.byte (a ++ b ++ c ++ d) 3 = a := by
  refine ⟨?_, ?_, ?_, ?_⟩ <;>
  · apply BitVec.eq_of_getLsbD_eq
    intro i hi
    rw [Dword.byte, BitVec.getLsbD_extractLsb']
    simp only [hi, decide_true, Bool.true_and, BitVec.getLsbD_append]
    simp (disch := omega) only [if_pos, if_neg]
    congr 1
    omega

/-- Reverting the bytes of a double word leads from the one order to the other. -/
theorem revertBytesInsideDw_bytes (dw : Dword) :
    [(revertBytesInsideDw dw).byte 0, (revertBytesInsideDw dw).byte 1,
      (revertBytesInsideDw dw).byte 2, (revertBytesInsideDw dw).byte 3] =
      [dw.byte 3, dw.byte 2, dw.byte 1, dw.byte 0] := by
  rcases byte_append (dw.byte 0) (dw.byte 1) (dw.byte 2) (dw.byte 3) with ⟨h0, h1, h2, h3⟩
  rw [revertBytesInsideDw, h0, h1, h2, h3]

theorem registerKeyBytes_of_read {regs : Registers} {encKeys : ℕ} {key : Key}
    (h : Block.read regs encKeys 8 = cxlConstructRpKeys key) :
    registerKeyBytes regs encKeys = keyProgKeyBytes key := by
  rw [registerKeyBytes, h, cxlConstructRpKeys, List.flatMap_map, keyProgKeyBytes]
  apply List.flatMap_congr
  intro dw _
  exact revertBytesInsideDw_bytes dw

theorem registerIvBytes_of_read {regs : Registers} {txrxIv : ℕ} {iv : Iv}
    (h : Block.read regs txrxIv 2 = cxlConstructRpIv iv) :
    registerIvBytes regs txrxIv = keyProgIvBytes iv := by
  rw [registerIvBytes, h]
  rfl

/-! ## The registers of a direction -/

/-- The key and IV registers hold the key and the IV of a key buffer. -/
structure Programmed (regs : Registers) (encKeys txrxIv : ℕ) (buffer : KeyBuffer) : Prop where
  key : registerKeyBytes regs encKeys = keyProgKeyBytes buffer.key
  iv : registerIvBytes regs txrxIv = keyProgIvBytes buffer.iv

/-- The same with the register contents as they are written. -/
structure Holds (regs : Registers) (encKeys txrxIv : ℕ) (buffer : KeyBuffer) : Prop where
  key : Block.read regs encKeys 8 = cxlConstructRpKeys buffer.key
  iv : Block.read regs txrxIv 2 = cxlConstructRpIv buffer.iv

theorem Holds.programmed {regs : Registers} {encKeys txrxIv : ℕ} {buffer : KeyBuffer}
    (h : Holds regs encKeys txrxIv buffer) : Programmed regs encKeys txrxIv buffer :=
  ⟨registerKeyBytes_of_read h.key, registerIvBytes_of_read h.iv⟩

theorem cxlConstructRpKeys_length (key : Key) : (cxlConstructRpKeys key).length = 8 := by
  simp [cxlConstructRpKeys]

theorem holds_regMemcpyDw (kcbar : Registers) (encKeys txrxIv : ℕ)
    (h : Block.Disjoint encKeys 8 txrxIv 2) (buffer : KeyBuffer) :
    Holds (regMemcpyDw (regMemcpyDw kcbar encKeys (cxlConstructRpKeys buffer.key)) txrxIv
      (cxlConstructRpIv buffer.iv)) encKeys txrxIv buffer := by
  refine ⟨?_, Block.read_write _ _ _⟩
  rw [regMemcpyDw, Block.read_write_of_disjoint _ h, regMemcpyDw]
  have hread := Block.read_write kcbar encKeys (cxlConstructRpKeys buffer.key)
  rwa [cxlConstructRpKeys_length] at hread

theorem Holds.regMemcpyDw {regs : Registers} {encKeys txrxIv : ℕ} {buffer : KeyBuffer}
    (h : Holds regs encKeys txrxIv buffer) {dst : ℕ} {vs : List Dword}
    (hkey : Block.Disjoint encKeys 8 dst vs.length)
    (hiv : Block.Disjoint txrxIv 2 dst vs.length) :
    Holds (regMemcpyDw regs dst vs) encKeys txrxIv buffer :=
  ⟨(Block.read_write_of_disjoint regs hkey).trans h.key,
    (Block.read_write_of_disjoint regs hiv).trans h.iv⟩

theorem Holds.mmioWriteReg32 {regs : Registers} {encKeys txrxIv : ℕ} {buffer : KeyBuffer}
    (h : Holds regs encKeys txrxIv buffer) {reg : ℕ} (hkey : Block.Disjoint encKeys 8 reg 1)
    (hiv : Block.Disjoint txrxIv 2 reg 1) (value : Dword) :
    Holds (mmioWriteReg32 regs reg value) encKeys txrxIv buffer :=
  ⟨(Block.read_update_of_disjoint regs hkey value).trans h.key,
    (Block.read_update_of_disjoint regs hiv value).trans h.iv⟩

/-- The registers of both directions hold the keys that the other side uses. -/
structure BothHold (regs : Registers) (rx tx : KeyBuffer) : Prop where
  sending : Holds regs txEncKeys txIv rx
  receiving : Holds regs rxEncKeys rxIv tx

theorem BothHold.mmioWriteReg32 {regs : Registers} {rx tx : KeyBuffer}
    (h : BothHold regs rx tx) {reg : ℕ} (hreg : reg < txEncKeys) (value : Dword) :
    BothHold (mmioWriteReg32 regs reg value) rx tx := by
  have hbelow : ∀ {base n : ℕ}, txEncKeys ≤ base → Block.Disjoint base n reg 1 :=
    fun hbase => Or.inr (Nat.lt_of_lt_of_le hreg hbase)
  exact ⟨h.sending.mmioWriteReg32 (hbelow (by decide)) (hbelow (by decide)) value,
    h.receiving.mmioWriteReg32 (hbelow (by decide)) (hbelow (by decide)) value⟩

theorem cxlCfgRpLinkEncKeyIv_rx (lib : CxlIdeKmLib) (kcbar : Registers) (key iv : List Dword) :
    cxlCfgRpLinkEncKeyIv kcbar lib.directionRx key iv =
      regMemcpyDw (regMemcpyDw kcbar txEncKeys key) txIv iv := by
  have hrx : lib.directionRx = cxlIdeStreamDirectionRx := lib.directionRx_eq
  rw [cxlCfgRpLinkEncKeyIv, if_pos hrx]

theorem cxlCfgRpLinkEncKeyIv_tx (lib : CxlIdeKmLib) (kcbar : Registers) (key iv : List Dword) :
    cxlCfgRpLinkEncKeyIv kcbar lib.directionTx key iv =
      regMemcpyDw (regMemcpyDw kcbar rxEncKeys key) rxIv iv := by
  have htx : lib.directionTx ≠ cxlIdeStreamDirectionRx := lib.directionTx_ne
  rw [cxlCfgRpLinkEncKeyIv, if_neg htx]

theorem programKeys_hold (lib : CxlIdeKmLib) (tx rx : KeyBuffer) (kcbar : Registers) :
    BothHold (programKeys lib tx rx kcbar) rx tx := by
  rw [programKeys, cxlCfgRpLinkEncKeyIv_tx, cxlCfgRpLinkEncKeyIv_rx]
  refine BothHold.mmioWriteReg32 (BothHold.mmioWriteReg32 ⟨?_, ?_⟩ (by decide) _) (by decide) _
  · exact holds_regMemcpyDw _ txEncKeys txIv (Or.inl (by decide)) rx
  · have hheld := holds_regMemcpyDw kcbar rxEncKeys rxIv (Or.inl (by decide)) tx
    refine (hheld.regMemcpyDw ?_ ?_).regMemcpyDw ?_ ?_
    · exact Or.inr (by rw [cxlConstructRpKeys_length]; decide)
    · exact Or.inr (by rw [cxlConstructRpKeys_length]; decide)
    · exact Or.inr (by decide : txIv + 2 ≤ rxEncKeys)
    · exact Or.inr (by decide : txIv + 2 ≤ rxIv)

/-! ## Generated keys -/

/-- What the key generation promises of a key buffer and its IV flag; `answers` are the
answers to `GET_KEY` that it received. -/
structure Generated (lib : CxlIdeKmLib) (answers : List (Option KeyBuffer))
    (r : KeyBuffer × BitVec 8) : Prop where
  flag : r.2 = lib.ivInitial ∨ r.2 = lib.ivDefault
  ivPrefix : r.1.iv[0] = lib.ivPrefix
  ivDefault : r.2 = lib.ivDefault → r.1.iv = genDefaultIv lib
  ivInitial : r.2 = lib.ivInitial → ∃ answer, some answer ∈ answers ∧ r.1.iv = answer.iv

theorem generated_default (lib : CxlIdeKmLib) (answers : List (Option KeyBuffer)) (key : Key) :
    Generated lib answers (⟨key, genDefaultIv lib⟩, lib.ivDefault) where
  flag := Or.inr rfl
  ivPrefix := rfl
  ivDefault _ := rfl
  ivInitial h := absurd h.symm lib.ivInitial_ne

/-- The key generation writes no register and sends no `KEY_PROG`. -/
structure GenerateSpec (lib : CxlIdeKmLib) (s : State)
    (r : Option (KeyBuffer × BitVec 8) × State) : Prop where
  kcbar : r.2.kcbar = s.kcbar
  keyProgs : r.2.keyProgs = s.keyProgs
  generated : ∃ answers, r.2.getKeys = s.getKeys ++ answers ∧
    ∀ generated, r.1 = some generated → Generated lib answers generated

theorem generateSpec_default {lib : CxlIdeKmLib} {s s' : State} (key : Key)
    (hkcbar : s'.kcbar = s.kcbar) (hkeyProgs : s'.keyProgs = s.keyProgs)
    {answers : List (Option KeyBuffer)} (hanswers : s'.getKeys = s.getKeys ++ answers) :
    GenerateSpec lib s (some (⟨key, genDefaultIv lib⟩, lib.ivDefault), s') := by
  refine ⟨hkcbar, hkeyProgs, answers, hanswers, ?_⟩
  intro generated h
  cases h
  exact generated_default lib answers key

theorem generateSpec_none {lib : CxlIdeKmLib} {s s' : State} (hkcbar : s'.kcbar = s.kcbar)
    (hkeyProgs : s'.keyProgs = s.keyProgs) {answers : List (Option KeyBuffer)}
    (hanswers : s'.getKeys = s.getKeys ++ answers) : GenerateSpec lib s (none, s') :=
  ⟨hkcbar, hkeyProgs, answers, hanswers, fun _ h => by cases h⟩

theorem cxlIdeGenerateKey_spec (lib : CxlIdeKmLib) (env : Environment)
    (keyGenCapable ivGenCapable : Bool) (direction : BitVec 8) (s : State) :
    GenerateSpec lib s (cxlIdeGenerateKey lib env keyGenCapable ivGenCapable direction s) := by
  rw [cxlIdeGenerateKey]
  split
  · exact generateSpec_none rfl rfl (List.append_nil _).symm
  split
  · exact generateSpec_default _ rfl rfl (List.append_nil _).symm
  split
  · -- The device is asked for a key and an IV.
    dsimp only [cxlIdeKmGetKey]
    cases hanswer : env.getKey s.getKeys.length with
    | none => exact generateSpec_none rfl rfl rfl
    | some buffer =>
        have hkey : ∀ (key : Key) (s' : State), s'.kcbar = s.kcbar → s'.keyProgs = s.keyProgs →
            s'.getKeys = s.getKeys ++ [some buffer] →
            GenerateSpec lib s (if ivGenCapable = true then
                if buffer.iv[0] ≠ lib.ivPrefix then
                  (some (⟨key, genDefaultIv lib⟩, lib.ivDefault), s')
                else (some (⟨key, buffer.iv⟩, lib.ivInitial), s')
              else (some (⟨key, genDefaultIv lib⟩, lib.ivDefault), s')) := by
          intro key s' hkcbar hkeyProgs hgetKeys
          split_ifs with hiv hprefix
          · exact generateSpec_default key hkcbar hkeyProgs hgetKeys
          · refine ⟨hkcbar, hkeyProgs, _, hgetKeys, ?_⟩
            intro generated h
            cases h
            refine ⟨Or.inl rfl, not_not.mp hprefix, fun h => absurd h lib.ivInitial_ne, fun _ => ?_⟩
            exact ⟨buffer, List.mem_singleton_self _, rfl⟩
          · exact generateSpec_default key hkcbar hkeyProgs hgetKeys
        cases keyGenCapable with
        | true =>
            exact hkey buffer.key { s with getKeys := s.getKeys ++ [some buffer] } rfl rfl rfl
        | false =>
            simp only [Bool.false_eq_true, if_false, libspdmGetRandomNumber]
            cases env.random s.randoms with
            | none => exact ⟨rfl, rfl, [some buffer], rfl, fun _ h => by cases h⟩
            | some key =>
                exact hkey key { s with
                  getKeys := s.getKeys ++ [some buffer]
                  randoms := s.randoms + 1 } rfl rfl rfl
  · dsimp only [libspdmGetRandomNumber]
    cases env.random s.randoms with
    | none => exact generateSpec_none rfl rfl (List.append_nil _).symm
    | some key => exact generateSpec_default key rfl rfl (List.append_nil _).symm

/-! ## The setup of a stream -/

def KeyProg.direction (lib : CxlIdeKmLib) (m : KeyProg) : BitVec 8 :=
  m.keySubStream &&& lib.directionMask

def KeyProg.ivFlag (lib : CxlIdeKmLib) (m : KeyProg) : BitVec 8 := m.keySubStream &&& lib.ivMask

/-- What holds of each `KEY_PROG` message. -/
structure WellFormed (lib : CxlIdeKmLib) (answers : List (Option KeyBuffer)) (m : KeyProg) :
    Prop where
  ivPrefix : m.keyBuffer.iv[0] = lib.ivPrefix
  ivDefault : m.ivFlag lib = lib.ivDefault → m.keyBuffer.iv = genDefaultIv lib
  ivInitial : m.ivFlag lib = lib.ivInitial →
    ∃ answer, some answer ∈ answers ∧ m.keyBuffer.iv = answer.iv

theorem keySubStream_ivFlag (lib : CxlIdeKmLib) {direction iv : BitVec 8}
    (hdirection : direction = lib.directionRx ∨ direction = lib.directionTx)
    (hiv : iv = lib.ivInitial ∨ iv = lib.ivDefault) :
    (direction ||| iv ||| lib.subStreamCxl) &&& lib.ivMask = iv := by
  have hdir : direction &&& lib.ivMask = 0 := by
    rcases hdirection with rfl | rfl
    · rw [lib.directionRx_eq]
      exact BitVec.zero_and
    · exact lib.directionTx_iv
  rw [BitVec.and_comm, BitVec.and_or_distrib_left, BitVec.and_or_distrib_left,
    BitVec.and_comm _ direction, BitVec.and_comm _ iv, BitVec.and_comm _ lib.subStreamCxl,
    hdir, lib.iv_mask iv hiv, lib.subStreamCxl_iv]
  simp

theorem keySubStream_direction (lib : CxlIdeKmLib) {direction iv : BitVec 8}
    (hdirection : direction = lib.directionRx ∨ direction = lib.directionTx)
    (hiv : iv = lib.ivInitial ∨ iv = lib.ivDefault) :
    (direction ||| iv ||| lib.subStreamCxl) &&& lib.directionMask = direction := by
  have hdir : direction &&& lib.directionMask = direction := by
    rcases hdirection with rfl | rfl
    · rw [lib.directionRx_eq]
      exact BitVec.zero_and
    · exact lib.directionTx_mask
  rw [BitVec.and_comm, BitVec.and_or_distrib_left, BitVec.and_or_distrib_left,
    BitVec.and_comm _ direction, BitVec.and_comm _ iv, BitVec.and_comm _ lib.subStreamCxl,
    hdir, lib.iv_direction iv hiv, lib.subStreamCxl_direction]
  simp

theorem Generated.mono {lib : CxlIdeKmLib} {answers more : List (Option KeyBuffer)}
    {r : KeyBuffer × BitVec 8} (h : Generated lib answers r) (hsub : answers ⊆ more) :
    Generated lib more r := by
  refine ⟨h.flag, h.ivPrefix, h.ivDefault, ?_⟩
  intro hinitial
  rcases h.ivInitial hinitial with ⟨answer, hmem, hiv⟩
  exact ⟨answer, hsub hmem, hiv⟩

theorem Generated.wellFormed {lib : CxlIdeKmLib} {answers : List (Option KeyBuffer)}
    {r : KeyBuffer × BitVec 8} (h : Generated lib answers r) {direction : BitVec 8}
    (hdirection : direction = lib.directionRx ∨ direction = lib.directionTx)
    (streamId portIndex : BitVec 8) :
    WellFormed lib answers
      ⟨streamId, direction ||| r.2 ||| lib.subStreamCxl, portIndex, r.1⟩ := by
  have hflag : KeyProg.ivFlag lib
      ⟨streamId, direction ||| r.2 ||| lib.subStreamCxl, portIndex, r.1⟩ = r.2 :=
    keySubStream_ivFlag lib hdirection h.flag
  refine ⟨h.ivPrefix, ?_, ?_⟩
  · rw [hflag]
    exact h.ivDefault
  · rw [hflag]
    exact h.ivInitial

/-- What a successful setup leaves behind: it sent two `KEY_PROG` messages, and received
`answers` to `GET_KEY`. -/
structure SetUp (lib : CxlIdeKmLib) (s s' : State) (answers : List (Option KeyBuffer))
    (rx tx : KeyProg) : Prop where
  keyProgs : s'.keyProgs = s.keyProgs ++ [rx, tx]
  getKeys : s'.getKeys = s.getKeys ++ answers
  rxDirection : rx.direction lib = lib.directionRx
  txDirection : tx.direction lib = lib.directionTx
  sending : Programmed s'.kcbar txEncKeys txIv rx.keyBuffer
  receiving : Programmed s'.kcbar rxEncKeys rxIv tx.keyBuffer
  rxWellFormed : WellFormed lib answers rx
  txWellFormed : WellFormed lib answers tx

theorem keyProg_state {env : Environment} {m : KeyProg} {s s' : State} {ok : Bool}
    (h : cxlIdeKmKeyProg env m s = (ok, s')) : { s with keyProgs := s.keyProgs ++ [m] } = s' :=
  (Prod.mk.inj h).2

theorem keySetGo_state {env : Environment} {m : KeySetGo} {s s' : State} {ok : Bool}
    (h : cxlIdeKmKeySetGo env m s = (ok, s')) :
    { s with keySetGos := s.keySetGos ++ [m] } = s' :=
  (Prod.mk.inj h).2

/-- The messages and the registers of `programStream`. -/
theorem programStream_spec {lib : CxlIdeKmLib} {env : Environment} {setup : Setup}
    {rx tx : KeyBuffer × BitVec 8} {s s' : State}
    (h : programStream lib env setup rx tx s = (true, s')) :
    s'.keyProgs = s.keyProgs ++
        [⟨setup.streamId, lib.directionRx ||| rx.2 ||| lib.subStreamCxl, setup.portIndex, rx.1⟩,
          ⟨setup.streamId, lib.directionTx ||| tx.2 ||| lib.subStreamCxl, setup.portIndex,
            tx.1⟩] ∧
      s'.getKeys = s.getKeys ∧ BothHold s'.kcbar rx.1 tx.1 := by
  have hhold := programKeys_hold lib tx.1 rx.1 s.kcbar
  rw [programStream] at h
  split at h
  · cases h
  rename_i s₁ h₁
  split at h
  · cases h
  rename_i s₂ h₂
  dsimp only at h
  split at h
  · cases h
  rename_i s₃ h₃
  rw [← keyProg_state h₁] at h₂
  rw [← keyProg_state h₂] at h₃
  rw [← keySetGo_state h₃] at h
  rw [← keySetGo_state h]
  cases setup.keyRefresh with
  | true => exact ⟨by simp, rfl, hhold.mmioWriteReg32 (by decide) _⟩
  | false =>
      exact ⟨by simp, rfl, (hhold.mmioWriteReg32 (by decide) _).mmioWriteReg32 (by decide) _⟩

theorem cxlSetupIdeStream_setUp {lib : CxlIdeKmLib} {env : Environment} {setup : Setup}
    {s s' : State} (h : cxlSetupIdeStream lib env setup s = (true, s')) :
    ∃ answers rx tx, SetUp lib s s' answers rx tx := by
  rw [cxlSetupIdeStream] at h
  split at h
  · cases h
  rename_i keyGenCapable ivGenCapable _
  have hrx := cxlIdeGenerateKey_spec lib env keyGenCapable ivGenCapable lib.directionRx s
  split at h
  · cases h
  rename_i rx s₁ hrxeq
  rw [hrxeq] at hrx
  have htx := cxlIdeGenerateKey_spec lib env keyGenCapable ivGenCapable lib.directionTx s₁
  split at h
  · cases h
  rename_i tx s₂ htxeq
  rw [htxeq] at htx
  rcases programStream_spec h with ⟨hkeyProgs, hgetKeys, hhold⟩
  rcases hrx.generated with ⟨rxAnswers, hrxKeys, hrxGenerated⟩
  rcases htx.generated with ⟨txAnswers, htxKeys, htxGenerated⟩
  have hgenRx := (hrxGenerated rx rfl).mono (List.subset_append_left rxAnswers txAnswers)
  have hgenTx := (htxGenerated tx rfl).mono (List.subset_append_right rxAnswers txAnswers)
  refine ⟨rxAnswers ++ txAnswers, _, _, ?_, ?_, ?_, ?_, hhold.sending.programmed,
    hhold.receiving.programmed,
    hgenRx.wellFormed (Or.inl rfl) setup.streamId setup.portIndex,
    hgenTx.wellFormed (Or.inr rfl) setup.streamId setup.portIndex⟩
  · rw [hkeyProgs, htx.keyProgs, hrx.keyProgs]
  · rw [hgetKeys, htxKeys, hrxKeys, List.append_assoc]
  · exact keySubStream_direction lib (Or.inl rfl) hgenRx.flag
  · exact keySubStream_direction lib (Or.inr rfl) hgenTx.flag

/-- The values of the CXL specification. -/
def cxlIdeKm : CxlIdeKmLib where
  directionRx := 0x00
  directionTx := 0x02
  directionMask := 0x02
  ivInitial := 0x00
  ivDefault := 0x08
  ivMask := 0x08
  modeSkid := 0x00
  modeContainment := 0x08
  subStreamCxl := 0x80
  directionRx_eq := rfl
  directionTx_ne := by decide
  directionTx_mask := by decide
  directionTx_iv := by decide
  ivInitial_ne := by decide
  iv_mask iv h := by rcases h with rfl | rfl <;> decide
  iv_direction iv h := by rcases h with rfl | rfl <;> decide
  subStreamCxl_direction := by decide
  subStreamCxl_iv := by decide

/-- A device that generates its sending key and IV, and the prefix that root ports need. -/
def generatingDevice : Environment where
  fixedKey := false
  random n := some (Vector.replicate 8 (BitVec.ofNat 32 n))
  getKey _ := some ⟨#v[1, 2, 3, 4, 5, 6, 7, 8], #v[0x80000000, 9, 10]⟩
  keyProgError _ := false
  keySetGoError _ := false

def getKeySetup : Setup := ⟨0, 0, 0x30, 0x08, .skid, false⟩

theorem cxlSetupIdeStream_setUp_getKey :
    ∃ answers rx tx, SetUp cxlIdeKm ⟨fun _ => 0, 0, [], [], []⟩
      (cxlSetupIdeStream cxlIdeKm generatingDevice getKeySetup
        ⟨fun _ => 0, 0, [], [], []⟩).2 answers rx tx :=
  cxlSetupIdeStream_setUp
    (Prod.ext (by decide) rfl :
      cxlSetupIdeStream cxlIdeKm generatingDevice getKeySetup ⟨fun _ => 0, 0, [], [], []⟩ =
        (true, _))

end TeeIoValidator.CxlIde
