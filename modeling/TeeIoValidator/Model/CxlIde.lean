import Mathlib.Data.Vector.Basic
import TeeIoValidator.Model.Register

/-! Setting up a CXL.memcache IDE stream: keys and IVs for the device and the root port. -/

namespace TeeIoValidator.CxlIde

/-- The constants of the CXL IDE_KM library that the code uses, with the masks of the bit
fields of `key_sub_stream`. A message is composed of a direction, of an IV flag (`KEY_PROG`)
and of the sub-stream; the fields do not overlap. -/
structure CxlIdeKmLib where
  directionRx : BitVec 8
  directionTx : BitVec 8
  directionMask : BitVec 8
  ivInitial : BitVec 8
  ivDefault : BitVec 8
  ivMask : BitVec 8
  modeSkid : BitVec 8
  modeContainment : BitVec 8
  subStreamCxl : BitVec 8
  directionRx_eq : directionRx = 0
  directionTx_ne : directionTx ≠ 0
  directionTx_mask : directionTx &&& directionMask = directionTx
  directionTx_iv : directionTx &&& ivMask = 0
  ivInitial_ne : ivInitial ≠ ivDefault
  iv_mask : ∀ iv, iv = ivInitial ∨ iv = ivDefault → iv &&& ivMask = iv
  iv_direction : ∀ iv, iv = ivInitial ∨ iv = ivDefault → iv &&& directionMask = 0
  subStreamCxl_direction : subStreamCxl &&& directionMask = 0
  subStreamCxl_iv : subStreamCxl &&& ivMask = 0

abbrev Key := Vector Dword 8

abbrev Iv := Vector Dword 3

theorem Iv.zero_lt : 0 < 3 := by decide
theorem Iv.one_lt : 1 < 3 := by decide
theorem Iv.two_lt : 2 < 3 := by decide

/-- `cxl_ide_km_aes_256_gcm_key_buffer_t`. -/
structure KeyBuffer where
  key : Key
  iv : Iv
  deriving DecidableEq

/-- A `KEY_PROG` message. -/
structure KeyProg where
  streamId : BitVec 8
  keySubStream : BitVec 8
  portIndex : BitVec 8
  keyBuffer : KeyBuffer
  deriving DecidableEq

/-- A `K_SET_GO` message. -/
structure KeySetGo where
  streamId : BitVec 8
  keySubStream : BitVec 8
  portIndex : BitVec 8
  deriving DecidableEq

/-- The device and the random numbers: the `n`-th random key, the answer to the `n`-th
`GET_KEY`, and whether the `n`-th `KEY_PROG` and `K_SET_GO` fail. -/
structure Environment where
  fixedKey : Bool
  random : ℕ → Option Key
  getKey : ℕ → Option KeyBuffer
  keyProgError : ℕ → Bool
  keySetGoError : ℕ → Bool

/-- The root port's KCBar, the random numbers used, the answers to `GET_KEY`, and the
messages sent to the device. -/
structure State where
  kcbar : Registers
  randoms : ℕ
  getKeys : List (Option KeyBuffer)
  keyProgs : List KeyProg
  keySetGos : List KeySetGo

/-! ## `INTEL_KEYP_CXL_ROOT_COMPLEX_KCBAR` -/

def linkEncGlobalConfig : ℕ := 0
def linkEncControl : ℕ := 2
def txEncKeys : ℕ := 4
def txIv : ℕ := 12
def rxEncKeys : ℕ := 14
def rxIv : ℕ := 22

def linkEncEnable : Field := ⟨0, 1, Field.fits_0_1⟩
def startTrigger : Field := ⟨0, 1, Field.fits_0_1⟩
def rxkeyValid : Field := ⟨1, 1, Field.fits_1_1⟩
def txkeyValid : Field := ⟨2, 1, by decide⟩

/-- `CXL_IDE_STREAM_DIRECTION`. -/
def cxlIdeStreamDirectionRx : BitVec 8 := 0
def cxlIdeStreamDirectionTx : BitVec 8 := 1

/-! ## Keys and IVs -/

def fixedTxKeyByteValue : BitVec 8 := 0x11
def fixedRxKeyByteValue : BitVec 8 := 0x22

/-- `CXL_IDE_KM_KEY_SUB_STREAM_CXL << 24`. -/
def CxlIdeKmLib.ivPrefix (lib : CxlIdeKmLib) : Dword := lib.subStreamCxl.setWidth 32 <<< 24

def genDefaultIv (lib : CxlIdeKmLib) : Iv := #v[lib.ivPrefix, 0, 1]

/-- A key whose bytes are all the same. -/
def memsetKey (b : BitVec 8) : Key := Vector.replicate 8 (b ++ b ++ b ++ b)

def libspdmGetRandomNumber (env : Environment) (s : State) : Option Key × State :=
  (env.random s.randoms, { s with randoms := s.randoms + 1 })

def cxlIdeKmGetKey (env : Environment) (s : State) : Option KeyBuffer × State :=
  let response := env.getKey s.getKeys.length
  (response, { s with getKeys := s.getKeys ++ [response] })

/-- The key buffer and the IV flag of a direction. -/
def cxlIdeGenerateKey (lib : CxlIdeKmLib) (env : Environment)
    (keyGenCapable ivGenCapable : Bool) (direction : BitVec 8) (s : State) :
    Option (KeyBuffer × BitVec 8) × State :=
  if direction ≠ lib.directionRx ∧ direction ≠ lib.directionTx then (none, s)
  else if env.fixedKey then
    let value :=
      if direction = lib.directionRx then fixedRxKeyByteValue else fixedTxKeyByteValue
    (some (⟨memsetKey value, genDefaultIv lib⟩, lib.ivDefault), s)
  else if (keyGenCapable || ivGenCapable) && direction == lib.directionTx then
    let (response, s) := cxlIdeKmGetKey env s
    match response with
    | none => (none, s)
    | some buffer =>
      let (key, s) :=
        if keyGenCapable then (some buffer.key, s) else libspdmGetRandomNumber env s
      match key with
      | none => (none, s)
      | some key =>
        if ivGenCapable then
          if getElem buffer.iv 0 Iv.zero_lt ≠ lib.ivPrefix then
            (some (⟨key, genDefaultIv lib⟩, lib.ivDefault), s)
          else (some (⟨key, buffer.iv⟩, lib.ivInitial), s)
        else (some (⟨key, genDefaultIv lib⟩, lib.ivDefault), s)
  else
    let (key, s) := libspdmGetRandomNumber env s
    match key with
    | none => (none, s)
    | some key => (some (⟨key, genDefaultIv lib⟩, lib.ivDefault), s)

/-- `revert_bytes_inside_dw`: bytes 0 and 3 and bytes 1 and 2 are swapped. -/
def revertBytesInsideDw (dw : Dword) : Dword :=
  dw.byte 0 ++ dw.byte 1 ++ dw.byte 2 ++ dw.byte 3

def cxlConstructRpKeys (keyProgKeys : Key) : List Dword :=
  keyProgKeys.toList.map revertBytesInsideDw

def cxlConstructRpIv (keyProgIv : Iv) : List Dword := [keyProgIv[2], keyProgIv[1]]

/-! ## Root port registers -/

/-- The device's receiving direction is the root port's sending one. -/
def cxlCfgRpLinkEncKeyIv (kcbar : Registers) (direction : BitVec 8) (key iv : List Dword) :
    Registers :=
  let (encKeys, txrxIv) :=
    if direction = cxlIdeStreamDirectionRx then (txEncKeys, txIv) else (rxEncKeys, rxIv)
  regMemcpyDw (regMemcpyDw kcbar encKeys key) txrxIv iv

def cxlCfgRpTxrxKeyValid (kcbar : Registers) (direction : BitVec 8) (valid : Bool) :
    Registers :=
  let encCtrl := mmioReadReg32 kcbar linkEncControl
  let field := if direction = cxlIdeStreamDirectionRx then rxkeyValid else txkeyValid
  mmioWriteReg32 kcbar linkEncControl (field.set encCtrl valid.toNat)

def cxlCfgRpLinkencEnable (kcbar : Registers) (enable : Bool) : Registers :=
  mmioWriteReg32 kcbar linkEncGlobalConfig
    (linkEncEnable.set (mmioReadReg32 kcbar linkEncGlobalConfig) enable.toNat)

def cxlCfgRpStartTrigger (kcbar : Registers) (start : Bool) : Registers :=
  mmioWriteReg32 kcbar linkEncControl
    (startTrigger.set (mmioReadReg32 kcbar linkEncControl) start.toNat)

/-! ## `cxl_setup_ide_stream` -/

inductive IdeMode where
  | skid
  | containment
  deriving DecidableEq

/-- The arguments of `cxl_setup_ide_stream` that it reads, with the device's answer to
`QUERY`. -/
structure Setup where
  streamId : BitVec 8
  portIndex : BitVec 8
  devCaps : BitVec 8
  configBitmap : BitVec 32
  ideMode : IdeMode
  keyRefresh : Bool

def ideKeyGenerationCapable (devCaps : BitVec 8) : Bool := devCaps.getLsbD 5

def ivGenerationCapable (devCaps : BitVec 8) : Bool := devCaps.getLsbD 4

/-- `CXL_BIT_MASK(CXL_IDE_CONFIGURATION_TYPE_GET_KEY)` is bit 3. -/
def configGetKey (configBitmap : BitVec 32) : Bool := configBitmap.getLsbD 3

/-- `key_gen_capable` and `iv_gen_capable` as the key generation gets them; none when
`GET_KEY` is asked for and not supported. -/
def capabilities (fixedKey : Bool) (setup : Setup) : Option (Bool × Bool) :=
  let keyGenCapable := !fixedKey && ideKeyGenerationCapable setup.devCaps
  let ivGenCapable := !fixedKey && ivGenerationCapable setup.devCaps
  let getKey := !fixedKey && configGetKey setup.configBitmap
  if keyGenCapable || ivGenCapable then
    if !getKey then some (false, false) else some (keyGenCapable, ivGenCapable)
  else if getKey then none
  else some (keyGenCapable, ivGenCapable)

/-- `cxl_ide_km_key_prog`: whether it succeeded. -/
def cxlIdeKmKeyProg (env : Environment) (message : KeyProg) (s : State) : Bool × State :=
  (!env.keyProgError s.keyProgs.length, { s with keyProgs := s.keyProgs ++ [message] })

def cxlIdeKmKeySetGo (env : Environment) (message : KeySetGo) (s : State) : Bool × State :=
  (!env.keySetGoError s.keySetGos.length, { s with keySetGos := s.keySetGos ++ [message] })

/-- The registers after the keys, the IVs and the valid bits are set. -/
def programKeys (lib : CxlIdeKmLib) (tx rx : KeyBuffer) (kcbar : Registers) : Registers :=
  let kcbar := cxlCfgRpLinkEncKeyIv kcbar lib.directionTx (cxlConstructRpKeys tx.key)
    (cxlConstructRpIv tx.iv)
  let kcbar := cxlCfgRpLinkEncKeyIv kcbar lib.directionRx (cxlConstructRpKeys rx.key)
    (cxlConstructRpIv rx.iv)
  let kcbar := cxlCfgRpTxrxKeyValid kcbar cxlIdeStreamDirectionTx true
  cxlCfgRpTxrxKeyValid kcbar cxlIdeStreamDirectionRx true

/-- `KEY_PROG` in both directions, the root port's registers, and `K_SET_GO` in both
directions. -/
def programStream (lib : CxlIdeKmLib) (env : Environment) (setup : Setup)
    (rx tx : KeyBuffer × BitVec 8) (s : State) : Bool × State :=
  match cxlIdeKmKeyProg env
    ⟨setup.streamId, lib.directionRx ||| rx.2 ||| lib.subStreamCxl, setup.portIndex, rx.1⟩ s with
  | (false, s) => (false, s)
  | (true, s) =>
    match cxlIdeKmKeyProg env
      ⟨setup.streamId, lib.directionTx ||| tx.2 ||| lib.subStreamCxl, setup.portIndex, tx.1⟩ s with
    | (false, s) => (false, s)
    | (true, s) =>
      let s := { s with kcbar := programKeys lib tx.1 rx.1 s.kcbar }
      let mode := match setup.ideMode with
        | .skid => lib.modeSkid
        | .containment => lib.modeContainment
      match cxlIdeKmKeySetGo env
        ⟨setup.streamId, lib.directionRx ||| mode ||| lib.subStreamCxl, setup.portIndex⟩ s with
      | (false, s) => (false, s)
      | (true, s) =>
        let s := if setup.keyRefresh then s
          else { s with kcbar := cxlCfgRpLinkencEnable s.kcbar true }
        let s := { s with kcbar := cxlCfgRpStartTrigger s.kcbar true }
        cxlIdeKmKeySetGo env
          ⟨setup.streamId, lib.directionTx ||| mode ||| lib.subStreamCxl, setup.portIndex⟩ s

def cxlSetupIdeStream (lib : CxlIdeKmLib) (env : Environment) (setup : Setup) (s : State) :
    Bool × State :=
  match capabilities env.fixedKey setup with
  | none => (false, s)
  | some (keyGenCapable, ivGenCapable) =>
    match cxlIdeGenerateKey lib env keyGenCapable ivGenCapable lib.directionRx s with
    | (none, s) => (false, s)
    | (some rx, s) =>
      match cxlIdeGenerateKey lib env keyGenCapable ivGenCapable lib.directionTx s with
      | (none, s) => (false, s)
      | (some tx, s) => programStream lib env setup rx tx s

end TeeIoValidator.CxlIde
