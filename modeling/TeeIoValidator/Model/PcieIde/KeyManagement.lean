import TeeIoValidator.Model.PcieIde.Kcbar

/-! Keys of a PCIe IDE stream for the device and the root port: setup and key refresh. -/

namespace TeeIoValidator.PcieIde

/-- The numbers of the key sets. -/
def KeySet.number : KeySet → BitVec 8
  | .ks0 => 0
  | .ks1 => 1

/-- The constants of the PCIe IDE_KM library that the code uses. `key_sub_stream` is composed
of three bit fields that do not overlap, and the key sets stand for their numbers. -/
structure PciIdeKmLib where
  keySets : KeySet → BitVec 8
  directions : Direction → BitVec 8
  subStreams : SubStream → BitVec 8
  kpAckStatusSuccess : BitVec 8
  objectIdKSetGostopAck : BitVec 8
  kGostopAckSize : ℕ
  keySets_eq : ∀ ks, keySets ks = ks.number
  composed_injective : ∀ ks direction subStream ks' direction' subStream',
    keySets ks ||| directions direction ||| subStreams subStream =
      keySets ks' ||| directions direction' ||| subStreams subStream' →
    ks = ks' ∧ direction = direction' ∧ subStream = subStream'

abbrev Key := Vector Dword 8

abbrev Iv := Vector Dword 2

/-- A `KEY_PROG` message with its `pci_ide_km_aes_256_gcm_key_buffer_t`. -/
structure KeyProg where
  streamId : BitVec 8
  keySubStream : BitVec 8
  portIndex : BitVec 8
  key : Key
  iv : Iv
  deriving DecidableEq

/-- `pci_ide_km_k_set_go_t`. -/
structure KSetGo where
  streamId : BitVec 8
  keySubStream : BitVec 8
  portIndex : BitVec 8
  deriving DecidableEq

/-- `pci_ide_km_k_gostop_ack_t`, with the size of the response. -/
structure KGostopAck where
  size : ℕ
  objectId : BitVec 8
  streamId : BitVec 8
  keySubStream : BitVec 8
  portIndex : BitVec 8
  deriving DecidableEq

/-- The device and the random numbers: the `n`-th random key, and the answers to the `n`-th
`KEY_PROG` and `K_SET_GO`, none for an error status. -/
structure Environment where
  fixedKey : Bool
  random : ℕ → Option Key
  kpAckStatus : ℕ → Option (BitVec 8)
  kGostopAck : ℕ → Option KGostopAck

/-- A call of `cfg_rootport_ide_keys`, with the registers around it. -/
structure KeyWrite where
  before : Registers
  after : Registers
  direction : Direction
  slot : ℕ

/-- The root port's KCBar, the random numbers used, the messages sent to the device, and the
history of the root port's keys, which the code does not keep. -/
structure State where
  kcbar : Registers
  randoms : ℕ
  keyProgs : List KeyProg
  kSetGos : List KSetGo
  keyWrites : List KeyWrite

/-- The arguments that say which stream is meant. -/
structure Stream where
  streamId : BitVec 8
  rpStreamIndex : ℕ
  portIndex : BitVec 8

/-! ## `ide_km_key_prog` -/

def pcieIdeIvInitValue : Dword := 1

def fixedKeyByteValue : Direction → BitVec 8
  | .rx => 0x22
  | .tx => 0x11

/-- A key whose bytes are all the same. -/
def memsetKey (b : BitVec 8) : Key := Vector.replicate 8 (b ++ b ++ b ++ b)

def libspdmGetRandomNumber (env : Environment) (s : State) : Option Key × State :=
  (env.random s.randoms, { s with randoms := s.randoms + 1 })

def generateKey (env : Environment) (direction : Direction) (s : State) : Option Key × State :=
  if env.fixedKey then (some (memsetKey (fixedKeyByteValue direction)), s)
  else libspdmGetRandomNumber env s

/-- The double words in the opposite order. -/
def pcieConstructRpKeys (keyProgKeys : Key) : List Dword := keyProgKeys.toList.reverse

/-- `pci_ide_km_key_prog`: the message is sent, and the device answers. -/
def pciIdeKmKeyProg (env : Environment) (message : KeyProg) (s : State) :
    Option (BitVec 8) × State :=
  (env.kpAckStatus s.keyProgs.length, { s with keyProgs := s.keyProgs ++ [message] })

/-- `slot_id`, a `uint8_t` that is read from a `uint16_t`. -/
def slotId (kSet : IdeKeySet) (direction : Direction) (substream : SubStream) : BitVec 8 :=
  (kSet direction substream).setWidth 8

def ideKmKeyProg (lib : PciIdeKmLib) (env : Environment) (stream : Stream) (ks : KeySet)
    (kSet : IdeKeySet) (direction : Direction) (substream : SubStream) (s : State) :
    Bool × State :=
  match generateKey env direction s with
  | (none, s) => (false, s)
  | (some key, s) =>
    let message : KeyProg :=
      { streamId := stream.streamId
        keySubStream := lib.keySets ks ||| lib.directions direction ||| lib.subStreams substream
        portIndex := stream.portIndex
        key := key
        iv := #v[0, pcieIdeIvInitValue] }
    match pciIdeKmKeyProg env message s with
    | (none, s) => (false, s)
    | (some kpAckStatus, s) =>
      if kpAckStatus ≠ lib.kpAckStatusSuccess then (false, s)
      else
        let slot := slotId kSet direction substream
        let kcbar := cfgRootportIdeKeys s.kcbar stream.rpStreamIndex direction ks substream slot
          (pcieConstructRpKeys key) [pcieIdeIvInitValue, 0]
        let write : KeyWrite := ⟨s.kcbar, kcbar, direction, slot.toNat⟩
        (true, { s with kcbar := kcbar, keyWrites := s.keyWrites ++ [write] })

/-- `ide_km_key_prog` for one sub-stream after the other. -/
def ideKmKeyProgs (lib : PciIdeKmLib) (env : Environment) (stream : Stream) (ks : KeySet)
    (kSet : IdeKeySet) (direction : Direction) : List SubStream → State → Bool × State
  | [], s => (true, s)
  | substream :: substreams, s =>
    match ideKmKeyProg lib env stream ks kSet direction substream s with
    | (false, s) => (false, s)
    | (true, s) => ideKmKeyProgs lib env stream ks kSet direction substreams s

/-- The keys of the three sub-streams, and the key set primed. -/
def programDirection (lib : PciIdeKmLib) (env : Environment) (stream : Stream) (ks : KeySet)
    (kSet : IdeKeySet) (direction : Direction) (s : State) : Bool × State :=
  match ideKmKeyProgs lib env stream ks kSet direction [.pr, .npr, .cpl] s with
  | (false, s) => (false, s)
  | (true, s) =>
    (true, { s with kcbar := primeRpIdeKeySet s.kcbar stream.rpStreamIndex direction ks })

/-- The part that setup and key refresh have in common before `K_SET_GO`. -/
def programStream (lib : PciIdeKmLib) (env : Environment) (stream : Stream) (ks : KeySet)
    (kSet : IdeKeySet) (s : State) : Bool × State :=
  match programDirection lib env stream ks kSet .rx s with
  | (false, s) => (false, s)
  | (true, s) => programDirection lib env stream ks kSet .tx s

/-! ## `ide_km_key_set_go` -/

def ideKmKeySetGo (lib : PciIdeKmLib) (env : Environment) (request : KSetGo) (s : State) :
    Bool × State :=
  let response := env.kGostopAck s.kSetGos.length
  let s := { s with kSetGos := s.kSetGos ++ [request] }
  match response with
  | none => (false, s)
  | some response =>
    if response.size ≠ lib.kGostopAckSize then (false, s)
    else if response.objectId ≠ lib.objectIdKSetGostopAck then (false, s)
    else if response.portIndex ≠ request.portIndex then (false, s)
    else if response.streamId ≠ request.streamId then (false, s)
    else if response.keySubStream ≠ request.keySubStream then (false, s)
    else (true, s)

/-- `K_SET_GO` for one sub-stream after the other. -/
def ideKmKeySetGos (lib : PciIdeKmLib) (env : Environment) (stream : Stream) (ks : KeySet)
    (direction : Direction) : List SubStream → State → Bool × State
  | [], s => (true, s)
  | substream :: substreams, s =>
    let request : KSetGo :=
      { streamId := stream.streamId
        keySubStream := ks.number ||| lib.directions direction ||| lib.subStreams substream
        portIndex := stream.portIndex }
    match ideKmKeySetGo lib env request s with
    | (false, s) => (false, s)
    | (true, s) => ideKmKeySetGos lib env stream ks direction substreams s

/-- `K_SET_GO` in both directions, with the root port's key set selected in between. -/
def goStream (lib : PciIdeKmLib) (env : Environment) (stream : Stream) (ks : KeySet)
    (s : State) : Bool × State :=
  match ideKmKeySetGos lib env stream ks .rx [.pr, .npr, .cpl] s with
  | (false, s) => (false, s)
  | (true, s) =>
    let s := { s with kcbar := setRpIdeKeySetSelect s.kcbar stream.rpStreamIndex ks }
    ideKmKeySetGos lib env stream ks .tx [.pr, .npr, .cpl] s

/-! ## `setup_ide_stream` and `ide_key_switch_to` -/

inductive TopologyType where
  | selIde
  | linkIde
  | selLinkIde
  deriving Repr, DecidableEq

/-- What a call finds outside KCBar: whether `QUERY` fails, and the control and status
registers of the stream in the two ports. -/
structure Ports where
  queryError : Bool
  upperEnabled : Bool
  lowerEnabled : Bool
  upperSecure : Bool
  lowerSecure : Bool

/-- `is_ide_stream_secure`. -/
def Ports.isIdeStreamSecure (ports : Ports) : Bool := ports.upperSecure && ports.lowerSecure

/-- The part of `setup_ide_stream` from `K_SET_GO` on to the check that the stream is secure;
none when a topology that is not implemented stops it. -/
def startIdeStream (lib : PciIdeKmLib) (env : Environment) (stream : Stream) (ks : KeySet)
    (topType : TopologyType) (s : State) : Option (Bool × State) :=
  match goStream lib env stream ks s with
  | (false, s) => some (false, s)
  | (true, s) =>
    if topType = .selLinkIde then none
    else some (true, { s with kcbar := enableIdeStreamInKcbar s.kcbar stream.rpStreamIndex true })

def setupIdeStream (lib : PciIdeKmLib) (env : Environment) (stream : Stream) (ks : KeySet)
    (kSet : IdeKeySet) (topType : TopologyType) (ports : Ports) (skipKsetgo : Bool)
    (s : State) : Option (Bool × State) :=
  if ports.queryError then some (false, s)
  else match programStream lib env stream ks kSet s with
    | (false, s) => some (false, s)
    | (true, s) =>
      if skipKsetgo then some (true, s)
      else match startIdeStream lib env stream ks topType s with
        | none => none
        | some (false, s) => some (false, s)
        | some (true, s) => some (ports.isIdeStreamSecure, s)

/-- What happens while the user is asked to try again: other programs may close their
streams, and the user may quit. -/
structure Retry where
  others : Registers → Registers
  quit : Bool

/-- The loop that waits for free slots: none when it is stopped by an assertion or still waits,
no slots when the user quits. -/
def waitForSlots : List Retry → State → Option (Option IdeKeySet × State)
  | [], s =>
    match pcieIdeAllocSlotIds s.kcbar with
    | .assertFailed => none
    | .found kSet => some (some kSet, s)
    | .notFound => none
  | retry :: retries, s =>
    match pcieIdeAllocSlotIds s.kcbar with
    | .assertFailed => none
    | .found kSet => some (some kSet, s)
    | .notFound =>
      let s := { s with kcbar := retry.others s.kcbar }
      if retry.quit then some (none, s) else waitForSlots retries s

/-- The result with `k_set`, which is left as it is when the slots are not reached. -/
def ideKeySwitchTo (lib : PciIdeKmLib) (env : Environment) (stream : Stream)
    (kSet : IdeKeySet) (topType : TopologyType) (ports : Ports) (retries : List Retry)
    (ks : KeySet) (skipKsetgo : Bool) (s : State) : Option (Bool × IdeKeySet × State) :=
  if topType = .selLinkIde then none
  else if !ports.upperEnabled then some (false, kSet, s)
  else if !ports.lowerEnabled then some (false, kSet, s)
  else match waitForSlots retries s with
    | none => none
    | some (none, s) => some (false, kSet, s)
    | some (some kSet, s) =>
      match programStream lib env stream ks kSet s with
      | (false, s) => some (false, kSet, s)
      | (true, s) =>
        if skipKsetgo then some (true, kSet, s)
        else match goStream lib env stream ks s with
          | (false, s) => some (false, kSet, s)
          | (true, s) => some (ports.isIdeStreamSecure, kSet, s)

end TeeIoValidator.PcieIde
