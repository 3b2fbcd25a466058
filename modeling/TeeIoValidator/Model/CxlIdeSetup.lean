import TeeIoValidator.Model.CxlIde

/-! The actions of `cxl_setup_ide_stream`, with what `CxlIde` leaves out of it: the status that the
device acknowledges a `KEY_PROG` with, the flag `skip_ksetgo`, and the assertions. -/

namespace TeeIoValidator.CxlIdeSetup

open CxlIde

structure Arguments extends Setup where
  skipKsetgo : Bool

/-- The device, with the status in the acknowledgement of the `n`-th `KEY_PROG`. -/
structure Responder extends Environment where
  kpAckStatus : ℕ → BitVec 8

/-- What is done, each with its result, in the direction it is for. -/
inductive Action where
  | getKey (response : Option KeyBuffer)
  | randomNumber (key : Option Key)
  | keyProg (direction : BitVec 8) (message : KeyProg) (succeeded : Bool) (kpAckStatus : BitVec 8)
  | linkEncKeyIv (direction : BitVec 8) (buffer : KeyBuffer)
  | keyValid (direction : BitVec 8)
  | linkencEnable
  | startTrigger
  | keySetGo (direction : BitVec 8) (message : KeySetGo) (succeeded : Bool)
  deriving DecidableEq

/-- The state and the actions so far, which the code does not keep. -/
structure Run where
  state : State
  actions : List Action

section Setup

variable (lib : CxlIdeKmLib) (responder : Responder) (arguments : Arguments)

/-- The root port's registers are written. -/
def Run.write (r : Run) (f : Registers → Registers) (action : Action) : Run :=
  ⟨{ r.state with kcbar := f r.state.kcbar }, r.actions ++ [action]⟩

/-- `cxl_ide_generate_key`, with the calls that it made. -/
def generateKey (keyGenCapable ivGenCapable : Bool) (direction : BitVec 8) (r : Run) :
    Option (KeyBuffer × BitVec 8) × Run :=
  let (key, s) := cxlIdeGenerateKey lib responder.toEnvironment keyGenCapable ivGenCapable direction
    r.state
  let getKeys := s.getKeys.drop r.state.getKeys.length
  let randoms := List.range' r.state.randoms (s.randoms - r.state.randoms)
  (key, ⟨s, r.actions ++ getKeys.map .getKey ++
    randoms.map fun n => .randomNumber (responder.random n)⟩)

def keyProg (direction : BitVec 8) (key : KeyBuffer × BitVec 8) (r : Run) : Bool × Run :=
  let message : KeyProg := ⟨arguments.streamId, direction ||| key.2 ||| lib.subStreamCxl,
    arguments.portIndex, key.1⟩
  let (ret, s) := cxlIdeKmKeyProg responder.toEnvironment message r.state
  let status := responder.kpAckStatus r.state.keyProgs.length
  (ret, ⟨s, r.actions ++ [.keyProg direction message ret status]⟩)

def keySetGo (direction : BitVec 8) (r : Run) : Bool × Run :=
  let mode := match arguments.ideMode with
    | .skid => lib.modeSkid
    | .containment => lib.modeContainment
  let message : KeySetGo := ⟨arguments.streamId, direction ||| mode ||| lib.subStreamCxl,
    arguments.portIndex⟩
  let (ret, s) := cxlIdeKmKeySetGo responder.toEnvironment message r.state
  (ret, ⟨s, r.actions ++ [.keySetGo direction message ret]⟩)

def linkEncKeyIv (direction : BitVec 8) (buffer : KeyBuffer) (r : Run) : Run :=
  r.write (fun kcbar => cxlCfgRpLinkEncKeyIv kcbar direction (cxlConstructRpKeys buffer.key)
    (cxlConstructRpIv buffer.iv)) (.linkEncKeyIv direction buffer)

def keyValid (direction : BitVec 8) (r : Run) : Run :=
  r.write (fun kcbar => cxlCfgRpTxrxKeyValid kcbar direction true) (.keyValid direction)

/-- The root port's registers between the `KEY_PROG` and the `K_SET_GO` messages. -/
def programRootPort (rx tx : KeyBuffer) (r : Run) : Run :=
  let r := linkEncKeyIv lib.directionTx tx r
  let r := linkEncKeyIv lib.directionRx rx r
  let r := keyValid cxlIdeStreamDirectionTx r
  keyValid cxlIdeStreamDirectionRx r

/-- The root port's registers between the two `K_SET_GO` messages. -/
def startStream (r : Run) : Run :=
  let r := if arguments.keyRefresh then r
    else r.write (fun kcbar => cxlCfgRpLinkencEnable kcbar true) .linkencEnable
  r.write (fun kcbar => cxlCfgRpStartTrigger kcbar true) .startTrigger

/-- None is `TEEIO_ASSERT(false)`, which does not return. The status of an acknowledgement and
`skip_ksetgo` are not looked at. -/
def programStream (rx tx : KeyBuffer × BitVec 8) (r : Run) : Option Bool × Run :=
  match keyProg lib responder arguments lib.directionRx rx r with
  | (false, r) => (none, r)
  | (true, r) =>
    match keyProg lib responder arguments lib.directionTx tx r with
    | (false, r) => (none, r)
    | (true, r) =>
      match keySetGo lib responder arguments lib.directionRx
        (programRootPort lib rx.1 tx.1 r) with
      | (false, r) => (none, r)
      | (true, r) =>
        match keySetGo lib responder arguments lib.directionTx (startStream arguments r) with
        | (false, r) => (none, r)
        | (true, r) => (some true, r)

def setupIdeStream (s : State) : Option Bool × Run :=
  match capabilities responder.fixedKey arguments.toSetup with
  | none => (some false, ⟨s, []⟩)
  | some (keyGenCapable, ivGenCapable) =>
    match generateKey lib responder keyGenCapable ivGenCapable lib.directionRx ⟨s, []⟩ with
    | (none, r) => (some false, r)
    | (some rx, r) =>
      match generateKey lib responder keyGenCapable ivGenCapable lib.directionTx r with
      | (none, r) => (some false, r)
      | (some tx, r) => programStream lib responder arguments rx tx r

end Setup

end TeeIoValidator.CxlIdeSetup
