import TeeIoValidator.Model.Assertion
import TeeIoValidator.Model.CxlIde
import TeeIoValidator.Model.Stopping

/-! The key refresh case of the CXL IDE category, with its test configurations. -/

namespace TeeIoValidator.CxlIdeTest

open CxlIde Runner

inductive ConfigurationType where
  | default
  | pcrcDisable
  | ideStop
  | getKey
  deriving Repr, DecidableEq

/-- What the device answers to a `QUERY`, as far as the code looks at it. -/
structure QueryResponse where
  devFunc : BitVec 8
  bus : BitVec 8
  segment : BitVec 8
  maxPortIndex : BitVec 8
  deriving Repr, DecidableEq

/-- The device and the user in the run of the case: the port looked for, the answer to an
earlier `QUERY`, what the default configuration needs, whether the `n`-th `K_SET_STOP` fails,
and the keys typed, true for the one that quits. -/
structure Environment extends CxlIde.Environment where
  devFunc : BitVec 8
  bus : BitVec 8
  segment : BitVec 8
  streamId : BitVec 8
  devCaps : BitVec 8
  configBitmap : BitVec 32
  ideMode : IdeMode
  ideCapable : Bool
  keySetStopError : ℕ → Bool
  typed : List Bool

/-- The state of the program, of the root port and of the device: with `keys`, the answers to
`QUERY` that are still to come (none for an error status), the port's index, the CXL IDE
control registers of the two ports, where they have one, the `K_SET_STOP` messages, the
assertions of the case and the action of its context; and whether each key refresh that was
started was completed, which the code does not keep. -/
structure World where
  keys : State
  answers : List (Option QueryResponse)
  portIndex : BitVec 8
  upperControl : Option Dword
  lowerControl : Option Dword
  keySetStops : List KeySetGo
  assertions : List Assertion
  action : Action
  refreshes : List Bool

def World.result (w : World) : TestResult := testCaseResult w.assertions

section Case

variable (lib : CxlIdeKmLib) (env : Environment)

/-! ## `cxl_ide_query_port_index` -/

def QueryResponse.isTarget (response : QueryResponse) : Bool :=
  response.devFunc == env.devFunc && response.bus == env.bus && response.segment == env.segment

/-- `do_query_port_index`: whether the port is the one looked for, and `max_port_index`. -/
def doQueryPortIndex (maxPortIndex : BitVec 8) : Option QueryResponse → Bool × BitVec 8
  | none => (false, maxPortIndex)
  | some response => (response.isTarget env, response.maxPortIndex)

/-- The loop over the ports from an index on, with the answers it leaves: none when it waits for
an answer that does not come. The index is a `uint8_t`, which never exceeds `0xff`. -/
def queryPorts : List (Option QueryResponse) → BitVec 8 → BitVec 8 →
    Option (Option (BitVec 8) × List (Option QueryResponse))
  | answers, portIndex, maxPortIndex =>
    if portIndex ≤ maxPortIndex then
      match answers with
      | [] => none
      | answer :: answers =>
        match doQueryPortIndex env maxPortIndex answer with
        | (true, _) => some (some portIndex, answers)
        | (false, maxPortIndex) => queryPorts answers (portIndex + 1) maxPortIndex
    else some (none, answers)

/-- The index is left as it is when the first port is the one looked for. -/
def cxlIdeQueryPortIndex (w : World) : Option (Bool × World) :=
  match w.answers with
  | [] => none
  | answer :: answers =>
    match doQueryPortIndex env 0 answer with
    | (true, _) => some (true, { w with answers := answers })
    | (false, maxPortIndex) =>
      match queryPorts env answers 1 maxPortIndex with
      | none => none
      | some (none, answers) => some (false, { w with answers := answers })
      | some (some portIndex, answers) =>
        some (true, { w with answers := answers, portIndex := portIndex })

/-! ## Setup and teardown -/

/-- `cxl_setup_ide_stream`: a message that fails, and only that, stops the program. -/
def setupIdeStream (keyRefresh : Bool) (w : World) : Option (Bool × World) :=
  let setup := ⟨env.streamId, w.portIndex, env.devCaps, env.configBitmap, env.ideMode, keyRefresh⟩
  match cxlSetupIdeStream lib env.toEnvironment setup w.keys with
  | (true, keys) => some (true, { w with keys := keys })
  | (false, keys) =>
    if keys.keyProgs.length = w.keys.keyProgs.length then some (false, { w with keys := keys })
    else none

def cxlIdeTestKeyrefreshSetup (w : World) : Option (Bool × World) :=
  match cxlIdeQueryPortIndex env w with
  | none => none
  | some (false, w) => some (false, w)
  | some (true, w) => setupIdeStream lib env false w

def kSetStopCapable (devCaps : BitVec 8) : Bool := devCaps.getLsbD 6

def txtranstoInsecureState : Field := ⟨3, 1, Field.fits_3_1⟩
def rxtranstoInsecureState : Field := ⟨4, 1, by decide⟩

def cxlCfgRpTxrxTranstoInsecureState (kcbar : Registers) (direction : BitVec 8)
    (insecureState : Bool) : Registers :=
  let encCtrl := mmioReadReg32 kcbar linkEncControl
  let field := if direction = cxlIdeStreamDirectionRx then rxtranstoInsecureState
    else txtranstoInsecureState
  mmioWriteReg32 kcbar linkEncControl (field.set encCtrl insecureState.toNat)

def cxlIdeKmKeySetStop (direction : BitVec 8) (w : World) : Bool × World :=
  (!env.keySetStopError w.keySetStops.length, { w with
    keySetStops := w.keySetStops ++ [⟨env.streamId, direction ||| lib.subStreamCxl, w.portIndex⟩] })

def cxlStopIdeStream (w : World) : Bool × World :=
  match cxlIdeKmKeySetStop lib env lib.directionRx w with
  | (false, w) => (false, w)
  | (true, w) => cxlIdeKmKeySetStop lib env lib.directionTx w

def cxlTeardownIdeStream (w : World) : Bool × World :=
  match if kSetStopCapable env.devCaps then cxlStopIdeStream lib env w else (true, w) with
  | (false, w) => (false, w)
  | (true, w) =>
    let kcbar := cxlCfgRpTxrxTranstoInsecureState w.keys.kcbar cxlIdeStreamDirectionRx true
    let kcbar := cxlCfgRpTxrxTranstoInsecureState kcbar cxlIdeStreamDirectionTx true
    (true, { w with keys := { w.keys with kcbar := cxlCfgRpLinkencEnable kcbar false } })

/-! ## `cxl_ide_test_keyrefresh_run` -/

/-- The loop and `res` after it: none when it waits for a command. A port query that fails ends
the loop with `res` as it is. -/
def keyrefreshLoop : List Bool → World → Option (Bool × World)
  | [], _ => none
  | true :: _, w => some (true, w)
  | false :: typed, w =>
    match cxlIdeQueryPortIndex env w with
    | none => none
    | some (false, w) => some (true, { w with refreshes := w.refreshes ++ [false] })
    | some (true, w) =>
      match setupIdeStream lib env true w with
      | none => none
      | some (false, w) => some (false, { w with refreshes := w.refreshes ++ [false] })
      | some (true, w) => keyrefreshLoop typed { w with refreshes := w.refreshes ++ [true] }

def cxlIdeTestKeyrefreshRun (w : World) : Option World :=
  match keyrefreshLoop lib env env.typed w with
  | none => none
  | some (res, w) =>
    some { w with
      assertions := w.assertions ++ [Assertion.check 1 res
        (if res then "CXL-IDE KeyRefresh succeeded." else "CXL-IDE KeyRefresh failed.") []] }

def keyrefresh : CaseFunctions World where
  setup := cxlIdeTestKeyrefreshSetup lib env
  run := cxlIdeTestKeyrefreshRun lib env
  teardown w := some (cxlTeardownIdeStream lib env w).2
  configCheckRequired := false

/-! ## Test configurations -/

def pcrcDisable : Field := ⟨0, 1, Field.fits_0_1⟩

/-- `set_cxl_ide_pcrc_disable` for both ports, up to one without the register. -/
def setCxlIdePcrcDisable (set : Bool) (w : World) : Bool × World :=
  match w.upperControl with
  | none => (false, w)
  | some upper =>
    let w := { w with upperControl := some (pcrcDisable.set upper set.toNat) }
    match w.lowerControl with
    | none => (false, w)
    | some lower => (true, { w with lowerControl := some (pcrcDisable.set lower set.toNat) })

/-- The functions that are there for all configurations but `ide_stop`. -/
def configFunctions : ConfigFunctions ConfigurationType World where
  implemented type := type ≠ .ideStop
  support
    | .default, w => (env.ideCapable, w)
    | .getKey, w =>
      (env.fixedKey || ideKeyGenerationCapable env.devCaps && ivGenerationCapable env.devCaps, w)
    | _, w => (true, w)
  enable
    | .pcrcDisable, w => setCxlIdePcrcDisable true w
    | _, w => (true, w)
  disable
    | .pcrcDisable, w => setCxlIdePcrcDisable false w
    | _, w => (true, w)
  check _ w := (true, w)

def caseContext : CaseContext World where
  action := World.action
  setAction action w := { w with action := action }

/-- `do_run_test_case` with the key refresh case. -/
def doRunKeyrefresh (configs : List ConfigurationType) (w : World) : Option World :=
  (keyrefresh lib env).doRun caseContext (configFunctions env) configs w

end Case

end TeeIoValidator.CxlIdeTest
