import TeeIoValidator.Model.Runner
import TeeIoValidator.Model.Tdisp.Message

/-! The TDISP test cases: their setup, run and teardown functions, written as lists of
steps of the kinds that they are made of. -/

namespace TeeIoValidator.Tdisp

open Report Runner

inductive CaseId where
  | version1 | capabilities1
  | lockInterface1 | lockInterface2 | lockInterface3 | lockInterface4
  | interfaceReport1 | interfaceReport2 | interfaceReport3 | interfaceReport4
  | interfaceReport5
  | interfaceState1 | interfaceState2 | interfaceState3 | interfaceState4
  | startInterface1 | startInterface2 | startInterface3 | startInterface4
  | stopInterface1 | stopInterface2 | stopInterface3
  deriving Repr, DecidableEq

/-- The function that a request is sent from. -/
inductive Phase where
  | setup | run | teardown
  deriving Repr, DecidableEq

/-- The static variables of a case's source file. -/
structure Statics where
  setupSuccess : Bool
  lockInterfaceFlagsSupported : UInt16
  startInterfaceNonce : List UInt8

/-- The device and the parts of the program that are not modelled: the reply to the `n`-th
request, what its response buffer held before, the result of the `k`-th call of
`tdisp_test_set_ide_stream`, what the report buffer of a run holds, and two constants of
the TDISP library. -/
structure Environment where
  functionId : UInt32
  reply : ℕ → Reply
  stack : ℕ → ℕ → UInt8
  ideStream : ℕ → Bool
  reportStack : ℕ → UInt8
  portionLen : ℕ
  reportMaxSize : ℕ

/-- The state of the program: how often the environment was used, the requests that were
sent, the assertions of the current case, the action of its context, and the static
variables. -/
structure World where
  exchanges : ℕ
  ideStreams : ℕ
  requests : List (Phase × Request)
  records : List Assertion
  action : Action
  statics : CaseId → Statics

def World.setStatics (w : World) (c : CaseId) (st : Statics) : World :=
  { w with statics := Function.update w.statics c st }

def World.setSetupSuccess (w : World) (c : CaseId) (b : Bool) : World :=
  w.setStatics c { w.statics c with setupSuccess := b }

def World.record (w : World) (as : List Assertion) : World :=
  { w with records := w.records ++ as }

section
variable (w : World) (c : CaseId) (b : Bool) (as : List Assertion)

@[simp] theorem World.setSetupSuccess_exchanges :
    (w.setSetupSuccess c b).exchanges = w.exchanges := rfl
@[simp] theorem World.setSetupSuccess_ideStreams :
    (w.setSetupSuccess c b).ideStreams = w.ideStreams := rfl
@[simp] theorem World.setSetupSuccess_requests :
    (w.setSetupSuccess c b).requests = w.requests := rfl
@[simp] theorem World.setSetupSuccess_records :
    (w.setSetupSuccess c b).records = w.records := rfl
@[simp] theorem World.setSetupSuccess_action :
    (w.setSetupSuccess c b).action = w.action := rfl
@[simp] theorem World.setSetupSuccess_setupSuccess :
    ((w.setSetupSuccess c b).statics c).setupSuccess = b := by
  simp [World.setSetupSuccess, World.setStatics]

@[simp] theorem World.record_exchanges : (w.record as).exchanges = w.exchanges := rfl
@[simp] theorem World.record_requests : (w.record as).requests = w.requests := rfl
@[simp] theorem World.record_records : (w.record as).records = w.records ++ as := rfl
@[simp] theorem World.record_action : (w.record as).action = w.action := rfl
@[simp] theorem World.record_statics : (w.record as).statics = w.statics := rfl

end

/-! ## Exchanges -/

/-- `pci_tdisp_send_receive_data`, without a response when it fails. -/
def exchange (env : Environment) (phase : Phase) (request : Request) (w : World) :
    Option Response × World :=
  let n := w.exchanges
  let w := { w with exchanges := n + 1, requests := w.requests ++ [(phase, request)] }
  (if (env.reply n).error then none else some ((env.reply n).response (env.stack n)), w)

def tdispTestGetVersion (env : Environment) (phase : Phase) : World → Option Response × World :=
  exchange env phase .getVersion

def tdispTestGetCapabilities (env : Environment) (phase : Phase) :
    World → Option Response × World :=
  exchange env phase (.getCapabilities 0)

def tdispTestGetState (env : Environment) (phase : Phase) : World → Option Response × World :=
  exchange env phase .getInterfaceState

def tdispTestLockInterface (env : Environment) (phase : Phase) (flags : UInt16) :
    World → Option Response × World :=
  exchange env phase (.lockInterface flags 0 mmioReportingOffset 0)

def tdispTestStartInterface (env : Environment) (phase : Phase) (nonce : List UInt8) :
    World → Option Response × World :=
  exchange env phase (.startInterface nonce)

def tdispTestStopInterface (env : Environment) (phase : Phase) :
    World → Option Response × World :=
  exchange env phase .stopInterface

/-- The result of `tdisp_test_set_ide_stream`, which sends no TDISP request. -/
def tdispTestSetIdeStream (env : Environment) (w : World) : Bool × World :=
  (env.ideStream w.ideStreams, { w with ideStreams := w.ideStreams + 1 })

/-! ## Setup functions -/

inductive SetupStep where
  | getVersion
  | getVersionAnySize
  | getCapabilities
  | setIdeStream
  | lockInterface
  | startInterface
  | stopInterface
  | getState (expected : UInt8)
  deriving Repr, DecidableEq

/-- What a setup function does after its last step. -/
inductive SetupEnd where
  | succeed
  | setIdeStream
  | stateless
  deriving Repr, DecidableEq

inductive StepResult where
  | next
  | failed
  | skip
  deriving Repr, DecidableEq

/-- The check that setup functions make of an exchange: a response, of this size. -/
def ofSize (size : ℕ) (response : Option Response) : Option Response :=
  response.filter fun r => r.size == size

def setupStep (env : Environment) (c : CaseId) (step : SetupStep) (w : World) :
    StepResult × World :=
  match step with
  | .getVersion =>
    let (response, w) := tdispTestGetVersion env .setup w
    match ofSize versionResponseSize response with
    | none => (.failed, w)
    | some _ => (.next, w)
  | .getVersionAnySize =>
    let (response, w) := tdispTestGetVersion env .setup w
    match response with
    | none => (.failed, w)
    | some _ => (.next, w)
  | .getCapabilities =>
    let (response, w) := tdispTestGetCapabilities env .setup w
    match ofSize capabilitiesResponseSize response with
    | none => (.failed, w)
    | some r => (.next, w.setStatics c { w.statics c with
        lockInterfaceFlagsSupported := r.lockInterfaceFlagsSupported })
  | .setIdeStream =>
    let (res, w) := tdispTestSetIdeStream env w
    if res then (.next, w) else (.failed, w)
  | .lockInterface =>
    let flags := (w.statics c).lockInterfaceFlagsSupported
    let (response, w) := tdispTestLockInterface env .setup flags w
    match ofSize lockInterfaceResponseSize response with
    | none => (.failed, w)
    | some r => (.next, w.setStatics c { w.statics c with
        startInterfaceNonce := r.startInterfaceNonce })
  | .startInterface =>
    let nonce := (w.statics c).startInterfaceNonce
    let (response, w) := tdispTestStartInterface env .setup nonce w
    match ofSize startInterfaceResponseSize response with
    | none => (.failed, w)
    | some _ => (.next, w)
  | .stopInterface =>
    let (response, w) := tdispTestStopInterface env .setup w
    match ofSize stopInterfaceResponseSize response with
    | none => (.failed, w)
    | some _ => (.next, w)
  | .getState expected =>
    let (response, w) := tdispTestGetState env .setup w
    match ofSize interfaceStateResponseSize response with
    | none => (.failed, w)
    | some r => if r.tdiState ≠ expected then (.skip, { w with action := .skip }) else (.next, w)

def setupSteps (env : Environment) (c : CaseId) : List SetupStep → World → StepResult × World
  | [], w => (.next, w)
  | step :: steps, w =>
    match setupStep env c step w with
    | (.next, w) => setupSteps env c steps w
    | (.failed, w) => (.failed, w)
    | (.skip, w) => (.skip, w)

/-! ## Run functions -/

/-- The exchange that a run function tests: record 0 is the transfer (some cases record
only its failure), record 1 the size, and `checks` gives the others. -/
structure TestedExchange where
  request : Statics → Request
  recordPassed : Bool
  size : ℕ
  checks : UInt32 → Response → List Assertion

inductive RunStep where
  | exchange (e : TestedExchange)
  | interfaceReport (checks : (ℕ → UInt8) → ℕ → List Assertion)
  | finalState (id : ℕ) (expected : UInt8)

def headerChecks (messageType : UInt8) (functionId : UInt32) (r : Response) :
    List Assertion := [
  .check 2 (r.version == tdispMessageVersion10) "TdispMessage.TDISPVersion = 0x%x"
    [r.version.toNat],
  .check 3 (r.messageType == messageType) "TdispMessage.MessageType = 0x%x"
    [r.messageType.toNat],
  .check 4 (r.functionId == functionId) "TdispMessage.INTERFACE_ID = 0x%x"
    [r.functionId.toNat]]

def stateCheck (id : ℕ) (expected : UInt8) (r : Response) : Assertion :=
  .check id (r.tdiState == expected) "TdispMessage.TDI_STATE = 0x%x" [r.tdiState.toNat]

def errorChecks (errorCode : UInt32) (functionId : UInt32) (r : Response) : List Assertion :=
  headerChecks typeError functionId r ++
    [.check 5 (r.errorCode == errorCode) "TdispMessage.ERROR_CODE = 0x%x" [r.errorCode.toNat]]

def runExchange (env : Environment) (c : CaseId) (e : TestedExchange) (w : World) :
    Bool × World :=
  let (response, w) := exchange env .run (e.request (w.statics c)) w
  match response with
  | none => (false, w.record [.check 0 false "tdisp_send_receive_data" []])
  | some r =>
    let w := if e.recordPassed then w.record [.check 0 true "tdisp_send_receive_data" []] else w
    let res := r.size == e.size
    let w := w.record [.check 1 res "sizeof(TdispMessage) = 0x%x" [r.size]]
    if !res then (false, w) else (true, w.record (e.checks env.functionId r))

/-- `tdisp_test_get_interface_report` on the next replies of the device, and the checks of
the report it fetched. -/
def runInterfaceReport (env : Environment) (checks : (ℕ → UInt8) → ℕ → List Assertion)
    (fuel : ℕ) (w : World) : Option (Bool × World) :=
  let replies := fun k => (env.reply (w.exchanges + k)).reportReply (env.stack (w.exchanges + k))
  match tdispTestGetInterfaceReport env.portionLen env.functionId replies env.reportMaxSize
      env.reportStack fuel with
  | none => none
  | some (res, report) =>
    let w := { w.record report.records with
      exchanges := w.exchanges + report.requests.length
      requests := w.requests ++ report.requests.map fun request =>
        (.run, .getInterfaceReport request.offset request.length) }
    if res then some (true, w.record (checks report.buffer report.size)) else some (false, w)

/-- The closing `tdisp_test_get_state` of a run function. -/
def runFinalState (env : Environment) (id : ℕ) (expected : UInt8) (w : World) : World :=
  let (response, w) := tdispTestGetState env .run w
  match response with
  | none => w.record [.check id false "tdisp_test_get_state failed." []]
  | some r => w.record [stateCheck id expected r]

def runSteps (env : Environment) (c : CaseId) (fuel : ℕ) : List RunStep → World → Option World
  | [], w => some w
  | .exchange e :: steps, w =>
    let (go, w) := runExchange env c e w
    if go then runSteps env c fuel steps w else some w
  | .interfaceReport checks :: steps, w =>
    match runInterfaceReport env checks fuel w with
    | none => none
    | some (go, w) => if go then runSteps env c fuel steps w else some w
  | .finalState id expected :: steps, w =>
    runSteps env c fuel steps (runFinalState env id expected w)

/-! ## Cases -/

structure Case where
  setup : List SetupStep
  setupEnd : SetupEnd
  run : List RunStep

/-- The setup function of a case: it sets `setup_success` at its end and when it skips the
case, and leaves it as it is when a step fails. -/
def Case.setupFunc (case : Case) (env : Environment) (c : CaseId) (w : World) : Bool × World :=
  match setupSteps env c case.setup w with
  | (.failed, w) => (false, w)
  | (.skip, w) => (true, w.setSetupSuccess c true)
  | (.next, w) =>
    match case.setupEnd with
    | .succeed => (true, w.setSetupSuccess c true)
    | .setIdeStream =>
      let (res, w) := tdispTestSetIdeStream env w
      (res, w.setSetupSuccess c res)
    | .stateless => (true, w)

/-- The teardown function of a case. -/
def Case.teardownFunc (case : Case) (env : Environment) (c : CaseId) (w : World) : World :=
  match case.setupEnd with
  | .stateless => w
  | _ => if (w.statics c).setupSuccess then (tdispTestStopInterface env .teardown w).2 else w

def responseExchange (request : Statics → Request) (size : ℕ) (messageType : UInt8) :
    RunStep :=
  .exchange ⟨request, true, size, headerChecks messageType⟩

def errorExchange (recordPassed : Bool) (request : Statics → Request) (errorCode : UInt32) :
    RunStep :=
  .exchange ⟨request, recordPassed, errorResponseSize, errorChecks errorCode⟩

def lockRequest (st : Statics) : Request :=
  .lockInterface st.lockInterfaceFlagsSupported 0 mmioReportingOffset 0

def startRequest (st : Statics) : Request := .startInterface st.startInterfaceNonce

/-- Case 6.2 sends the complement of the nonce. -/
def wrongStartRequest (st : Statics) : Request :=
  .startInterface (st.startInterfaceNonce.map fun b => ~~~b)

def versionChecks (functionId : UInt32) (r : Response) : List Assertion :=
  headerChecks typeVersion functionId r ++ [
    .check 5 (r.versionNumCount == 1) "TdispMessage.VERSION_NUM_COUNT = 0x%x"
      [r.versionNumCount.toNat],
    .check 6 (r.versionNumEntry == tdispMessageVersion10)
      "TdispMessage.VERSION_NUM_ENTRY[0] = 0x%x" [r.versionNumEntry.toNat]]

/-- `expected_supported_bits`: one bit for each of the messages `81, ..., 87`, from bit `1`
on. -/
def expectedSupportedBits : ℕ :=
  ([81, 82, 83, 84, 85, 86, 87].map fun message => 1 <<< (message - 80)).foldl (· ||| ·) 0

def capabilitiesChecks (functionId : UInt32) (r : Response) : List Assertion :=
  let firstTwoBytes := le16 r.bytes 20
  let theRest := ((List.range 14).map fun i => r.reqMsgSupported (i + 2)).foldl (· ||| ·) 0
  let flags := r.lockInterfaceFlagsSupported &&& 0xFFE0
  headerChecks typeCapabilities functionId r ++ [
    .check 5 (r.dsmCaps == 0) "TdispMessage.DSM_CAPS = 0x%x" [r.dsmCaps.toNat],
    .check 6 (firstTwoBytes == expectedSupportedBits && theRest == 0)
      "(TdispMessage.REQ_MSGS_SUPPORTED[0..2] = 0x%x) && (TdispMessage.REQ_MSGS_SUPPORTED[2..16] = 0x%x)"
      [firstTwoBytes, theRest.toNat],
    .check 7 (flags == 0) "(TdispMessage.LOCK_INTERFACE_FLAGS_SUPPORTED & 0xFFE0) = 0x%x"
      [flags.toNat],
    .check 8 (decide (52 ≤ r.devAddrWidth)) "TdispMessage.DEV_ADDR_WIDTH = 0x%x"
      [r.devAddrWidth.toNat],
    .check 9 (decide (0 < r.numReqThis)) "TdispMessage.NUM_REQ_THIS = 0x%x"
      [r.numReqThis.toNat],
    .check 10 (decide (0 < r.numReqAll)) "TdispMessage.NUM_REQ_ALL = 0x%x"
      [r.numReqAll.toNat]]

/-- The checks of case 4.5 on the report it fetched; the arithmetic is that of
`uint32_t`. -/
def reportStructureChecks (report : ℕ → UInt8) (size : ℕ) : List Assertion :=
  let interfaceInfo := le16 report 0
  let mmioRangeCount := le32 report 12
  let deviceSpecificInfoLen := le32 report ((16 + mmioRangeCount * 16) % 2 ^ 32)
  let res := size == (16 + mmioRangeCount * 16 + 4 + deviceSpecificInfoLen) % 2 ^ 32
  if !res then [.check 6 false "sizeof(REPORT_BYTES) = 0x%x" []]
  else
    [.check 6 true "sizeof(REPORT_BYTES) = 0x%x" [],
      .check 7 (interfaceInfo &&& 0xFFE0 == 0) "(REPORT_BYTES.INTERFACE_INFO & 0xFFE0) = 0x%x"
        [interfaceInfo &&& 0xFFE0]] ++
    (List.range mmioRangeCount).map fun i =>
      let rangeAttributes := le32 report ((16 + i * 16 + 12) % 2 ^ 32)
      .check 8 (rangeAttributes &&& 0xFFF0 == 0)
        "(REPORT_BYTES.MMIO_RANGE[i].RangeAttributes & 0xFFF0) = 0x%x"
        [rangeAttributes &&& 0xFFF0]

/-- The steps that every setup function but two begins with. -/
def negotiate : List SetupStep := [.getVersion, .getCapabilities]

/-- The steps that lead to a locked interface. -/
def lock : List SetupStep := negotiate ++ [.setIdeStream, .lockInterface]

/-- The interface-state cases test `GET_DEVICE_INTERFACE_STATE` itself. -/
def interfaceStateRun (expected : UInt8) : List RunStep :=
  [.exchange ⟨fun _ => .getInterfaceState, true, interfaceStateResponseSize,
    fun functionId r =>
      headerChecks typeInterfaceState functionId r ++ [stateCheck 5 expected r]⟩]

def stopInterfaceRun : List RunStep :=
  [responseExchange (fun _ => .stopInterface) stopInterfaceResponseSize typeStopInterfaceRsp,
    .finalState 5 stateConfigUnlocked]

def CaseId.case : Environment → CaseId → Case
  | _, .version1 =>
    ⟨[], .stateless,
      [.exchange ⟨fun _ => .getVersion, true, versionResponseSize, versionChecks⟩]⟩
  | _, .capabilities1 =>
    ⟨[.getVersionAnySize], .stateless,
      [.exchange ⟨fun _ => .getCapabilities 0, false, capabilitiesResponseSize,
        capabilitiesChecks⟩]⟩
  | _, .lockInterface1 =>
    ⟨negotiate ++ [.getState stateConfigUnlocked], .setIdeStream,
      [responseExchange lockRequest lockInterfaceResponseSize typeLockInterfaceRsp,
        .finalState 5 stateConfigLocked]⟩
  | _, .lockInterface2 =>
    ⟨negotiate ++ [.getState stateConfigUnlocked], .succeed,
      [errorExchange true lockRequest errorInvalidRequest, .finalState 6 stateConfigUnlocked]⟩
  | _, .lockInterface3 =>
    ⟨lock ++ [.getState stateConfigLocked], .succeed,
      [errorExchange true lockRequest errorInvalidInterfaceState,
        .finalState 6 stateConfigLocked]⟩
  | _, .lockInterface4 =>
    ⟨lock ++ [.startInterface, .getState stateRun], .succeed,
      [errorExchange true lockRequest errorInvalidInterfaceState, .finalState 6 stateRun]⟩
  | _, .interfaceReport1 =>
    ⟨lock ++ [.getState stateConfigLocked], .succeed,
      [.interfaceReport fun _ _ => [], .finalState 6 stateConfigLocked]⟩
  | _, .interfaceReport2 =>
    ⟨lock ++ [.startInterface, .getState stateRun], .succeed,
      [.interfaceReport fun _ _ => [], .finalState 6 stateRun]⟩
  | _, .interfaceReport3 =>
    ⟨lock ++ [.getState stateConfigLocked], .succeed,
      [errorExchange false (fun _ => .getInterfaceReport 0xFFFF 1) errorInvalidRequest,
        .finalState 6 stateConfigLocked]⟩
  | env, .interfaceReport4 =>
    ⟨negotiate ++ [.getState stateConfigUnlocked], .succeed,
      [errorExchange false (fun _ => .getInterfaceReport 0 env.portionLen)
          errorInvalidInterfaceState,
        .finalState 6 stateConfigUnlocked]⟩
  | _, .interfaceReport5 =>
    ⟨lock ++ [.getState stateConfigLocked], .succeed, [.interfaceReport reportStructureChecks]⟩
  | _, .interfaceState1 => ⟨negotiate, .succeed, interfaceStateRun stateConfigUnlocked⟩
  | _, .interfaceState2 => ⟨lock, .succeed, interfaceStateRun stateConfigLocked⟩
  | _, .interfaceState3 => ⟨lock ++ [.startInterface], .succeed, interfaceStateRun stateRun⟩
  | _, .interfaceState4 =>
    ⟨lock ++ [.startInterface, .stopInterface], .succeed,
      interfaceStateRun stateConfigUnlocked⟩
  | _, .startInterface1 =>
    ⟨lock ++ [.getState stateConfigLocked], .succeed,
      [responseExchange startRequest startInterfaceResponseSize typeStartInterfaceRsp,
        .finalState 5 stateRun]⟩
  | _, .startInterface2 =>
    ⟨lock ++ [.getState stateConfigLocked], .succeed,
      [errorExchange true wrongStartRequest errorInvalidNonce, .finalState 6 stateConfigLocked]⟩
  | _, .startInterface3 =>
    ⟨lock ++ [.stopInterface, .getState stateConfigUnlocked], .succeed,
      [errorExchange true startRequest errorInvalidInterfaceState,
        .finalState 6 stateConfigUnlocked]⟩
  | _, .startInterface4 =>
    ⟨lock ++ [.startInterface, .getState stateRun], .succeed,
      [errorExchange true startRequest errorInvalidInterfaceState, .finalState 6 stateRun]⟩
  | _, .stopInterface1 =>
    ⟨lock ++ [.startInterface, .getState stateRun], .succeed, stopInterfaceRun⟩
  | _, .stopInterface2 => ⟨lock ++ [.getState stateConfigLocked], .succeed, stopInterfaceRun⟩
  | _, .stopInterface3 =>
    ⟨negotiate ++ [.setIdeStream, .getState stateConfigUnlocked], .succeed, stopInterfaceRun⟩

/-! ## Runs of a case -/

/-- What `do_run_test_case` is called with: the case, the action that its context holds at
that time, and the outcomes of the functions of the only TDISP config item. -/
structure Run where
  case : CaseId
  action : Action
  supported : Bool
  enabled : Bool
  checked : Bool

/-- The default config item acts on the IDE registers only; its disable function returns
true. -/
def Run.configItem (run : Run) : ConfigItem World :=
  ⟨fun w => (run.supported, w), fun w => (run.enabled, w), fun w => (true, w),
    fun w => (run.checked, w)⟩

def caseContext : CaseContext World := ⟨World.action, fun action w => { w with action }⟩

def Run.testCase (run : Run) (env : Environment) (fuel : ℕ) : TestCase World :=
  { setup := some ((run.case.case env).setupFunc env run.case)
    run := some (runSteps env run.case fuel (run.case.case env).run)
    teardown := some ((run.case.case env).teardownFunc env run.case)
    configCheckRequired := true }

/-- One call of `do_run_test_case`, with an empty list of results for the case. -/
def Run.execute (run : Run) (env : Environment) (fuel : ℕ) (w : World) : Option World :=
  (doRunTestCase caseContext (run.testCase env fuel) [run.configItem]
    { w with action := run.action, records := [] }).map Prod.snd

end TeeIoValidator.Tdisp
