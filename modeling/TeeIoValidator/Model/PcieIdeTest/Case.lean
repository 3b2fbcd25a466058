import TeeIoValidator.Model.PcieIdeTest.Ports

/-! The test cases of the PCIe IDE category that set up or stop a stream: `KSetGo`,
`KSetStop`, `IdeStream` and the two key refreshes. -/

namespace TeeIoValidator.PcieIdeTest

open PcieIde Runner

section Stream

variable (lib : PciIdeKmTestLib) (env : Environment) (stream : Stream)
  (topType : TopologyType)

/-! ## `setup_ide_stream` and `ide_key_switch_to`, with the ports -/

def pciIdeKmQuery (w : World) : Bool × World :=
  (!env.queryError w.queries, { w with queries := w.queries + 1 })

def programStream (ks : KeySet) (w : World) : Bool × World :=
  let (ret, keys) := PcieIde.programStream lib.toPciIdeKmLib env.toEnvironment stream ks w.kSet
    w.keys
  (ret, { w with keys := keys })

def kSetGoRequest (ks : KeySet) (direction : Direction) (substream : SubStream) : KSetGo where
  streamId := stream.streamId
  keySubStream := lib.keySets ks ||| lib.directions direction ||| lib.subStreams substream
  portIndex := stream.portIndex

def ideKmKeySetGo (request : KSetGo) (w : World) : Bool × World :=
  let (ret, keys) :=
    PcieIde.ideKmKeySetGo lib.toPciIdeKmLib env.toEnvironment request w.keys
  (ret, { w with
    keys := keys
    kSetGoKcbars := w.kSetGoKcbars ++ [(request, w.keys.kcbar)] })

/-- `ide_km_key_set_go` for one sub-stream after the other. -/
def ideKmKeySetGos (ks : KeySet) (direction : Direction) : List SubStream → World → Bool × World
  | [], w => (true, w)
  | substream :: substreams, w =>
    match ideKmKeySetGo lib env (kSetGoRequest lib stream ks direction substream) w with
    | (false, w) => (false, w)
    | (true, w) => ideKmKeySetGos ks direction substreams w

def selectKeySet (ks : KeySet) (w : World) : World :=
  w.setKcbar (setRpIdeKeySetSelect w.keys.kcbar stream.rpStreamIndex ks)

def goStream (ks : KeySet) (w : World) : Bool × World :=
  match ideKmKeySetGos lib env stream ks .rx [.pr, .npr, .cpl] w with
  | (false, w) => (false, w)
  | (true, w) => ideKmKeySetGos lib env stream ks .tx [.pr, .npr, .cpl] (selectKeySet stream ks w)

/-- None when the program is stopped by an assertion. -/
def setupIdeStream (ks : KeySet) (skipKsetgo : Bool) (w : World) : Option (Bool × World) :=
  match pciIdeKmQuery env w with
  | (false, w) => some (false, w)
  | (true, w) =>
    match programStream lib env stream ks w with
    | (false, w) => some (false, w)
    | (true, w) =>
      if skipKsetgo then some (true, w)
      else match goStream lib env stream ks w with
        | (false, w) => some (false, w)
        | (true, w) =>
          if topType = .selLinkIde then none
          else some (isIdeStreamSecure env (enableStream stream true w))

/-- None when the program is stopped, or still waits for slots. -/
def ideKeySwitchTo (ks : KeySet) (skipKsetgo : Bool) (w : World) : Option (Bool × World) :=
  if topType = .selLinkIde then none
  else if !isIdeEnabled w.upperCtrl then some (false, w)
  else if !isIdeEnabled w.lowerCtrl then some (false, w)
  else match waitForSlots (env.retries w.waits) w.keys with
    | none => none
    | some (none, keys) => some (false, { w with keys := keys, waits := w.waits + 1 })
    | some (some kSet, keys) =>
      match programStream lib env stream ks
        { w with keys := keys, kSet := kSet, waits := w.waits + 1 } with
      | (false, w) => some (false, w)
      | (true, w) =>
        if skipKsetgo then some (true, w)
        else match goStream lib env stream ks w with
          | (false, w) => some (false, w)
          | (true, w) => some (isIdeStreamSecure env w)

/-! ## Tested messages -/

def keySetName : KeySet → String
  | .ks0 => "K0"
  | .ks1 => "K1"

def directionName : Direction → String
  | .rx => "RX"
  | .tx => "TX"

def subStreamName : SubStream → String
  | .pr => "PR"
  | .npr => "NPR"
  | .cpl => "CPL"

def caseInfo (ks : KeySet) (direction : Direction) (substream : SubStream) : String :=
  keySetName ks ++ "|" ++ directionName direction ++ "|" ++ subStreamName substream

def separatorAssertion (text : String) : Assertion := ⟨0, .separator, .notTested, text, []⟩

/-- The assertions about the response to a `K_SET_GO` or a `K_SET_STOP`, with the status when
there is none. -/
def gostopAssertions (base : ℕ) (request : KSetGo) (status : ℕ) :
    Option KGostopAck → List Assertion
  | none =>
    [⟨0, .test, .failed, "pci_ide_km_send_receive_data failed with 0x%x", [status]⟩]
  | some response =>
    Assertion.check (base + 1) (response.size == lib.kpAckSize)
      "sizeof(IdeKmMessage) = 0x%lx" [response.size] ::
    if response.size ≠ lib.kpAckSize then []
    else
      [Assertion.check (base + 2) (response.objectId == lib.objectIdKSetGostopAck)
        "IdeKmMessage.ObjectID = 0x%x" [response.objectId.toNat],
      Assertion.check (base + 3) (response.portIndex == request.portIndex)
        "IdeKmMessage.PortIndex = 0x%x" [response.portIndex.toNat],
      Assertion.check (base + 4) (response.streamId == request.streamId)
        "IdeKmMessage.StreamID = 0x%x" [response.streamId.toNat],
      Assertion.check (base + 5) (response.keySubStream == request.keySubStream)
        ("IdeKmMessage.KeySet = 0x%02x && IdeKmMessage.RxTx = 0x%02x && " ++
          "IdeKmMessage.SubStream = 0x%02x")
        [(response.keySubStream &&& lib.keySetMask).toNat,
          (response.keySubStream &&& lib.directionMask).toNat,
          (response.keySubStream &&& lib.subStreamMask).toNat]]

def testIdeKmKeySetGo (phase1 : Bool) (ks : KeySet) (direction : Direction)
    (substream : SubStream) (w : World) : World :=
  let base := if phase1 then 0 else 5
  let request := kSetGoRequest lib stream ks direction substream
  let n := w.keys.kSetGos.length
  let w := w.record [separatorAssertion (caseInfo ks direction substream)]
  let w := { w with
    keys := { w.keys with kSetGos := w.keys.kSetGos ++ [request] }
    kSetGoKcbars := w.kSetGoKcbars ++ [(request, w.keys.kcbar)] }
  w.record (gostopAssertions lib base request (env.kSetGoStatus n) (env.kGostopAck n))

/-- `pci_ide_km_send_receive_data` for a `K_SET_STOP`. -/
def sendKSetStop (request : KSetGo) (w : World) : Option KGostopAck × World :=
  (env.kSetStopAck w.kSetStops.length, { w with kSetStops := w.kSetStops ++ [request] })

def testPciIdeKmKeySetStop (ks : KeySet) (direction : Direction) (substream : SubStream)
    (w : World) : World :=
  let request := kSetGoRequest lib stream ks direction substream
  let status := env.kSetStopStatus w.kSetStops.length
  let w := w.record [separatorAssertion (caseInfo ks direction substream)]
  let (response, w) := sendKSetStop env request w
  w.record (gostopAssertions lib 0 request status response)

/-- A tested message for each sub-stream. -/
def forSubStreams (test : SubStream → World → World) (w : World) : World :=
  test .cpl (test .npr (test .pr w))

/-! ## `pcie_ide_teardown_common` -/

def testFullIdeKmKeySetStop (request : KSetGo) (w : World) : Bool × World :=
  let (response, w) := sendKSetStop env request w
  match response with
  | none => (false, w)
  | some response =>
    (response.size == lib.kGostopAckSize && response.objectId == lib.objectIdKSetGostopAck &&
      response.portIndex == request.portIndex && response.streamId == request.streamId &&
      response.keySubStream == request.keySubStream, w)

/-- `K_SET_STOP` up to the first one that fails. -/
def keySetStops : List KSetGo → World → Bool × World
  | [], w => (true, w)
  | request :: requests, w =>
    match testFullIdeKmKeySetStop lib env request w with
    | (false, w) => (false, w)
    | (true, w) => keySetStops requests w

def pcieIdeTeardownCommon (ks : KeySet) (w : World) : Option (Bool × World) :=
  if topType = .selLinkIde then none
  else
    let requests := [Direction.rx, .tx].flatMap fun direction =>
      [SubStream.pr, .npr, .cpl].map (kSetGoRequest lib stream ks direction)
    some (keySetStops lib env requests (enableStream stream false w))

/-! ## `KSetGo` -/

/-- The first message that fails stops the program. -/
def testKsetgoSetupCommon (ks : KeySet) (w : World) : Option (Bool × World) :=
  match pciIdeKmQuery env w with
  | (false, _) => none
  | (true, w) =>
    match programStream lib env stream ks w with
    | (false, _) => none
    | (true, w) => some (true, w)

/-- The six messages for a key set; the root port's key set is `selected` in between, unless
the case has already failed. -/
def testKeySetGos (phase1 : Bool) (ks selected : KeySet) (w : World) : World :=
  let w := forSubStreams (testIdeKmKeySetGo lib env stream phase1 ks .rx) w
  let w := if w.result = .pass then selectKeySet stream selected w else w
  forSubStreams (testIdeKmKeySetGo lib env stream phase1 ks .tx) w

/-- A first phase, in cases 3.3 and 3.4. -/
def runPhase1 (ks : KeySet) (w : World) : Option (Bool × World) :=
  let w := testKeySetGos lib env stream true ks ks w
  if w.result ≠ .pass then some (false, w)
  else if topType = .selLinkIde then none
  else some (isUpperPortSecure env (enableStream stream true w))

def testKsetgo3RunPhase1 : World → Option (Bool × World) :=
  runPhase1 lib env stream topType .ks0

def testKsetgo3RunPhase2 (w : World) : Bool × World :=
  (true, testKeySetGos lib env stream false .ks1 .ks1 w)

def testKsetgo4RunPhase1 : World → Option (Bool × World) :=
  runPhase1 lib env stream topType .ks1

/-- The key set selected is not the one that is switched to. -/
def testKsetgo4RunPhase2 (w : World) : Bool × World :=
  (true, testKeySetGos lib env stream false .ks0 .ks1 w)

/-- The two phases with the key switch in between. -/
def runPhases (phase1 : World → Option (Bool × World)) (switchTo : KeySet)
    (phase2 : World → Bool × World) (w : World) : Option World :=
  match phase1 w with
  | none => none
  | some (false, w) => some w
  | some (true, w) =>
    match ideKeySwitchTo lib env stream topType switchTo true w with
    | none => none
    | some (false, w) => some w
    | some (true, w) => some (phase2 w).2

def pcieIdeTestKsetgo1Run (w : World) : Option World :=
  let w := testKeySetGos lib env stream true .ks0 .ks0 w
  if w.result ≠ .pass then some w
  else if topType = .selLinkIde then none
  else
    let (secure, w) := isIdeStreamSecure env (enableStream stream true w)
    let text := if secure then "SECURE" else "INSECURE"
    some (w.record [Assertion.check 6 secure ("ide_stream status is " ++ text ++ "\n") []])

def pcieIdeTestKsetgo2Run (w : World) : Option World :=
  let w := testKeySetGos lib env stream true .ks1 .ks1 w
  if w.result ≠ .pass then some w
  else if topType = .selLinkIde then none
  else some (enableStream stream true w)

def pcieIdeTestKsetgo3Run : World → Option World :=
  runPhases lib env stream topType (testKsetgo3RunPhase1 lib env stream topType) .ks1
    (testKsetgo3RunPhase2 lib env stream)

def pcieIdeTestKsetgo4Run : World → Option World :=
  runPhases lib env stream topType (testKsetgo4RunPhase1 lib env stream topType) .ks0
    (testKsetgo4RunPhase2 lib env stream)

/-! ## `KSetStop` -/

/-- `pcie_ide_test_ksetstop_3_setup` and `pcie_ide_test_ksetstop_4_setup`. -/
def setupAndSwitch (ks switchTo : KeySet) (w : World) : Option (Bool × World) :=
  match setupIdeStream lib env stream topType ks false w with
  | none => none
  | some (false, w) => some (false, w)
  | some (true, w) => ideKeySwitchTo lib env stream topType switchTo false w

/-- The run functions of the four cases. -/
def ksetstopRun (ks : KeySet) (w : World) : Option World :=
  if topType = .selLinkIde then none
  else
    let w := enableStream stream false w
    let w := forSubStreams (testPciIdeKmKeySetStop lib env stream ks .rx) w
    some (forSubStreams (testPciIdeKmKeySetStop lib env stream ks .tx) w)

/-! ## `IdeStream` and `KeyRefresh` -/

def pcieIdeTestFull1Run (w : World) : Option World :=
  if topType = .selLinkIde then none
  else match env.typed with
    | [] => none
    | _ :: _ => some (w.record [Assertion.check 1 true "PCIE-IDE Stream is setup." []])

/-- The commands of a key refresh, true for the one that quits: after the given number of
rounds, or as the user types them. -/
def refreshCommands : List Bool :=
  if 0 < env.testRounds ∧ 0 < env.testInterval then
    List.replicate env.testRounds false ++ [true]
  else env.typed

def otherKeySet : KeySet → KeySet
  | .ks0 => .ks1
  | .ks1 => .ks0

/-- The loop of `pcie_ide_keyrefresh_run_common`: none when it waits for a command. -/
def keyrefreshLoop : List Bool → World → Option (Bool × World)
  | [], _ => none
  | true :: _, w => some (true, w)
  | false :: commands, w =>
    let ks := otherKeySet w.mKeySet
    match ideKeySwitchTo lib env stream topType ks false w with
    | none => none
    | some (false, w) => some (false, { w with refreshes := w.refreshes ++ [false] })
    | some (true, w) =>
      keyrefreshLoop commands { w with mKeySet := ks, refreshes := w.refreshes ++ [true] }

def pcieIdeKeyrefreshRunCommon (w : World) : Option World :=
  if topType = .selLinkIde then none
  else match keyrefreshLoop lib env stream topType (refreshCommands env) w with
    | none => none
    | some (res, w) =>
      some (w.record [Assertion.check 1 res
        (if res then "PCIE-IDE KeyRefresh succeeded." else "PCIE-IDE KeyRefresh failed.") []])

def keyrefreshSetup (ks : KeySet) (w : World) : Option (Bool × World) :=
  setupIdeStream lib env stream topType ks false { w with mKeySet := ks }

/-! ## The table of cases -/

inductive CaseId where
  | ksetgo1 | ksetgo2 | ksetgo3 | ksetgo4
  | ksetstop1 | ksetstop2 | ksetstop3 | ksetstop4
  | full1 | keyrefreshKs0 | keyrefreshKs1
  deriving Repr, DecidableEq

def CaseId.setup : CaseId → World → Option (Bool × World)
  | .ksetgo1 => testKsetgoSetupCommon lib env stream .ks0
  | .ksetgo2 => testKsetgoSetupCommon lib env stream .ks1
  | .ksetgo3 => setupIdeStream lib env stream topType .ks0 true
  | .ksetgo4 => setupIdeStream lib env stream topType .ks1 true
  | .ksetstop1 => setupIdeStream lib env stream topType .ks0 false
  | .ksetstop2 => setupIdeStream lib env stream topType .ks1 false
  | .ksetstop3 => setupAndSwitch lib env stream topType .ks0 .ks1
  | .ksetstop4 => setupAndSwitch lib env stream topType .ks1 .ks0
  | .full1 => setupIdeStream lib env stream topType .ks0 false
  | .keyrefreshKs0 => keyrefreshSetup lib env stream topType .ks0
  | .keyrefreshKs1 => keyrefreshSetup lib env stream topType .ks1

def CaseId.run : CaseId → World → Option World
  | .ksetgo1 => pcieIdeTestKsetgo1Run lib env stream topType
  | .ksetgo2 => pcieIdeTestKsetgo2Run lib env stream topType
  | .ksetgo3 => pcieIdeTestKsetgo3Run lib env stream topType
  | .ksetgo4 => pcieIdeTestKsetgo4Run lib env stream topType
  | .ksetstop1 => ksetstopRun lib env stream topType .ks0
  | .ksetstop2 => ksetstopRun lib env stream topType .ks1
  | .ksetstop3 => ksetstopRun lib env stream topType .ks1
  | .ksetstop4 => ksetstopRun lib env stream topType .ks0
  | .full1 => pcieIdeTestFull1Run env topType
  | .keyrefreshKs0 => pcieIdeKeyrefreshRunCommon lib env stream topType
  | .keyrefreshKs1 => pcieIdeKeyrefreshRunCommon lib env stream topType

/-- The teardown functions of the `KSetStop` cases are empty. -/
def CaseId.teardown : CaseId → World → Option World
  | .ksetgo1 => fun w => (pcieIdeTeardownCommon lib env stream topType .ks0 w).map Prod.snd
  | .ksetgo2 => fun w => (pcieIdeTeardownCommon lib env stream topType .ks1 w).map Prod.snd
  | .ksetgo3 => fun w => (pcieIdeTeardownCommon lib env stream topType .ks1 w).map Prod.snd
  | .ksetgo4 => fun w => (pcieIdeTeardownCommon lib env stream topType .ks0 w).map Prod.snd
  | .ksetstop1 => some
  | .ksetstop2 => some
  | .ksetstop3 => some
  | .ksetstop4 => some
  | .full1 => fun w => (pcieIdeTeardownCommon lib env stream topType .ks0 w).map Prod.snd
  | .keyrefreshKs0 => fun w =>
    (pcieIdeTeardownCommon lib env stream topType w.mKeySet w).map Prod.snd
  | .keyrefreshKs1 => fun w =>
    (pcieIdeTeardownCommon lib env stream topType w.mKeySet w).map Prod.snd

/-- Only the `KSetGo` cases have the configuration checked. -/
def CaseId.configCheckRequired : CaseId → Bool
  | .ksetgo1 | .ksetgo2 | .ksetgo3 | .ksetgo4 => true
  | _ => false

def CaseId.functions (case : CaseId) : CaseFunctions World where
  setup := case.setup lib env stream topType
  run := case.run lib env stream topType
  teardown := case.teardown lib env stream topType
  configCheckRequired := case.configCheckRequired

def caseContext : CaseContext World where
  action := World.action
  setAction action w := { w with action := action }

/-- `do_run_test_case`. A list of configurations always begins with the default one. -/
def CaseId.doRun (case : CaseId) (configs : List ConfigurationType) (w : World) : Option World :=
  (case.functions lib env stream topType).doRun caseContext
    (configFunctions env stream topType) (.default :: configs) w

end Stream

end TeeIoValidator.PcieIdeTest
