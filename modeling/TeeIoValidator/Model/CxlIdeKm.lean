import TeeIoValidator.Model.CxlIdeTest

/-! The cases of the CXL IDE category that look at a single CXL_IDE_KM message. -/

namespace TeeIoValidator.CxlIdeKm

open CxlIde

/-- The object ids of the responses, besides the flags of `key_sub_stream`. -/
structure CxlIdeKmMessages extends CxlIdeKmLib where
  queryResp : BitVec 8
  kpAck : BitVec 8
  kSetGostopAck : BitVec 8
  getKeyAck : BitVec 8

/-- `CXL_IDE_KM_KP_ACK_STATUS_SUCCESS`. -/
def kpAckStatusSuccess : BitVec 8 := 0x0

/-- `CXL_IDE_KM_KP_ACK_STATUS_INVALID`. -/
def kpAckStatusInvalid : BitVec 8 := 0x1

/-! Sizes of the messages, of which the header is one byte. -/

def queryRespSize : ℕ := 8
def kpAckSize : ℕ := 7
def kSetGostopAckSize : ℕ := 7
def getKeyAckSize : ℕ := 51
def keyProgSize : ℕ := 51

/-- What the host finds after `cxl_ide_km_send_receive_data`: the status, the size and the buffer,
of which the response is the first bytes and the rest is what the stack held before. -/
structure Reply where
  error : Bool
  status : ℕ
  size : ℕ
  buffer : ℕ → BitVec 8

/-- The fields of a request that a response is compared with. -/
structure Request where
  streamId : BitVec 8
  keySubStream : BitVec 8
  portIndex : BitVec 8

/-- The port that a `QUERY` is about. -/
structure Port where
  devFunc : BitVec 8
  bus : BitVec 8
  segment : BitVec 8

section Messages

variable (lib : CxlIdeKmMessages)

/-! ## Responses -/

/-- A response whose size has to be right for the other checks. -/
def checkResponse (res : ℕ → Bool) (checks : (ℕ → BitVec 8) → List Assertion) (reply : Reply) :
    List Assertion :=
  if reply.error then
    [.check 0 false "cxl_ide_km_send_receive_data failed with 0x%x" [reply.status]]
  else
    .check 1 (res reply.size) "sizeof(CxlIdeKmMessage) = 0x%lx" [reply.size] ::
      if !res reply.size then [] else checks reply.buffer

def checkObjectId (objectId : BitVec 8) (buffer : ℕ → BitVec 8) : Assertion :=
  .check 2 (buffer 0 == objectId) "CxlIdeKmMessage.ObjectID = 0x%x" [(buffer 0).toNat]

/-- The port, the stream and the sub-stream of an acknowledgement, from a number on. -/
def checkStream (number : ℕ) (request : Request) (buffer : ℕ → BitVec 8) : List Assertion :=
  [.check number (buffer 6 == request.portIndex) "CxlIdeKmMessage.PortIndex = 0x%x"
      [(buffer 6).toNat],
    .check (number + 1) (buffer 3 == request.streamId) "CxlIdeKmMessage.StreamID = 0x%x"
      [(buffer 3).toNat],
    .check (number + 2) (buffer 5 == request.keySubStream) "CxlIdeKmMessage.key_sub_stream = 0x%x"
      [(buffer 5).toNat]]

/-- The size fails the first assertion when it is that of `cxl_ide_km_query_resp_t`. -/
def testCxlIdeQuery (port : Port) (request : Request) : Reply → List Assertion :=
  checkResponse (fun size => if size = queryRespSize then false else true) fun buffer =>
    let version := (buffer 7).extractLsb' 0 4
    [checkObjectId lib.queryResp buffer,
      .check 3 (buffer 2 == request.portIndex) "CxlIdeKmMessage.PortIndex = 0x%x"
        [(buffer 2).toNat],
      .check 4 (decide (request.portIndex ≤ buffer 6)) "CxlIdeKmMessage.MaxPortIndex = 0x%x"
        [(buffer 6).toNat],
      .check 5 (port.devFunc == buffer 3 && port.bus == buffer 4 && port.segment == buffer 5)
        ("CxlIdeKmMessage.DevFunc = 0x%x && CxlIdeKmMessage.Bus = 0x%x && " ++
          "CxlIdeKmMessage.Segment = 0x%x")
        [(buffer 3).toNat, (buffer 4).toNat, (buffer 5).toNat],
      .check 6 (version == 1) "CxlIdeKmMessage.CXL_IDE_Capability_Version = 0x%x" [version.toNat]]

def checkKpAck (status : BitVec 8) (request : Request) : Reply → List Assertion :=
  checkResponse (· == kpAckSize) fun buffer =>
    [checkObjectId lib.kpAck buffer,
      .check 3 (buffer 4 == status) "CxlIdeKmMessage.Status = 0x%x" [(buffer 4).toNat]] ++
      checkStream 4 request buffer

def testCxlIdeKeyProgValidParams : Request → Reply → List Assertion :=
  checkKpAck lib kpAckStatusSuccess

def testCxlIdeKeyProg2 : Request → Reply → List Assertion := checkKpAck lib kpAckStatusInvalid

def testCxlIdeKeyProgInvalidParams : Request → Reply → List Assertion :=
  checkKpAck lib kpAckStatusInvalid

def doTestCxlIdeKsetGo (request : Request) : Reply → List Assertion :=
  checkResponse (· == kSetGostopAckSize) fun buffer =>
    checkObjectId lib.kSetGostopAck buffer :: checkStream 3 request buffer

def doTestCxlIdeKsetStop (request : Request) : Reply → List Assertion :=
  checkResponse (· == kSetGostopAckSize) fun buffer =>
    checkObjectId lib.kSetGostopAck buffer :: checkStream 3 request buffer

def testCxlIdeGetKey (request : Request) : Reply → List Assertion :=
  checkResponse (· == getKeyAckSize) fun buffer =>
    checkObjectId lib.getKeyAck buffer :: checkStream 3 request buffer

end Messages

/-! ## Cases -/

/-- The cases, where those that send the same message are told apart by their numbers. -/
inductive Case where
  | query1
  | query2
  | keyProg1
  | keyProg2
  | keyProg3
  | keyProg4
  | keyProg5
  | keyProg6
  | keyProg7
  | keyProg8
  | keyProg9
  | ksetGo1
  | ksetStop1
  | getKey1
  deriving Repr, DecidableEq

/-- What a case has to do with: the port and its largest index, as the group's setup and the one
of the case found it, the capabilities of the ports, the modes that can be enabled, why a
preparation fails, and the responses: those to a preparation, and in it to a request. -/
structure Environment where
  port : Port
  maxPortIndex : BitVec 8
  queriedMaxPortIndex : BitVec 8
  devCaps : ℕ → BitVec 8
  modeEnabled : ℕ → IdeMode → Bool
  preparationError : ℕ → Option String
  replies : ℕ → ℕ → Reply

/-- A round of a case: what separates it when it cannot be prepared, whether it is, with keys or
messages, and the requests, each with what separates it. -/
structure Round where
  info : String
  values : List ℕ
  prepares : Bool
  requests : List (Option String × Request)

section Cases

variable (lib : CxlIdeKmMessages) (env : Environment)

/-- A port index up to the largest. -/
def ports (maxPortIndex : BitVec 8) : List ℕ := List.range (maxPortIndex.toNat + 1)

def isPowerOfTwo (x : ℕ) : Bool := x != 0 && x &&& (x - 1) == 0

/-- `construct_test_port_index`: none when there is no larger index. -/
def testPortIndexes : List ℕ :=
  (List.range' (env.maxPortIndex.toNat + 1) (0xff - env.maxPortIndex.toNat)).filter fun i =>
    isPowerOfTwo i || i == env.maxPortIndex.toNat + 1 || i == 0xff

def testStreamIds : List ℕ :=
  (List.range' 1 0xff).filter fun i => isPowerOfTwo i || i == 1 || i == 0xff

def testSubStreams : List ℕ :=
  (List.range 0b10000).filter fun i => i != 0b1000 &&
    (isPowerOfTwo i || i == 0b0000 || i == 0b0111 || i == 0b1001 || i == 0b1111)

/-- The sizes of case 2. -/
def testRequestSizes : List ℕ :=
  (List.range keyProgSize).filter fun size => 8 ≤ size && size % 4 == 0 && size + 4 < keyProgSize

def request (streamId : ℕ) (keySubStream : BitVec 8) (portIndex : ℕ) : Request :=
  ⟨BitVec.ofNat 8 streamId, keySubStream, BitVec.ofNat 8 portIndex⟩

/-- The two directions of a message, with the flags that are the same. -/
def bothDirections (info : String) (values : List ℕ) (streamId : ℕ) (flags : BitVec 8)
    (portIndex : ℕ) : Round :=
  ⟨info, values, true,
    [(some (info ++ " RX"), request streamId (lib.directionRx ||| flags) portIndex),
      (some (info ++ " TX"), request streamId (lib.directionTx ||| flags) portIndex)]⟩

/-- `test_cxl_ide_key_prog`. -/
def testCxlIdeKeyProg (info : String) (values : List ℕ) (streamId : ℕ) (subStream : BitVec 8)
    (portIndex : ℕ) : Round :=
  bothDirections lib info values streamId (lib.ivDefault ||| subStream) portIndex

/-- `KEY_PROG` for the transmitting direction, with an IV of the device where it generates one. -/
def keyProgTx (iv : BitVec 8) (portIndex : ℕ) : Request :=
  request 0 (lib.directionTx ||| iv ||| lib.subStreamCxl) portIndex

def keyProgIv (ofDevice : Bool) : BitVec 8 := if ofDevice then lib.ivInitial else lib.ivDefault

def modeFlag : IdeMode → BitVec 8
  | .skid => lib.modeSkid
  | .containment => lib.modeContainment

def modeName : IdeMode → String
  | .skid => "skid"
  | .containment => "containment"

def enabledModes (portIndex : ℕ) : List IdeMode :=
  [.containment, .skid].filter fun mode => env.modeEnabled portIndex mode

def ksetRound (flags : BitVec 8) (portIndex : ℕ) (mode : IdeMode) : Round :=
  bothDirections lib ("  ide_mode = " ++ modeName mode ++ ", port_index = 0x%02x") [portIndex] 0
    (flags ||| lib.subStreamCxl) portIndex

def queryRequest (portIndex : ℕ) : Request := request 0 0 portIndex

def portInfo : String := "  port_index = 0x%02x"

/-- The ports with some capability. -/
def capablePorts (capable : BitVec 8 → Bool) : List ℕ :=
  (ports env.maxPortIndex).filter fun i => capable (env.devCaps i)

/-- The rounds of a case, none where its setup skips it. -/
def rounds : Case → List Round
  | .query1 => [⟨"", [], false, [(none, queryRequest 0)]⟩]
  | .query2 => (List.range' 1 env.queriedMaxPortIndex.toNat).map fun i =>
      ⟨"", [i], false, [(some "port_index = %d", queryRequest i)]⟩
  | .keyProg1 => (ports env.maxPortIndex).map fun i =>
      testCxlIdeKeyProg lib portInfo [i] 0 lib.subStreamCxl i
  | .keyProg2 => (ports env.maxPortIndex).flatMap fun i => testRequestSizes.map fun size =>
      testCxlIdeKeyProg lib "  RequestSize=0x%02x" [size] 0 lib.subStreamCxl i
  | .keyProg3 => (testPortIndexes env).map fun i =>
      testCxlIdeKeyProg lib portInfo [i] 0 lib.subStreamCxl i
  | .keyProg4 => (ports env.maxPortIndex).flatMap fun i => testStreamIds.map fun stream =>
      testCxlIdeKeyProg lib (portInfo ++ " stream_id=0x%02x") [i, stream] stream
        lib.subStreamCxl i
  | .keyProg5 => (ports env.maxPortIndex).flatMap fun i => testSubStreams.map fun sub =>
      testCxlIdeKeyProg lib (portInfo ++ " sub_stream=0x%02x") [i, sub] 0
        (BitVec.ofNat 8 (sub <<< 4) &&& 0xf0) i
  | .keyProg6 => (ports env.maxPortIndex).map fun i =>
      testCxlIdeKeyProg lib portInfo [i] 0 lib.subStreamCxl i
  | .keyProg7 => (capablePorts env ideKeyGenerationCapable).map fun i =>
      ⟨portInfo, [i], true,
        [(some portInfo, keyProgTx lib (keyProgIv lib (ivGenerationCapable (env.devCaps i))) i)]⟩
  | .keyProg8 => (capablePorts env ivGenerationCapable).map fun i =>
      ⟨portInfo, [i], true,
        [" IDE_IV = 0x1", " GeneratedIV - 1", " GeneratedIV + 1"].map fun iv =>
          (some (portInfo ++ iv),
            keyProgTx lib (keyProgIv lib (ideKeyGenerationCapable (env.devCaps i))) i)⟩
  | .keyProg9 => (capablePorts env fun caps => !ivGenerationCapable caps).map fun i =>
      ⟨portInfo, [i], true, [(some "  port_index= 0x%02x", keyProgTx lib lib.ivInitial i)]⟩
  | .ksetGo1 => (ports env.maxPortIndex).flatMap fun i =>
      (enabledModes env i).map fun mode => ksetRound lib (modeFlag lib mode) i mode
  | .ksetStop1 => (capablePorts env CxlIdeTest.kSetStopCapable).flatMap fun i =>
      (enabledModes env i).map fun mode => ksetRound lib 0 i mode
  | .getKey1 => (capablePorts env fun caps =>
        ideKeyGenerationCapable caps && ivGenerationCapable caps).map fun i =>
      ⟨portInfo, [i], false, [(some portInfo, request 0 lib.subStreamCxl i)]⟩

/-- The function that a case sends its requests with. -/
def validate : Case → Request → Reply → List Assertion
  | .query1 | .query2 => testCxlIdeQuery lib env.port
  | .keyProg1 => testCxlIdeKeyProgValidParams lib
  | .keyProg2 => testCxlIdeKeyProg2 lib
  | .keyProg3 | .keyProg4 | .keyProg5 | .keyProg6 | .keyProg7 | .keyProg8 | .keyProg9 =>
    testCxlIdeKeyProgInvalidParams lib
  | .ksetGo1 => doTestCxlIdeKsetGo lib
  | .ksetStop1 => doTestCxlIdeKsetStop lib
  | .getKey1 => testCxlIdeGetKey lib

def separators (values : List ℕ) : Option String → List Assertion
  | none => []
  | some format => [⟨0, .separator, .notTested, format, values⟩]

/-- A round records why it cannot be prepared, or each request with how its response is judged. -/
def runRound (case : Case) (round : Round) (n : ℕ) : List Assertion :=
  match if round.prepares then env.preparationError n else none with
  | some error => separators round.values (some round.info) ++ [.check 0 false error []]
  | none => round.requests.zipIdx.flatMap fun ((format, request), k) =>
      separators round.values format ++ validate lib env case request (env.replies n k)

def runCase (case : Case) : List Assertion :=
  (rounds lib env case).zipIdx.flatMap fun (round, n) => runRound lib env case round n

end Cases

end TeeIoValidator.CxlIdeKm
