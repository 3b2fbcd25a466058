import TeeIoValidator.Model.Report
import TeeIoValidator.Model.Runner

/-! Four cases of the CXL TSP category: the two of the locked configuration, the one that sets
the configuration and the one that fetches its report. -/

namespace TeeIoValidator.Tsp

open Runner

/-- The op-codes and the sizes of the messages that the cases look at, and the error code. Two
kinds of messages have two op-codes. -/
structure TspMessages extends Report.TspLib where
  getTargetCapabilitiesRsp : UInt8
  setTargetConfigurationRsp : UInt8
  getTargetConfigurationReportRsp : UInt8
  lockTargetConfigurationRsp : UInt8
  errorRsp : UInt8
  getTargetCapabilitiesRspSize : ℕ
  setTargetConfigurationRspSize : ℕ
  lockTargetConfigurationRspSize : ℕ
  errorRspSize : ℕ
  alreadyLocked : UInt32
  secondSessionCount : ℕ
  distinct : [getTargetConfigurationReport, getTargetCapabilitiesRsp, setTargetConfigurationRsp,
    getTargetConfigurationReportRsp, lockTargetConfigurationRsp, errorRsp].Nodup

/-- What the host finds after `cxl_tsp_send_receive_data`: the status, the size and the buffer,
read as a header with the fields of an error. -/
structure Reply where
  error : Bool
  status : ℕ
  size : ℕ
  header : Report.TspHeader
  errorCode : UInt32
  errorData : UInt32

/-- The fields of `libcxltsp_device_capabilities_t` that a case reads. -/
structure DeviceCapabilities where
  additionalSpdmSessions : Bool
  numberOfSecondarySessions : UInt8

/-- What the cases have to do with: whether the ports have the capabilities that the default
configuration wants, how the calls of the setup end, the device's replies and the random numbers. -/
structure Environment where
  capable : Bool
  getVersion : Bool
  getCapabilities : Option DeviceCapabilities
  lockConfiguration : Bool
  reply : Reply
  reports : ℕ → Report.Reply Report.TspHeader
  random : ℕ → Bool
  /-- What `configuration_report_size` holds on the stack. -/
  stackValue : UInt32

structure World where
  capabilities : DeviceCapabilities
  assertions : List Assertion
  action : Action

def World.record (w : World) (as : List Assertion) : World :=
  { w with assertions := w.assertions ++ as }

def World.result (w : World) : TestResult := testCaseResult w.assertions

section Cases

variable (lib : TspMessages) (env : Environment)

/-! ## Responses -/

/-- The checks of the cases: the size, without which there are no others, the op-code and the
version. -/
def testResponse (size : ℕ) (opCode : UInt8) (more : Reply → List Assertion) (reply : Reply) :
    List Assertion :=
  if reply.error then
    [.check 0 false "cxl_tsp_send_receive_data failed with 0x%x" [reply.status]]
  else
    let res := reply.size == size
    .check 1 res "sizeof(TspMessage) = 0x%lx" [reply.size] ::
      if !res then [] else
        [.check 2 (reply.header.opCode == opCode)
            "TspMessage.Opcode = 0x%x" [reply.header.opCode.toNat],
          .check 3 (reply.header.tspVersion == lib.messageVersion10)
            "TspMessage.TSPVersion = 0x%x" [reply.header.tspVersion.toNat]] ++ more reply

/-- The size and the op-code are those of `GET_TARGET_TSP_CAPABILITIES_RSP`. -/
def testCxlTspLockConfiguration : Reply → List Assertion :=
  testResponse lib lib.getTargetCapabilitiesRspSize lib.getTargetCapabilitiesRsp fun _ => []

def testCxlTspLockConfigurationAlreadyLocked : Reply → List Assertion :=
  testResponse lib lib.errorRspSize lib.errorRsp fun reply =>
    [.check 4 (reply.errorCode == lib.alreadyLocked)
        "TspMessage.ErrorCode = 0x%x" [reply.errorCode.toNat],
      .check 5 (reply.errorData == 0) "TspMessage.ErrorData = 0x%x" [reply.errorData.toNat]]

def testCxlTspSetConfiguration : Reply → List Assertion :=
  testResponse lib lib.setTargetConfigurationRspSize lib.setTargetConfigurationRsp fun _ => []

/-! ## Setup and run -/

/-- `cxl_tsp_get_version` and `cxl_tsp_get_capabilities`, with which every setup begins. -/
def setup (w : World) : Bool × World :=
  if !env.getVersion then (false, w)
  else
    match env.getCapabilities with
    | none => (false, { w with capabilities := ⟨false, 0⟩ })
    | some capabilities => (true, { w with capabilities := capabilities })

def cxlTspTestLockConfiguration1Setup : World → Bool × World := setup env

def cxlTspTestLockConfiguration2Setup (w : World) : Bool × World :=
  match setup env w with
  | (false, w) => (false, w)
  | (true, w) => (env.lockConfiguration, w)

def cxlTspTestLockConfiguration1Run (w : World) : World :=
  w.record (testCxlTspLockConfiguration lib env.reply)

def cxlTspTestLockConfiguration2Run (w : World) : World :=
  w.record (testCxlTspLockConfigurationAlreadyLocked lib env.reply)

def cxlTspTestSetConfigurationSetup : World → Bool × World := setup env

/-- The `switch` over the number of secondary sessions. -/
def configurationValidityFlags (numberOfSecondarySessions : UInt8) : Option (BitVec 8) :=
  if numberOfSecondarySessions = 1 then some 0x1
  else if numberOfSecondarySessions = 2 then some 0x3
  else if numberOfSecondarySessions = 3 then some 0x7
  else if numberOfSecondarySessions = 4 then some 0xf
  else none

/-- The random key material of each secondary session, up to a number that fails. -/
def secondarySessionKeys (flags : BitVec 8) : Bool :=
  (List.range lib.secondSessionCount).all fun index => !flags.getLsbD index || env.random index

def cxlTspTestSetConfigurationRun (w : World) : World :=
  if w.capabilities.additionalSpdmSessions then
    match configurationValidityFlags w.capabilities.numberOfSecondarySessions with
    | none => w.record [.check 0 false
        "device_capabilites.num_of_secondary_sessions is error - 0x%x"
        [w.capabilities.numberOfSecondarySessions.toNat]]
    | some flags =>
      if !secondarySessionKeys lib env flags then
        w.record [.check 0 false "libspdm_get_random_number is error" []]
      else w.record (testCxlTspSetConfiguration lib env.reply)
  else w.record (testCxlTspSetConfiguration lib env.reply)

def cxlTspTestGetConfigurationReportSetup : World → Bool × World := setup env

/-- With the rounds that the loop is given; none when they do not suffice. -/
def cxlTspTestGetConfigurationReportRun (rounds : ℕ) (w : World) : Option World :=
  (Report.cxlTspTestGetConfigurationReportRun lib.toTspLib env.reports env.stackValue rounds).map
    fun r => w.record r.2.records

/-! ## The cases as they are run -/

/-- The default configuration, the only one of the category. -/
def defaultConfig : ConfigItem World where
  support w := (env.capable, w)
  enable w := (true, w)
  disable w := (true, w)
  check w := (true, w)

def caseContext : CaseContext World where
  action := World.action
  setAction action w := { w with action := action }

def testCase (setup : World → Bool × World) (run : World → Option World) : TestCase World where
  setup := some setup
  run := some run
  teardown := some id
  configCheckRequired := false

def lockConfiguration1 : TestCase World :=
  testCase (cxlTspTestLockConfiguration1Setup env)
    fun w => some (cxlTspTestLockConfiguration1Run lib env w)

def lockConfiguration2 : TestCase World :=
  testCase (cxlTspTestLockConfiguration2Setup env)
    fun w => some (cxlTspTestLockConfiguration2Run lib env w)

def setConfiguration : TestCase World :=
  testCase (cxlTspTestSetConfigurationSetup env)
    fun w => some (cxlTspTestSetConfigurationRun lib env w)

def getConfigurationReport (rounds : ℕ) : TestCase World :=
  testCase (cxlTspTestGetConfigurationReportSetup env)
    (cxlTspTestGetConfigurationReportRun lib env rounds)

/-- A case is run, and what it is reported with. -/
def doRun (case : TestCase World) : Option TestResult :=
  (doRunTestCase caseContext case [defaultConfig env] ⟨⟨false, 0⟩, [], .run⟩).map
    fun r => r.2.result

end Cases

end TeeIoValidator.Tsp
