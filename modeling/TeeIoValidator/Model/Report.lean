import TeeIoValidator.Library.Iteration
import TeeIoValidator.Model.Assertion

/-! The two loops that fetch a report in portions: the TDISP interface report and the CXL
TSP configuration report. They are one loop with different headers, checks and texts. -/

namespace TeeIoValidator.Report

/-- A request for a portion; `H` is the protocol's message header. -/
structure Request (H : Type*) where
  header : H
  offset : ℕ
  length : ℕ
  deriving Repr, DecidableEq

/-- What the host finds after a send and receive: the status, the received size and the
response buffer. -/
structure Reply (H : Type*) where
  error : Bool
  status : ℕ
  size : ℕ
  header : H
  portionLength : UInt16
  remainderLength : UInt16
  report : ℕ → UInt8

section

variable {H : Type*}

def Reply.portion (reply : Reply H) : ℕ := reply.portionLength.toNat

def Reply.remainder (reply : Reply H) : ℕ := reply.remainderLength.toNat

/-- A copy into the report buffer. -/
structure Copy where
  start : ℕ
  length : ℕ
  deriving Repr, DecidableEq

/-- The local variables of the loop, the caller's buffer and its `*report_size`, and what
was requested, copied and recorded. -/
structure State (H : Type*) where
  round : ℕ
  offset : ℕ
  remainder : ℕ
  total : ℕ
  size : ℕ
  buffer : ℕ → UInt8
  requests : List (Request H)
  copies : List Copy
  records : List Assertion

/-- What the two protocols have of their own. -/
structure Protocol (H : Type*) where
  requestHeader : H
  portionLen : ℕ
  responseSize : ℕ
  opening : ℕ → List Assertion
  sendFailed : Reply H → Assertion
  sizeAccepted : Request H → Reply H → Bool
  sizeFormat : String
  checks : Request H → Reply H → List Assertion
  tooSmall : ℕ → Assertion
  mismatch : ℕ → Assertion
  sizeAccepted_of_conforming : ∀ request reply, reply.size = responseSize + reply.portion →
    reply.portion ≤ request.length → sizeAccepted request reply = true
  sendFailed_result : ∀ reply, (sendFailed reply).result = .failed
  tooSmall_result : ∀ size, (tooSmall size).result = .failed
  mismatch_result : ∀ total, (mismatch total).result = .failed

def State.record (s : State H) (as : List Assertion) : State H :=
  { s with records := s.records ++ as }

/-- `libspdm_copy_mem` of the portion to `report + offset`. -/
def State.copyPortion (s : State H) (reply : Reply H) : State H :=
  { s with
    buffer := fun i =>
      if s.offset ≤ i ∧ i < s.offset + reply.portion then reply.report (i - s.offset)
      else s.buffer i
    copies := s.copies ++ [⟨s.offset, reply.portion⟩] }

/-- One round of the `do` loop. `replies k` is the reply to the `k`-th request; the result
tells whether the report was completed. -/
def round (P : Protocol H) (replies : ℕ → Reply H) (s : State H) :
    State H ⊕ (Bool × State H) :=
  let request : Request H :=
    ⟨P.requestHeader, s.offset,
      if s.offset ≠ 0 then min s.remainder P.portionLen else P.portionLen⟩
  let reply := replies s.round
  let s := { s with requests := s.requests ++ [request] }
  let s := s.record (P.opening s.round)
  if reply.error then .inr (false, s.record [P.sendFailed reply])
  else
    let res := P.sizeAccepted request reply
    let s := s.record [.check 1 res P.sizeFormat [reply.size]]
    if !res then .inr (false, s)
    else
      let s := s.record (P.checks request reply)
      if s.offset = 0 ∧ s.size < reply.portion + reply.remainder then
        .inr (false, { s.record [P.tooSmall s.size] with
          size := reply.portion + reply.remainder, total := reply.portion + reply.remainder })
      else if s.offset ≠ 0 ∧ s.total ≠ s.offset + reply.portion + reply.remainder then
        .inr (false, s.record [P.mismatch s.total])
      else
        let total := if s.offset = 0 then reply.portion + reply.remainder else s.total
        -- `offset` is a `uint16_t`
        let s := { s.copyPortion reply with
          round := s.round + 1, offset := (s.offset + reply.portion) % 2 ^ 16,
          remainder := reply.remainder, total := total }
        if reply.remainder ≠ 0 then .inl s else .inr (true, { s with size := total })

/-- The state in which the loop is entered, with the caller's buffer and size. -/
def start (size : ℕ) (buffer : ℕ → UInt8) : State H :=
  { round := 0, offset := 0, remainder := 0, total := 0, size, buffer,
    requests := [], copies := [], records := [] }

/-- At most `fuel` rounds of the loop. -/
def fetch (P : Protocol H) (replies : ℕ → Reply H) (size : ℕ) (buffer : ℕ → UInt8)
    (fuel : ℕ) : Option (Bool × State H) :=
  Iteration.run (round P replies) fuel (start size buffer)

end

/-! ## TDISP -/

structure TdispHeader where
  version : UInt8
  messageType : UInt8
  functionId : UInt32
  deriving Repr, DecidableEq

def tdispMessageVersion10 : UInt8 := 0x10
def tdispGetDeviceInterfaceReport : UInt8 := 0x84
def tdispDeviceInterfaceReport : UInt8 := 0x04

/-- `sizeof (pci_tdisp_device_interface_report_response_t)`. -/
def tdispReportResponseSize : ℕ := 20

/-- The body of `tdisp_test_get_interface_report`; `portionLen` stands for
`LIBTDISP_INTERFACE_REPORT_PORTION_LEN`. -/
def tdispProtocol (portionLen : ℕ) (functionId : UInt32) : Protocol TdispHeader where
  requestHeader := ⟨tdispMessageVersion10, tdispGetDeviceInterfaceReport, functionId⟩
  portionLen := portionLen
  responseSize := tdispReportResponseSize
  opening _ := []
  sendFailed _ := .check 0 false "tdisp_send_receive_data" []
  sizeAccepted request reply :=
    decide (tdispReportResponseSize ≤ reply.size) && decide (reply.portion ≤ request.length) &&
      decide (reply.size = tdispReportResponseSize + reply.portion)
  sizeFormat := "sizeof(TdispMessage) = 0x%x"
  checks _ reply := [
    .check 2 (reply.header.version == tdispMessageVersion10)
      "TdispMessage.TDISPVersion = 0x%x" [reply.header.version.toNat],
    .check 3 (reply.header.messageType == tdispDeviceInterfaceReport)
      "TdispMessage.MessageType = 0x%x" [reply.header.messageType.toNat],
    .check 4 (reply.header.functionId == functionId)
      "TdispMessage.INTERFACE_ID = 0x%x" [reply.header.functionId.toNat],
    .check 5 (reply.portion != 0)
      "TdispMessage.PORTION_LENGTH = 0x%x" [reply.portion]]
  tooSmall _ := .check 6 false "Not enough buffer size for interface report." []
  mismatch _ := .check 6 false "total_report_length is not correct." []
  sizeAccepted_of_conforming request reply hsize hlen := by
    simp [hsize, hlen]
  sendFailed_result _ := rfl
  tooSmall_result _ := rfl
  mismatch_result _ := rfl

def tdispTestGetInterfaceReport (portionLen : ℕ) (functionId : UInt32)
    (replies : ℕ → Reply TdispHeader) (interfaceReportSize : ℕ)
    (interfaceReport : ℕ → UInt8) (fuel : ℕ) : Option (Bool × State TdispHeader) :=
  fetch (tdispProtocol portionLen functionId) replies interfaceReportSize interfaceReport fuel

/-! ## CXL TSP -/

structure TspHeader where
  tspVersion : UInt8
  opCode : UInt8
  deriving Repr, DecidableEq

/-- Constants of the CXL TSP library. -/
structure TspLib where
  messageVersion10 : UInt8
  getTargetConfigurationReport : UInt8
  portionLen : ℕ
  maxSize : ℕ

/-- `sizeof(cxl_tsp_get_target_configuration_report_rsp_t)`. -/
def tspReportResponseSize : ℕ := 8

/-- The body of `test_cxl_tsp_get_configuration_report`. -/
def tspProtocol (lib : TspLib) : Protocol TspHeader where
  requestHeader := ⟨lib.messageVersion10, lib.getTargetConfigurationReport⟩
  portionLen := lib.portionLen
  responseSize := tspReportResponseSize
  opening round := [⟨0, .separator, .notTested, "TSP_GET_CONFIGURATION_REPORT round-%d\n",
    [round]⟩]
  sendFailed reply :=
    .check 0 false "cxl_tsp_send_receive_data failed with 0x%x" [reply.status]
  sizeAccepted _ reply := decide (reply.size = tspReportResponseSize + reply.portion)
  sizeFormat := "sizeof(TspMessage) = 0x%lx"
  checks request reply := [
    .check 2 (reply.header.opCode == lib.getTargetConfigurationReport)
      "TspMessage.Opcode = 0x%x" [reply.header.opCode.toNat],
    .check 3 (reply.header.tspVersion == request.header.tspVersion)
      "TspMessage.TSPVersion = 0x%x" [reply.header.tspVersion.toNat],
    .check 4 (decide (0 < reply.portion) && decide (reply.portion ≤ request.length))
      "TspMessage.PortionLength = 0x%x" [reply.portion]]
  tooSmall size := .check 0 false "Configuration report size too small - 0x%x" [size]
  mismatch total := .check 0 false "Total report size mismatch - 0x%x" [total]
  sizeAccepted_of_conforming _ reply hsize _ := by simp [hsize]
  sendFailed_result _ := rfl
  tooSmall_result _ := rfl
  mismatch_result _ := rfl

/-- The function has no result of its own; the flag only says how the loop was left. -/
def testCxlTspGetConfigurationReport (lib : TspLib) (replies : ℕ → Reply TspHeader)
    (configurationReportSize : ℕ) (configurationReport : ℕ → UInt8) (fuel : ℕ) :
    Option (Bool × State TspHeader) :=
  fetch (tspProtocol lib) replies configurationReportSize configurationReport fuel

/-- `cxl_tsp_test_get_configuration_report_run` leaves `configuration_report_size`
uninitialised, so it is what the stack holds; the buffer has `lib.maxSize` bytes. -/
def cxlTspTestGetConfigurationReportRun (lib : TspLib) (replies : ℕ → Reply TspHeader)
    (stackValue : UInt32) (fuel : ℕ) : Option (Bool × State TspHeader) :=
  testCxlTspGetConfigurationReport lib replies stackValue.toNat (fun _ => 0) fuel

/-- The part of `tdisp_test_interface_report_1_run` (and of cases 2 and 5) that fetches the
report into a buffer of `maxSize` bytes (`LIBTDISP_INTERFACE_REPORT_MAX_SIZE`) that holds
`stack`. -/
def tdispTestInterfaceReportFetch (portionLen maxSize : ℕ) (functionId : UInt32)
    (replies : ℕ → Reply TdispHeader) (stack : ℕ → UInt8) (fuel : ℕ) :
    Option (Bool × State TdispHeader) :=
  tdispTestGetInterfaceReport portionLen functionId replies maxSize stack fuel

end TeeIoValidator.Report
