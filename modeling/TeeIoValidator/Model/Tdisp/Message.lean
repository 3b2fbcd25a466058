import TeeIoValidator.Model.Report

/-! TDISP messages: requests, and the response fields that the cases read, at the offsets
of the TDISP specification. -/

namespace TeeIoValidator.Tdisp

open Report

/-- A request; each is sent with version 1.0 and the function id of the interface. -/
inductive Request where
  | getVersion
  | getCapabilities (tsmCaps : UInt32)
  | lockInterface (flags : UInt16) (defaultStreamId : UInt8) (mmioReportingOffset : UInt64)
      (bindP2pAddressMask : UInt64)
  | getInterfaceReport (offset length : ℕ)
  | getInterfaceState
  | startInterface (nonce : List UInt8)
  | stopInterface
  deriving Repr, DecidableEq

/-! ## Constants -/

def typeVersion : UInt8 := 0x01
def typeCapabilities : UInt8 := 0x02
def typeLockInterfaceRsp : UInt8 := 0x03
def typeInterfaceState : UInt8 := 0x05
def typeStartInterfaceRsp : UInt8 := 0x06
def typeStopInterfaceRsp : UInt8 := 0x07
def typeError : UInt8 := 0x7F

def stateConfigUnlocked : UInt8 := 0
def stateConfigLocked : UInt8 := 1
def stateRun : UInt8 := 2

def errorInvalidRequest : UInt32 := 0x0001
def errorInvalidInterfaceState : UInt32 := 0x0004
def errorInvalidNonce : UInt32 := 0x0102

/-- `TDISP_MMIO_REPORTING_OFFSET`. -/
def mmioReportingOffset : UInt64 := 0xD0000000

/-! ## Sizes of the response messages -/

def versionResponseSize : ℕ := 18
def capabilitiesResponseSize : ℕ := 44
def lockInterfaceResponseSize : ℕ := 48
def interfaceStateResponseSize : ℕ := 17
def startInterfaceResponseSize : ℕ := 16
def stopInterfaceResponseSize : ℕ := 16
def errorResponseSize : ℕ := 24

/-! ## Response buffers -/

/-- What the device answers to a request: the status of the transfer, the size of the
response and its bytes. -/
structure Reply where
  error : Bool
  size : ℕ
  bytes : ℕ → UInt8

/-- A response buffer after a successful exchange. -/
structure Response where
  size : ℕ
  bytes : ℕ → UInt8

def le16 (bytes : ℕ → UInt8) (i : ℕ) : ℕ := (bytes i).toNat + 256 * (bytes (i + 1)).toNat

def le32 (bytes : ℕ → UInt8) (i : ℕ) : ℕ := le16 bytes i + 65536 * le16 bytes (i + 2)

namespace Response

variable (r : Response)

def version : UInt8 := r.bytes 0
def messageType : UInt8 := r.bytes 1
def functionId : UInt32 := UInt32.ofNat (le32 r.bytes 4)
def errorCode : UInt32 := UInt32.ofNat (le32 r.bytes 16)
def tdiState : UInt8 := r.bytes 16
def versionNumCount : UInt8 := r.bytes 16
def versionNumEntry : UInt8 := r.bytes 17
def dsmCaps : UInt32 := UInt32.ofNat (le32 r.bytes 16)
def reqMsgSupported (i : ℕ) : UInt8 := r.bytes (20 + i)
def lockInterfaceFlagsSupported : UInt16 := UInt16.ofNat (le16 r.bytes 36)
def devAddrWidth : UInt8 := r.bytes 41
def numReqThis : UInt8 := r.bytes 42
def numReqAll : UInt8 := r.bytes 43
def startInterfaceNonce : List UInt8 := (List.range 32).map fun i => r.bytes (16 + i)

end Response

/-- The bytes that were received, and the previous contents of the buffer behind them. -/
def Reply.response (reply : Reply) (stack : ℕ → UInt8) : Response :=
  ⟨reply.size, fun i => if i < reply.size then reply.bytes i else stack i⟩

/-- A device-interface-report response as the report loop reads it. -/
def Reply.reportReply (reply : Reply) (stack : ℕ → UInt8) : Report.Reply TdispHeader :=
  let r := reply.response stack
  { error := reply.error
    status := 0
    size := reply.size
    header := ⟨r.version, r.messageType, r.functionId⟩
    portionLength := UInt16.ofNat (le16 r.bytes 16)
    remainderLength := UInt16.ofNat (le16 r.bytes 18)
    report := fun i => r.bytes (20 + i) }

end TeeIoValidator.Tdisp
