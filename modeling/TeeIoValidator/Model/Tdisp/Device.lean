import TeeIoValidator.Model.Tdisp.Case

/-! An interface of a device that conforms to the TDISP test documents: the states it goes
through, and what it may answer in each of them. -/

namespace TeeIoValidator.Tdisp

open Report

/-- A report that has the structure of case 4.5, read as natural numbers. -/
structure WellFormedReport (report : List UInt8) : Prop where
  length_lt : report.length < 2 ^ 16
  length_eq : report.length = 16 + 16 * le32 (report.getD · 0) 12 + 4 +
    le32 (report.getD · 0) (16 + 16 * le32 (report.getD · 0) 12)
  interfaceInfo : le16 (report.getD · 0) 0 &&& 0xFFE0 = 0
  rangeAttributes : ∀ i < le32 (report.getD · 0) 12,
    le32 (report.getD · 0) (16 + i * 16 + 12) &&& 0xFFF0 = 0

/-- What an interface tells about itself. -/
structure Interface where
  functionId : UInt32
  reqMsgs : ℕ
  lockInterfaceFlagsSupported : UInt16
  devAddrWidth : UInt8
  numReqThis : UInt8
  numReqAll : UInt8
  report : List UInt8
  wellFormed : WellFormedReport report

/-- The state of the interface, with the nonce of its last lock. -/
inductive Tdi where
  | unlocked
  | locked (nonce : List UInt8)
  | run (nonce : List UInt8)
  deriving Repr, DecidableEq

inductive Level where
  | unlocked
  | locked
  | run
  deriving Repr, DecidableEq

def Level.code : Level → UInt8
  | .unlocked => stateConfigUnlocked
  | .locked => stateConfigLocked
  | .run => stateRun

def Tdi.level : Tdi → Level
  | .unlocked => .unlocked
  | .locked _ => .locked
  | .run _ => .run

section

variable (i : Interface)

structure Message (messageType : UInt8) (size : ℕ) (reply : Reply) : Prop where
  error : reply.error = false
  size : reply.size = size
  version : reply.bytes 0 = tdispMessageVersion10
  messageType : reply.bytes 1 = messageType
  functionId : UInt32.ofNat (le32 reply.bytes 4) = i.functionId

structure ErrorMessage (code : UInt32) (reply : Reply) : Prop
    extends Message i typeError errorResponseSize reply where
  errorCode : UInt32.ofNat (le32 reply.bytes 16) = code

structure CapabilitiesMessage (reply : Reply) : Prop
    extends Message i typeCapabilities capabilitiesResponseSize reply where
  dsmCaps : UInt32.ofNat (le32 reply.bytes 16) = 0
  reqMsgs : le16 reply.bytes 20 = i.reqMsgs
  reqMsgs_rest : ∀ k < 14, reply.bytes (22 + k) = 0
  lockInterfaceFlagsSupported :
    UInt16.ofNat (le16 reply.bytes 36) = i.lockInterfaceFlagsSupported
  devAddrWidth : reply.bytes 41 = i.devAddrWidth
  numReqThis : reply.bytes 42 = i.numReqThis
  numReqAll : reply.bytes 43 = i.numReqAll

/-- A part of the report, from `offset` on and of at most `length` bytes. -/
structure PortionMessage (offset length : ℕ) (reply : Reply) : Prop
    extends Message i tdispDeviceInterfaceReport
      (tdispReportResponseSize + le16 reply.bytes 16) reply where
  portion_pos : 0 < le16 reply.bytes 16
  portion_le : le16 reply.bytes 16 ≤ length
  total : offset + le16 reply.bytes 16 + le16 reply.bytes 18 = i.report.length
  bytes : ∀ k < le16 reply.bytes 16, i.report[offset + k]? = some (reply.bytes (20 + k))

def Reply.nonce (reply : Reply) : List UInt8 := (List.range 32).map fun k => reply.bytes (16 + k)

/-- What the interface answers to a request in a state, and its next state. A lock is granted
when a stream is `configured` and all its flags are supported. -/
inductive Answers (configured : Bool) : Tdi → Request → Reply → Tdi → Prop where
  | version {s reply} : Message i typeVersion versionResponseSize reply → reply.bytes 16 = 1 →
      reply.bytes 17 = tdispMessageVersion10 → Answers configured s .getVersion reply s
  | capabilities {s tsmCaps reply} : CapabilitiesMessage i reply →
      Answers configured s (.getCapabilities tsmCaps) reply s
  | lock {flags stream offset mask reply} : configured = true →
      flags &&& ~~~i.lockInterfaceFlagsSupported = 0 →
      Message i typeLockInterfaceRsp lockInterfaceResponseSize reply →
      Answers configured .unlocked (.lockInterface flags stream offset mask) reply
        (.locked reply.nonce)
  | lockRefused {flags stream offset mask reply} :
      ¬(configured = true ∧ flags &&& ~~~i.lockInterfaceFlagsSupported = 0) →
      ErrorMessage i errorInvalidRequest reply →
      Answers configured .unlocked (.lockInterface flags stream offset mask) reply .unlocked
  | lockAgain {s flags stream offset mask reply} : s ≠ .unlocked →
      ErrorMessage i errorInvalidInterfaceState reply →
      Answers configured s (.lockInterface flags stream offset mask) reply s
  | portion {s offset length reply} : s ≠ .unlocked → PortionMessage i offset length reply →
      Answers configured s (.getInterfaceReport offset length) reply s
  | beyondReport {s offset length reply} : s ≠ .unlocked → i.report.length ≤ offset →
      ErrorMessage i errorInvalidRequest reply →
      Answers configured s (.getInterfaceReport offset length) reply s
  | noReport {offset length reply} : ErrorMessage i errorInvalidInterfaceState reply →
      Answers configured .unlocked (.getInterfaceReport offset length) reply .unlocked
  | state {s reply} : Message i typeInterfaceState interfaceStateResponseSize reply →
      reply.bytes 16 = s.level.code → Answers configured s .getInterfaceState reply s
  | start {nonce reply} : Message i typeStartInterfaceRsp startInterfaceResponseSize reply →
      Answers configured (.locked nonce) (.startInterface nonce) reply (.run nonce)
  | wrongNonce {nonce sent reply} : sent ≠ nonce → ErrorMessage i errorInvalidNonce reply →
      Answers configured (.locked nonce) (.startInterface sent) reply (.locked nonce)
  | startRefused {s nonce reply} : s.level ≠ .locked →
      ErrorMessage i errorInvalidInterfaceState reply →
      Answers configured s (.startInterface nonce) reply s
  | stop {s reply} : Message i typeStopInterfaceRsp stopInterfaceResponseSize reply →
      Answers configured s .stopInterface reply .unlocked

end

end TeeIoValidator.Tdisp
