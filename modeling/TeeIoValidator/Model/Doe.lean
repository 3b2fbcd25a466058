import Mathlib.Data.BitVec
import Mathlib.Data.Nat.Basic
import Mathlib.Tactic.Common

/-! Sending and receiving data objects through the registers of a PCI DOE instance.

The instance is seen through the values its registers return; the host's side effects
are kept as the list of accesses it made. The extended capability is taken to be found,
and the debug output is left out. -/

namespace TeeIoValidator.Doe

abbrev Dword := BitVec 32

/-! ## Registers -/

def controlDoeAbort : Dword := 0x00000001#32
def controlDoeGo : Dword := 0x80000000#32
def statusDoeBusy : Dword := 0x00000001#32
def statusDoeError : Dword := 0x00000004#32
def statusDoeReady : Dword := 0x80000000#32

/-- `PCI_EXPRESS_DOE_MAILBOX_TIMEOUT`. -/
def doeMailboxTimeout : ℕ := 300000000

/-- The values the `k`-th read of each register returns. -/
structure Instance where
  status : ℕ → Dword
  control : ℕ → Dword
  readMailbox : ℕ → Dword

/-- An access of the host that changes the DOE instance. -/
inductive Access where
  | writeControl (data : Dword)
  | writeMailbox (data : Dword)
  | readMailbox (data : Dword)
  | ackMailbox (data : Dword)
  deriving Repr, DecidableEq

structure State where
  statusReads : ℕ
  controlReads : ℕ
  mailboxReads : ℕ
  accesses : List Access
  deriving Repr, DecidableEq

def State.init : State := ⟨0, 0, 0, []⟩

inductive Status where
  | success
  | invalidParameter
  | bufferTooSmall
  | sendFail
  | receiveFail
  deriving Repr, DecidableEq

def State.record (s : State) (a : Access) : State :=
  { s with accesses := s.accesses ++ [a] }

def controlRead (dev : Instance) (s : State) : Dword × State :=
  (dev.control s.controlReads, { s with controlReads := s.controlReads + 1 })

def statusRead (dev : Instance) (s : State) : Dword × State :=
  (dev.status s.statusReads, { s with statusReads := s.statusReads + 1 })

def readMailboxRead (dev : Instance) (s : State) : Dword × State :=
  let data := dev.readMailbox s.mailboxReads
  (data, { s.record (.readMailbox data) with mailboxReads := s.mailboxReads + 1 })

def isDoeErrorAsserted (dev : Instance) (s : State) : Bool × State :=
  let (doeStatus, s) := statusRead dev s
  (doeStatus &&& statusDoeError != 0, s)

def isDoeBusyAsserted (dev : Instance) (s : State) : Bool × State :=
  let (doeStatus, s) := statusRead dev s
  (doeStatus &&& statusDoeBusy != 0, s)

def isDoeDataObjectReadyAsserted (dev : Instance) (s : State) : Bool × State :=
  let (doeStatus, s) := statusRead dev s
  (doeStatus &&& statusDoeReady != 0, s)

def triggerDoeAbort (dev : Instance) (s : State) : State :=
  let (doeControl, s) := controlRead dev s
  s.record (.writeControl ((doeControl ||| controlDoeAbort) &&& ~~~controlDoeGo))

def triggerDoeGo (dev : Instance) (s : State) : State :=
  let (doeControl, s) := controlRead dev s
  s.record (.writeControl ((doeControl &&& ~~~controlDoeAbort) ||| controlDoeGo))

/-- Both transfers clear an error that is pending before they start. -/
def clearPendingError (dev : Instance) (s : State) : State :=
  let (error, s) := isDoeErrorAsserted dev s
  if error then triggerDoeAbort dev s else s

/-- The check of the error bit after the polling loop; `failed` is the status of the
transfer when the bit is set. -/
def checkErrorAgain (dev : Instance) (failed : Status) (s : State) : Status × State :=
  let (error, s) := isDoeErrorAsserted dev s
  if error then (failed, triggerDoeAbort dev s) else (.success, s)

/-- The `do` loop of both transfers: poll until the instance is ready and then make the
transfer, or leave it with the delay that is left. -/
def pollLoop {ρ : Type*} (dev : Instance) (isReady : State → Bool × State)
    (transfer leave : ℕ → State → ρ) : ℕ → State → ρ
  | 0, s => leave 0 s
  | delay + 1, s =>
    let (ready, s) := isReady s
    if ready then transfer (delay + 1) s
    else
      let (error, s) := isDoeErrorAsserted dev s
      if error then leave (delay + 1) s
      else pollLoop dev isReady transfer leave delay s

/-! ## `device_doe_send_message` -/

/-- The `for` loop over the dwords of the data object. -/
def writeDataObject (words : List Dword) (s : State) : State :=
  words.foldl (fun s data => s.record (.writeMailbox data)) s

/-- The loop of `device_doe_send_message`; returns the delay that is left. -/
def sendLoop (dev : Instance) (words : List Dword) : ℕ → State → ℕ × State :=
  pollLoop dev
    (fun s => let (busy, s) := isDoeBusyAsserted dev s; (!busy, s))
    (fun delay s => (delay, triggerDoeGo dev (writeDataObject words s)))
    (fun delay s => (delay, s))

/-- The number of polls that the timeout (in microseconds, `0` for the default) admits. -/
def sendDelay (timeout : ℕ) : ℕ :=
  (if timeout = 0 then doeMailboxTimeout else timeout) / 30 + 1

/-- `data_object_count`, a `uint32_t`, for a request of `length` dwords. -/
def dataObjectCount (length : ℕ) : ℕ := 4 * length / 4 % 2 ^ 32

/-- The request is given as its dwords, `none` standing for `NULL`. -/
def deviceDoeSendMessage (dev : Instance) (request : Option (List Dword)) (timeout : ℕ)
    (s : State) : Status × State :=
  match request with
  | none => (.invalidParameter, s)
  | some request =>
    if 4 * request.length = 0 then (.invalidParameter, s)
    else
      let words := request.take (dataObjectCount request.length)
      let s := clearPendingError dev s
      let (delay, s) := sendLoop dev words (sendDelay timeout) s
      if delay = 0 then (.sendFail, s) else checkErrorAgain dev .sendFail s

/-! ## `device_doe_receive_message` -/

/-- The caller's buffer, by dword, and `*response_size`. -/
structure Response where
  buffer : ℕ → Dword
  size : ℕ

def Response.store (r : Response) (index : ℕ) (data : Dword) : Response :=
  { r with buffer := Function.update r.buffer index data }

/-- Read one dword of the data object into the buffer and acknowledge it. -/
def readDataObjectDword (dev : Instance) (index : ℕ) (r : Response) (s : State) :
    Response × State :=
  let (data, s) := readMailboxRead dev s
  (r.store index data, s.record (.ackMailbox data))

/-- The `for` loop over the dwords `index, ..., index + count - 1`. -/
def readDataObject (dev : Instance) : ℕ → ℕ → Response → State → Response × State
  | 0, _, r, s => (r, s)
  | count + 1, index, r, s =>
    let (r, s) := readDataObjectDword dev index r s
    readDataObject dev count (index + 1) r s

/-- The number of dwords a header with this length field announces. -/
def objectCount (length : Dword) : ℕ :=
  if length.toNat = 0 then 0x40000 else length.toNat

/-- The ways out of the polling loop: an early return or the delay that is left. -/
inductive ReceiveExit where
  | bufferTooSmall
  | left (delay : ℕ)
  deriving Repr, DecidableEq

/-- The branch of the loop that finds a data object ready. `lengthOf` extracts the length
field from the second dword of `pci_doe_data_object_header_t`. -/
def receiveDataObject (dev : Instance) (lengthOf : Dword → Dword) (delay : ℕ) (r : Response)
    (s : State) : ReceiveExit × Response × State :=
  let (r, s) := readDataObjectDword dev 0 r s
  let (r, s) := readDataObjectDword dev 1 r s
  let count := objectCount (lengthOf (r.buffer 1))
  if r.size < count * 4 then (.bufferTooSmall, { r with size := count * 4 }, s)
  else
    let (r, s) := readDataObject dev (count - 2) 2 { r with size := count * 4 } s
    (.left delay, r, s)

def receiveLoop (dev : Instance) (lengthOf : Dword → Dword) (r : Response) :
    ℕ → State → ReceiveExit × Response × State :=
  pollLoop dev (isDoeDataObjectReadyAsserted dev)
    (fun delay s => receiveDataObject dev lengthOf delay r s)
    (fun delay s => (.left delay, r, s))

/-- The receiver's delay ignores the timeout it is passed. -/
def receiveDelay : ℕ := 0x1000000 / 30 + 1

/-- `none` stands for a `NULL` response buffer. -/
def deviceDoeReceiveMessage (dev : Instance) (lengthOf : Dword → Dword)
    (response : Option Response) (s : State) : Status × Option Response × State :=
  match response with
  | none => (.invalidParameter, none, s)
  | some r =>
    if r.size < 8 then (.bufferTooSmall, some { r with size := 8 }, s)
    else
      let s := clearPendingError dev s
      match receiveLoop dev lengthOf r receiveDelay s with
      | (.bufferTooSmall, r, s) => (.bufferTooSmall, some r, s)
      | (.left delay, r, s) =>
        if delay = 0 then (.receiveFail, some r, s)
        else
          let (status, s) := checkErrorAgain dev .receiveFail s
          (status, some r, s)

/-- `pci_doe_send_receive_data`. -/
def pciDoeSendReceiveData (dev : Instance) (lengthOf : Dword → Dword)
    (request : Option (List Dword)) (response : Option Response) (s : State) :
    Status × Option Response × State :=
  match deviceDoeSendMessage dev request 0 s with
  | (.success, s) => deviceDoeReceiveMessage dev lengthOf response s
  | (status, s) => (status, response, s)

end TeeIoValidator.Doe
