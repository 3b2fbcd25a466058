import TeeIoValidator.Library.Framing
import TeeIoValidator.Model.Doe

/-! The capture file of the DOE traffic: opening it, appending a packet and closing it.

What the code takes from the headers of the capture format is a parameter. The file is
the bytes that `fwrite` accepted; its buffering and the debug output are left out. -/

namespace TeeIoValidator.Pcap

abbrev Byte := BitVec 8

/-- `PCAP_PACKET_MAX_SIZE`. -/
def pcapPacketMaxSize : ℕ := 0x00010000

/-- `pcap_packet_header_t`. -/
structure PacketHeader where
  tsSec : BitVec 32
  tsUsec : BitVec 32
  inclLen : BitVec 32
  origLen : BitVec 32
  deriving Repr, DecidableEq

/-- `pcap_global_header_t`. -/
structure GlobalHeader where
  magicNumber : BitVec 32
  versionMajor : BitVec 16
  versionMinor : BitVec 16
  thisZone : BitVec 32
  sigFigs : BitVec 32
  snapLen : BitVec 32
  network : BitVec 32
  deriving Repr, DecidableEq

/-- The constants of the capture format and its structures as they lie in memory. -/
structure Format where
  magic : BitVec 32
  versionMajor : BitVec 16
  versionMinor : BitVec 16
  linktypeMctp : BitVec 32
  linktypePciDoe : BitVec 32
  transportMctp : BitVec 32
  transportPciDoe : BitVec 32
  globalHeader : Framing.Image GlobalHeader Byte
  packetHeader : Framing.Image PacketHeader Byte

/-- How a reader of the file finds the packets after the global header. -/
def Format.packets (f : Format) : Framing.Header PacketHeader Byte where
  toImage := f.packetHeader
  announced := fun h => h.inclLen.toNat

/-- What the system gives: whether the file opens, how many bytes the `k`-th `fwrite`
accepts at most, and the time of the `k`-th call of `time`. -/
structure Host where
  opens : Bool
  accepts : ℕ → ℕ
  clock : ℕ → BitVec 32

/-- `isOpen` says whether `m_pcap_file` is not `NULL`. -/
structure Capture where
  isOpen : Bool
  bytes : List Byte
  writes : ℕ
  times : ℕ
  deriving Repr, DecidableEq

def Capture.init : Capture := ⟨false, [], 0, 0⟩

/-! ## The file -/

/-- The bytes that are written and the number of them. -/
def fwrite (host : Host) (data : List Byte) (c : Capture) : ℕ × Capture :=
  let accepted := min (host.accepts c.writes) data.length
  (accepted, { c with bytes := c.bytes ++ data.take accepted, writes := c.writes + 1 })

def closePcapPacketFile (c : Capture) : Capture :=
  if c.isOpen then { c with isOpen := false } else c

/-- A call of `fwrite` with its check, that closes the file when it is short; the flag
says whether the caller goes on. -/
def writeOrClose (host : Host) (data : List Byte) (c : Capture) : Bool × Capture :=
  let (written, c) := fwrite host data c
  if written ≠ data.length then (false, closePcapPacketFile c) else (true, c)

def pcapGlobalHeader (f : Format) (network : BitVec 32) : GlobalHeader where
  magicNumber := f.magic
  versionMajor := f.versionMajor
  versionMinor := f.versionMinor
  thisZone := 0
  sigFigs := 0
  snapLen := BitVec.ofNat 32 pcapPacketMaxSize
  network := network

/-- The link type of a transport layer, if it has one. -/
def linkType (f : Format) (transportLayer : BitVec 32) : Option (BitVec 32) :=
  if transportLayer = f.transportMctp then some f.linktypeMctp
  else if transportLayer = f.transportPciDoe then some f.linktypePciDoe
  else none

/-- `named` is false for a `NULL` file name. -/
def openPcapPacketFile (f : Format) (host : Host) (named : Bool) (transportLayer : BitVec 32)
    (c : Capture) : Bool × Capture :=
  if !named then (false, c)
  else
    match linkType f transportLayer with
    | none => (false, c)
    | some network =>
      if !host.opens then (false, { c with isOpen := false })
      else
        writeOrClose host (f.globalHeader.write (pcapGlobalHeader f network))
          { c with isOpen := true, bytes := [] }

/-- The length that `incl_len` gives: the total, cut at the maximum. -/
def inclLen (totalSize : ℕ) : ℕ :=
  if totalSize > pcapPacketMaxSize then pcapPacketMaxSize else totalSize

def pcapPacketHeader (rawtime : BitVec 32) (totalSize : ℕ) : PacketHeader where
  tsSec := rawtime
  tsUsec := 0
  inclLen := BitVec.ofNat 32 (inclLen totalSize)
  origLen := BitVec.ofNat 32 totalSize

def appendPcapPacketData (f : Format) (host : Host) (header data : List Byte)
    (c : Capture) : Capture :=
  let totalSize := header.length + data.length
  if c.isOpen then
    let rawtime := host.clock c.times
    let c := { c with times := c.times + 1 }
    let (ok, c) :=
      writeOrClose host (f.packetHeader.write (pcapPacketHeader rawtime totalSize)) c
    if !ok then c
    else
      -- the data are written whole, whatever `incl_len` says
      let (ok, c) := if header.length ≠ 0 then writeOrClose host header c else (true, c)
      if !ok then c else (writeOrClose host data c).2
  else c

/-! ## The transfers that are captured -/

/-- The `k`-th byte of an object, in the order of its dwords' bytes. -/
def objectByte (words : ℕ → Doe.Dword) (k : ℕ) : Byte :=
  (words (k / 4)).extractLsb' (8 * (k % 4)) 8

def objectBytes (words : ℕ → Doe.Dword) (size : ℕ) : List Byte :=
  (List.range size).map (objectByte words)

def requestBytes (request : List Doe.Dword) : List Byte :=
  objectBytes (request.getD · 0) (4 * request.length)

def responseBytes (response : Doe.Response) : List Byte :=
  objectBytes response.buffer response.size

/-- What a transfer hands to the capture: its object when it ended with success. -/
def capturedBytes (status : Doe.Status) (object : Option (List Byte)) : Option (List Byte) :=
  if status = .success then object else none

def captureTransfer (f : Format) (host : Host) (status : Doe.Status)
    (object : Option (List Byte)) (c : Capture) : Capture :=
  match capturedBytes status object with
  | some data => appendPcapPacketData f host [] data c
  | none => c

/-- `device_doe_send_message` with the capture of the request. -/
def sendCaptured (f : Format) (host : Host) (dev : Doe.Instance)
    (request : Option (List Doe.Dword)) (timeout : ℕ) (s : Doe.State) (c : Capture) :
    Doe.Status × Doe.State × Capture :=
  let (status, s) := Doe.deviceDoeSendMessage dev request timeout s
  (status, s, captureTransfer f host status (request.map requestBytes) c)

/-- `device_doe_receive_message` with the capture of the response. -/
def receiveCaptured (f : Format) (host : Host) (dev : Doe.Instance)
    (lengthOf : Doe.Dword → Doe.Dword) (response : Option Doe.Response) (s : Doe.State)
    (c : Capture) : Doe.Status × Option Doe.Response × Doe.State × Capture :=
  let (status, response, s) := Doe.deviceDoeReceiveMessage dev lengthOf response s
  (status, response, s, captureTransfer f host status (response.map responseBytes) c)

end TeeIoValidator.Pcap
