import TeeIoValidator.Model.GroupSetup.Scan
import TeeIoValidator.Model.IniConfig.Values

/-! The scan of the devices on a chain of buses, with the addresses that it stores in the ports. -/

namespace TeeIoValidator.BusScan

open GroupSetup IniConfig IniFile

/-! ## The text of an address -/

/-- A digit of `%x`. -/
def hexDigit (d : ℕ) : UInt8 :=
  if d < 10 then '0'.toUInt8 + d.toUInt8 else 'a'.toUInt8 + (d - 10).toUInt8

/-- `%0wx`, of a number that has at most `w` digits. -/
def hexPadded : ℕ → ℕ → List UInt8
  | 0, _ => []
  | w + 1, n => hexPadded w (n / 16) ++ [hexDigit (n % 16)]

/-- `BDF_LENGTH`. -/
def bdfLength : ℕ := 13

/-- `snprintf(bdf, BDF_LENGTH, "%04x:%02x:%02x.%x", segment, bus, device, function & 0xf)`. -/
def formatBdf (segment : BitVec 16) (bus device function : BitVec 8) : List UInt8 :=
  (hexPadded 4 segment.toNat ++ [':'.toUInt8] ++ hexPadded 2 bus.toNat ++ [':'.toUInt8] ++
    hexPadded 2 device.toNat ++ ['.'.toUInt8] ++ hexPadded 1 (function &&& 0xf).toNat).take
      (bdfLength - 1)

def isSpace (c : UInt8) : Bool := c == ' '.toUInt8 || (9 ≤ c && c ≤ 13)

/-- The sign of a number, and what follows it. -/
def splitSign : List UInt8 → Bool × List UInt8
  | [] => (false, [])
  | c :: s =>
    if c = '-'.toUInt8 then (true, s) else if c = '+'.toUInt8 then (false, s) else (false, c :: s)

/-- Whether there is a `0x`, and what follows it. -/
def splitHexPrefix : List UInt8 → Bool × List UInt8
  | c :: x :: s =>
    if c = '0'.toUInt8 ∧ (x = 'x'.toUInt8 ∨ x = 'X'.toUInt8) then (true, s)
    else (false, c :: x :: s)
  | s => (false, s)

/-- `sscanf(s, "%x", &res)`, which leaves the number as it was when there is none in `s`. -/
def sscanfHex (s : List UInt8) (res : BitVec 32) : BitVec 32 :=
  let (negative, s) := splitSign (s.dropWhile isSpace)
  let (isPrefixed, s) := splitHexPrefix s
  let digits := s.takeWhile fun c => isValidDigitalChar c true
  if digits = [] ∧ !isPrefixed then res
  else
    let value := BitVec.ofNat 32 (digitsValue 16 digits)
    if negative then -value else value

/-- What `parse_bdf_string` writes. -/
structure Address where
  segment : BitVec 16
  bus : BitVec 8
  device : BitVec 8
  function : BitVec 8
  deriving Repr, DecidableEq

/-- `parse_bdf_string`; none when it fails. The bytes 4, 7 and 10 become ends of strings. -/
def parseBdfString (bdf : List UInt8) : Option Address :=
  if bdf.length ≠ bdfLength - 1 then none
  else
    let segment := sscanfHex (bdf.take 4) 0
    let bus := sscanfHex ((bdf.drop 5).take 2) segment
    let device := sscanfHex ((bdf.drop 8).take 2) bus
    let function := sscanfHex ((bdf.drop 11).take 1) device
    some ⟨segment.setWidth 16, bus.setWidth 8, device.setWidth 8, function.setWidth 8⟩

/-! ## Ports -/

/-- What a scan reads and writes of an `IDE_PORT`. -/
structure Port extends Address where
  bdf : List UInt8
  deriving Repr, DecidableEq

/-- The port with the address that it is scanned at. -/
def Port.placed (segment : BitVec 16) (bus : BitVec 8) (port : Port) : Port where
  segment := segment
  bus := bus
  device := port.device
  function := port.function
  bdf := formatBdf segment bus port.device port.function

/-- A pointer to a port, and the configuration space that is found when it is scanned. -/
structure Element where
  port : ℕ
  space : ScannedPort

def Element.secBus (e : Element) : BitVec 8 := e.space.header.secondaryBus

/-- The ports of the configuration, and the elements that have been scanned with what was stored in
their ports, which the code does not keep. -/
structure State where
  ports : ℕ → Port
  scanned : List (Element × Port)

/-! ## The scan -/

/-- The steps of a scan of one port; none when an assertion failed. -/
def scanElement (accepts : Header → Option Bool) (segment : BitVec 16) (bus : BitVec 8)
    (e : Element) (s : State) : Option (Bool × State) :=
  let port := (s.ports e.port).placed segment bus
  let s : State :=
    { ports := Function.update s.ports e.port port
      scanned := s.scanned ++ [(e, port)] }
  if e.space.size.any (· ≤ 0x1000) then (accepts e.space.header).map fun res => (res, s)
  else some (false, s)

/-- `scan_rp_switch_internal_port_at_bus`; the bus that it gives is the element's. -/
def scanRpSwitchInternalPortAtBus (segment : BitVec 16) (bus : BitVec 8) :
    Element → State → Option (Bool × State) :=
  scanElement (acceptsBridge bus) segment bus

/-- `scan_switch_internal_conn_at_bus`, of the upstream and the downstream port. -/
def scanSwitchInternalConnAtBus (segment : BitVec 16) (bus : BitVec 8) (ups dps : Element)
    (s : State) : Option (Bool × State) :=
  match scanRpSwitchInternalPortAtBus segment bus ups s with
  | some (true, s) => scanRpSwitchInternalPortAtBus segment ups.secBus dps s
  | result => result

/-- `scan_endpoint_at_bus`, which asserts its result. -/
def scanEndpointAtBus (segment : BitVec 16) (bus : BitVec 8) (ep : Element) (s : State) :
    Option (Bool × State) :=
  match scanElement (fun header => some (headerLayout header == 0)) segment bus ep s with
  | some (true, s) => some (true, s)
  | _ => none

/-- The loop of `scan_devices_at_bus` over the connections in the switches, and what follows it. -/
def scanConns (segment : BitVec 16) (ep : Element) :
    List (Element × Element) → BitVec 8 → State → Option (Bool × State)
  | [], bus, s => scanEndpointAtBus segment bus ep s
  | (ups, dps) :: conns, bus, s =>
    match scanSwitchInternalConnAtBus segment bus ups dps s with
    | some (true, s) => scanConns segment ep conns dps.secBus s
    | result => result

/-- `scan_devices_at_bus`. -/
def scanDevicesAtBus (rp ep : Element) (conns : List (Element × Element)) (segment : BitVec 16)
    (bus : BitVec 8) (ports : ℕ → Port) : Option (Bool × State) :=
  match scanRpSwitchInternalPortAtBus segment bus rp ⟨ports, []⟩ with
  | some (true, s) => scanConns segment ep conns rp.secBus s
  | result => result

/-- The elements that are no endpoint, in order. -/
def bridges (rp : Element) (conns : List (Element × Element)) : List Element :=
  rp :: conns.flatMap fun conn => [conn.1, conn.2]

end TeeIoValidator.BusScan
