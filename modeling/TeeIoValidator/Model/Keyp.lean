import TeeIoValidator.Library.Chain
import TeeIoValidator.Library.Tracked
import TeeIoValidator.Model.Register

/-! The KEYP table: the key configuration units of the root ports. -/

namespace TeeIoValidator.Keyp

abbrev Byte := BitVec 8

/-- The table's bytes at the start of a buffer of zeros; `behind` is what lies behind it. -/
def buffer (table : List Byte) (behind : ℕ → Byte) (i : ℕ) : Byte :=
  if i < 4096 then table.getD i 0 else behind i

def read16 (buf : ℕ → Byte) (i : ℕ) : BitVec 16 := buf (i + 1) ++ buf i

def read64 (buf : ℕ → Byte) (i : ℕ) : BitVec 64 :=
  buf (i + 7) ++ buf (i + 6) ++ buf (i + 5) ++ buf (i + 4) ++ buf (i + 3) ++ buf (i + 2) ++
    buf (i + 1) ++ buf i

/-- `INTEL_KEYP_PROTOCOL_TYPE`. -/
inductive ProtocolType where
  | pcieCxlio
  | cxlMemcache
  deriving Repr, DecidableEq

def ProtocolType.value : ProtocolType → Byte
  | .pcieCxlio => 1
  | .cxlMemcache => 2

/-- What is used of an `IDE_PORT`. -/
structure Port where
  isRootPort : Bool
  segment : BitVec 16
  bus : Byte
  device : Byte
  function : Byte

/-! ## `INTEL_KEYP_KEY_CONFIGURATION_UNIT` and `INTEL_KEYP_ROOT_PORT_INFORMATION` -/

section Units

variable (buf : ℕ → Byte) (unit : ℕ)

def length : ℕ := (read16 buf (unit + 2)).toNat
def protocolType : Byte := buf (unit + 4)
def rootPortCount : ℕ := (buf (unit + 6)).toNat
def registerBaseAddr : BitVec 64 := read64 buf (unit + 8)

/-- `sizeof(INTEL_KEYP_KEY_CONFIGURATION_UNIT)`. -/
def unitHeaderSize : ℕ := 16

def rootPortInformation (i : ℕ) : ℕ := unit + unitHeaderSize + 4 * i

variable (port : Port) (krpi : ℕ)

def deviceBits : Byte := buf (krpi + 3) >>> 3
def functionBits : Byte := buf (krpi + 3) &&& 7

/-- The comparison of an entry; the fields are read one after the other. -/
def matchesRootPort : Bool × Reads :=
  if read16 buf krpi ≠ port.segment then (false, [(krpi, 2)])
  else if buf (krpi + 2) ≠ port.bus then (false, [(krpi, 2), (krpi + 2, 1)])
  else if deviceBits buf krpi ≠ port.device then (false, [(krpi, 2), (krpi + 2, 1), (krpi + 3, 1)])
  else (functionBits buf krpi = port.function, [(krpi, 2), (krpi + 2, 1), (krpi + 3, 1)])

/-- The loop over `count` entries, up to the first one that matches. -/
def findRootPort (count : ℕ) (krpi : ℕ) : Bool × Reads :=
  match count with
  | 0 => (false, [])
  | count + 1 =>
    let (found, reads) := matchesRootPort buf port krpi
    if found then (true, reads)
    else
      let (found, rest) := findRootPort count (krpi + 4)
      (found, reads ++ rest)

end Units

/-! ## `parse_keyp_table` -/

/-- How the loop over the units is left. -/
inductive UnitSearch where
  | assertFailed
  | notFound
  | found (kcbarAddr : BitVec 64)
  deriving Repr, DecidableEq

/-- A round of the loop over the units. -/
def lookAtUnit (buf : ℕ → Byte) (size : ℕ) (port : Port) (keypProtocol : ProtocolType)
    (unit : ℕ) : Option UnitSearch × Reads :=
  let reads := [(unit + 2, 2)]
  if ¬unit + length buf unit ≤ size then (some .assertFailed, reads)
  else
    let reads := reads ++ [(unit + 4, 1)]
    if protocolType buf unit ≠ keypProtocol.value then (none, reads)
    else
      let (found, portReads) :=
        findRootPort buf port (rootPortCount buf unit) (rootPortInformation unit 0)
      let reads := reads ++ (unit + 6, 1) :: portReads
      if found then (some (.found (registerBaseAddr buf unit)), reads ++ [(unit + 8, 8)])
      else (none, reads)

/-- `sizeof(INTEL_KEYP_ACPI)`: the first unit follows the header. -/
def keypHeaderSize : ℕ := 40

def nextUnit (buf : ℕ → Byte) (unit : ℕ) : ℕ := unit + length buf unit

def searchUnits (buf : ℕ → Byte) (size : ℕ) (port : Port) (keypProtocol : ProtocolType)
    (reads : Reads) (fuel : ℕ) : Option (UnitSearch × Reads) :=
  Iteration.run
    (Chain.walk (nextUnit buf) (fun unit => ¬unit < size)
      (Chain.logging (lookAtUnit buf size port keypProtocol)) fun reads => (.notFound, reads))
    fuel (keypHeaderSize, reads)

def keypSignature : List Byte := [0x4B, 0x45, 0x59, 0x50]

def calculateChecksum (table : List Byte) : Byte := table.sum

/-- Whether the descriptor of the table's file is open. -/
inductive Descriptor where
  | closed
  | opened
  deriving Repr, DecidableEq

/-- What `parse_keyp_table` returns, none when an assertion failed; the address whose registers
are mapped, the reads of the buffer and the descriptor of the table's file. -/
structure Parsed where
  ret : Option Bool
  mapped : Option (BitVec 64)
  reads : Reads
  fd : Descriptor

/-- The code after the search: the registers are mapped. `mapKcbarAddr` says whether that works at
an address that is not zero. -/
def mapUnit (mapKcbarAddr : BitVec 64 → Bool) (reads : Reads) (fd : Descriptor) :
    UnitSearch → Parsed
  | .assertFailed => ⟨none, none, reads, fd⟩
  | .notFound => ⟨some false, none, reads, fd⟩
  | .found kcbarAddr =>
    if kcbarAddr = 0 then ⟨some false, none, reads, fd⟩
    else if mapKcbarAddr kcbarAddr then ⟨some true, some kcbarAddr, reads, fd⟩
    else ⟨none, none, reads, fd⟩

/-- `file` is the content of the table's file, if it can be opened. -/
def parseKeypTable (file : Option (List Byte)) (behind : ℕ → Byte)
    (mapKcbarAddr : BitVec 64 → Bool) (port : Port) (keypProtocol : ProtocolType) (fuel : ℕ) :
    Option Parsed :=
  if !port.isRootPort then some ⟨none, none, [], .closed⟩
  else match file with
    | none => some ⟨some false, none, [], .closed⟩
    | some table =>
      let fd := Descriptor.opened
      if ¬table.length ≤ 4096 then some ⟨none, none, [], fd⟩
      else
        let buf := buffer table behind
        let reads := [(0, 4)]
        if (List.range 4).map buf ≠ keypSignature then some ⟨some false, none, reads, fd⟩
        else
          let reads := reads ++ [(0, table.length)]
          if calculateChecksum table ≠ 0 then some ⟨some false, none, reads, fd⟩
          else (searchUnits buf table.length port keypProtocol reads fuel).map
            fun (search, reads) => mapUnit mapKcbarAddr reads fd search

end TeeIoValidator.Keyp
