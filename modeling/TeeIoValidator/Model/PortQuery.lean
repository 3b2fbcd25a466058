import TeeIoValidator.Library.Iteration

/-! Looking for the index of the lower port by `QUERY`, in the PCIe and in the CXL category. -/

namespace TeeIoValidator.PortQuery

/-- The fields of an `IDE_PORT` that a search reads or writes. -/
structure IdePort where
  device : BitVec 8
  function : BitVec 8
  bus : BitVec 8
  segment : BitVec 16
  portIndex : BitVec 8
  deriving Repr, DecidableEq

/-- A call of `pci_ide_km_query` or `cxl_ide_km_query`: the port asked for, and the number of
registers that `ide_reg_block` is said to have room for. -/
structure Query where
  portIndex : BitVec 8
  ideRegBlockCount : ℕ
  deriving Repr, DecidableEq

/-- What a successful call gives, with the number of registers in the block. -/
structure QueryResponse where
  devFunc : BitVec 8
  bus : BitVec 8
  segment : BitVec 8
  maxPortIndex : BitVec 8
  ideRegBlockCount : ℕ
  deriving Repr, DecidableEq

/-- The device behind the library: what the last of the calls made so far gives, none for an
error status. -/
abbrev Responder := List Query → Option QueryResponse

/-- The calls made, the local variables, and the port that is looked for. -/
structure Search where
  queries : List Query
  ideRegBlockCount : ℕ
  maxPortIndex : BitVec 8
  portIndex : BitVec 8
  found : Bool
  lowerPort : IdePort
  deriving Repr, DecidableEq

def IdePort.devFunc (port : IdePort) : BitVec 8 :=
  (port.device &&& 0x1f) <<< 3 ||| (port.function &&& 0x7)

/-- The comparison of the code: the segment is read into a `uint8_t`. -/
def QueryResponse.isTarget (response : QueryResponse) (port : IdePort) : Bool :=
  port.devFunc == response.devFunc && port.bus == response.bus &&
    port.segment.setWidth 8 == response.segment

section Functions

variable (respond : Responder) (capacity : ℕ)

/-- A `QUERY` at `port_index`; a call that fails leaves the variables as they are. -/
def query (s : Search) : Option QueryResponse × Search :=
  let queries := s.queries ++ [⟨s.portIndex, s.ideRegBlockCount⟩]
  match respond queries with
  | none => (none, { s with queries := queries })
  | some response =>
    (some response, { s with
      queries := queries
      maxPortIndex := response.maxPortIndex
      ideRegBlockCount := response.ideRegBlockCount })

def start (port : IdePort) : Search := ⟨[], capacity, 0, 0, false, port⟩

def Search.setPortIndex (s : Search) : Search :=
  { s with lowerPort := { s.lowerPort with portIndex := s.portIndex } }

/-! ## `ide_query_port_index` -/

/-- One round of the loop: `max_port_index + 1` is an `int`, `port_index++` a `uint8_t`. -/
def ideQueryRound (s : Search) : Search ⊕ Bool × Search :=
  if s.portIndex.toNat < s.maxPortIndex.toNat + 1 then
    match query respond s with
    | (none, s) => .inr (false, s)
    | (some response, s) =>
      let s := if response.isTarget s.lowerPort then { s.setPortIndex with found := true } else s
      .inl { s with portIndex := s.portIndex + 1 }
  else .inr (s.found, s)

/-- With the rounds that the loop is given; none when they do not suffice. -/
def ideQueryPortIndex (port : IdePort) (rounds : ℕ) : Option (Bool × Search) :=
  match query respond (start capacity port) with
  | (none, s) => some (false, s)
  | (some response, s) =>
    if response.isTarget port then some (true, { s.setPortIndex with found := true })
    else if 0 < s.maxPortIndex then
      Iteration.run (ideQueryRound respond) rounds { s with portIndex := 1 }
    else some (s.found, s)

/-! ## `cxl_ide_query_port_index` -/

/-- `do_query_port_index`: the count of registers is set anew for each call. -/
def doQueryPortIndex (s : Search) : Bool × Search :=
  match query respond { s with ideRegBlockCount := capacity } with
  | (none, s) => (false, s)
  | (some response, s) => (response.isTarget s.lowerPort, s)

def cxlIdeQueryRound (s : Search) : Search ⊕ Bool × Search :=
  if s.portIndex ≤ s.maxPortIndex then
    match doQueryPortIndex respond capacity s with
    | (true, s) => .inr (true, s.setPortIndex)
    | (false, s) => .inl { s with portIndex := s.portIndex + 1 }
  else .inr (false, s)

/-- The port keeps its index when the first call finds it. -/
def cxlIdeQueryPortIndex (port : IdePort) (rounds : ℕ) : Option (Bool × Search) :=
  match doQueryPortIndex respond capacity (start capacity port) with
  | (true, s) => some (true, s)
  | (false, s) =>
    Iteration.run (cxlIdeQueryRound respond capacity) rounds { s with portIndex := 1 }

end Functions

end TeeIoValidator.PortQuery
