import TeeIoValidator.Library.LinkedList
import TeeIoValidator.Model.IniConfig.Topology

/-! `ParseSwConnsString` with the records that it allocates, links and frees. -/

namespace TeeIoValidator.IniConfig

open IniFile LinkedList

/-- `find_char_in_str`; none stands for -1. -/
def findCharInStr (str : List UInt8) (c : UInt8) : Option ℕ := str.findIdx? (· == c)

abbrev ConnHeap := Heap IdeSwitchInternalConnection

/-- The list that is built, and all records. -/
structure ConnsState where
  header : Option ℕ
  heap : ConnHeap
  deriving Repr, DecidableEq

/-- A pointer that cannot be followed, or a list that does not end. -/
def pointerFault : PointerFault → Fault
  | .null => .crash
  | .dangling => .wild
  | .endless => .assertion

def checkPointer {α : Type} : Except PointerFault α → Checked α
  | .error fault => .error (pointerFault fault)
  | .ok a => .ok a

/-- A record after `malloc` and `memset`. -/
def zeroConn : Cell IdeSwitchInternalConnection := ⟨⟨0, 0, 0⟩, none⟩

section Parser

variable (testConfig : IdeTestConfig)

/-- `ParseSwitchString` and the assignments to the record after it. -/
def parseIntoConn (conn : ℕ) (switchStr : List UInt8) (heap : ConnHeap) : Option ConnHeap :=
  (parseSwitchString testConfig switchStr).map fun value => heap.store conn ⟨value, none⟩

/-- The loop over the pieces: `res` and the state. A piece that fills the line buffer has no
terminator there. -/
def swConnsLoop (strHeader : List UInt8) (s : ConnsState) : Checked (Bool × ConnsState) :=
  let (conn, heap) := s.heap.alloc zeroConn
  let size := (findCharInStr strHeader comma).getD strHeader.length
  if size ≥ maxLineLength then .error .overrun
  else
    match parseIntoConn testConfig conn (strHeader.take size) heap with
    | none => .ok (false, ⟨s.header, heap⟩)
    | some heap =>
      match checkPointer (append heap heap.cells.length s.header conn) with
      | .error fault => .error fault
      | .ok (header, heap) =>
        match _h : findCharInStr strHeader comma with
        | none => .ok (true, ⟨header, heap⟩)
        | some pos => swConnsLoop (strHeader.drop (pos + 1)) ⟨header, heap⟩
termination_by strHeader.length
decreasing_by
  obtain ⟨hlt, -⟩ := List.findIdx?_eq_some_iff_getElem.mp _h
  rw [List.length_drop]
  omega

/-- The loop that frees the records, from the first and the second one on. -/
def freeConns : ℕ → ℕ → Option ℕ → ConnHeap → Checked (Option ℕ × ConnHeap)
  | 0, _, _, _ => .error .assertion
  | fuel + 1, header, itr, heap =>
    let heap := heap.release header
    match checkPointer (heap.load itr) with
    | .error fault => .error fault
    | .ok cell =>
      match itr with
      | none => .ok (none, heap)
      | some header => freeConns fuel header cell.next heap

/-- The records are freed when a piece is wrong and there are some in the list. -/
def parseSwConnsRecords (swConns : List UInt8) : Checked ConnsState := do
  let (res, s) ← swConnsLoop testConfig swConns ⟨none, Heap.empty⟩
  match res, s.header with
  | false, some header =>
    let cell ← checkPointer (s.heap.load (some header))
    let (header, heap) ← freeConns (s.heap.cells.length + 1) header cell.next s.heap
    .ok ⟨header, heap⟩
  | _, _ => .ok s

end Parser

/-! ## What the parser is for -/

/-- The pieces between the commas. -/
def connPieces (swConns : List UInt8) : List (List UInt8) := swConns.splitOnP (· == comma)

/-- A piece such as `switch_1:port_1-port_2` names a switch and two of its ports. -/
structure NamedBy (testConfig : IdeTestConfig) (piece : List UInt8)
    (conn : IdeSwitchInternalConnection) (name port1 port2 : List UInt8) (sw : IdeSwitch)
    (p1 p2 : IdePort) : Prop where
  splits : piece = name ++ ':'.toUInt8 :: (port1 ++ '-'.toUInt8 :: port2)
  nameEnds : ':'.toUInt8 ∉ name
  portEnds : '-'.toUInt8 ∉ port1
  findsSwitch : getSwitchByName testConfig name = some sw
  findsPort1 : getPortFromSwitchByName sw port1 = some p1
  findsPort2 : getPortFromSwitchByName sw port2 = some p2
  ids : conn = ⟨sw.id, p1.id, p2.id⟩

def Connects (testConfig : IdeTestConfig) (piece : List UInt8)
    (conn : IdeSwitchInternalConnection) : Prop :=
  ∃ name port1 port2 sw p1 p2, NamedBy testConfig piece conn name port1 port2 sw p1 p2

/-- A list of the connections when each piece names one, otherwise null, with each record freed
once. -/
structure ConnsMeet (testConfig : IdeTestConfig) (swConns : List UInt8) : Prop where
  valid : ∀ conns, List.Forall₂ (Connects testConfig) (connPieces swConns) conns →
    ∃ s as, parseSwConnsRecords testConfig swConns = .ok s ∧
      Segment s.heap s.header as conns none
  invalid : (∀ conns, ¬ List.Forall₂ (Connects testConfig) (connPieces swConns) conns) →
    ∃ s, parseSwConnsRecords testConfig swConns = .ok s ∧ s.header = none ∧
      ∀ a < s.heap.cells.length, s.heap.released.count a = 1

end TeeIoValidator.IniConfig
