import TeeIoValidator.Model.IniConfig.Sections

/-! The parser of the sections `Topology_x`. A topology is built in the slot behind the stored
ones, and a section that is rejected leaves there what it has written. -/

namespace TeeIoValidator.IniConfig

open IniFile

variable (globals : Globals) (context : IniContext) (testConfig : IdeTestConfig)

/-! ## Paths -/

/-- A connection such as `switch_1:port_1-port_2`. -/
def parseSwitchString (switchStr : List UInt8) : Option IdeSwitchInternalConnection := do
  let (name, ports) ← splitAtFirst ':'.toUInt8 switchStr
  let sw ← getSwitchByName testConfig name
  let (port1, port2) ← splitAtFirst '-'.toUInt8 ports
  let p1 ← getPortFromSwitchByName sw port1
  let p2 ← getPortFromSwitchByName sw port2
  some ⟨sw.id, p1.id, p2.id⟩

/-- When a connection is wrong, the loop that frees the ones before it dereferences a null pointer
at their end. -/
def parseSwConns : List (List UInt8) → List IdeSwitchInternalConnection →
    Checked (Option (List IdeSwitchInternalConnection))
  | [], header => .ok (some header)
  | str :: strs, header =>
    match parseSwitchString testConfig str with
    | some conn => parseSwConns strs (header ++ [conn])
    | none => if header = [] then .ok none else .error .crash

def parseSwConnsString (swConns : List UInt8) :
    Checked (Option (List IdeSwitchInternalConnection)) :=
  parseSwConns testConfig (swConns.splitOnP (· == comma)) []

inductive TopologyPath where
  | path1
  | path2
  deriving Repr, DecidableEq

def TopologyPath.entryName : TopologyPath → List UInt8
  | .path1 => text "path1"
  | .path2 => text "path2"

/-- The connections of a path belong to the path's own list. -/
def TopologyPath.setConns (path : TopologyPath) (conns : List IdeSwitchInternalConnection)
    (top : IdeTestTopology) : IdeTestTopology :=
  match path with
  | .path1 => { top with swConn1 := conns }
  | .path2 => { top with swConn2 := conns }

/-- The ports of a topology when both ends of a path are known. -/
def TopologyPath.setPorts (path : TopologyPath) (rootport lowerPort : IdePort)
    (top : IdeTestTopology) : IdeTestTopology :=
  match top.connection, path with
  | .direct, _ | .switch, _ => { top with upperPort := rootport.id, lowerPort := lowerPort.id }
  | .p2p, .path1 => { top with upperPort := lowerPort.id }
  | .p2p, .path2 => { top with lowerPort := lowerPort.id }

/-- The last port of a path. -/
def parseLowerPort (path : TopologyPath) (rootport : IdePort) (str : List UInt8)
    (top : IdeTestTopology) : Bool × IdeTestTopology :=
  if str.length < (text "endpoint_x").length then (false, top)
  else
    match getPortByName testConfig str with
    | none => (false, top)
    | some lowerPort => (true, path.setPorts rootport lowerPort top)

/-- What follows the root port of a path: connections of switches unless the path is direct, and
the last port. -/
def parseAfterRootport (path : TopologyPath) (rootport : IdePort) (str : List UInt8)
    (top : IdeTestTopology) : Checked (Bool × IdeTestTopology) :=
  match top.connection with
  | .direct => .ok (parseLowerPort testConfig path rootport str top)
  | .switch | .p2p =>
    match splitAtLastComma str with
    | none => .ok (false, top)
    | some (swConns, lowerPort) => do
      let conns ← parseSwConnsString testConfig swConns
      match conns with
      | none => .ok (false, top)
      | some conns =>
        .ok (parseLowerPort testConfig path rootport lowerPort (path.setConns conns top))

/-- A value that fills the line buffer has no terminator there. -/
def parsePathInTopologySection (sectionName : List UInt8) (path : TopologyPath)
    (top : IdeTestTopology) : Checked (Bool × IdeTestTopology) := do
  let entryValue ← getString context sectionName path.entryName
  match entryValue with
  | none => .ok (false, top)
  | some value =>
    if value.length ≥ maxLineLength then .error .wild
    else
      match splitAtFirst comma value with
      | none => .ok (false, top)
      | some (first, rest) =>
        if first.length < (text "rootport_x").length then .ok (false, top)
        else
          match getPortByName testConfig first with
          | none => .ok (false, top)
          | some rootport =>
            parseAfterRootport testConfig path rootport rest { top with rootPort := rootport.id }

/-- Both paths of a connection between peers, the first path of another one. -/
def parsePaths (sectionName : List UInt8) (top : IdeTestTopology) :
    Checked (Bool × IdeTestTopology) := do
  let (found, top) ← parsePathInTopologySection context testConfig sectionName .path1 top
  if found ∧ top.connection = .p2p then
    parsePathInTopologySection context testConfig sectionName .path2 top
  else .ok (found, top)

/-! ## Topologies -/

/-- The segment and the scratch variable after it; none when it is out of range. -/
def parseSegment (sectionName : List UInt8) (data32 : ℕ) : Checked (Option (ℕ × ℕ)) :=
  if globals.scanSegment ≠ invalidScanSegment then .ok (some (globals.scanSegment, data32))
  else do
    let segment ← getHexUint32 context sectionName (text "segment")
    match segment with
    | none => .ok (some (0, data32))
    | some value => .ok (if value > 0xffff then none else some (value, value))

/-- A bus that is missing or out of range is only logged. -/
def parseBus (sectionName : List UInt8) (data32 : ℕ) : Checked ℕ :=
  if globals.scanBus ≠ invalidScanBus then .ok globals.scanBus
  else do
    let bus ← getHexUint32 context sectionName (text "bus")
    .ok (bus.getD data32 % 2 ^ 8)

structure TopologyResult where
  accepted : Bool
  topology : IdeTestTopology
  tdispFunctionId : ℕ

/-- The segment, the bus and the paths. -/
def parseTopologyPlace (sectionName : List UInt8) (data32 tdispFunctionId : ℕ)
    (top : IdeTestTopology) : Checked TopologyResult := do
  let segment ← parseSegment globals context sectionName data32
  match segment with
  | none => .ok ⟨false, top, tdispFunctionId⟩
  | some (segment, data32) => do
    let bus ← parseBus globals context sectionName data32
    let (found, top) ← parsePaths context testConfig sectionName { top with segment, bus }
    .ok ⟨found && top.lowerPort != top.upperPort, top, tdispFunctionId⟩

/-- The stream and the function id. The scratch variable still has the number that was read before
when an entry is missing, and a stream id out of range is only logged. -/
def parseTopologyStream (sectionName : List UInt8) (data32 tdispFunctionId : ℕ)
    (top : IdeTestTopology) : Checked TopologyResult := do
  let streamId ← getDecimalUint32 context sectionName (text "stream_id")
  let data32 := streamId.getD data32
  let top := { top with streamId := data32 % 2 ^ 8 }
  let functionId ← getHexUint32 context sectionName (text "tdisp_function_id")
  if functionId.any (0x1ffffff < ·) then .ok ⟨false, top, tdispFunctionId⟩
  else
    parseTopologyPlace globals context testConfig sectionName (functionId.getD data32)
      (functionId.getD tdispFunctionId) top

/-- What a section makes of the slot `top`. -/
def parseTopology (sectionName : List UInt8) (tdispFunctionId : ℕ) (top : IdeTestTopology) :
    Checked TopologyResult := do
  let enabled ← getDecimalUint32 context sectionName (text "enabled")
  let top := { top with enabled := match enabled with
    | some value => value == 1
    | none => true }
  let typeName ← getString context sectionName (text "type")
  match typeName.bind getTopologyTypeFromName with
  | none => .ok ⟨false, top, tdispFunctionId⟩
  | some type => do
    let top := { top with type }
    let connectionName ← getString context sectionName (text "connection")
    match connectionName.bind getConnectionFromName with
    | none => .ok ⟨false, top, tdispFunctionId⟩
    | some connection =>
      parseTopologyStream globals context testConfig sectionName (enabled.getD 0) tdispFunctionId
        { top with connection }

def topologySectionName (index : ℕ) : List UInt8 := text "Topology_" ++ decimalString index

/-- A topology that is accepted gets its id and is counted. -/
def storeTopology (slot : Fin maxTopologyNum) (index : ℕ) (result : TopologyResult) :
    Bool × IdeTestConfig :=
  let testConfig := { testConfig with tdispFunctionId := result.tdispFunctionId }
  if result.accepted then
    (true, { testConfig with
      topologies := { testConfig.topologies.put slot { result.topology with id := index } with
        cnt := testConfig.topologies.cnt + 1 } })
  else
    (false, { testConfig with topologies := testConfig.topologies.put slot result.topology })

def parseTopologySection (index : ℕ) : Checked (Bool × IdeTestConfig) :=
  inSection context (topologySectionName index) index (false, testConfig)
    (if h : testConfig.topologies.cnt < maxTopologyNum then do
      let slot : Fin maxTopologyNum := ⟨testConfig.topologies.cnt, h⟩
      let result ← parseTopology globals context testConfig (topologySectionName index)
        testConfig.tdispFunctionId (testConfig.topologies.records slot)
      .ok (storeTopology testConfig slot index result)
    else .error .overrun)

end TeeIoValidator.IniConfig
