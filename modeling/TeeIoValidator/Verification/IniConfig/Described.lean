import TeeIoValidator.Verification.IniConfig.Accepted

/-! # Described topologies

When a stored topology is what its section says, and nothing else.
-/

namespace TeeIoValidator.IniConfig

open IniFile Checked

/-! ## What a section says -/

/-- A path from a root port to an endpoint. -/
def TopologyRoute.LeadsToEndpoint (route : TopologyRoute) : Prop :=
  route.rootport.portType = .rootport ∧ route.lowerPort.portType = .endpoint

section

variable (context : IniContext) (testConfig : IdeTestConfig) (sectionName : List UInt8)

def SectionType (type : IdeTestTopologyType) : Prop :=
  ∃ name, getString context sectionName (text "type") = .ok (some name) ∧
    getTopologyTypeFromName name = some type

def SectionConnection (connection : IdeTestConnectType) : Prop :=
  ∃ name, getString context sectionName (text "connection") = .ok (some name) ∧
    getConnectionFromName name = some connection

/-- The stream is the section's own, or 0 when there is no entry. -/
def SectionStreamId (streamId : ℕ) : Prop :=
  getString context sectionName (text "stream_id") = .ok none ∧ streamId = 0 ∨
    ∃ value, getString context sectionName (text "stream_id") = .ok (some value) ∧
      decimalUint32 value = some streamId ∧ streamId ≤ maxStreamId

def SectionBus (bus : ℕ) : Prop :=
  ∃ value, getString context sectionName (text "bus") = .ok (some value) ∧
    hexUint32 value = some bus ∧ bus ≤ 0xff

def SectionSegment (segment : ℕ) : Prop :=
  ∃ value, getHexUint32 context sectionName (text "segment") = .ok value ∧ segment = value.getD 0

/-- The ports and connections are those of the section's paths. -/
def SectionPaths (top : IdeTestTopology) : Prop :=
  ∃ route₁, ReadsPath context testConfig sectionName .path1 top.connection route₁ ∧
    route₁.LeadsToEndpoint ∧ top.rootPort = route₁.rootport.id ∧ top.swConn1 = route₁.swConns ∧
    match top.connection with
    | .direct | .switch =>
      top.upperPort = route₁.rootport.id ∧ top.lowerPort = route₁.lowerPort.id ∧ top.swConn2 = []
    | .p2p =>
      ∃ route₂, ReadsPath context testConfig sectionName .path2 .p2p route₂ ∧
        route₂.LeadsToEndpoint ∧ route₂.rootport = route₁.rootport ∧
        top.upperPort = route₁.lowerPort.id ∧ top.lowerPort = route₂.lowerPort.id ∧
        top.swConn2 = route₂.swConns

end

/-- The topology is what its section says, by the stored ports and switches. -/
structure TopologyDescribed (context : IniContext) (testConfig : IdeTestConfig) (index : ℕ)
    (top : IdeTestTopology) : Prop where
  id : top.id = index
  enabled : ∃ value,
    getDecimalUint32 context (topologySectionName index) (text "enabled") = .ok value ∧
      top.enabled = enabledFlag value
  type : SectionType context (topologySectionName index) top.type
  connection : SectionConnection context (topologySectionName index) top.connection
  streamId : SectionStreamId context (topologySectionName index) top.streamId
  bus : SectionBus context (topologySectionName index) top.bus
  segment : SectionSegment context (topologySectionName index) top.segment
  paths : SectionPaths context testConfig (topologySectionName index) top

/-! ## When a section is read faithfully -/

section

variable (globals : Globals) (context : IniContext) (testConfig : IdeTestConfig)
  (sectionName : List UInt8)

/-- The stream is a number in the range; without it, the number of the entry `enabled` is taken,
which has to count as 0. -/
def StreamIdFaithful : Prop :=
  (getString context sectionName (text "stream_id") = .ok none ∧
    ∃ enabled, getDecimalUint32 context sectionName (text "enabled") = .ok enabled ∧
      enabled.getD 0 % 2 ^ 8 = 0) ∨
  ∃ value streamId, getString context sectionName (text "stream_id") = .ok (some value) ∧
    decimalUint32 value = some streamId ∧ streamId ≤ maxStreamId

/-- The bus is there and in the range, and the command line does not set another one. -/
def BusFaithful : Prop :=
  ∃ value bus, getString context sectionName (text "bus") = .ok (some value) ∧
    hexUint32 value = some bus ∧ bus ≤ 0xff ∧
    (globals.scanBus = invalidScanBus ∨ globals.scanBus = bus)

/-- The command line does not set another segment. -/
def SegmentFaithful : Prop :=
  ∃ value, getHexUint32 context sectionName (text "segment") = .ok value ∧
    (globals.scanSegment = invalidScanSegment ∨ globals.scanSegment = value.getD 0)

/-- The paths have ports of the right types, those between peers begin at the same one, and the
slot has no connections of an earlier section that are not overwritten. -/
def PathsFaithful (connection : IdeTestConnectType) (slot : IdeTestTopology) : Prop :=
  ∃ route₁, ReadsPath context testConfig sectionName .path1 connection route₁ ∧
    route₁.LeadsToEndpoint ∧
    match connection with
    | .direct => slot.swConn1 = [] ∧ slot.swConn2 = []
    | .switch => slot.swConn2 = []
    | .p2p =>
      ∃ route₂, ReadsPath context testConfig sectionName .path2 .p2p route₂ ∧
        route₂.LeadsToEndpoint ∧ route₂.rootport = route₁.rootport

end

/-- The slot behind the stored topologies. -/
def topologySlot (testConfig : IdeTestConfig) : IdeTestTopology :=
  if h : testConfig.topologies.cnt < maxTopologyNum then
    testConfig.topologies.records ⟨testConfig.topologies.cnt, h⟩
  else {}

structure SectionFaithful (globals : Globals) (context : IniContext) (testConfig : IdeTestConfig)
    (index : ℕ) : Prop where
  streamId : StreamIdFaithful context (topologySectionName index)
  bus : BusFaithful globals context (topologySectionName index)
  segment : SegmentFaithful globals context (topologySectionName index)
  paths : ∀ connection, SectionConnection context (topologySectionName index) connection →
    PathsFaithful context testConfig (topologySectionName index) connection
      (topologySlot testConfig)

/-! ## One section -/

section

variable {globals : Globals} {context : IniContext} {testConfig : IdeTestConfig} {index : ℕ}
  {sectionName : List UInt8} {top top' slot : IdeTestTopology}

theorem SectionConnection.unique {connection connection' : IdeTestConnectType}
    (h : SectionConnection context sectionName connection)
    (h' : SectionConnection context sectionName connection') : connection = connection' := by
  obtain ⟨name, hname, hconnection⟩ := h
  obtain ⟨name', hname', hconnection'⟩ := h'
  rw [hname] at hname'
  cases hname'
  rw [hconnection] at hconnection'
  exact Option.some.inj hconnection'

theorem sectionStreamId_iff {enabled streamId : Option ℕ}
    (henabled : getDecimalUint32 context sectionName (text "enabled") = .ok enabled)
    (hstream : getDecimalUint32 context sectionName (text "stream_id") = .ok streamId) :
    SectionStreamId context sectionName (streamId.getD (enabled.getD 0) % 2 ^ 8) ↔
      StreamIdFaithful context sectionName := by
  obtain ⟨value, hvalue, hdecimal⟩ := bind_eq_ok.mp hstream
  have hdecimal := Except.ok.inj hdecimal
  rw [SectionStreamId, StreamIdFaithful, hvalue, henabled]
  cases value with
  | none =>
      subst hdecimal
      simp
  | some value =>
      simp only [Option.bind_some] at hdecimal
      rw [← hdecimal]
      cases hnumber : decimalUint32 value with
      | none => simp [hnumber]
      | some n =>
          simp [hnumber, maxStreamId]
          omega

theorem sectionBus_iff {data32 bus : ℕ}
    (hbus : parseBus globals context sectionName data32 = .ok bus) :
    SectionBus context sectionName bus ↔ BusFaithful globals context sectionName := by
  rw [parseBus] at hbus
  split at hbus
  · rename_i hscan
    cases hbus
    constructor
    · intro h
      obtain ⟨value, hvalue, hhex, hle⟩ := h
      exact ⟨value, _, hvalue, hhex, hle, Or.inr rfl⟩
    · intro h
      obtain ⟨value, bus, hvalue, hhex, hle, hset⟩ := h
      have heq := hset.resolve_left hscan
      exact ⟨value, hvalue, heq ▸ hhex, heq ▸ hle⟩
  · rename_i hscan
    obtain ⟨number, hnumber, hbus⟩ := bind_eq_ok.mp hbus
    obtain ⟨value, hvalue, hhex⟩ := bind_eq_ok.mp hnumber
    have hbus := Except.ok.inj hbus
    have hhex := Except.ok.inj hhex
    constructor
    · intro h
      obtain ⟨value', hvalue', hhex', hle⟩ := h
      exact ⟨value', bus, hvalue', hhex', hle, Or.inl (not_not.mp hscan)⟩
    · intro h
      obtain ⟨value', bus', hvalue', hhex', hle, -⟩ := h
      rw [hvalue] at hvalue'
      cases hvalue'
      rw [Option.bind_some, hhex'] at hhex
      have hsame : bus = bus' := by
        rw [← hbus, ← hhex, Option.getD_some]
        exact Nat.mod_eq_of_lt (Nat.lt_of_le_of_lt hle (by decide))
      exact ⟨value', hvalue, hsame ▸ hhex', hsame ▸ hle⟩

theorem sectionSegment_iff {data32 data32' segment : ℕ}
    (hsegment : parseSegment globals context sectionName data32 = .ok (some (segment, data32'))) :
    SectionSegment context sectionName segment ↔ SegmentFaithful globals context sectionName := by
  rw [parseSegment] at hsegment
  split at hsegment
  · rename_i hscan
    cases hsegment
    constructor
    · intro h
      obtain ⟨value, hvalue, heq⟩ := h
      exact ⟨value, hvalue, Or.inr heq⟩
    · intro h
      obtain ⟨value, hvalue, hset⟩ := h
      exact ⟨value, hvalue, hset.resolve_left hscan⟩
  · rename_i hscan
    obtain ⟨number, hnumber, hsegment⟩ := bind_eq_ok.mp hsegment
    have heq : segment = number.getD 0 := by
      split at hsegment
      · cases hsegment
        rfl
      · split at hsegment
        · cases hsegment
        · cases hsegment
          rfl
    constructor
    · exact fun _ => ⟨number, hnumber, Or.inl (not_not.mp hscan)⟩
    · exact fun _ => ⟨number, hnumber, heq⟩

/-- Given the paths of an accepted topology, the rest of its slot and the types of its ports
decide. -/
theorem sectionPaths_iff
    (hpaths : parsePaths context testConfig sectionName top = .ok (true, top')) :
    SectionPaths context testConfig sectionName top' ↔
      PathsFaithful context testConfig sectionName top.connection top := by
  obtain ⟨route₁, hroute₁, hplace⟩ := parsePaths_eq_true hpaths
  cases hplace with
  | inl hone =>
      obtain ⟨hnot, rfl⟩ := hone
      have hconns : top.connection = .direct → route₁.swConns = [] := by
        intro hdirect
        rw [hdirect] at hroute₁
        obtain ⟨_, _, _, _, _, _, hrest⟩ := hroute₁
        exact hrest.1
      cases hconnection : top.connection with
      | direct =>
          rw [hconnection] at hroute₁
          have hempty := hconns hconnection
          simp only [SectionPaths, PathsFaithful, TopologyPath.place, TopologyPath.setPorts,
            hconnection]
          constructor
          · intro h
            obtain ⟨route, hroute, hleads, -, hconn1, -, -, hconn2⟩ := h
            have hsame := hroute.unique hroute₁
            subst hsame
            exact ⟨route, hroute, hleads, hconn1.trans hempty, hconn2⟩
          · intro h
            obtain ⟨route, hroute, hleads, hconn1, hconn2⟩ := h
            have hsame := hroute.unique hroute₁
            subst hsame
            exact ⟨route, hroute, hleads, rfl, hconn1.trans hempty.symm, rfl, rfl, hconn2⟩
      | switch =>
          rw [hconnection] at hroute₁
          simp only [SectionPaths, PathsFaithful, TopologyPath.place, TopologyPath.setPorts,
            TopologyPath.setConns, hconnection]
          constructor
          · intro h
            obtain ⟨route, hroute, hleads, -, -, -, -, hconn2⟩ := h
            exact ⟨route, hroute, hleads, hconn2⟩
          · intro h
            obtain ⟨route, hroute, hleads, hconn2⟩ := h
            have hsame := hroute.unique hroute₁
            subst hsame
            exact ⟨route, hroute, hleads, rfl, rfl, rfl, rfl, hconn2⟩
      | p2p => exact absurd hconnection hnot
  | inr htwo =>
      obtain ⟨hconnection, route₂, hroute₂, rfl⟩ := htwo
      rw [hconnection] at hroute₁ ⊢
      simp only [SectionPaths, PathsFaithful, TopologyPath.place, TopologyPath.setPorts,
        TopologyPath.setConns, hconnection]
      constructor
      · intro h
        obtain ⟨route, hroute, hleads, -, -, route', hroute', hleads', hsame, -⟩ := h
        exact ⟨route, hroute, hleads, route', hroute', hleads', hsame⟩
      · intro h
        obtain ⟨route, hroute, hleads, route', hroute', hleads', hsame⟩ := h
        have h₁ := hroute.unique hroute₁
        have h₂ := hroute'.unique hroute₂
        subst h₁ h₂
        refine ⟨route, hroute, hleads, congrArg IdePort.id hsame, rfl, route', hroute', hleads',
          hsame, rfl, rfl, rfl⟩

/-- An accepted topology is described by its section just when the section is read faithfully. -/
theorem TopologyRead.described_iff
    (h : TopologyRead globals context testConfig (topologySectionName index)
      (topologySlot testConfig) top) :
    TopologyDescribed context testConfig index { top with id := index } ↔
      SectionFaithful globals context testConfig index := by
  have hframe := parsePaths_frame h.paths_eq
  have htype : top.type = h.type := congrArg IdeTestTopology.type hframe
  have hconnection : top.connection = h.connection := congrArg IdeTestTopology.connection hframe
  have hstreamId : top.streamId = h.streamId.getD (h.enabled.getD 0) % 2 ^ 8 :=
    congrArg IdeTestTopology.streamId hframe
  have hbusRead : top.bus = h.bus := congrArg IdeTestTopology.bus hframe
  have hsegmentRead : top.segment = h.segment := congrArg IdeTestTopology.segment hframe
  have hpaths := sectionPaths_iff h.paths_eq
  have hstream := sectionStreamId_iff h.enabled_eq h.streamId_eq
  have hbus := sectionBus_iff h.bus_eq
  have hsegment := sectionSegment_iff h.segment_eq
  rw [← hstreamId] at hstream
  rw [← hbusRead] at hbus
  rw [← hsegmentRead] at hsegment
  constructor
  · intro hdescribed
    refine ⟨hstream.mp hdescribed.streamId, hbus.mp hdescribed.bus,
      hsegment.mp hdescribed.segment, ?_⟩
    intro connection hsection
    rw [hsection.unique h.connection_eq]
    exact hpaths.mp hdescribed.paths
  · intro hfaithful
    refine ⟨rfl, ⟨h.enabled, h.enabled_eq, congrArg IdeTestTopology.enabled hframe⟩, ?_, ?_,
      hstream.mpr hfaithful.streamId, hbus.mpr hfaithful.bus, hsegment.mpr hfaithful.segment, ?_⟩
    · rw [htype]
      exact h.type_eq
    · rw [hconnection]
      exact h.connection_eq
    · exact hpaths.mpr (hfaithful.paths h.connection h.connection_eq)

end

end TeeIoValidator.IniConfig
