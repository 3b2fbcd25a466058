import TeeIoValidator.Verification.IniConfig.Paths
import TeeIoValidator.Verification.IniConfig.Switches

/-! # Topologies

What is found by its name is stored, so the ports and connections of an accepted topology are found
again by their ids.
-/

namespace TeeIoValidator.IniConfig

open IniFile Checked

/-- The ports of a topology and the connections on its paths are stored. -/
structure TopologyResolves (testConfig : IdeTestConfig) (top : IdeTestTopology) : Prop where
  rootPort : (getPortById testConfig top.rootPort).isSome
  upperPort : (getPortById testConfig top.upperPort).isSome
  lowerPort : (getPortById testConfig top.lowerPort).isSome
  conns : ∀ conn ∈ top.pathConns, switchConnResolves testConfig conn = true

variable {globals : Globals} {context : IniContext} {testConfig : IdeTestConfig}
  {sectionName : List UInt8} {path : TopologyPath} {top : IdeTestTopology}

/-! ## Connections -/

theorem parseSwitchString_resolves (h : NamesStored testConfig) {str : List UInt8}
    {conn : IdeSwitchInternalConnection} (hconn : parseSwitchString testConfig str = some conn) :
    switchConnResolves testConfig conn = true := by
  simp only [parseSwitchString, Option.bind_eq_bind, Option.bind_eq_some_iff] at hconn
  obtain ⟨⟨name, ports⟩, -, sw, hsw, ⟨port1, port2⟩, -, p1, hp1, p2, hp2, heq⟩ := hconn
  cases heq
  obtain ⟨i, -, hi, -, -⟩ := getSwitchByName_eq_some hsw
  have hpacked := h.switchPorts i
  rw [hi] at hpacked
  rw [switchConnResolves, getSwitchById_of_name h.switches hsw, Option.any_some, Bool.and_eq_true]
  exact ⟨getPortFromSwitchById_isSome_of_name hpacked hp1,
    getPortFromSwitchById_isSome_of_name hpacked hp2⟩

theorem parseSwConns_resolves (h : NamesStored testConfig) {strs : List (List UInt8)}
    {header conns : List IdeSwitchInternalConnection}
    (hheader : ∀ conn ∈ header, switchConnResolves testConfig conn = true)
    (hok : parseSwConns testConfig strs header = .ok (some conns)) :
    ∀ conn ∈ conns, switchConnResolves testConfig conn = true := by
  induction strs generalizing header with
  | nil =>
      cases hok
      exact hheader
  | cons str strs ih =>
      rw [parseSwConns] at hok
      split at hok
      · rename_i conn hconn
        refine ih ?_ hok
        intro c hc
        rw [List.mem_append, List.mem_singleton] at hc
        cases hc with
        | inl hmem => exact hheader c hmem
        | inr heq => exact heq ▸ parseSwitchString_resolves h hconn
      · split at hok
        · cases hok
        · cases hok

/-! ## Routes -/

theorem ReadsPath.rootport_isSome (h : NamesStored testConfig) {connection : IdeTestConnectType}
    {route : TopologyRoute}
    (hpath : ReadsPath context testConfig sectionName path connection route) :
    (getPortById testConfig route.rootport.id).isSome := by
  obtain ⟨value, first, rest, -, -, hroot, -⟩ := hpath
  exact getPortById_isSome_of_name h.ports hroot

theorem ReadsPath.lowerPort_isSome (h : NamesStored testConfig) {connection : IdeTestConnectType}
    {route : TopologyRoute}
    (hpath : ReadsPath context testConfig sectionName path connection route) :
    (getPortById testConfig route.lowerPort.id).isSome := by
  obtain ⟨value, first, rest, -, -, -, hrest⟩ := hpath
  cases connection with
  | direct => exact getPortById_isSome_of_name h.ports hrest.2
  | switch | p2p =>
      obtain ⟨_, _, -, -, hlower⟩ := hrest
      exact getPortById_isSome_of_name h.ports hlower

theorem ReadsPath.swConns_resolve (h : NamesStored testConfig) {connection : IdeTestConnectType}
    {route : TopologyRoute}
    (hpath : ReadsPath context testConfig sectionName path connection route) :
    ∀ conn ∈ route.swConns, switchConnResolves testConfig conn = true := by
  obtain ⟨value, first, rest, -, -, -, hrest⟩ := hpath
  cases connection with
  | direct =>
      rw [hrest.1]
      intro conn hconn
      cases hconn
  | switch | p2p =>
      obtain ⟨_, _, -, hconns, -⟩ := hrest
      refine parseSwConns_resolves h ?_ hconns
      intro conn hconn
      cases hconn

/-- The paths of an accepted topology lead through stored ports and switches. -/
theorem parsePaths_resolves (h : NamesStored testConfig) {top' : IdeTestTopology}
    (hpaths : parsePaths context testConfig sectionName top = .ok (true, top')) :
    TopologyResolves testConfig top' := by
  obtain ⟨route₁, hroute₁, hplace⟩ := parsePaths_eq_true hpaths
  have hroot₁ := hroute₁.rootport_isSome h
  have hlower₁ := hroute₁.lowerPort_isSome h
  have hconns₁ := hroute₁.swConns_resolve h
  cases hplace with
  | inl hone =>
      obtain ⟨hconnection, rfl⟩ := hone
      cases htop : top.connection with
      | direct =>
          simp only [TopologyPath.place, htop, TopologyPath.setPorts]
          refine ⟨hroot₁, hroot₁, hlower₁, ?_⟩
          simp [IdeTestTopology.pathConns]
      | switch =>
          simp only [TopologyPath.place, htop, TopologyPath.setConns, TopologyPath.setPorts]
          exact ⟨hroot₁, hroot₁, hlower₁, hconns₁⟩
      | p2p => exact absurd htop hconnection
  | inr htwo =>
      obtain ⟨hconnection, route₂, hroute₂, rfl⟩ := htwo
      simp only [TopologyPath.place, hconnection, TopologyPath.setConns, TopologyPath.setPorts]
      refine ⟨hroute₂.rootport_isSome h, hlower₁, hroute₂.lowerPort_isSome h, ?_⟩
      intro conn hconn
      simp only [IdeTestTopology.pathConns, List.mem_append] at hconn
      cases hconn with
      | inl hmem => exact hconns₁ conn hmem
      | inr hmem => exact hroute₂.swConns_resolve h conn hmem

/-! ## Slots -/

@[simp] theorem setPorts_id {rootport lowerPort : IdePort} :
    (path.setPorts rootport lowerPort top).id = top.id := by
  cases hconnection : top.connection with
  | direct | switch => simp only [TopologyPath.setPorts, hconnection]
  | p2p => cases path <;> simp only [TopologyPath.setPorts, hconnection]

@[simp] theorem setConns_id {conns : List IdeSwitchInternalConnection} :
    (path.setConns conns top).id = top.id := by
  cases path <;> rfl

theorem parseSwConns_inBounds (strs : List (List UInt8))
    (header : List IdeSwitchInternalConnection) :
    Ends InBounds (fun _ => True) (parseSwConns testConfig strs header) := by
  induction strs generalizing header with
  | nil => trivial
  | cons str strs ih =>
      rw [parseSwConns]
      split
      · exact ih _
      · split
        · trivial
        · simp [InBounds]

theorem parseLowerPort_id {rootport : IdePort} {str : List UInt8} :
    (parseLowerPort testConfig path rootport str top).2.id = top.id := by
  rw [parseLowerPort]
  split
  · rfl
  · split
    · rfl
    · exact setPorts_id

theorem parseAfterRootport_ends {rootport : IdePort} {str : List UInt8} :
    Ends InBounds (fun result => result.2.id = top.id)
      (parseAfterRootport testConfig path rootport str top) := by
  rw [parseAfterRootport]
  split
  · exact parseLowerPort_id
  all_goals
    split
    · rfl
    · refine (parseSwConns_inBounds _ _).bind fun conns _ => ?_
      split
      · rfl
      · exact parseLowerPort_id.trans setConns_id

/-- Whether a path is accepted or not, the slot keeps its id. -/
theorem parsePathInTopologySection_ends :
    Ends InBounds (fun result => result.2.id = top.id)
      (parsePathInTopologySection context testConfig sectionName path top) := by
  rw [parsePathInTopologySection]
  refine (getString_inBounds _ _).bind fun entryValue _ => ?_
  split
  · rfl
  · split
    · simp [InBounds]
    · split
      · rfl
      · split
        · rfl
        · split
          · rfl
          · exact parseAfterRootport_ends

theorem parsePaths_ends :
    Ends InBounds (fun result => result.2.id = top.id)
      (parsePaths context testConfig sectionName top) := by
  rw [parsePaths]
  refine parsePathInTopologySection_ends.bind fun result hid => ?_
  simp only
  split
  · exact parsePathInTopologySection_ends.mono fun _ hid' => hid'.trans hid
  · exact hid

/-! ## Sections -/

theorem parseSegment_inBounds (data32 : ℕ) :
    Ends InBounds (fun _ => True) (parseSegment globals context sectionName data32) := by
  rw [parseSegment]
  split
  · trivial
  · refine (getHexUint32_inBounds _ _).bind fun segment _ => ?_
    split <;> trivial

theorem parseBus_inBounds (data32 : ℕ) :
    Ends InBounds (fun _ => True) (parseBus globals context sectionName data32) := by
  rw [parseBus]
  split
  · trivial
  · exact (getHexUint32_inBounds _ _).bind fun _ _ => trivial

theorem parseTopologyPlace_ends (data32 tdispFunctionId : ℕ) :
    Ends InBounds (fun result => result.topology.id = top.id)
      (parseTopologyPlace globals context testConfig sectionName data32 tdispFunctionId top) := by
  rw [parseTopologyPlace]
  refine (parseSegment_inBounds data32).bind fun segment _ => ?_
  split
  · rfl
  · rename_i segment data32'
    refine (parseBus_inBounds data32').bind fun bus _ => ?_
    have hpaths : Ends InBounds (fun result => result.2.id = top.id)
        (parsePaths context testConfig sectionName { top with segment, bus }) := parsePaths_ends
    exact hpaths.bind fun result hresult => hresult

/-- Whether a section is accepted or not, the slot keeps its id. -/
theorem parseTopology_ends (tdispFunctionId : ℕ) :
    Ends InBounds (fun result => result.topology.id = top.id)
      (parseTopology globals context testConfig sectionName tdispFunctionId top) := by
  rw [parseTopology]
  refine (getDecimalUint32_inBounds _ _).bind fun enabled _ => ?_
  refine (getString_inBounds _ _).bind fun typeName _ => ?_
  split
  · rfl
  · refine (getString_inBounds _ _).bind fun connectionName _ => ?_
    split
    · rfl
    · rw [parseTopologyStream]
      refine (getDecimalUint32_inBounds _ _).bind fun streamId _ => ?_
      refine (getHexUint32_inBounds _ _).bind fun functionId _ => ?_
      split
      · rfl
      · exact parseTopologyPlace_ends _ _

/-- A record is enabled unless its section says otherwise. -/
def enabledFlag (enabled : Option ℕ) : Bool := (enabled.map (· == 1)).getD true

/-- What an accepted section has read into the slot `top`. -/
structure TopologyRead (globals : Globals) (context : IniContext) (testConfig : IdeTestConfig)
    (sectionName : List UInt8) (top top' : IdeTestTopology) where
  enabled : Option ℕ
  type : IdeTestTopologyType
  connection : IdeTestConnectType
  streamId : Option ℕ
  functionId : Option ℕ
  segment : ℕ
  data32 : ℕ
  bus : ℕ
  enabled_eq : getDecimalUint32 context sectionName (text "enabled") = .ok enabled
  type_eq : ∃ name, getString context sectionName (text "type") = .ok (some name) ∧
    getTopologyTypeFromName name = some type
  connection_eq : ∃ name, getString context sectionName (text "connection") = .ok (some name) ∧
    getConnectionFromName name = some connection
  streamId_eq : getDecimalUint32 context sectionName (text "stream_id") = .ok streamId
  segment_eq : parseSegment globals context sectionName
    (functionId.getD (streamId.getD (enabled.getD 0))) = .ok (some (segment, data32))
  bus_eq : parseBus globals context sectionName data32 = .ok bus
  paths_eq : parsePaths context testConfig sectionName
    { top with
      enabled := enabledFlag enabled, type, connection, segment, bus,
      streamId := streamId.getD (enabled.getD 0) % 2 ^ 8 } = .ok (true, top')

theorem parseTopology_accepted {tdispFunctionId : ℕ} {result : TopologyResult}
    (h : parseTopology globals context testConfig sectionName tdispFunctionId top = .ok result)
    (haccepted : result.accepted = true) :
    Nonempty (TopologyRead globals context testConfig sectionName top result.topology) := by
  rw [parseTopology] at h
  obtain ⟨enabled, henabled, h⟩ := bind_eq_ok.mp h
  obtain ⟨typeName, htypeName, h⟩ := bind_eq_ok.mp h
  split at h
  · cases h
    cases haccepted
  · rename_i type htype
    obtain ⟨connectionName, hconnectionName, h⟩ := bind_eq_ok.mp h
    split at h
    · cases h
      cases haccepted
    · rename_i connection hconnection
      rw [parseTopologyStream] at h
      obtain ⟨streamId, hstream, h⟩ := bind_eq_ok.mp h
      obtain ⟨functionId, -, h⟩ := bind_eq_ok.mp h
      split at h
      · cases h
        cases haccepted
      · rw [parseTopologyPlace] at h
        obtain ⟨segment, hsegment, h⟩ := bind_eq_ok.mp h
        split at h
        · cases h
          cases haccepted
        · rename_i segment data32
          obtain ⟨bus, hbus, h⟩ := bind_eq_ok.mp h
          obtain ⟨⟨found, top'⟩, hpaths, h⟩ := bind_eq_ok.mp h
          cases h
          have hfound : found = true := (Bool.and_eq_true _ _ ▸ haccepted).1
          subst hfound
          obtain ⟨name, rfl, hname⟩ := Option.bind_eq_some_iff.mp htype
          obtain ⟨name', rfl, hname'⟩ := Option.bind_eq_some_iff.mp hconnection
          refine ⟨⟨enabled, type, connection, streamId, functionId, segment, data32, bus, henabled,
            ⟨name, htypeName, hname⟩, ⟨name', hconnectionName, hname'⟩, hstream, hsegment, hbus,
            ?_⟩⟩
          cases enabled with
          | none => exact hpaths
          | some value => exact hpaths

/-! ## The stage -/

/-- The topologies up to index `k` have been parsed, and those that are stored satisfy `stored`. The
slot behind them may have been written, but it has no id. -/
structure HasTopologies (base : IdeTestConfig) (stored : IdeTestTopology → Prop) (k : ℕ)
    (testConfig : IdeTestConfig) : Prop where
  frame : ∃ topologies tdispFunctionId, testConfig = { base with topologies, tdispFunctionId }
  packed : testConfig.topologies.Packed IdeTestTopology.id k
  cnt_le : testConfig.topologies.cnt ≤ k
  stored : ∀ i, (testConfig.topologies.records i).id ≠ 0 →
    stored (testConfig.topologies.records i)

section

variable {base : IdeTestConfig} {stored : IdeTestTopology → Prop} {k : ℕ}

theorem hasTopologies_zero (hempty : base.topologies = ⟨0, fun _ => {}⟩) :
    HasTopologies base stored 0 base := by
  refine ⟨⟨_, _, rfl⟩, ?_, ?_, ?_⟩
  · rw [hempty]
    exact Table.packed_empty fun _ => rfl
  · rw [hempty]
  · intro i hid
    rw [hempty] at hid
    exact absurd rfl hid

theorem HasTopologies.namesStored (h : HasTopologies base stored k testConfig)
    (hnames : NamesStored base) : NamesStored testConfig := by
  obtain ⟨topologies, tdispFunctionId, rfl⟩ := h.frame
  exact ⟨hnames.ports, hnames.switches, hnames.switchPorts⟩

theorem HasTopologies.skip (h : HasTopologies base stored k testConfig) :
    HasTopologies base stored (k + 1) testConfig :=
  ⟨h.frame, h.packed.mono (Nat.le_succ k), h.cnt_le.trans (Nat.le_succ k), h.stored⟩

/-- A section writes the slot behind the stored topologies and may count it. -/
theorem HasTopologies.store (h : HasTopologies base stored k testConfig)
    (hlt : testConfig.topologies.cnt < maxTopologyNum) {result : TopologyResult}
    (hid : result.topology.id =
      (testConfig.topologies.records ⟨testConfig.topologies.cnt, hlt⟩).id)
    (haccepted : result.accepted = true → stored { result.topology with id := k + 1 }) :
    HasTopologies base stored (k + 1)
      (storeTopology testConfig ⟨testConfig.topologies.cnt, hlt⟩ (k + 1) result).2 := by
  have hzero : result.topology.id = 0 := hid.trans (h.packed.free _ le_rfl)
  have hframe : ∀ topologies tdispFunctionId, ∃ topologies' tdispFunctionId',
      { testConfig with topologies, tdispFunctionId } =
        { base with topologies := topologies', tdispFunctionId := tdispFunctionId' } := by
    intro topologies tdispFunctionId
    obtain ⟨_, _, rfl⟩ := h.frame
    exact ⟨_, _, rfl⟩
  rw [storeTopology]
  by_cases htrue : result.accepted = true
  · rw [if_pos htrue]
    refine ⟨hframe _ _, ?_, Nat.succ_le_succ h.cnt_le, ?_⟩
    · exact h.packed.store hlt (Nat.lt_succ_self k) le_rfl
    · exact Table.put_stored IdeTestTopology.id (fun _ => haccepted htrue) h.stored
  · rw [if_neg htrue]
    refine ⟨hframe _ _, ?_, h.cnt_le.trans (Nat.le_succ k), ?_⟩
    · exact (h.packed.scratch hlt hzero).mono (Nat.le_succ k)
    · exact Table.put_stored IdeTestTopology.id (fun hne => absurd hzero hne) h.stored

/-- A section is skipped or writes the slot. -/
theorem parseTopologySection_eq_ok {index : ℕ} {result : Bool × IdeTestConfig}
    (h : parseTopologySection globals context testConfig index = .ok result) :
    result = (false, testConfig) ∨
      ∃ (hlt : testConfig.topologies.cnt < maxTopologyNum) (written : TopologyResult),
        parseTopology globals context testConfig (topologySectionName index)
          testConfig.tdispFunctionId
          (testConfig.topologies.records ⟨testConfig.topologies.cnt, hlt⟩) = .ok written ∧
        result = storeTopology testConfig ⟨testConfig.topologies.cnt, hlt⟩ index written := by
  rw [parseTopologySection, inSection] at h
  split at h
  · left
    cases h
    rfl
  · obtain ⟨valid, -, h⟩ := bind_eq_ok.mp h
    split at h
    · split at h
      · rename_i hlt
        obtain ⟨written, hwritten, h⟩ := bind_eq_ok.mp h
        right
        refine ⟨hlt, written, hwritten, ?_⟩
        cases h
        rfl
      · cases h
    · left
      cases h
      rfl

theorem storeTopology_accepted {slot : Fin maxTopologyNum} {index : ℕ} {written : TopologyResult} :
    (storeTopology testConfig slot index written).1 = written.accepted := by
  rw [storeTopology]
  cases written.accepted with
  | true => rfl
  | false => rfl

theorem parseTopologySection_inBounds {index : ℕ}
    (hlt : testConfig.topologies.cnt < maxTopologyNum) :
    Ends InBounds (fun _ => True) (parseTopologySection globals context testConfig index) := by
  refine inSection_ends (fun _ hfault => hfault) trivial ?_
  rw [dif_pos hlt]
  exact (parseTopology_ends _).bind fun _ _ => trivial

/-- A step of the stage; `stored` has to hold of a topology that is accepted. -/
theorem HasTopologies.step (h : HasTopologies base stored k testConfig) (hk : k < maxTopologyNum)
    (haccepted : ∀ after, parseTopologySection globals context testConfig (k + 1) =
      .ok (true, after) → ∀ hlt top', Nonempty (TopologyRead globals context testConfig
        (topologySectionName (k + 1))
        (testConfig.topologies.records ⟨testConfig.topologies.cnt, hlt⟩) top') →
      stored { top' with id := k + 1 }) :
    Ends InBounds (HasTopologies base stored (k + 1))
      (sectionStep (parseTopologySection globals context) k testConfig) := by
  have hlt : testConfig.topologies.cnt < maxTopologyNum := Nat.lt_of_le_of_lt h.cnt_le hk
  rw [sectionStep]
  cases hsection : parseTopologySection globals context testConfig (k + 1) with
  | error fault => exact (ends_iff.mp (parseTopologySection_inBounds hlt)).2 fault hsection
  | ok result =>
      cases parseTopologySection_eq_ok hsection with
      | inl hskip =>
          rw [hskip]
          exact h.skip
      | inr hwrites =>
          obtain ⟨_, written, hwritten, rfl⟩ := hwrites
          refine h.store hlt ((ends_iff.mp (parseTopology_ends _)).1 written hwritten) ?_
          intro htrue
          have hpair : storeTopology testConfig ⟨testConfig.topologies.cnt, hlt⟩ (k + 1) written =
              (true,
                (storeTopology testConfig ⟨testConfig.topologies.cnt, hlt⟩ (k + 1) written).2) :=
            Prod.ext (storeTopology_accepted.trans htrue) rfl
          exact haccepted _ (hsection.trans (congrArg Except.ok hpair)) hlt _
            (parseTopology_accepted hwritten htrue)

theorem parseTopologies_ends (hnames : NamesStored base)
    (hempty : base.topologies = ⟨0, fun _ => {}⟩) :
    Ends InBounds (HasTopologies base (TopologyResolves base) maxTopologyNum)
      (parseTopologies globals context base) := by
  refine ends_upTo (hasTopologies_zero hempty) fun k hk testConfig h => ?_
  refine h.step hk fun after _ hlt top' hread => ?_
  obtain ⟨hread⟩ := hread
  have hresolves := parsePaths_resolves (h.namesStored hnames) hread.paths_eq
  obtain ⟨_, _, rfl⟩ := h.frame
  exact ⟨hresolves.rootPort, hresolves.upperPort, hresolves.lowerPort, hresolves.conns⟩

end

end TeeIoValidator.IniConfig
