import TeeIoValidator.Verification.IniConfig.Lookups

/-! # Paths

What the entries of a topology's paths name, and what an accepted path makes of the topology.
-/

namespace TeeIoValidator.IniConfig

open IniFile Checked

/-- The ends of a path and the connections between them. -/
structure TopologyRoute where
  rootport : IdePort
  swConns : List IdeSwitchInternalConnection
  lowerPort : IdePort

/-- A path behind its root port. -/
def ReadsRest (testConfig : IdeTestConfig) (connection : IdeTestConnectType) (rest : List UInt8)
    (route : TopologyRoute) : Prop :=
  match connection with
  | .direct => route.swConns = [] ∧ getPortByName testConfig rest = some route.lowerPort
  | .switch | .p2p => ∃ swConns lowerPort, splitAtLastComma rest = some (swConns, lowerPort) ∧
      parseSwConnsString testConfig swConns = .ok (some route.swConns) ∧
      getPortByName testConfig lowerPort = some route.lowerPort

/-- The entry of a path names the route, by the stored ports and switches. -/
def ReadsPath (context : IniContext) (testConfig : IdeTestConfig) (sectionName : List UInt8)
    (path : TopologyPath) (connection : IdeTestConnectType) (route : TopologyRoute) : Prop :=
  ∃ value first rest, getString context sectionName path.entryName = .ok (some value) ∧
    splitAtFirst comma value = some (first, rest) ∧
    getPortByName testConfig first = some route.rootport ∧
    ReadsRest testConfig connection rest route

/-- What a path writes. -/
def TopologyPath.place (path : TopologyPath) (route : TopologyRoute) (top : IdeTestTopology) :
    IdeTestTopology :=
  match top.connection with
  | .direct =>
    path.setPorts route.rootport route.lowerPort { top with rootPort := route.rootport.id }
  | .switch | .p2p =>
    path.setPorts route.rootport route.lowerPort
      (path.setConns route.swConns { top with rootPort := route.rootport.id })

section

variable {context : IniContext} {testConfig : IdeTestConfig} {sectionName : List UInt8}
  {path : TopologyPath} {connection : IdeTestConnectType} {route route' : TopologyRoute}
  {top top' : IdeTestTopology}

theorem ReadsRest.unique {rest : List UInt8} (h : ReadsRest testConfig connection rest route)
    (h' : ReadsRest testConfig connection rest route') :
    route.swConns = route'.swConns ∧ route.lowerPort = route'.lowerPort := by
  cases connection with
  | direct =>
      obtain ⟨hconns, hlower⟩ := h
      obtain ⟨hconns', hlower'⟩ := h'
      rw [hlower] at hlower'
      exact ⟨hconns.trans hconns'.symm, Option.some.inj hlower'⟩
  | switch | p2p =>
      obtain ⟨swConns, lowerPort, hsplit, hconns, hlower⟩ := h
      obtain ⟨swConns', lowerPort', hsplit', hconns', hlower'⟩ := h'
      rw [hsplit] at hsplit'
      cases hsplit'
      rw [hconns] at hconns'
      rw [hlower] at hlower'
      exact ⟨Option.some.inj (Except.ok.inj hconns'), Option.some.inj hlower'⟩

/-- A path is determined by its section and the stored ports and switches. -/
theorem ReadsPath.unique (h : ReadsPath context testConfig sectionName path connection route)
    (h' : ReadsPath context testConfig sectionName path connection route') : route = route' := by
  obtain ⟨value, first, rest, hvalue, hsplit, hroot, hrest⟩ := h
  obtain ⟨value', first', rest', hvalue', hsplit', hroot', hrest'⟩ := h'
  rw [hvalue] at hvalue'
  cases hvalue'
  rw [hsplit] at hsplit'
  cases hsplit'
  rw [hroot] at hroot'
  have hsame := hrest.unique hrest'
  cases route with
  | mk rootport swConns lowerPort =>
      cases route' with
      | mk rootport' swConns' lowerPort' =>
          simp only at hroot' hsame
          rw [Option.some.inj hroot', hsame.1, hsame.2]

/-! A path depends on the ports and switches only. -/

theorem parseSwitchString_congr {testConfig' : IdeTestConfig}
    (hswitches : testConfig.switchesConfig = testConfig'.switchesConfig) (str : List UInt8) :
    parseSwitchString testConfig str = parseSwitchString testConfig' str := by
  simp only [parseSwitchString, getSwitchByName, hswitches]

theorem parseSwConns_congr {testConfig' : IdeTestConfig}
    (hswitches : testConfig.switchesConfig = testConfig'.switchesConfig)
    (strs : List (List UInt8)) (header : List IdeSwitchInternalConnection) :
    parseSwConns testConfig strs header = parseSwConns testConfig' strs header := by
  induction strs generalizing header with
  | nil => rfl
  | cons str strs ih =>
      simp only [parseSwConns, parseSwitchString_congr hswitches]
      cases parseSwitchString testConfig' str with
      | none => rfl
      | some conn => exact ih _

theorem getPortByName_congr {testConfig' : IdeTestConfig}
    (hports : testConfig.portsConfig = testConfig'.portsConfig) (name : List UInt8) :
    getPortByName testConfig name = getPortByName testConfig' name := by
  simp only [getPortByName, hports]

theorem readsPath_congr {testConfig' : IdeTestConfig}
    (hports : testConfig.portsConfig = testConfig'.portsConfig)
    (hswitches : testConfig.switchesConfig = testConfig'.switchesConfig) :
    ReadsPath context testConfig sectionName path connection route ↔
      ReadsPath context testConfig' sectionName path connection route := by
  simp only [ReadsPath, ReadsRest, parseSwConnsString, getPortByName_congr hports,
    parseSwConns_congr hswitches]

/-! ## Accepted paths -/

theorem parseLowerPort_eq_true {rootport : IdePort} {str : List UInt8}
    (h : parseLowerPort testConfig path rootport str top = (true, top')) :
    ∃ lowerPort, getPortByName testConfig str = some lowerPort ∧
      top' = path.setPorts rootport lowerPort top := by
  rw [parseLowerPort] at h
  split at h
  · cases h
  · split at h
    · cases h
    · rename_i lowerPort hlower
      cases h
      exact ⟨lowerPort, hlower, rfl⟩

theorem parseAfterRootport_eq_true {rootport : IdePort} {str : List UInt8}
    (h : parseAfterRootport testConfig path rootport str
      { top with rootPort := rootport.id } = .ok (true, top')) :
    ∃ swConns lowerPort, ReadsRest testConfig top.connection str ⟨rootport, swConns, lowerPort⟩ ∧
      top' = path.place ⟨rootport, swConns, lowerPort⟩ top := by
  cases hconnection : top.connection with
  | direct =>
      simp only [parseAfterRootport, hconnection, Except.ok.injEq] at h
      obtain ⟨lowerPort, hlower, heq⟩ := parseLowerPort_eq_true h
      refine ⟨[], lowerPort, ⟨rfl, hlower⟩, ?_⟩
      simp only [heq, TopologyPath.place, hconnection]
  | switch | p2p =>
      simp only [parseAfterRootport, hconnection] at h
      split at h
      · cases h
      · rename_i connsStr lowerStr hsplit
        obtain ⟨conns, hconns, hlast⟩ := bind_eq_ok.mp h
        split at hlast
        · cases hlast
        · rename_i swConns
          obtain ⟨lowerPort, hlower, heq⟩ := parseLowerPort_eq_true (Except.ok.inj hlast)
          refine ⟨swConns, lowerPort, ⟨connsStr, lowerStr, hsplit, hconns, hlower⟩, ?_⟩
          simp only [heq, TopologyPath.place, hconnection]

theorem parsePathInTopologySection_eq_true
    (h : parsePathInTopologySection context testConfig sectionName path top = .ok (true, top')) :
    ∃ route, ReadsPath context testConfig sectionName path top.connection route ∧
      top' = path.place route top := by
  rw [parsePathInTopologySection] at h
  obtain ⟨entryValue, hvalue, h⟩ := bind_eq_ok.mp h
  split at h
  · cases h
  · rename_i value
    split at h
    · cases h
    · split at h
      · cases h
      · rename_i first rest hsplit
        split at h
        · cases h
        · split at h
          · cases h
          · rename_i rootport hroot
            obtain ⟨swConns, lowerPort, hrest, heq⟩ := parseAfterRootport_eq_true h
            exact ⟨⟨rootport, swConns, lowerPort⟩, ⟨value, first, rest, hvalue, hsplit, hroot,
              hrest⟩, heq⟩

/-- A path writes the ports and connections only. -/
theorem place_eq : path.place route top =
    { top with
      rootPort := (path.place route top).rootPort, upperPort := (path.place route top).upperPort,
      lowerPort := (path.place route top).lowerPort, swConn1 := (path.place route top).swConn1,
      swConn2 := (path.place route top).swConn2 } := by
  cases hconnection : top.connection with
  | direct => simp [TopologyPath.place, TopologyPath.setPorts, hconnection]
  | switch | p2p =>
      cases path <;>
        simp [TopologyPath.place, TopologyPath.setPorts, TopologyPath.setConns, hconnection]

@[simp] theorem place_connection : (path.place route top).connection = top.connection := by
  rw [place_eq]

/-- The paths of an accepted topology. -/
theorem parsePaths_eq_true
    (h : parsePaths context testConfig sectionName top = .ok (true, top')) :
    ∃ route₁, ReadsPath context testConfig sectionName .path1 top.connection route₁ ∧
      (top.connection ≠ .p2p ∧ top' = TopologyPath.path1.place route₁ top ∨
        top.connection = .p2p ∧
          ∃ route₂, ReadsPath context testConfig sectionName .path2 .p2p route₂ ∧
            top' = TopologyPath.path2.place route₂ (TopologyPath.path1.place route₁ top)) := by
  rw [parsePaths] at h
  obtain ⟨⟨found, mid⟩, hmid, h⟩ := bind_eq_ok.mp h
  simp only at h
  split at h
  · rename_i hp2p
    have hfound := hp2p.1
    subst hfound
    obtain ⟨route₁, hroute₁, rfl⟩ := parsePathInTopologySection_eq_true hmid
    rw [place_connection] at hp2p
    obtain ⟨route₂, hroute₂, heq⟩ := parsePathInTopologySection_eq_true h
    rw [place_connection, hp2p.2] at hroute₂
    exact ⟨route₁, hroute₁, Or.inr ⟨hp2p.2, route₂, hroute₂, heq⟩⟩
  · rename_i hnot
    cases h
    obtain ⟨route₁, hroute₁, rfl⟩ := parsePathInTopologySection_eq_true hmid
    rw [place_connection] at hnot
    exact ⟨route₁, hroute₁, Or.inl ⟨fun heq => hnot ⟨rfl, heq⟩, rfl⟩⟩

theorem parsePaths_frame
    (h : parsePaths context testConfig sectionName top = .ok (true, top')) :
    top' = { top with
      rootPort := top'.rootPort, upperPort := top'.upperPort, lowerPort := top'.lowerPort,
      swConn1 := top'.swConn1, swConn2 := top'.swConn2 } := by
  obtain ⟨route₁, -, hplace⟩ := parsePaths_eq_true h
  cases hplace with
  | inl hone =>
      rw [hone.2]
      exact place_eq
  | inr htwo =>
      obtain ⟨-, route₂, -, heq⟩ := htwo
      rw [heq, place_eq, place_eq]

end

end TeeIoValidator.IniConfig
