import TeeIoValidator.Verification.IniConfig.Suites

/-! # Accepted files

What is stored when a file has been accepted, stage by stage. No table is left unless the file lists
too many ports.
-/

namespace TeeIoValidator.IniConfig

open IniFile Checked

variable {globals : Globals} {context : IniContext} {testConfig testConfig' : IdeTestConfig}

/-! ## The main section -/

def mainEntryNames : List (List UInt8) :=
  [text "pci_log", text "libspdm_log", text "doe_log", text "debug_level", text "pcap_enable",
    text "spdm_version"]

/-- The section `Main` is read to its end and has no unknown version. -/
structure MainAccepted (context : IniContext) : Prop where
  entries : ∀ entryName ∈ mainEntryNames,
    ∃ value, getString context (text "Main") entryName = .ok value
  spdmVersion : ∀ value,
    getString context (text "Main") (text "spdm_version") = .ok (some value) →
      (parseSpdmVersion value).isSome

theorem parseFlag_eq_ok {sectionName entryName : List UInt8} {flag b : Bool}
    (h : parseFlag context sectionName entryName flag = .ok b) :
    ∃ value, getString context sectionName entryName = .ok value := by
  obtain ⟨data32, hdata, -⟩ := bind_eq_ok.mp h
  obtain ⟨value, hvalue, -⟩ := bind_eq_ok.mp hdata
  exact ⟨value, hvalue⟩

theorem exists_parseFlag {sectionName entryName : List UInt8} {value : Option (List UInt8)}
    (h : getString context sectionName entryName = .ok value) (flag : Bool) :
    ∃ b, parseFlag context sectionName entryName flag = .ok b := by
  rw [parseFlag, getDecimalUint32, h]
  exact ⟨_, rfl⟩

theorem parseMainSection_accepted
    (h : parseMainSection context testConfig = .ok (true, testConfig')) :
    MainAccepted context := by
  rw [parseMainSection] at h
  obtain ⟨pciLog, hpci, h⟩ := bind_eq_ok.mp h
  obtain ⟨libspdmLog, hlibspdm, h⟩ := bind_eq_ok.mp h
  obtain ⟨doeLog, hdoe, h⟩ := bind_eq_ok.mp h
  obtain ⟨debugLevel, hdebug, h⟩ := bind_eq_ok.mp h
  obtain ⟨pcapEnable, hpcap, h⟩ := bind_eq_ok.mp h
  obtain ⟨spdmVersion, hspdm, h⟩ := bind_eq_ok.mp h
  constructor
  · simp only [mainEntryNames, List.forall_mem_cons, List.not_mem_nil, false_implies, implies_true,
      and_true]
    exact ⟨parseFlag_eq_ok hpci, parseFlag_eq_ok hlibspdm, parseFlag_eq_ok hdoe, ⟨_, hdebug⟩,
      parseFlag_eq_ok hpcap, ⟨_, hspdm⟩⟩
  · intro value hvalue
    rw [hvalue] at hspdm
    cases hspdm
    simp only at h
    split at h
    · cases h
    · rename_i version hversion
      rw [hversion]
      rfl

theorem MainAccepted.exists_parseMainSection (h : MainAccepted context) :
    ∃ testConfig', parseMainSection context testConfig = .ok (true, testConfig') := by
  have hentries := h.entries
  simp only [mainEntryNames, List.forall_mem_cons, List.not_mem_nil, false_implies, implies_true,
    and_true] at hentries
  obtain ⟨⟨_, hpci⟩, ⟨_, hlibspdm⟩, ⟨_, hdoe⟩, ⟨_, hdebug⟩, ⟨_, hpcap⟩, ⟨spdm, hspdm⟩⟩ := hentries
  obtain ⟨pciLog, hpci⟩ := exists_parseFlag hpci testConfig.mainConfig.pciLog
  obtain ⟨libspdmLog, hlibspdm⟩ := exists_parseFlag hlibspdm testConfig.mainConfig.libspdmLog
  obtain ⟨doeLog, hdoe⟩ := exists_parseFlag hdoe testConfig.mainConfig.doeLog
  obtain ⟨pcapEnable, hpcap⟩ := exists_parseFlag hpcap testConfig.mainConfig.pcapEnable
  simp only [parseMainSection, hpci, hlibspdm, hdoe, hdebug, hpcap, hspdm, ok_bind]
  cases spdm with
  | none => exact ⟨_, rfl⟩
  | some value =>
      obtain ⟨version, hversion⟩ := Option.isSome_iff_exists.mp (h.spdmVersion value hspdm)
      simp only [hversion]
      exact ⟨_, rfl⟩

/-- Nothing is stored, whatever the main configuration. -/
def NothingStored (testConfig : IdeTestConfig) : Prop :=
  ∃ mainConfig, testConfig = { mainConfig }

theorem parseMainSection_ends :
    Ends InBounds (fun result => NothingStored result.2) (parseMainSection context {}) := by
  rw [parseMainSection]
  refine (parseFlag_inBounds _ _ _).bind fun pciLog _ => ?_
  refine (parseFlag_inBounds _ _ _).bind fun libspdmLog _ => ?_
  refine (parseFlag_inBounds _ _ _).bind fun doeLog _ => ?_
  refine (getString_inBounds _ _).bind fun debugLevel _ => ?_
  refine (parseFlag_inBounds _ _ _).bind fun pcapEnable _ => ?_
  refine (getString_inBounds _ _).bind fun spdmVersion _ => ?_
  split
  · exact ⟨_, rfl⟩
  · split <;> exact ⟨_, rfl⟩

/-! ## Accepted files -/

/-- What is stored when a file has been accepted. -/
structure Stored (globals : Globals) (context : IniContext) (testConfig : IdeTestConfig) :
    Prop where
  names : NamesStored testConfig
  topologies : testConfig.topologies.Packed IdeTestTopology.id maxTopologyNum
  topologiesResolve : ∀ i, (testConfig.topologies.records i).id ≠ 0 →
    TopologyResolves testConfig (testConfig.topologies.records i)
  configurations : testConfig.configurations.Positioned IdeTestConfiguration.id maxConfigurationNum
  configurationsRead : ∀ i, (testConfig.configurations.records i).id ≠ 0 →
    ConfigurationRead globals context (configurationSectionName (i.val + 1)) (i.val + 1)
      (testConfig.configurations.records i)
  testSuites : testConfig.testSuites.Positioned IdeTestSuite.id maxTestSuiteNum
  testSuitesRead : ∀ i, (testConfig.testSuites.records i).id ≠ 0 →
    TestSuiteRead globals context testConfig (testSuiteSectionName (i.val + 1)) (i.val + 1)
      (testConfig.testSuites.records i)

section

variable {base : IdeTestConfig}

/-- The tables that the last stages do not touch stay as they are. -/
theorem HasTestSuites.stored {base₁ base₂ : IdeTestConfig} (hnames : NamesStored base₁)
    (htopologies : HasTopologies base₁ (TopologyResolves base₁) maxTopologyNum base₂)
    (hconfigurations : HasConfigurations globals context base₂ maxConfigurationNum base)
    (h : HasTestSuites globals context base maxTestSuiteNum testConfig) :
    Stored globals context testConfig := by
  have hread : ∀ i, (testConfig.testSuites.records i).id ≠ 0 →
      TestSuiteRead globals context testConfig (testSuiteSectionName (i.val + 1)) (i.val + 1)
        (testConfig.testSuites.records i) := by
    intro i hid
    apply parseTestSuite_eq_some
    rw [h.parseTestSuite_eq]
    exact h.described i hid
  have hsuites := h.positioned
  obtain ⟨testSuites, rfl⟩ := h.frame
  obtain ⟨configurations, rfl⟩ := hconfigurations.frame
  refine ⟨?_, htopologies.packed, ?_, hconfigurations.positioned, ?_, hsuites, hread⟩
  · have hstored := htopologies.namesStored hnames
    exact ⟨hstored.ports, hstored.switches, hstored.switchPorts⟩
  · intro i hid
    have hresolves := htopologies.stored i hid
    obtain ⟨topologies, tdispFunctionId, rfl⟩ := htopologies.frame
    exact ⟨hresolves.rootPort, hresolves.upperPort, hresolves.lowerPort, hresolves.conns⟩
  · exact fun i hid => parseConfiguration_eq_some (hconfigurations.described i hid)

end

/-- Without suites, the table of suites stays empty. -/
theorem parseSuitesIfRun_ends {base : IdeTestConfig} (hempty : base.testSuites = ⟨0, fun _ => {}⟩) :
    Ends InBounds (fun result => HasTestSuites globals context base maxTestSuiteNum result.2 ∧
        (globals.runTestSuite = false → result.2.testSuites = ⟨0, fun _ => {}⟩))
      (parseSuitesIfRun globals context base) := by
  rw [parseSuitesIfRun]
  split
  · rename_i hrun
    refine (parseTestSuites_ends hempty).bind fun _ hsuites => ⟨hsuites, ?_⟩
    intro hnot
    rw [hrun] at hnot
    cases hnot
  · have hzero : HasTestSuites globals context base 0 base := hasTestSuites_zero hempty
    exact ⟨⟨hzero.frame, hzero.positioned.mono (Nat.zero_le _), hzero.described⟩, fun _ => hempty⟩

theorem parseSections_ends (hnothing : NothingStored testConfig) :
    Ends (fun fault => fault = .overrun → ListsTooManyPorts context)
      (fun result => result.1 = true → Stored globals context result.2 ∧
        (globals.runTestSuite = false → result.2.testSuites = ⟨0, fun _ => {}⟩))
      (parseSections globals context testConfig) := by
  obtain ⟨mainConfig, rfl⟩ := hnothing
  rw [parseSections]
  refine (parsePorts_ends rfl).bind fun portsRead hports => ?_
  obtain ⟨ports, rfl, hpacked⟩ := hports
  have hfaults : ∀ fault, InBounds fault → fault = .overrun → ListsTooManyPorts context :=
    fun _ hfault heq => absurd heq hfault
  refine Ends.weaken ?_ hfaults
  refine (parseSwitches_ends rfl).bind fun switchesRead hswitches => ?_
  have hnames := hswitches.namesStored hpacked
  obtain ⟨switches, rfl⟩ := hswitches.frame
  refine (parseTopologies_ends hnames rfl).bind fun topologiesRead htopologies => ?_
  split
  · intro h
    cases h
  · have hframe := htopologies.frame
    have hempty : topologiesRead.configurations = ⟨0, fun _ => {}⟩ := by
      obtain ⟨topologies, tdispFunctionId, rfl⟩ := hframe
      rfl
    have hempty' : topologiesRead.testSuites = ⟨0, fun _ => {}⟩ := by
      obtain ⟨topologies, tdispFunctionId, rfl⟩ := hframe
      rfl
    refine (parseConfigurations_ends hempty).bind fun configurationsRead hconfigurations => ?_
    split
    · intro h
      cases h
    · have hempty'' : configurationsRead.testSuites = ⟨0, fun _ => {}⟩ := by
        obtain ⟨configurations, rfl⟩ := hconfigurations.frame
        exact hempty'
      refine (parseSuitesIfRun_ends hempty'').mono fun result hsuites _ => ?_
      exact ⟨hsuites.1.stored hnames htopologies hconfigurations, hsuites.2⟩

theorem parseIdeTestInit_accepted
    (h : parseIdeTestInit globals (some context) = .ok (true, testConfig)) :
    Stored globals context testConfig ∧
      (globals.runTestSuite = false → testConfig.testSuites = ⟨0, fun _ => {}⟩) := by
  rw [parseIdeTestInit] at h
  obtain ⟨⟨valid, mainRead⟩, hmain, h⟩ := bind_eq_ok.mp h
  simp only at h
  split at h
  · have hnothing : NothingStored mainRead := (ends_iff.mp parseMainSection_ends).1 _ hmain
    exact (ends_iff.mp (parseSections_ends hnothing)).1 _ h rfl
  · cases h

/-- A file that is accepted has stored what its sections describe. -/
theorem parseIdeTestInit_stored
    (h : parseIdeTestInit globals (some context) = .ok (true, testConfig)) :
    Stored globals context testConfig :=
  (parseIdeTestInit_accepted h).1

/-- Just a file that lists too many ports leaves a table. -/
theorem parseIdeTestInit_eq_overrun_iff :
    parseIdeTestInit globals (some context) = .error .overrun ↔
      MainAccepted context ∧ ListsTooManyPorts context := by
  rw [parseIdeTestInit]
  constructor
  · intro h
    rw [bind_eq_error] at h
    cases h with
    | inl hmain => exact absurd rfl ((ends_iff.mp parseMainSection_ends).2 _ hmain)
    | inr hrest =>
        obtain ⟨⟨valid, mainRead⟩, hmain, h⟩ := hrest
        simp only at h
        split at h
        · rename_i hvalid
          have hnothing : NothingStored mainRead := (ends_iff.mp parseMainSection_ends).1 _ hmain
          rw [hvalid] at hmain
          exact ⟨parseMainSection_accepted hmain,
            (ends_iff.mp (parseSections_ends hnothing)).2 _ h rfl⟩
        · cases h
  · intro h
    obtain ⟨mainRead, hmain⟩ := h.1.exists_parseMainSection
    have hnothing : NothingStored mainRead := (ends_iff.mp parseMainSection_ends).1 _ hmain
    obtain ⟨mainConfig, rfl⟩ := hnothing
    rw [hmain]
    simp only [ok_bind, if_true, parseSections]
    rw [parsePorts_overrun rfl h.2, error_bind]

/-! ## Contexts -/

/-- The context of a file with these sections and entries. -/
def contextOf (sections : List (List UInt8 × List (List UInt8 × List UInt8))) : IniContext where
  sectionHead := (sections.flatMap fun (sectionName, entries) =>
    entries.map fun (entryName, value) =>
      ⟨.live sectionName, sectionName.length, .live entryName, .live value⟩).reverse
  commentHead := []

/-- A direct selective stream between the first two ports, with its configuration. -/
def directTopology : List (List UInt8 × List UInt8) :=
  [(text "type", text "selective_ide"), (text "connection", text "direct"),
    (text "bus", text "0x10"), (text "path1", text "rootport_1,endpoint_1")]

def selectiveConfiguration : List (List UInt8 × List UInt8) :=
  [(text "type", text "selective_ide")]

def selectiveSuite : List (List UInt8 × List UInt8) :=
  [(text "type", text "selective_ide"), (text "topology", text "1"),
    (text "configuration", text "1"), (text "Query", text "1")]

def firstPorts : List (List UInt8 × List UInt8) :=
  [(text "rootport_1", text "02.0"), (text "endpoint_1", text "00.0")]

/-- Whether the file is accepted with a configuration that passes a check. -/
def acceptedWith (globals : Globals) (context : IniContext) (check : IdeTestConfig → Bool) : Bool :=
  match parseIdeTestInit globals (some context) with
  | .ok (true, testConfig) => check testConfig
  | _ => false

theorem exists_of_acceptedWith {check : IdeTestConfig → Bool}
    (h : acceptedWith globals context check = true) :
    ∃ testConfig, parseIdeTestInit globals (some context) = .ok (true, testConfig) ∧
      check testConfig = true := by
  rw [acceptedWith] at h
  split at h
  · rename_i testConfig haccepted
    exact ⟨testConfig, haccepted, h⟩
  · cases h

/-- A file with the first ports and one topology, configuration and suite. -/
def fileContext (topology configuration suite : List (List UInt8 × List UInt8)) : IniContext :=
  contextOf [(text "Ports", firstPorts), (text "Topology_1", topology),
    (text "Configuration_1", configuration), (text "TestSuite_1", suite)]

end TeeIoValidator.IniConfig
