import TeeIoValidator.Model.IniConfig.Prepare

/-! # Lookups of records

A record that is found by its name is found by its id.
-/

namespace TeeIoValidator.IniConfig

section

variable {testConfig : IdeTestConfig} {id : ℕ} {name : List UInt8}

theorem getConfigurationById_eq_some {config : IdeTestConfiguration}
    (h : getConfigurationById testConfig id = some config) :
    ∃ i, testConfig.configurations.records i = config ∧ config.id = id ∧ config.enabled = true ∧
      id ≠ 0 := by
  rw [getConfigurationById] at h
  split at h
  · cases h
  · rename_i hid
    obtain ⟨i, hi, hconfig⟩ := Option.map_eq_some_iff.mp h
    have hfound := Table.first?_eq_some hi
    rw [hconfig, Bool.and_eq_true, beq_iff_eq] at hfound
    exact ⟨i, hconfig, hfound.1, hfound.2, hid⟩

theorem getTopologyById_eq_some {top : IdeTestTopology}
    (h : getTopologyById testConfig id = some top) :
    ∃ i, testConfig.topologies.records i = top ∧ top.id = id ∧ top.enabled = true ∧ id ≠ 0 := by
  rw [getTopologyById] at h
  split at h
  · cases h
  · rename_i hid
    obtain ⟨i, hi, htop⟩ := Option.map_eq_some_iff.mp h
    have hfound := Table.first?_eq_some hi
    rw [htop, Bool.and_eq_true, beq_iff_eq] at hfound
    exact ⟨i, htop, hfound.1, hfound.2, hid⟩

theorem getPortByName_eq_some {port : IdePort} (h : getPortByName testConfig name = some port) :
    ∃ i : Fin maxSupportedPortsNum, i.val < testConfig.portsConfig.cnt ∧
      testConfig.portsConfig.records i = port ∧ port.portName = name ∧ port.enabled = true := by
  obtain ⟨i, hi, hport⟩ := Option.map_eq_some_iff.mp h
  have hfound := Table.firstInUse?_eq_some hi
  rw [hport, Bool.and_eq_true, beq_iff_eq] at hfound
  exact ⟨i, hfound.1, hport, hfound.2.1, hfound.2.2⟩

theorem getSwitchByName_eq_some {sw : IdeSwitch} (h : getSwitchByName testConfig name = some sw) :
    ∃ i : Fin maxSupportedSwitchesNum, i.val < testConfig.switchesConfig.cnt ∧
      testConfig.switchesConfig.records i = sw ∧ sw.name = name ∧ sw.enabled = true := by
  obtain ⟨i, hi, hsw⟩ := Option.map_eq_some_iff.mp h
  have hfound := Table.firstInUse?_eq_some hi
  rw [hsw, Bool.and_eq_true, beq_iff_eq] at hfound
  exact ⟨i, hfound.1, hsw, hfound.2.1, hfound.2.2⟩

theorem getPortFromSwitchByName_eq_some {sw : IdeSwitch} {port : IdePort}
    (h : getPortFromSwitchByName sw name = some port) :
    ∃ i : Fin maxSupportedSwitchPortsNum, i.val < sw.ports.cnt ∧ sw.ports.records i = port ∧
      port.enabled = true := by
  obtain ⟨i, hi, hport⟩ := Option.map_eq_some_iff.mp h
  have hfound := Table.firstInUse?_eq_some hi
  rw [hport, Bool.and_eq_true] at hfound
  exact ⟨i, hfound.1, hport, hfound.2.1⟩

variable {bound : ℕ}

theorem getPortById_isSome_of_name (h : testConfig.portsConfig.Packed IdePort.id bound)
    {port : IdePort} (hport : getPortByName testConfig name = some port) :
    (getPortById testConfig port.id).isSome := by
  obtain ⟨i, hlt, rfl, -, henabled⟩ := getPortByName_eq_some hport
  have hpos := (h.inUse i hlt).1
  rw [getPortById, if_neg (Nat.pos_iff_ne_zero.mp hpos), Option.isSome_map]
  have hexists : ∃ j, testConfig.portsConfig.firstInUse? (fun p =>
      p.id == (testConfig.portsConfig.records i).id && p.enabled) = some j :=
    Table.exists_firstInUse? hlt (by simp [henabled])
  obtain ⟨j, hj⟩ := hexists
  rw [hj]
  rfl

/-- Ids are unique, so the switch itself is found. -/
theorem getSwitchById_of_name (h : testConfig.switchesConfig.Packed IdeSwitch.id bound)
    {sw : IdeSwitch} (hsw : getSwitchByName testConfig name = some sw) :
    getSwitchById testConfig sw.id = some sw := by
  obtain ⟨i, hlt, rfl, -, henabled⟩ := getSwitchByName_eq_some hsw
  have hpos := (h.inUse i hlt).1
  rw [getSwitchById, if_neg (Nat.pos_iff_ne_zero.mp hpos), Option.map_eq_some_iff]
  refine ⟨i, Table.firstInUse?_eq_some_of_unique hlt (by simp [henabled]) ?_, rfl⟩
  intro j hj hfound
  rw [Bool.and_eq_true, beq_iff_eq] at hfound
  exact h.unique j i hj hlt hfound.1

theorem getPortFromSwitchById_isSome_of_name {sw : IdeSwitch}
    (h : sw.ports.Packed IdePort.id bound) {port : IdePort}
    (hport : getPortFromSwitchByName sw name = some port) :
    (getPortFromSwitchById sw port.id).isSome := by
  obtain ⟨i, hlt, rfl, henabled⟩ := getPortFromSwitchByName_eq_some hport
  have hpos := (h.inUse i hlt).1
  rw [getPortFromSwitchById, if_neg (Nat.pos_iff_ne_zero.mp hpos), Option.isSome_map]
  have hexists : ∃ j, sw.ports.firstInUse? (fun p =>
      p.enabled && p.id == (sw.ports.records i).id) = some j :=
    Table.exists_firstInUse? hlt (by simp [henabled])
  obtain ⟨j, hj⟩ := hexists
  rw [hj]
  rfl

end

end TeeIoValidator.IniConfig
