import TeeIoValidator.Verification.IniConfig.Ports

/-! # Switches

Switches are stored behind one another, and so are the ports of each switch.
-/

namespace TeeIoValidator.IniConfig

open IniFile Checked

/-- The ports and the switches are stored under ids that differ. -/
structure NamesStored (testConfig : IdeTestConfig) : Prop where
  ports : testConfig.portsConfig.Packed IdePort.id testConfig.portsConfig.cnt
  switches : testConfig.switchesConfig.Packed IdeSwitch.id maxSupportedSwitchesNum
  switchPorts : ∀ i, (testConfig.switchesConfig.records i).ports.Packed IdePort.id
    maxSupportedSwitchPortsNum

variable {context : IniContext} {testConfig : IdeTestConfig}

/-! ## Ports of a switch -/

/-- The ports up to `i` have been looked for. -/
def HasSwitchPorts (i : ℕ) (sw : IdeSwitch) : Prop :=
  sw.ports.Packed IdePort.id i ∧ sw.ports.cnt ≤ i

theorem parseSwitchPort_ends {sectionName : List UInt8} {i : ℕ} {sw : IdeSwitch}
    (hi : i < maxSupportedSwitchPortsNum) (h : HasSwitchPorts i sw) :
    Ends InBounds (HasSwitchPorts (i + 1)) (parseSwitchPort context sectionName i sw) := by
  rw [parseSwitchPort]
  refine (getString_inBounds sectionName _).bind fun entryValue _ => ?_
  cases entryValue with
  | none => exact ⟨h.1.mono (Nat.le_succ i), h.2.trans (Nat.le_succ i)⟩
  | some df =>
      have hlt : sw.ports.cnt < maxSupportedSwitchPortsNum := Nat.lt_of_le_of_lt h.2 hi
      simp only [Table.push?, dif_pos hlt]
      split
      · simp [InBounds]
      · refine ⟨?_, Nat.succ_le_succ h.2⟩
        exact h.1.store hlt (Nat.lt_succ_self i) le_rfl

theorem parseSwitchPorts_ends {sectionName : List UInt8} {sw : IdeSwitch}
    (h : HasSwitchPorts 0 sw) :
    Ends InBounds (HasSwitchPorts maxSupportedSwitchPortsNum)
      (upTo (parseSwitchPort context sectionName) maxSupportedSwitchPortsNum sw) :=
  ends_upTo h fun _ hi _ hports => parseSwitchPort_ends hi hports

/-! ## The stage -/

/-- The switches up to index `k` have been parsed; the slots behind the stored ones are zero. -/
structure HasSwitches (base : IdeTestConfig) (k : ℕ) (testConfig : IdeTestConfig) : Prop where
  frame : ∃ switches, testConfig = { base with switchesConfig := switches }
  packed : testConfig.switchesConfig.Packed IdeSwitch.id k
  cnt_le : testConfig.switchesConfig.cnt ≤ k
  fresh : ∀ i : Fin maxSupportedSwitchesNum, testConfig.switchesConfig.cnt ≤ i.val →
    testConfig.switchesConfig.records i = {}
  ports : ∀ i, (testConfig.switchesConfig.records i).ports.Packed IdePort.id
    maxSupportedSwitchPortsNum

theorem hasSwitches_zero {base : IdeTestConfig}
    (hempty : base.switchesConfig = ⟨0, fun _ => {}⟩) : HasSwitches base 0 base := by
  refine ⟨⟨_, rfl⟩, ?_, ?_, ?_, ?_⟩
  · rw [hempty]
    exact Table.packed_empty fun _ => rfl
  · rw [hempty]
  · intro i _
    rw [hempty]
  · intro i
    rw [hempty]
    exact Table.packed_empty fun _ => rfl

theorem HasSwitches.skip {base : IdeTestConfig} {k : ℕ} (h : HasSwitches base k testConfig) :
    HasSwitches base (k + 1) testConfig :=
  ⟨h.frame, h.packed.mono (Nat.le_succ k), h.cnt_le.trans (Nat.le_succ k), h.fresh, h.ports⟩

/-- A switch with the next index is stored in the next slot. -/
theorem HasSwitches.store {base : IdeTestConfig} {k : ℕ} (h : HasSwitches base k testConfig)
    (hlt : testConfig.switchesConfig.cnt < maxSupportedSwitchesNum) {sw : IdeSwitch}
    (hid : sw.id = k + 1) (hports : sw.ports.Packed IdePort.id maxSupportedSwitchPortsNum) :
    HasSwitches base (k + 1) { testConfig with
      switchesConfig := { testConfig.switchesConfig.put ⟨testConfig.switchesConfig.cnt, hlt⟩ sw with
        cnt := testConfig.switchesConfig.cnt + 1 } } := by
  refine ⟨?_, ?_, Nat.succ_le_succ h.cnt_le, ?_, ?_⟩
  · obtain ⟨switches, rfl⟩ := h.frame
    exact ⟨_, rfl⟩
  · exact h.packed.store hlt (by omega) hid.le
  · intro i hi
    have hne : i ≠ ⟨testConfig.switchesConfig.cnt, hlt⟩ := by
      intro heq
      rw [heq] at hi
      exact Nat.not_succ_le_self _ hi
    simp only [Table.put_records_of_ne hne]
    exact h.fresh i ((Nat.le_succ _).trans hi)
  · intro i
    by_cases heq : i = ⟨testConfig.switchesConfig.cnt, hlt⟩
    · rw [heq]
      simpa only [Table.put_records_self] using hports
    · simp only [Table.put_records_of_ne heq]
      exact h.ports i

theorem parseSwitch_ends {base : IdeTestConfig} {k : ℕ} (hk : k < maxSupportedSwitchesNum)
    (h : HasSwitches base k testConfig) :
    Ends InBounds (fun result => HasSwitches base (k + 1) result.2)
      (parseSwitch context testConfig (switchSectionName (k + 1)) (k + 1)) := by
  have hlt : testConfig.switchesConfig.cnt < maxSupportedSwitchesNum :=
    Nat.lt_of_le_of_lt h.cnt_le hk
  rw [parseSwitch, dif_pos hlt]
  refine (parseFlag_inBounds _ _ _).bind fun enabled _ => ?_
  have hslot : HasSwitchPorts 0 { testConfig.switchesConfig.records
      ⟨testConfig.switchesConfig.cnt, hlt⟩ with enabled } := by
    rw [h.fresh _ le_rfl]
    exact ⟨Table.packed_empty fun _ => rfl, le_rfl⟩
  refine (parseSwitchPorts_ends hslot).bind fun sw hsw => ?_
  exact h.store hlt rfl hsw.1

theorem parseSwitches_ends {base : IdeTestConfig}
    (hempty : base.switchesConfig = ⟨0, fun _ => {}⟩) :
    Ends InBounds (HasSwitches base maxSupportedSwitchesNum) (parseSwitches context base) := by
  refine ends_upTo (hasSwitches_zero hempty) fun k hk testConfig h => ?_
  have hsection : Ends InBounds (fun result => HasSwitches base (k + 1) result.2)
      (parseSwitchesSection context testConfig (k + 1)) :=
    inSection_ends (fun _ hfault => hfault) h.skip (parseSwitch_ends hk h)
  exact hsection.bind fun result hresult => hresult

theorem HasSwitches.namesStored {base : IdeTestConfig}
    (h : HasSwitches base maxSupportedSwitchesNum testConfig)
    (hports : base.portsConfig.Packed IdePort.id base.portsConfig.cnt) :
    NamesStored testConfig where
  ports := by
    obtain ⟨switches, heq⟩ := h.frame
    rw [heq]
    exact hports
  switches := h.packed
  switchPorts := h.ports

end TeeIoValidator.IniConfig
