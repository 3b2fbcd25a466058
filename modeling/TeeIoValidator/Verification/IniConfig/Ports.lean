import TeeIoValidator.Verification.IniConfig.Lookups

/-! # Ports

The entries of the section `Ports` are read up to the first one that is missing, however many there
are: the table is left when there is one port too many.
-/

namespace TeeIoValidator.IniConfig

open IniFile Checked

/-! ## Faults of lookups -/

/-- The faults of a parser that stays in the tables. -/
def InBounds (fault : Fault) : Prop := fault ≠ .overrun

variable {context : IniContext} {testConfig testConfig' : IdeTestConfig}

theorem getString_inBounds (sectionName entryName : List UInt8) :
    Ends InBounds (fun _ => True) (getString context sectionName entryName) := by
  rw [getString]
  split <;> simp [InBounds]

theorem getDecimalUint32_inBounds (sectionName entryName : List UInt8) :
    Ends InBounds (fun _ => True) (getDecimalUint32 context sectionName entryName) :=
  (getString_inBounds sectionName entryName).bind fun _ _ => trivial

theorem getHexUint32_inBounds (sectionName entryName : List UInt8) :
    Ends InBounds (fun _ => True) (getHexUint32 context sectionName entryName) :=
  (getString_inBounds sectionName entryName).bind fun _ _ => trivial

theorem parseFlag_inBounds (sectionName entryName : List UInt8) (flag : Bool) :
    Ends InBounds (fun _ => True) (parseFlag context sectionName entryName flag) :=
  (getDecimalUint32_inBounds sectionName entryName).bind fun _ _ => trivial

theorem sectionHasEntry_inBounds (sectionName : List UInt8) (items : List SectionItem) :
    Ends InBounds (fun _ => True) (sectionHasEntry sectionName items) := by
  induction items with
  | nil => trivial
  | cons item items ih =>
      rw [sectionHasEntry]
      split
      · simp [InBounds]
      · simp [InBounds]
      · split
        · trivial
        · exact ih

theorem inSection_ends {α : Type} {faults : Fault → Prop} {post : α → Prop}
    {sectionName : List UInt8} {index : ℕ} {skipped : α} {body : Checked α}
    (hfaults : ∀ fault, InBounds fault → faults fault) (hskipped : post skipped)
    (hbody : Ends faults post body) :
    Ends faults post (inSection context sectionName index skipped body) := by
  rw [inSection]
  split
  · exact hskipped
  · have hvalid := sectionHasEntry_inBounds sectionName context.sectionHead
    have hvalid' : Ends faults (fun _ => True) (isValidSection context sectionName) := by
      rw [isValidSection]
      exact ends_iff.mpr ⟨fun _ _ => trivial, fun e he => hfaults e ((ends_iff.mp hvalid).2 e he)⟩
    refine hvalid'.bind fun valid _ => ?_
    split
    · exact hbody
    · exact hskipped

/-! ## Listed ports -/

/-- There is an entry for the port, with a valid device and function. -/
def ListsPort (context : IniContext) (portType : IdePortType) (index : ℕ) : Prop :=
  ∃ df, getString context (text "Ports") (portEntryName portType index) = .ok (some df) ∧
    isValidDevFunc df = true

def ListsPorts (context : IniContext) (portType : IdePortType) (index n : ℕ) : Prop :=
  ∀ k < n, ListsPort context portType (index + k)

/-- The entry behind the last port is missing. -/
def ListEnds (context : IniContext) (portType : IdePortType) (index : ℕ) : Prop :=
  getString context (text "Ports") (portEntryName portType index) = .ok none

/-- More ports than the table has room for. Endpoints are read when the root ports are. -/
def ListsTooManyPorts (context : IniContext) : Prop :=
  ∃ rootports endpoints, maxSupportedPortsNum < rootports + endpoints ∧
    ListsPorts context .rootport 1 rootports ∧ ListsPorts context .endpoint 1 endpoints ∧
    (endpoints ≠ 0 → ListEnds context .rootport (rootports + 1))

section

variable {portType : IdePortType} {index n m : ℕ}

theorem listsPorts_zero : ListsPorts context portType index 0 :=
  fun k hk => absurd hk (Nat.not_lt_zero k)

theorem listsPorts_succ : ListsPorts context portType index (n + 1) ↔
    ListsPort context portType index ∧ ListsPorts context portType (index + 1) n := by
  constructor
  · intro h
    refine ⟨h 0 (Nat.succ_pos n), ?_⟩
    intro k hk
    have hlists := h (k + 1) (Nat.succ_lt_succ hk)
    rwa [Nat.add_comm k 1, ← Nat.add_assoc] at hlists
  · intro h k hk
    cases k with
    | zero => exact h.1
    | succ k =>
        rw [Nat.add_comm k 1, ← Nat.add_assoc]
        exact h.2 k (Nat.lt_of_succ_lt_succ hk)

theorem ListsPorts.mono (h : ListsPorts context portType index n) (hle : m ≤ n) :
    ListsPorts context portType index m :=
  fun k hk => h k (Nat.lt_of_lt_of_le hk hle)

end

/-! ## The loop -/

section

variable {portType : IdePortType} {fuel index n : ℕ}

/-- A port of the loop, when there is room. -/
theorem parsePortsFrom_succ (hlists : ListsPort context portType index)
    (hlt : testConfig.portsConfig.cnt < maxSupportedPortsNum) :
    ∃ ports : Table IdePort maxSupportedPortsNum, ports.cnt = testConfig.portsConfig.cnt + 1 ∧
      (testConfig.portsConfig.Packed IdePort.id testConfig.portsConfig.cnt →
        ports.Packed IdePort.id ports.cnt) ∧
      parsePortsFrom context portType (fuel + 1) index testConfig =
        parsePortsFrom context portType fuel (index + 1)
          { testConfig with portsConfig := ports } := by
  obtain ⟨df, hdf, hvalid⟩ := hlists
  let port := newPort (testConfig.portsConfig.cnt + 1) portType (portEntryName portType index) df
  refine ⟨{ testConfig.portsConfig.put ⟨testConfig.portsConfig.cnt, hlt⟩ port with
    cnt := testConfig.portsConfig.cnt + 1 }, rfl, ?_, ?_⟩
  · exact fun h => h.store hlt (Nat.lt_succ_self _) le_rfl
  · simp only [parsePortsFrom, hdf, ok_bind, hvalid, Bool.not_true, Bool.false_eq_true, if_false,
      Table.push?, dif_pos hlt, port]

theorem parsePortsFrom_full (hlists : ListsPort context portType index)
    (hfull : maxSupportedPortsNum ≤ testConfig.portsConfig.cnt) :
    parsePortsFrom context portType (fuel + 1) index testConfig = .error .overrun := by
  obtain ⟨df, hdf, hvalid⟩ := hlists
  simp only [parsePortsFrom, hdf, ok_bind, hvalid, Bool.not_true, Bool.false_eq_true, if_false,
    Table.push?, dif_neg (Nat.not_lt.mpr hfull)]

theorem parsePortsFrom_end (hend : ListEnds context portType index) :
    parsePortsFrom context portType (fuel + 1) index testConfig = .ok testConfig := by
  rw [ListEnds] at hend
  simp only [parsePortsFrom, hend, ok_bind]

/-- An entry that lists no port ends the loop inside of the table. -/
theorem parsePortsFrom_inBounds (hlists : ¬ ListsPort context portType index) :
    Ends InBounds (fun testConfig' => testConfig' = testConfig ∧ ListEnds context portType index)
      (parsePortsFrom context portType (fuel + 1) index testConfig) := by
  rw [parsePortsFrom]
  have hstring : Ends InBounds (fun _ => True)
      (getString context (text "Ports") (portEntryName portType index)) := getString_inBounds _ _
  cases hvalue : getString context (text "Ports") (portEntryName portType index) with
  | error e => exact (ends_iff.mp hstring).2 e hvalue
  | ok value =>
      cases value with
      | none => exact ⟨rfl, hvalue⟩
      | some df =>
          have hvalid : isValidDevFunc df = false := by
            rw [Bool.eq_false_iff]
            exact fun hvalid => hlists ⟨df, hvalue, hvalid⟩
          simp [hvalid, InBounds]

/-- The loop stores the ports that are listed, one behind the other. -/
theorem parsePortsFrom_ends (hfuel : maxSupportedPortsNum < testConfig.portsConfig.cnt + fuel)
    (h : testConfig.portsConfig.Packed IdePort.id testConfig.portsConfig.cnt) :
    Ends (fun fault => fault = .overrun → ListsPorts context portType index
        (maxSupportedPortsNum + 1 - testConfig.portsConfig.cnt))
      (fun testConfig' => ∃ ports : Table IdePort maxSupportedPortsNum,
        testConfig' = { testConfig with portsConfig := ports } ∧
        ports.Packed IdePort.id ports.cnt ∧
        ∃ n, ports.cnt = testConfig.portsConfig.cnt + n ∧ ListsPorts context portType index n ∧
          ListEnds context portType (index + n))
      (parsePortsFrom context portType fuel index testConfig) := by
  induction fuel generalizing index testConfig with
  | zero => exact absurd hfuel (Nat.not_lt.mpr h.cnt_le)
  | succ fuel ih =>
      by_cases hlists : ListsPort context portType index
      · by_cases hlt : testConfig.portsConfig.cnt < maxSupportedPortsNum
        · obtain ⟨next, hnext, hpacked, hstep⟩ := parsePortsFrom_succ hlists hlt
          rw [hstep]
          have hfuel' : maxSupportedPortsNum < next.cnt + fuel := by omega
          have hrest : Ends _ _ (parsePortsFrom context portType fuel (index + 1)
              { testConfig with portsConfig := next }) := ih hfuel' (hpacked h)
          rw [ends_iff] at hrest ⊢
          constructor
          · intro testConfig' hok
            obtain ⟨ports, heq, hports, n, hcnt, hn, hend⟩ := hrest.1 testConfig' hok
            refine ⟨ports, heq, hports, n + 1, ?_, listsPorts_succ.mpr ⟨hlists, hn⟩, ?_⟩
            · simp only at hcnt
              omega
            · rwa [Nat.add_comm n 1, ← Nat.add_assoc]
          · intro fault herror hfault
            have hn := hrest.2 fault herror hfault
            have hone : maxSupportedPortsNum + 1 - testConfig.portsConfig.cnt =
                (maxSupportedPortsNum + 1 - next.cnt) + 1 := by omega
            rw [hone]
            exact listsPorts_succ.mpr ⟨hlists, hn⟩
        · have hfull := Nat.not_lt.mp hlt
          rw [parsePortsFrom_full hlists hfull]
          intro _
          have hone : maxSupportedPortsNum + 1 - testConfig.portsConfig.cnt = 0 + 1 := by
            have hle := h.cnt_le
            omega
          rw [hone]
          exact listsPorts_succ.mpr ⟨hlists, listsPorts_zero⟩
      · have hend : Ends InBounds _ (parsePortsFrom context portType (fuel + 1) index testConfig) :=
          parsePortsFrom_inBounds hlists
        rw [ends_iff] at hend ⊢
        constructor
        · intro testConfig' hok
          obtain ⟨heq, hends⟩ := hend.1 testConfig' hok
          exact ⟨testConfig.portsConfig, heq, h, 0, rfl, listsPorts_zero, hends⟩
        · intro fault herror hfault
          exact absurd hfault (hend.2 fault herror)

/-- One port too many leaves the table. -/
theorem parsePortsFrom_overrun (hfuel : maxSupportedPortsNum < testConfig.portsConfig.cnt + fuel)
    (hcnt : testConfig.portsConfig.cnt ≤ maxSupportedPortsNum)
    (hlists : ListsPorts context portType index
      (maxSupportedPortsNum + 1 - testConfig.portsConfig.cnt)) :
    parsePortsFrom context portType fuel index testConfig = .error .overrun := by
  induction fuel generalizing index testConfig with
  | zero => exact absurd hfuel (Nat.not_lt.mpr hcnt)
  | succ fuel ih =>
      have hone : maxSupportedPortsNum + 1 - testConfig.portsConfig.cnt =
          (maxSupportedPortsNum - testConfig.portsConfig.cnt) + 1 := by omega
      rw [hone] at hlists
      obtain ⟨hfirst, hrest⟩ := listsPorts_succ.mp hlists
      by_cases hlt : testConfig.portsConfig.cnt < maxSupportedPortsNum
      · obtain ⟨next, hnext, -, hstep⟩ := parsePortsFrom_succ hfirst hlt
        rw [hstep]
        refine ih ?_ ?_ ?_
        · simp only
          omega
        · simp only
          omega
        · exact hrest.mono (by simp only; omega)
      · exact parsePortsFrom_full hfirst (Nat.not_lt.mp hlt)

/-- A list of ports that ends in time is read. -/
theorem parsePortsFrom_listed (hfuel : n < fuel)
    (hcnt : testConfig.portsConfig.cnt + n ≤ maxSupportedPortsNum)
    (hlists : ListsPorts context portType index n)
    (hend : ListEnds context portType (index + n)) :
    ∃ testConfig', parsePortsFrom context portType fuel index testConfig = .ok testConfig' ∧
      testConfig'.portsConfig.cnt = testConfig.portsConfig.cnt + n := by
  induction n generalizing fuel index testConfig with
  | zero =>
      cases fuel with
      | zero => exact absurd hfuel (Nat.not_lt_zero 0)
      | succ fuel => exact ⟨testConfig, parsePortsFrom_end hend, rfl⟩
  | succ n ih =>
      cases fuel with
      | zero => exact absurd hfuel (Nat.not_lt_zero (n + 1))
      | succ fuel =>
          obtain ⟨hfirst, hrest⟩ := listsPorts_succ.mp hlists
          have hlt : testConfig.portsConfig.cnt < maxSupportedPortsNum := by omega
          obtain ⟨next, hnext, -, hstep⟩ := parsePortsFrom_succ hfirst hlt
          rw [Nat.add_comm n 1, ← Nat.add_assoc] at hend
          have hread : ∃ testConfig', parsePortsFrom context portType fuel (index + 1)
              { testConfig with portsConfig := next } = .ok testConfig' ∧
              testConfig'.portsConfig.cnt = next.cnt + n := by
            refine ih (Nat.lt_of_succ_lt_succ hfuel) ?_ hrest hend
            simp only
            omega
          obtain ⟨testConfig', hok, hcnt'⟩ := hread
          refine ⟨testConfig', hstep.trans hok, ?_⟩
          omega

end

/-! ## Both kinds of ports -/

/-- The configuration has a table of ports that are stored under ids that differ, and is the given
one apart from that. -/
def HasPorts (testConfig testConfig' : IdeTestConfig) : Prop :=
  ∃ ports : Table IdePort maxSupportedPortsNum,
    testConfig' = { testConfig with portsConfig := ports } ∧ ports.Packed IdePort.id ports.cnt

/-- Just a file that lists too many ports leaves the table. -/
theorem parsePorts_ends (hempty : testConfig.portsConfig = ⟨0, fun _ => {}⟩) :
    Ends (fun fault => fault = .overrun → ListsTooManyPorts context) (HasPorts testConfig)
      (parsePorts context testConfig) := by
  have hpacked : testConfig.portsConfig.Packed IdePort.id testConfig.portsConfig.cnt := by
    rw [hempty]
    exact Table.packed_empty fun _ => rfl
  have hcnt : testConfig.portsConfig.cnt = 0 := by rw [hempty]
  have hroot : Ends _ _ (parsePortsSection context testConfig .rootport) :=
    parsePortsFrom_ends (by simp [hcnt]) hpacked
  rw [parsePorts]
  cases hrootports : parsePortsSection context testConfig .rootport with
  | error fault =>
      intro hfault
      have hlists := (ends_iff.mp hroot).2 fault hrootports hfault
      rw [hcnt] at hlists
      exact ⟨maxSupportedPortsNum + 1, 0, Nat.lt_succ_self _, hlists, listsPorts_zero, by simp⟩
  | ok testConfig₁ =>
      obtain ⟨ports, heq, hports, n, hn, hlists, hends⟩ := (ends_iff.mp hroot).1 _ hrootports
      rw [hcnt, Nat.zero_add] at hn
      subst heq
      have hend : Ends _ _ (parsePortsSection context { testConfig with portsConfig := ports }
          .endpoint) := parsePortsFrom_ends (by simp only; omega) hports
      rw [ok_bind]
      rw [ends_iff] at hend ⊢
      constructor
      · intro testConfig' hok
        obtain ⟨ports', heq', hports', -⟩ := hend.1 testConfig' hok
        exact ⟨ports', heq', hports'⟩
      · intro fault herror hfault
        have hlists' := hend.2 fault herror hfault
        have hle := hports.cnt_le
        rw [hn] at hle
        refine ⟨n, maxSupportedPortsNum + 1 - n, by omega, hlists, ?_, ?_⟩
        · rwa [← hn]
        · intro _
          rwa [Nat.add_comm]

theorem parsePorts_overrun (hempty : testConfig.portsConfig = ⟨0, fun _ => {}⟩)
    (h : ListsTooManyPorts context) : parsePorts context testConfig = .error .overrun := by
  obtain ⟨rootports, endpoints, hlt, hroot, hend, hends⟩ := h
  have hcnt : testConfig.portsConfig.cnt = 0 := by rw [hempty]
  rw [parsePorts]
  by_cases hmany : maxSupportedPortsNum < rootports
  · have hoverrun : parsePortsSection context testConfig .rootport = .error .overrun := by
      apply parsePortsFrom_overrun
      · simp [hcnt]
      · simp [hcnt]
      · rw [hcnt]
        exact hroot.mono hmany
    rw [hoverrun, error_bind]
  · have hends' : ListEnds context .rootport (1 + rootports) := by
      rw [Nat.add_comm]
      exact hends (by omega)
    have hread : ∃ testConfig', parsePortsSection context testConfig .rootport = .ok testConfig' ∧
        testConfig'.portsConfig.cnt = testConfig.portsConfig.cnt + rootports :=
      parsePortsFrom_listed (by omega) (by omega) hroot hends'
    obtain ⟨testConfig', hok, hcnt'⟩ := hread
    rw [hok, ok_bind]
    apply parsePortsFrom_overrun
    · omega
    · omega
    · exact hend.mono (by omega)

end TeeIoValidator.IniConfig
