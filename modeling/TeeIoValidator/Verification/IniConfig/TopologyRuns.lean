import TeeIoValidator.Verification.IniConfig.Described

/-! # Runs over the topologies

Every stored topology is described by its section just when the sections that are accepted are read
faithfully.
-/

namespace TeeIoValidator.IniConfig

open IniFile Checked

variable {globals : Globals} {context : IniContext} {base testConfig : IdeTestConfig}
  {index k : ℕ} {top top' : IdeTestTopology}

/-! ## Uniqueness -/

theorem SectionStreamId.unique {sectionName : List UInt8} {streamId streamId' : ℕ}
    (h : SectionStreamId context sectionName streamId)
    (h' : SectionStreamId context sectionName streamId') : streamId = streamId' := by
  cases h with
  | inl habsent =>
      cases h' with
      | inl habsent' => rw [habsent.2, habsent'.2]
      | inr hpresent' =>
          obtain ⟨value, hvalue, -⟩ := hpresent'
          rw [habsent.1] at hvalue
          cases hvalue
  | inr hpresent =>
      obtain ⟨value, hvalue, hdecimal, -⟩ := hpresent
      cases h' with
      | inl habsent' =>
          rw [habsent'.1] at hvalue
          cases hvalue
      | inr hpresent' =>
          obtain ⟨value', hvalue', hdecimal', -⟩ := hpresent'
          rw [hvalue] at hvalue'
          cases hvalue'
          rw [hdecimal] at hdecimal'
          exact Option.some.inj hdecimal'

theorem SectionPaths.unique {sectionName : List UInt8}
    (h : SectionPaths context testConfig sectionName top)
    (h' : SectionPaths context testConfig sectionName top')
    (hsame : top.connection = top'.connection) :
    top.rootPort = top'.rootPort ∧ top.upperPort = top'.upperPort ∧
      top.lowerPort = top'.lowerPort ∧ top.swConn1 = top'.swConn1 ∧ top.swConn2 = top'.swConn2 := by
  obtain ⟨route, hroute, -, hroot, hconn1, hrest⟩ := h
  obtain ⟨route', hroute', -, hroot', hconn1', hrest'⟩ := h'
  rw [hsame] at hroute hrest
  have heq := hroute.unique hroute'
  subst heq
  cases hconnection : top'.connection with
  | direct | switch =>
      rw [hconnection] at hrest hrest'
      obtain ⟨hupper, hlower, hconn2⟩ := hrest
      obtain ⟨hupper', hlower', hconn2'⟩ := hrest'
      exact ⟨hroot.trans hroot'.symm, hupper.trans hupper'.symm, hlower.trans hlower'.symm,
        hconn1.trans hconn1'.symm, hconn2.trans hconn2'.symm⟩
  | p2p =>
      rw [hconnection] at hrest hrest'
      obtain ⟨route₂, hroute₂, -, -, hupper, hlower, hconn2⟩ := hrest
      obtain ⟨route₂', hroute₂', -, -, hupper', hlower', hconn2'⟩ := hrest'
      have heq₂ := hroute₂.unique hroute₂'
      subst heq₂
      exact ⟨hroot.trans hroot'.symm, hupper.trans hupper'.symm, hlower.trans hlower'.symm,
        hconn1.trans hconn1'.symm, hconn2.trans hconn2'.symm⟩

/-- A described topology is determined by its section, the ports and the switches. -/
theorem TopologyDescribed.unique (h : TopologyDescribed context testConfig index top)
    (h' : TopologyDescribed context testConfig index top') : top = top' := by
  have hconnection := h.connection.unique h'.connection
  have hpaths := h.paths.unique h'.paths hconnection
  have hstreamId := h.streamId.unique h'.streamId
  obtain ⟨enabled, henabled, hflag⟩ := h.enabled
  obtain ⟨enabled', henabled', hflag'⟩ := h'.enabled
  rw [henabled] at henabled'
  cases henabled'
  obtain ⟨typeName, htypeName, htype⟩ := h.type
  obtain ⟨typeName', htypeName', htype'⟩ := h'.type
  rw [htypeName] at htypeName'
  cases htypeName'
  rw [htype] at htype'
  obtain ⟨bus, hbus, hbusHex, -⟩ := h.bus
  obtain ⟨bus', hbus', hbusHex', -⟩ := h'.bus
  rw [hbus] at hbus'
  cases hbus'
  rw [hbusHex] at hbusHex'
  obtain ⟨segment, hsegment, hnumber⟩ := h.segment
  obtain ⟨segment', hsegment', hnumber'⟩ := h'.segment
  rw [hsegment] at hsegment'
  cases hsegment'
  have hid := h.id.trans h'.id.symm
  cases top with
  | mk =>
      cases top' with
      | mk =>
          simp only [IdeTestTopology.mk.injEq]
          exact ⟨hid, hflag.trans hflag'.symm, Option.some.inj htype', hconnection, hpaths.1,
            hpaths.2.1, hpaths.2.2.1, hpaths.2.2.2.1, hpaths.2.2.2.2, hnumber.trans hnumber'.symm,
            Option.some.inj hbusHex', hstreamId⟩

/-! ## Runs -/

/-- The configuration after the first `k` sections, from one without topologies. -/
def TopologiesAfter (globals : Globals) (context : IniContext) (base : IdeTestConfig) (k : ℕ)
    (testConfig : IdeTestConfig) : Prop :=
  upTo (sectionStep (parseTopologySection globals context)) k
    { base with topologies := ⟨0, fun _ => {}⟩ } = .ok testConfig

/-- The stored topologies do not change what a topology is described by. -/
theorem HasTopologies.described_congr {stored : IdeTestTopology → Prop}
    (h : HasTopologies { base with topologies := ⟨0, fun _ => {}⟩ } stored k testConfig) :
    TopologyDescribed context testConfig index top ↔ TopologyDescribed context base index top := by
  obtain ⟨topologies, tdispFunctionId, hframe⟩ := h.frame
  have hports : testConfig.portsConfig = base.portsConfig := by rw [hframe]
  have hswitches : testConfig.switchesConfig = base.switchesConfig := by rw [hframe]
  have hpaths : SectionPaths context testConfig (topologySectionName index) top ↔
      SectionPaths context base (topologySectionName index) top := by
    simp only [SectionPaths, readsPath_congr hports hswitches]
  constructor
  · exact fun h => ⟨h.id, h.enabled, h.type, h.connection, h.streamId, h.bus, h.segment,
      hpaths.mp h.paths⟩
  · exact fun h => ⟨h.id, h.enabled, h.type, h.connection, h.streamId, h.bus, h.segment,
      hpaths.mpr h.paths⟩

theorem TopologiesAfter.hasTopologies (h : TopologiesAfter globals context base k testConfig)
    (hk : k ≤ maxTopologyNum) :
    HasTopologies { base with topologies := ⟨0, fun _ => {}⟩ } (fun _ => True) k testConfig := by
  have hends : Ends InBounds (HasTopologies { base with topologies := ⟨0, fun _ => {}⟩ }
      (fun _ => True) k) (upTo (sectionStep (parseTopologySection globals context)) k
        { base with topologies := ⟨0, fun _ => {}⟩ }) := by
    refine ends_upTo (hasTopologies_zero rfl) fun j hj before hbefore => ?_
    exact hbefore.step (Nat.lt_of_lt_of_le hj hk) fun _ _ _ _ _ => trivial
  exact (ends_iff.mp hends).1 testConfig h

theorem TopologiesAfter.succ {after : IdeTestConfig} {accepted : Bool}
    (h : TopologiesAfter globals context base k testConfig)
    (hsection : parseTopologySection globals context testConfig (k + 1) = .ok (accepted, after)) :
    TopologiesAfter globals context base (k + 1) after := by
  refine upTo_succ_eq_ok.mpr ⟨testConfig, h, ?_⟩
  rw [sectionStep, hsection]
  rfl

/-- The record that an accepted section has stored. -/
theorem exists_stored_of_accepted {after : IdeTestConfig}
    (h : parseTopologySection globals context testConfig index = .ok (true, after)) :
    ∃ i top, after.topologies.records i = { top with id := index } ∧
      Nonempty (TopologyRead globals context testConfig (topologySectionName index)
        (topologySlot testConfig) top) := by
  cases parseTopologySection_eq_ok h with
  | inl hskip => cases hskip
  | inr hwrites =>
      obtain ⟨hlt, written, hwritten, heq⟩ := hwrites
      have haccepted : written.accepted = true :=
        storeTopology_accepted.symm.trans (congrArg Prod.fst heq).symm
      rw [storeTopology, if_pos haccepted] at heq
      cases heq
      refine ⟨⟨testConfig.topologies.cnt, hlt⟩, written.topology, Table.put_records_self, ?_⟩
      rw [topologySlot, dif_pos hlt]
      exact parseTopology_accepted hwritten haccepted

/-- Every stored topology is described by its section in every state of the run, just when each
section that is accepted is read faithfully in its state. -/
theorem topologies_described_iff (globals : Globals) (context : IniContext)
    (base : IdeTestConfig) :
    (∀ k ≤ maxTopologyNum, ∀ testConfig, TopologiesAfter globals context base k testConfig →
      ∀ i, (testConfig.topologies.records i).id ≠ 0 →
        TopologyDescribed context base (testConfig.topologies.records i).id
          (testConfig.topologies.records i)) ↔
    ∀ k < maxTopologyNum, ∀ testConfig after, TopologiesAfter globals context base k testConfig →
      parseTopologySection globals context testConfig (k + 1) = .ok (true, after) →
        SectionFaithful globals context testConfig (k + 1) := by
  constructor
  · intro h k hk testConfig after hreached hsection
    obtain ⟨i, top, hrecord, ⟨hread⟩⟩ := exists_stored_of_accepted hsection
    have hid : (after.topologies.records i).id = k + 1 := by rw [hrecord]
    have hdescribed := h (k + 1) hk after (hreached.succ hsection) i (by omega)
    rw [hid, hrecord] at hdescribed
    rw [← hread.described_iff]
    exact (hreached.hasTopologies hk.le).described_congr.mpr hdescribed
  · intro h k hk testConfig hreached
    let Invariant (k : ℕ) (testConfig : IdeTestConfig) : Prop :=
      TopologiesAfter globals context base k testConfig ∧
        HasTopologies { base with topologies := ⟨0, fun _ => {}⟩ }
          (fun top => TopologyDescribed context base top.id top) k testConfig
    have hinvariant : Invariant k testConfig := by
      refine upTo_invariant (P := Invariant) hreached ⟨rfl, hasTopologies_zero rfl⟩ ?_
      intro j hj before after hbefore hstep
      have hj' := Nat.lt_of_lt_of_le hj hk
      have hreached' : TopologiesAfter globals context base (j + 1) after :=
        upTo_succ_eq_ok.mpr ⟨before, hbefore.1, hstep⟩
      refine ⟨hreached', ?_⟩
      refine (ends_iff.mp (hbefore.2.step hj' ?_)).1 after hstep
      intro stored hsection hlt top hread
      have hfaithful := h j hj' before stored hbefore.1 hsection
      obtain ⟨hread⟩ := hread
      have hslot : topologySlot before =
          before.topologies.records ⟨before.topologies.cnt, hlt⟩ := dif_pos hlt
      rw [← hslot] at hread
      exact hbefore.2.described_congr.mp (hread.described_iff.mpr hfaithful)
    exact hinvariant.2.stored

/-- The ports of the file are stored. -/
def firstPortsStored : IdeTestConfig where
  portsConfig := ⟨2, fun i =>
    if i.val = 0 then newPort 1 .rootport (text "rootport_1") (text "02.0")
    else if i.val = 1 then newPort 2 .endpoint (text "endpoint_1") (text "00.0")
    else {}⟩

/-- The topology is enabled by an entry of its own, and no stream is given. -/
def enabledContext : IniContext :=
  contextOf [(text "Topology_1", (text "enabled", text "1") :: directTopology)]

/-- The stream is the number of the entry `enabled`. -/
theorem enabledTopology_not_described :
    ¬ ∀ (globals : Globals) (context : IniContext) (base : IdeTestConfig), ∀ k ≤ maxTopologyNum,
      ∀ testConfig, TopologiesAfter globals context base k testConfig →
        ∀ i, (testConfig.topologies.records i).id ≠ 0 →
          TopologyDescribed context base (testConfig.topologies.records i).id
            (testConfig.topologies.records i) := by
  intro h
  have hstored : (match upTo (sectionStep (parseTopologySection {} enabledContext)) 1
        { firstPortsStored with topologies := ⟨0, fun _ => {}⟩ } with
      | .error _ => (0, 0)
      | .ok testConfig => ((testConfig.topologies.records ⟨0, by decide⟩).id,
          (testConfig.topologies.records ⟨0, by decide⟩).streamId)) = (1, 1) := by
    decide +kernel
  split at hstored
  · cases hstored
  · rename_i testConfig hreached
    obtain ⟨hid, hstreamId⟩ := Prod.mk.inj hstored
    have hdescribed := (h {} enabledContext firstPortsStored 1 (by decide) testConfig hreached
      ⟨0, by decide⟩ (by rw [hid]; decide)).streamId
    rw [hid, hstreamId] at hdescribed
    have habsent : getString enabledContext (topologySectionName 1) (text "stream_id") =
        .ok none := by decide +kernel
    cases hdescribed with
    | inl hzero => cases hzero.2
    | inr hpresent =>
        obtain ⟨value, hvalue, -⟩ := hpresent
        rw [habsent] at hvalue
        cases hvalue

end TeeIoValidator.IniConfig
