import TeeIoValidator.Model.GroupSetup.Run
import TeeIoValidator.Verification.GroupSetup.Cxl
import TeeIoValidator.Verification.GroupSetup.Pcie

/-! The set-ups of the groups of a run. -/

namespace TeeIoValidator.GroupSetup

open Fallible

/-! ## Teardowns -/

/-- The process is well formed, and what is mapped is not in its table. -/
structure World.Closable (w : World) : Prop where
  process : w.process.WellFormed
  unlisted : ∀ side, ∀ fd ∈ (w.context.port side).mappedFds, fd ≠ 0 → Unlisted fd w.process

theorem World.WellFormed.closable {w : World} (h : w.WellFormed) : w.Closable where
  process := h.process
  unlisted side fd hfd hzero := ((h.mapped side fd hfd).resolve_left hzero).2

section Closing

variable {w w' : World}

/-- Registers are unmapped, and a port forgets a descriptor. -/
theorem World.Closable.unmap (h : w.Closable) {side : Side} {f : Port → Port}
    {fd : ℕ} (hfd : fd ∈ (w.context.port side).mappedFds)
    (hf : ∀ p, ∀ fd ∈ (f p).mappedFds, fd ∈ p.mappedFds ∨ fd = 0) :
    World.Closable
      { w.mapProcess (unmapRegisters fd) with context := w.context.modifyPort side f } where
  process := by
    change (unmapRegisters fd w.process).WellFormed
    rw [unmapRegisters]
    split
    · exact h.process
    · rename_i hzero
      have hclosed := h.process.close hzero (h.unlisted side fd hfd hzero)
      exact ⟨hclosed.standardInput, hclosed.listed, hclosed.distinct, hclosed.emptied⟩
  unlisted other fd' hfd' hzero := by
    have hdevices : (unmapRegisters fd w.process).devices = w.process.devices := by
      rw [unmapRegisters]
      split <;> rfl
    intro d hd
    have hmapped := (mem_mappedFds_modifyPort hf hfd').resolve_right hzero
    exact h.unlisted other fd' hmapped hzero d (hdevices ▸ hd)

theorem World.Closable.closeKcbar (h : w.Closable) : (closeKcbar w).Closable := by
  refine h.unmap List.mem_cons_self fun p fd hfd => ?_
  rcases List.mem_cons.mp hfd with heq | hmem
  · exact Or.inr heq
  · exact Or.inl (List.mem_cons_of_mem _ hmem)

theorem World.Closable.closeMemcache (h : w.Closable) (side : Side) :
    (Cxl.closeMemcache side w).Closable := by
  refine h.unmap (List.mem_cons_of_mem _ List.mem_cons_self) fun p fd hfd => ?_
  rcases List.mem_cons.mp hfd with heq | hmem
  · exact Or.inl (heq ▸ List.mem_cons_self)
  · exact Or.inr (List.mem_singleton.mp hmem)

theorem World.Closable.closeConfigSpaceIfOpen (h : w.Closable) {side : Side}
    (hrun : closeConfigSpaceIfOpen side w = some w') : w'.Closable := by
  rw [GroupSetup.closeConfigSpaceIfOpen, Option.map_eq_some_iff] at hrun
  obtain ⟨closed, hclose, rfl⟩ := hrun
  have hclosed : closed.Closable ∧ closed.context = w.context := by
    split at hclose
    · cases hclose
      exact ⟨h, rfl⟩
    · obtain ⟨hfd, rfl⟩ := closeConfigSpace_eq_some hclose
      refine ⟨⟨h.process.left hfd, fun side fd hmapped hzero d hd => ?_⟩, rfl⟩
      rcases mem_clearSlot h.process.distinct hfd hd with rfl | ⟨hmem, -⟩
      · exact hzero.symm
      · exact h.unlisted side fd hmapped hzero d hmem
  refine ⟨hclosed.1.process, fun other fd hmapped hzero => ?_⟩
  exact hclosed.1.unlisted other fd (mem_mappedFds_of_cfgSpaceFd hmapped) hzero

theorem World.Closable.stopSpdm (h : w.Closable) (stopped : Bool) :
    (stopSpdm stopped w).Closable := by
  rw [GroupSetup.stopSpdm]
  split
  · exact ⟨⟨h.process.standardInput, h.process.listed, h.process.distinct, h.process.emptied⟩,
      h.unlisted⟩
  · exact h

end Closing

/-! ## Runs -/

section Runs

variable {group : Group} {p p' : Process}

theorem Group.preserves_setup (group : Group) : Preserves Sound group.setup := by
  cases group with
  | pcie env _ => exact Pcie.preserves_commonTestGroupSetup env
  | cxl env _ => exact Cxl.preserves_commonTestGroupSetup env

theorem Group.closable_teardown {w w' : World} (h : w.Closable)
    (hrun : group.teardown w = some w') : w'.Closable := by
  cases group with
  | pcie env closing =>
      rw [Group.teardown, Pcie.commonTestGroupTeardown, Option.bind_eq_some_iff] at hrun
      obtain ⟨closed, hdev, hroot⟩ := hrun
      rw [Pcie.closeDevPort] at hdev
      split at hdev
      · have hclosed := (h.stopSpdm closing.stopped).closeConfigSpaceIfOpen hdev
        have hcloseRoot : Pcie.closeRootPort closing.rootReset closed = some w' →
            w'.Closable := by
          intro hroot
          rw [Pcie.closeRootPort] at hroot
          split at hroot
          · exact hclosed.closeKcbar.closeConfigSpaceIfOpen hroot
          · cases hroot
        match env.connection, hroot with
        | .direct _, hroot => exact hcloseRoot hroot
        | .switch _, hroot => exact hcloseRoot hroot
        | .other, hroot => exact Option.some.inj hroot ▸ hclosed
      · cases hdev
  | cxl env stopped =>
      rw [Group.teardown, Cxl.commonTestGroupTeardown] at hrun
      split at hrun
      · cases hrun
      · obtain ⟨closed, hdev, hroot⟩ := Option.bind_eq_some_iff.mp hrun
        have hclosed := ((h.stopSpdm stopped).closeMemcache .lower).closeConfigSpaceIfOpen hdev
        exact (hclosed.closeMemcache .upper).closeKcbar.closeConfigSpaceIfOpen hroot

/-- A group leaves a well-formed process, also when its set-up fails. -/
theorem wellFormed_doRunTestGroup (h : p.WellFormed) (hrun : doRunTestGroup group p = some p') :
    p'.WellFormed := by
  have hsetup := group.preserves_setup (World.fresh p)
  rw [doRunTestGroup] at hrun
  split at hrun
  · cases hrun
  · rename_i w hfailed
    cases hrun
    exact hsetup false w (.fresh h) hfailed
  · rename_i w hdone
    obtain ⟨w', hteardown, rfl⟩ := Option.map_eq_some_iff.mp hrun
    have hwf : w.WellFormed := hsetup true w (.fresh h) hdone
    exact (Group.closable_teardown hwf.closable hteardown).process

theorem wellFormed_runGroups {groups : List Group} (h : p.WellFormed)
    (hrun : runGroups groups p = some p') : p'.WellFormed := by
  induction groups generalizing p with
  | nil => exact Option.some.inj hrun ▸ h
  | cons group groups ih =>
      rw [runGroups, Option.bind_eq_some_iff] at hrun
      obtain ⟨next, hgroup, hrest⟩ := hrun
      exact ih (wellFormed_doRunTestGroup h hgroup) hrest

end Runs

/-! ## When a set-up is clean -/

/-- In every process that a run of groups reaches: a PCIe set-up is clean when no check fails, or
when the first one that fails is at the scan, the device port or the DOE discovery; a CXL set-up
is when no check fails and there is an SPDM context, or when the first one that fails is at the
scan, the device port or the mapping of its registers. -/
theorem setsUpCleanly_iff {groups : List Group} {descriptors : List ℕ} {p : Process}
    (hrun : runGroups groups (.start descriptors) = some p) :
    (∀ env : Pcie.Env, SetsUpCleanly (Pcie.commonTestGroupSetup env) (.fresh p) ↔
      (∀ c ∈ env.checks, c.2 = some true) ∨
        ∃ point ∈ [Point.scan, .devicePort, .doeDiscovery], failure env.checks = some point) ∧
    (∀ env : Cxl.Env, SetsUpCleanly (Cxl.commonTestGroupSetup env) (.fresh p) ↔
      (∀ c ∈ env.checks, c.2 = some true) ∧ env.client.succeeds = true ∨
        ∃ point ∈ [Point.scan, .devicePort, .deviceMapping], failure env.checks = some point) := by
  have hwf : p.WellFormed := wellFormed_runGroups (.start descriptors) hrun
  constructor
  · intro env
    exact Pcie.setsUpCleanly_iff_checks env hwf
  · intro env
    exact Cxl.setsUpCleanly_iff_checks env (.fresh hwf)

/-- An endpoint behind a root port. -/
def directScan : Scan where
  bus := 0
  rootPort := ⟨some 0x1000, ⟨1, 6, 4, 0, 1, 1⟩⟩
  switchPorts := []
  endpoint := ⟨some 0x1000, ⟨0, 5, 2, 0, 0, 0⟩⟩

def rootBdf : Bdf := ⟨"0000:00:01.0", by decide⟩
def endpointBdf : Bdf := ⟨"0000:01:00.0", by decide⟩

/-- A PCIe group whose root port has no IDE capability. -/
def noIdeCapability : Pcie.Env where
  connection := .direct directScan
  devPort := ⟨endpointBdf, some 0x1000, true, some true, some true⟩
  rootPort :=
    { bdf := rootBdf
      size := some 0x1000
      ideCapability := false
      keyp := ⟨some false, none, [], .closed⟩
      streamIdUsed := false
      freeStreamIndex := some true
      addrAssoc := some true
      slotIds := some true }
  client := ⟨true, true, true, true⟩
  spdm := ⟨some true, some (some 1), some true⟩
  portIndex := some true

/-- A CXL group whose device has no DOE mailbox that answers. -/
def noDoe : Cxl.Env where
  scan := some directScan
  devPort := ⟨endpointBdf, some 0x1000, some true, ⟨some true, true, true, some true⟩, some false⟩
  rootPort :=
    { bdf := rootBdf
      size := some 0x1000
      dvsecs := some true
      memcache := ⟨some true, true, true, some true⟩
      keyp := ⟨some false, none, [], .closed⟩ }
  client := ⟨true, true, true, true⟩
  spdm := ⟨some true, some (some 1), some true⟩
  caseClass := .query
  query := some true
  ideMode := some true

/-- The process after the PCIe group: the endpoint's configuration space is still open. -/
def leaked : Process :=
  { Process.start [1, 2] with
    descriptors := [3, 0, 1, 2]
    devices := ⟨3, "dev : 0000:01:00.0"⟩ :: List.replicate 31 ⟨0, ""⟩ }

/-- After a group whose set-up failed, the set-up of one whose endpoint is gone is clean, and that
of the same group is not. -/
theorem setsUpCleanly_afterLeak :
    SetsUpCleanly
        (Pcie.commonTestGroupSetup
          { noIdeCapability with devPort := { noIdeCapability.devPort with size := none } })
        (.fresh leaked) ∧
      ¬SetsUpCleanly (Pcie.commonTestGroupSetup noIdeCapability) (.fresh leaked) := by
  have hrun : runGroups [.pcie noIdeCapability ⟨true, true, true⟩] (.start [1, 2]) = some leaked :=
    by decide +kernel
  have hiff := (setsUpCleanly_iff hrun).1
  constructor
  · exact (hiff _).mpr (Or.inr ⟨.devicePort, by decide, by decide +kernel⟩)
  · rw [hiff]
    decide +kernel

/-- Both set-ups leave a descriptor open: that of the endpoint's configuration space when the root
port fails, and that of its mapped registers when its DOE discovery fails. -/
theorem not_setsUpCleanly :
    ¬SetsUpCleanly (Pcie.commonTestGroupSetup noIdeCapability) (.fresh (.start [1, 2])) ∧
      ¬SetsUpCleanly (Cxl.commonTestGroupSetup noDoe) (.fresh (.start [1, 2])) := by
  exact ⟨not_setsUpCleanly_of_leak (by decide +kernel),
    not_setsUpCleanly_of_leak (by decide +kernel)⟩

end TeeIoValidator.GroupSetup
