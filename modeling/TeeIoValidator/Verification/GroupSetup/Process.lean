import Mathlib.Data.List.Perm.Subperm
import TeeIoValidator.Model.GroupSetup.Process

/-! What the process holds stays well formed while a group is set up. -/

namespace TeeIoValidator.GroupSetup

/-! ## Descriptors -/

/-- The descriptor of a new file was not open. -/
theorem lowestFree_notMem (descriptors : List ℕ) : lowestFree descriptors ∉ descriptors := by
  rw [lowestFree]
  cases h : (List.range (descriptors.length + 1)).find? (· ∉ descriptors) with
  | some fd => simpa using List.find?_some h
  | none =>
      have hsubset : List.range (descriptors.length + 1) ⊆ descriptors := by
        intro fd hfd
        simpa using List.find?_eq_none.mp h fd hfd
      have hlength := (List.nodup_range.subperm hsubset).length_le
      rw [List.length_range] at hlength
      omega

@[simp] theorem openFile_close (p : Process) : p.openFile.close p.next = p := by
  simp [Process.openFile, Process.close]

/-- Whether a configuration space can be opened. -/
def opens (size : Option ℕ) : Bool := size.any (· ≤ 0x1000)

theorem openConfigurationSpace_eq (size : Option ℕ) (p : Process) :
    openConfigurationSpace size p =
      if opens size then (some p.next, p.openFile) else (none, p) := by
  cases size with
  | none => rfl
  | some size =>
      rw [openConfigurationSpace, openFile_close, opens, Option.any_some]
      by_cases h : size ≤ 0x1000
      · rw [if_neg (by omega), if_pos (decide_eq_true h)]
      · rw [if_pos (by omega), if_neg (by simpa using h)]

/-! ## The table of the devices -/

/-- The table after a descriptor that it did not have is set. -/
def enter (fd : ℕ) (deviceName : String) : List DeviceInfo → List DeviceInfo
  | [] => []
  | d :: ds => if d.fd = 0 then ⟨fd, deviceName⟩ :: ds else d :: enter fd deviceName ds

section Table

variable {fd : ℕ} {deviceName : String} {devices : List DeviceInfo} {d : DeviceInfo}

theorem setSlot_eq_enter (h : ∀ d ∈ devices, d.fd ≠ fd) :
    setSlot fd deviceName devices = some (enter fd deviceName devices) := by
  induction devices with
  | nil => rfl
  | cons d ds ih =>
      obtain ⟨hd, hds⟩ := List.forall_mem_cons.mp h
      rw [setSlot, enter, if_neg hd]
      by_cases hempty : d.fd = 0
      · rw [if_pos hempty, if_pos hempty]
      · rw [if_neg hempty, if_neg hempty, ih hds, Option.map_some]

/-- Setting a descriptor and clearing it again leaves the table as it was. -/
theorem clearSlot_enter (h : ∀ d ∈ devices, d.fd ≠ fd)
    (hempty : ∀ d ∈ devices, d.fd = 0 → d.deviceName = "") :
    clearSlot fd (enter fd deviceName devices) = devices := by
  induction devices with
  | nil => rfl
  | cons d ds ih =>
      obtain ⟨hd, hds⟩ := List.forall_mem_cons.mp h
      obtain ⟨hname, hnames⟩ := List.forall_mem_cons.mp hempty
      rw [enter]
      by_cases hzero : d.fd = 0
      · rw [if_pos hzero, clearSlot, if_pos rfl]
        obtain ⟨dfd, dname⟩ := d
        obtain rfl : dfd = 0 := hzero
        rw [show dname = "" from hname rfl]
      · rw [if_neg hzero, clearSlot, if_neg hd, ih hds hnames]

theorem mem_enter (h : d ∈ enter fd deviceName devices) : d = ⟨fd, deviceName⟩ ∨ d ∈ devices := by
  induction devices with
  | nil => cases h
  | cons e ds ih =>
      rw [enter] at h
      split at h
      · rcases List.mem_cons.mp h with heq | hmem
        · exact Or.inl heq
        · exact Or.inr (List.mem_cons_of_mem _ hmem)
      · rcases List.mem_cons.mp h with heq | hmem
        · exact Or.inr (heq ▸ List.mem_cons_self)
        · exact (ih hmem).imp_right (List.mem_cons_of_mem _)

/-- No descriptor has two slots. -/
def Distinct (devices : List DeviceInfo) : Prop :=
  devices.Pairwise fun d e => d.fd ≠ 0 → d.fd ≠ e.fd

theorem Distinct.enter (hdistinct : Distinct devices) (h : ∀ d ∈ devices, d.fd ≠ fd) :
    Distinct (enter fd deviceName devices) := by
  induction devices with
  | nil => exact hdistinct
  | cons d ds ih =>
      obtain ⟨hd, hds⟩ := List.forall_mem_cons.mp h
      obtain ⟨hhead, htail⟩ := List.pairwise_cons.mp hdistinct
      rw [GroupSetup.enter]
      split
      · refine List.pairwise_cons.mpr ⟨?_, htail⟩
        intro e he _
        exact (hds e he).symm
      · refine List.pairwise_cons.mpr ⟨?_, ih htail hds⟩
        intro e he hzero
        rcases mem_enter he with rfl | hmem
        · exact hd
        · exact hhead e hmem hzero

theorem mem_clearSlot (hdistinct : Distinct devices) (hfd : fd ≠ 0)
    (h : d ∈ clearSlot fd devices) : d = ⟨0, ""⟩ ∨ d ∈ devices ∧ d.fd ≠ fd := by
  induction devices with
  | nil => cases h
  | cons e ds ih =>
      obtain ⟨hhead, htail⟩ := List.pairwise_cons.mp hdistinct
      rw [clearSlot] at h
      split at h
      · rename_i he
        rcases List.mem_cons.mp h with heq | hmem
        · exact Or.inl heq
        · exact Or.inr ⟨List.mem_cons_of_mem _ hmem, he ▸ (hhead d hmem (he ▸ hfd)).symm⟩
      · rename_i he
        rcases List.mem_cons.mp h with heq | hmem
        · exact Or.inr ⟨heq ▸ List.mem_cons_self, heq ▸ he⟩
        · exact (ih htail hmem).imp_right fun ⟨hds, hne⟩ => ⟨List.mem_cons_of_mem _ hds, hne⟩

theorem Distinct.clearSlot (hdistinct : Distinct devices) (hfd : fd ≠ 0) :
    Distinct (clearSlot fd devices) := by
  induction devices with
  | nil => exact hdistinct
  | cons d ds ih =>
      obtain ⟨hhead, htail⟩ := List.pairwise_cons.mp hdistinct
      rw [GroupSetup.clearSlot]
      split
      · exact List.pairwise_cons.mpr ⟨fun _ _ hzero => absurd rfl hzero, htail⟩
      · refine List.pairwise_cons.mpr ⟨?_, ih htail⟩
        intro e he hzero
        rcases mem_clearSlot htail hfd he with rfl | ⟨hmem, -⟩
        · exact hzero
        · exact hhead e hmem hzero

end Table

/-! ## Well-formed processes -/

/-- The descriptors in the table are open and no two are the same; an empty slot has no name. -/
structure Process.WellFormed (p : Process) : Prop where
  standardInput : 0 ∈ p.descriptors
  listed : ∀ d ∈ p.devices, d.fd ≠ 0 → d.fd ∈ p.descriptors
  distinct : Distinct p.devices
  emptied : ∀ d ∈ p.devices, d.fd = 0 → d.deviceName = ""

/-- The descriptor has no slot in the table. -/
def Unlisted (fd : ℕ) (p : Process) : Prop := ∀ d ∈ p.devices, d.fd ≠ fd

theorem Process.WellFormed.start (descriptors : List ℕ) :
    (Process.start descriptors).WellFormed where
  standardInput := List.mem_cons_self
  listed := by
    intro d hd hzero
    rw [List.eq_of_mem_replicate hd] at hzero
    exact absurd rfl hzero
  distinct := List.pairwise_replicate.mpr (Or.inr fun hzero => absurd rfl hzero)
  emptied := by
    intro d hd _
    rw [List.eq_of_mem_replicate hd]

section WellFormed

variable {p : Process} {fd : ℕ}

theorem next_notMem (p : Process) : p.next ∉ p.descriptors := lowestFree_notMem p.descriptors

theorem Process.WellFormed.next_ne_zero (h : p.WellFormed) : p.next ≠ 0 := by
  intro hzero
  exact next_notMem p (hzero ▸ h.standardInput)

theorem Process.WellFormed.unlisted_next (h : p.WellFormed) : Unlisted p.next p := by
  intro d hd heq
  exact next_notMem p (heq ▸ h.listed d hd (heq ▸ h.next_ne_zero))

/-- The process after a new descriptor is entered into the table. -/
def entered (deviceName : String) (p : Process) : Process :=
  { p.openFile with devices := enter p.next deviceName p.devices }

theorem setDeivceInfo_openFile (h : p.WellFormed) {deviceName : String}
    (hname : deviceName.length ≤ maxNameLength - 1) :
    setDeivceInfo p.next deviceName p.openFile = some (entered deviceName p) := by
  rw [setDeivceInfo, if_neg, Process.openFile]
  · simp only [setSlot_eq_enter h.unlisted_next, Option.map_some, entered, Process.openFile]
  · intro hor
    rcases hor with hzero | hlong
    · exact h.next_ne_zero hzero
    · omega

theorem Process.WellFormed.openFile (h : p.WellFormed) : p.openFile.WellFormed where
  standardInput := List.mem_cons_of_mem _ h.standardInput
  listed d hd hzero := List.mem_cons_of_mem _ (h.listed d hd hzero)
  distinct := h.distinct
  emptied := h.emptied

theorem Process.WellFormed.entered (h : p.WellFormed) (deviceName : String) :
    (entered deviceName p).WellFormed where
  standardInput := List.mem_cons_of_mem _ h.standardInput
  listed d hd hzero := by
    rcases mem_enter hd with rfl | hmem
    · exact List.mem_cons_self
    · exact List.mem_cons_of_mem _ (h.listed d hmem hzero)
  distinct := h.distinct.enter h.unlisted_next
  emptied d hd hzero := by
    rcases mem_enter hd with rfl | hmem
    · exact absurd hzero h.next_ne_zero
    · exact h.emptied d hmem hzero

/-- A descriptor that has no slot is closed. -/
theorem Process.WellFormed.close (h : p.WellFormed) (hfd : fd ≠ 0) (hunlisted : Unlisted fd p) :
    (p.close fd).WellFormed where
  standardInput := (List.mem_erase_of_ne hfd.symm).mpr h.standardInput
  listed d hd hzero := (List.mem_erase_of_ne (hunlisted d hd)).mpr (h.listed d hd hzero)
  distinct := h.distinct
  emptied := h.emptied

/-- The process after `close(fd); unset_device_info(fd)`. -/
def left (fd : ℕ) (p : Process) : Process :=
  { p.close fd with devices := clearSlot fd p.devices }

theorem Process.WellFormed.left (h : p.WellFormed) (hfd : fd ≠ 0) : (left fd p).WellFormed where
  standardInput := (List.mem_erase_of_ne hfd.symm).mpr h.standardInput
  listed d hd hzero := by
    rcases mem_clearSlot h.distinct hfd hd with rfl | ⟨hmem, hne⟩
    · exact absurd rfl hzero
    · exact (List.mem_erase_of_ne hne).mpr (h.listed d hmem hzero)
  distinct := h.distinct.clearSlot hfd
  emptied d hd hzero := by
    rcases mem_clearSlot h.distinct hfd hd with rfl | ⟨hmem, -⟩
    · rfl
    · exact h.emptied d hmem hzero

/-- Closing the descriptor that was entered leads back to the process as it was. -/
theorem left_entered (h : p.WellFormed) (deviceName : String) :
    left p.next (entered deviceName p) = p := by
  rw [GroupSetup.left, GroupSetup.entered,
    show clearSlot p.next (enter p.next deviceName p.devices) = p.devices from
      clearSlot_enter h.unlisted_next h.emptied]
  simp [Process.openFile, Process.close]

theorem closeConfigSpace_eq (hfd : fd ≠ 0) (w : World) :
    closeConfigSpace fd w = some (w.mapProcess (left fd)) := by
  rw [closeConfigSpace, unsetDeviceInfo, if_neg hfd, Option.map_some]
  rfl

theorem closeConfigSpace_eq_some {w w' : World} (h : closeConfigSpace fd w = some w') :
    fd ≠ 0 ∧ w' = w.mapProcess (left fd) := by
  by_cases hfd : fd = 0
  · rw [closeConfigSpace, unsetDeviceInfo, if_pos hfd] at h
    cases h
  · rw [closeConfigSpace_eq hfd] at h
    exact ⟨hfd, (Option.some.inj h).symm⟩

end WellFormed

end TeeIoValidator.GroupSetup
