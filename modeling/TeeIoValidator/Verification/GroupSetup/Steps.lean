import TeeIoValidator.Verification.GroupSetup.Process

/-! What the steps that both set-ups share return, and what they keep well formed. -/

namespace TeeIoValidator.GroupSetup

open Fallible

/-- The points at which a set-up can fail. -/
inductive Point where
  | scan
  | devicePort
  | deviceMapping
  | doeDiscovery
  | rootPort
  | rootMapping
  | controlRegisters
  | spdmContext
  | spdmConnection
  | session
  | portIndexQuery
  | cxlQuery
  | ideMode
  deriving Repr, DecidableEq

/-- The checks of a set-up, each with its point and its outcome. -/
abbrev Checks := List (Point × Option Bool)

/-! ## Worlds -/

def Port.mappedFds (p : Port) : List ℕ := [p.kcbarFd, p.memcacheFd]

/-- The registers of the group are mapped through open descriptors that have no slot. -/
structure World.WellFormed (w : World) : Prop where
  process : w.process.WellFormed
  mapped : ∀ side, ∀ fd ∈ (w.context.port side).mappedFds,
    fd = 0 ∨ fd ∈ w.process.descriptors ∧ Unlisted fd w.process

/-- What holds after a step; when it fails the group's context is given up. -/
def Sound : Bool → World → Prop
  | true, w => w.WellFormed
  | false, w => w.process.WellFormed

theorem sound_false_of_true (w : World) (h : Sound true w) : Sound false w := h.process

theorem preserves_check (outcome : Option Bool) : Preserves Sound (.check outcome) :=
  .check sound_false_of_true outcome

theorem modifyPort_port (f : Port → Port) (c : Context) (side other : Side) :
    (c.modifyPort side f).port other = if other = side then f (c.port other) else c.port other :=
  rfl

/-- What a change of one port adds to the mapped descriptors. -/
theorem mem_mappedFds_modifyPort {f : Port → Port} {Q : ℕ → Prop} {c : Context}
    {side other : Side} {fd : ℕ} (hf : ∀ p, ∀ fd ∈ (f p).mappedFds, fd ∈ p.mappedFds ∨ Q fd)
    (h : fd ∈ ((c.modifyPort side f).port other).mappedFds) :
    fd ∈ (c.port other).mappedFds ∨ Q fd := by
  by_cases hside : other = side
  · rw [modifyPort_port, if_pos hside] at h
    exact hf _ fd h
  · rw [modifyPort_port, if_neg hside] at h
    exact Or.inl h

theorem mem_mappedFds_of_cfgSpaceFd {new : ℕ} {c : Context} {side other : Side} {fd : ℕ}
    (h : fd ∈ ((c.modifyPort side fun p => { p with cfgSpaceFd := new }).port other).mappedFds) :
    fd ∈ (c.port other).mappedFds := by
  have hkeeps : ∀ p : Port, ∀ fd ∈ ({ p with cfgSpaceFd := new } : Port).mappedFds,
      fd ∈ p.mappedFds ∨ False := fun _ _ hmem => Or.inl hmem
  exact (mem_mappedFds_modifyPort hkeeps h).resolve_right id

/-- The number of open descriptors. -/
def World.count (w : World) : ℕ := w.process.descriptors.length

/-- No descriptor, slot or port differs. -/
structure SameFiles (w w' : World) : Prop where
  descriptors : w'.process.descriptors = w.process.descriptors
  devices : w'.process.devices = w.process.devices
  port : w'.context.port = w.context.port

theorem SameFiles.rfl (w : World) : SameFiles w w := ⟨Eq.refl _, Eq.refl _, Eq.refl _⟩

theorem SameFiles.count_eq {w w' : World} (h : SameFiles w w') : w'.count = w.count :=
  congrArg List.length h.descriptors

section WellFormed

variable {w w' : World}

theorem World.WellFormed.fresh {p : Process} (h : p.WellFormed) : (World.fresh p).WellFormed where
  process := h
  mapped := by
    intro _ fd hfd
    exact Or.inl (by simpa [World.fresh, Port.mappedFds] using hfd)

/-- Descriptors are added, the table gets at most the new one, and so do the ports. -/
theorem World.WellFormed.extend (h : w.WellFormed) (hprocess : w'.process.WellFormed)
    (hdescriptors : w.process.descriptors ⊆ w'.process.descriptors)
    (hdevices : ∀ d ∈ w'.process.devices, d ∈ w.process.devices ∨ d.fd = w.process.next)
    (hports : ∀ side, ∀ fd ∈ (w'.context.port side).mappedFds,
      fd ∈ (w.context.port side).mappedFds ∨
        fd ∈ w'.process.descriptors ∧ Unlisted fd w'.process) : w'.WellFormed where
  process := hprocess
  mapped := by
    intro side fd hfd
    rcases hports side fd hfd with hold | hnew
    · refine (h.mapped side fd hold).imp_right fun ⟨hopen, hunlisted⟩ => ?_
      refine ⟨hdescriptors hopen, fun d hd heq => ?_⟩
      rcases hdevices d hd with hmem | hnext
      · exact hunlisted d hmem heq
      · exact next_notMem w.process (hnext ▸ heq ▸ hopen)
    · exact Or.inr hnew

theorem World.WellFormed.of_sameFiles (h : w.WellFormed) (hsame : SameFiles w w') :
    w'.WellFormed where
  process := by
    constructor
    · rw [hsame.descriptors]
      exact h.process.standardInput
    · rw [hsame.descriptors, hsame.devices]
      exact h.process.listed
    · rw [hsame.devices]
      exact h.process.distinct
    · rw [hsame.devices]
      exact h.process.emptied
  mapped := by
    rw [hsame.port, hsame.descriptors]
    intro side fd hfd
    refine (h.mapped side fd hfd).imp_right fun ⟨hopen, hunlisted⟩ => ⟨hopen, fun d hd => ?_⟩
    exact hunlisted d (hsame.devices ▸ hd)

theorem World.WellFormed.openFile (h : w.WellFormed) : (w.mapProcess .openFile).WellFormed :=
  h.extend h.process.openFile (List.subset_cons_self ..) (fun _ => Or.inl) fun _ _ => Or.inl

/-- Registers are mapped, and a port keeps the descriptor. -/
theorem World.WellFormed.mapRegisters (h : w.WellFormed) {side : Side} {f : Port → Port}
    (hf : ∀ p, ∀ fd ∈ (f p).mappedFds, fd ∈ p.mappedFds ∨ fd = w.process.next) :
    World.WellFormed
      { w.mapProcess mapRegisters with context := w.context.modifyPort side f } := by
  have hprocess : (GroupSetup.mapRegisters w.process).WellFormed :=
    ⟨h.process.openFile.standardInput, h.process.openFile.listed, h.process.openFile.distinct,
      h.process.openFile.emptied⟩
  refine h.extend hprocess (List.subset_cons_self ..) (fun _ => Or.inl) ?_
  intro other fd hfd
  refine (mem_mappedFds_modifyPort hf hfd).imp_right fun hnext => ?_
  rw [hnext]
  exact ⟨List.mem_cons_self, h.process.unlisted_next⟩

end WellFormed

/-! ## Opening a port -/

/-- The world after the port's configuration space is opened and entered. -/
def World.opened (side : Side) (deviceName : String) (w : World) : World :=
  { w with
    process := entered deviceName w.process
    context := w.context.modifyPort side fun p => { p with cfgSpaceFd := w.process.next } }

section OpenPort

variable {w : World} {side : Side} {size : Option ℕ} {deviceName : String} {rest : Fallible World}

theorem World.WellFormed.opened (h : w.WellFormed) : (w.opened side deviceName).WellFormed := by
  refine h.extend (h.process.entered deviceName) (List.subset_cons_self ..) ?_ ?_
  · intro d hd
    rcases mem_enter hd with rfl | hmem
    · exact Or.inr rfl
    · exact Or.inl hmem
  · intro other fd hfd
    exact Or.inl (mem_mappedFds_of_cfgSpaceFd hfd)

@[simp] theorem opened_cfgSpaceFd (w : World) (side : Side) (deviceName : String) :
    ((w.opened side deviceName).context.port side).cfgSpaceFd = w.process.next := by
  simp [World.opened, Context.modifyPort]

theorem count_le_left (fd : ℕ) (w : World) : w.count ≤ (w.mapProcess (left fd)).count + 1 := by
  change w.process.descriptors.length ≤ (w.process.descriptors.erase fd).length + 1
  rw [List.length_erase]
  split <;> omega

theorem openPort_eq (h : w.process.WellFormed) (hname : deviceName.length ≤ maxNameLength - 1) :
    openPort side size deviceName rest w =
      if opens size then
        rest.undoing (closeConfigSpace w.process.next) (w.opened side deviceName)
      else some (false, w) := by
  rw [openPort, openConfigurationSpace_eq]
  cases opens size with
  | false => rfl
  | true =>
      simp only [if_true, setDeivceInfo_openFile h hname, Option.bind_some]
      rfl

/-- What the opening of a port returns follows from what the rest returns. -/
theorem returns_openPort {outcome : Option Bool} {P Q : Bool → World → Prop}
    (h : w.process.WellFormed) (hname : deviceName.length ≤ maxNameLength - 1)
    (hmissing : opens size = false → P false w)
    (hrest : rest.Returns (w.opened side deviceName) outcome Q)
    (hfalse : ∀ w', opens size = true → Q false w' →
      P false (w'.mapProcess (left w.process.next)))
    (htrue : ∀ w', opens size = true → Q true w' → P true w') :
    (openPort side size deviceName rest).Returns w (both (some (opens size)) outcome) P := by
  have heq : openPort side size deviceName rest w = _ := openPort_eq h hname
  cases hopens : opens size with
  | false =>
      rw [hopens] at heq
      exact ⟨w, heq, hmissing hopens⟩
  | true =>
      rw [hopens] at heq
      have hundoing : Returns (rest.undoing (closeConfigSpace w.process.next)) _ outcome P :=
        hrest.undoing
          (fun w' hpost =>
            ⟨_, closeConfigSpace_eq h.next_ne_zero w', hfalse w' hopens hpost⟩)
          fun w' hpost => htrue w' hopens hpost
      rw [both_true]
      cases outcome with
      | none => exact heq.trans hundoing
      | some b =>
          obtain ⟨w', hrun, hpost⟩ := hundoing
          exact ⟨w', heq.trans hrun, hpost⟩

theorem preserves_openPort (hname : deviceName.length ≤ maxNameLength - 1)
    (hrest : Preserves Sound rest) : Preserves Sound (openPort side size deviceName rest) := by
  intro w b w' hw hrun
  rw [openPort_eq hw.process hname] at hrun
  split at hrun
  · refine hrest.undoing ?_ _ _ _ hw.opened hrun
    intro w w' hw hclose
    obtain ⟨hfd, rfl⟩ := closeConfigSpace_eq_some hclose
    exact Process.WellFormed.left hw hfd
  · cases hrun
    exact hw.process

theorem preserves_closePort (hstep : Preserves Sound rest) :
    Preserves Sound (rest.undoing (closePort side)) := by
  refine hstep.undoing ?_
  intro w w' hw hclose
  obtain ⟨hfd, rfl⟩ := closeConfigSpace_eq_some hclose
  exact Process.WellFormed.left hw hfd

/-- The text of a port's name fits into a slot. -/
theorem length_deviceName (label : String) (hlabel : label.length ≤ 11) (bdf : Bdf) :
    (label ++ bdf.text).length ≤ maxNameLength - 1 := by
  have hshort := bdf.short
  rw [String.length_append, maxNameLength]
  omega

end OpenPort

/-! ## The table of the root ports -/

/-- Nothing is closed, and the port keeps its configuration space. -/
theorem returns_parseKeypTable (parsed : Keyp.Parsed) (w : World) :
    (parseKeypTable parsed).Returns w parsed.ret fun _ w' =>
      w.count ≤ w'.count ∧
        (w'.context.port .upper).cfgSpaceFd = (w.context.port .upper).cfgSpaceFd := by
  obtain ⟨ret, mapped, reads, fd⟩ := parsed
  cases ret with
  | none => rfl
  | some b =>
      refine ⟨_, rfl, ?_⟩
      cases fd with
      | closed =>
          cases mapped with
          | none => exact ⟨Nat.le_refl _, rfl⟩
          | some _ => exact ⟨Nat.le_succ _, rfl⟩
      | opened =>
          cases mapped with
          | none => exact ⟨Nat.le_succ _, rfl⟩
          | some _ => exact ⟨Nat.le_add_right _ 2, rfl⟩

theorem preserves_parseKeypTable (parsed : Keyp.Parsed) :
    Preserves Sound (parseKeypTable parsed) := by
  intro w b w' hw hrun
  rw [parseKeypTable] at hrun
  obtain ⟨_, -, heq⟩ := Option.map_eq_some_iff.mp hrun
  cases heq
  have hopened : World.WellFormed
      (if parsed.fd = .opened then w.mapProcess .openFile else w) := by
    split
    · exact World.WellFormed.openFile hw
    · exact hw
  generalize (if parsed.fd = .opened then w.mapProcess .openFile else w) = opened at hopened ⊢
  have hsound : ∀ w : World, Sound true w → Sound b w := by
    intro w hw
    cases b with
    | false => exact sound_false_of_true w hw
    | true => exact hw
  refine hsound _ ?_
  cases parsed.mapped with
  | none => exact hopened
  | some _ =>
      refine hopened.mapRegisters fun p fd hfd => ?_
      rcases List.mem_cons.mp hfd with heq | hmem
      · exact Or.inr heq
      · exact Or.inl (List.mem_cons_of_mem _ hmem)

end TeeIoValidator.GroupSetup
