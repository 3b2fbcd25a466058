import TeeIoValidator.Library.History
import TeeIoValidator.Model.DeviceTable
import TeeIoValidator.Verification.GroupSetup.Process

/-! A descriptor has one slot, and its latest data, as long as no set meets a free slot before the
descriptor's own or a full table. -/

namespace TeeIoValidator.DeviceTable

open GroupSetup

section Table

variable {fd fd' : ℕ} {deviceName : String} {devices devices' : List DeviceInfo} {ret : Bool}

/-- The loop leaves the table as that of the group set-up does. -/
theorem setLoop_map_snd (fd : ℕ) (deviceName : String) (devices : List DeviceInfo) :
    (setLoop fd deviceName devices).map Prod.snd = setSlot fd deviceName devices := by
  induction devices with
  | nil => rfl
  | cons d ds ih =>
      rw [setLoop, setSlot]
      split_ifs
      · rfl
      · rfl
      · rfl
      · rw [← ih, Option.map_map, Option.map_map]
        rfl

/-! ## Lookups -/

/-- The slot that a lookup of the descriptor finds. -/
def found (fd : ℕ) (devices : List DeviceInfo) : Option DeviceInfo :=
  devices.find? (·.fd = fd)

theorem found_cons (fd : ℕ) (d : DeviceInfo) (ds : List DeviceInfo) :
    found fd (d :: ds) = if d.fd = fd then some d else found fd ds := by
  by_cases h : d.fd = fd
  · simp [found, h]
  · simp [found, h]

theorem found_eq_none : found fd devices = none ↔ ∀ d ∈ devices, d.fd ≠ fd := by
  simp [found]

theorem found_enter (h : ∀ d ∈ devices, d.fd ≠ fd) (hfree : ∃ d ∈ devices, d.fd = 0) :
    found fd (enter fd deviceName devices) = some ⟨fd, deviceName⟩ := by
  induction devices with
  | nil => simp at hfree
  | cons d ds ih =>
      obtain ⟨hd, hds⟩ := List.forall_mem_cons.mp h
      rw [enter]
      by_cases hzero : d.fd = 0
      · rw [if_pos hzero, found_cons, if_pos rfl]
      · rw [if_neg hzero, found_cons, if_neg hd]
        exact ih hds (by simpa [hzero] using hfree)

theorem found_enter_of_ne (hne : fd' ≠ fd) (hfd' : fd' ≠ 0) :
    found fd' (enter fd deviceName devices) = found fd' devices := by
  induction devices with
  | nil => rfl
  | cons d ds ih =>
      rw [enter]
      by_cases hzero : d.fd = 0
      · rw [if_pos hzero, found_cons, found_cons, if_neg hne.symm, if_neg (hzero ▸ hfd'.symm)]
      · rw [if_neg hzero, found_cons, found_cons, ih]

theorem found_clearSlot (hdistinct : Distinct devices) (hfd : fd ≠ 0) :
    found fd (clearSlot fd devices) = none := by
  rw [found_eq_none]
  intro d hd
  rcases mem_clearSlot hdistinct hfd hd with rfl | ⟨-, hne⟩
  · exact hfd.symm
  · exact hne

theorem found_clearSlot_of_ne (hne : fd' ≠ fd) (hfd' : fd' ≠ 0) :
    found fd' (clearSlot fd devices) = found fd' devices := by
  induction devices with
  | nil => rfl
  | cons d ds ih =>
      rw [clearSlot]
      by_cases heq : d.fd = fd
      · rw [if_pos heq, found_cons, found_cons, if_neg hfd'.symm, if_neg (heq ▸ hne.symm)]
      · rw [if_neg heq, found_cons, found_cons, ih]

/-! ## Sets -/

/-- No slot before one of the descriptor is free. -/
def NoHole (fd : ℕ) (devices : List DeviceInfo) : Prop :=
  devices.Pairwise fun e d => e.fd = 0 → d.fd ≠ fd

/-- The descriptor has a slot, or there is a free one for it. -/
def HasRoom (fd : ℕ) (devices : List DeviceInfo) : Prop :=
  ∃ d ∈ devices, d.fd = fd ∨ d.fd = 0

theorem NoHole.of_unlisted (h : ∀ d ∈ devices, d.fd ≠ fd) : NoHole fd devices := by
  induction devices with
  | nil => exact List.Pairwise.nil
  | cons d ds ih =>
      obtain ⟨-, hds⟩ := List.forall_mem_cons.mp h
      exact List.pairwise_cons.mpr ⟨fun e he _ => hds e he, ih hds⟩

/-- A descriptor that has no slot gets the first free one. -/
theorem setLoop_of_unlisted (h : ∀ d ∈ devices, d.fd ≠ fd)
    (hset : setLoop fd deviceName devices = some (ret, devices')) :
    devices' = enter fd deviceName devices := by
  have htable := setLoop_map_snd fd deviceName devices
  rw [hset, setSlot_eq_enter h] at htable
  exact Option.some.inj htable

/-- The slot of a descriptor without a free slot before it is kept. -/
theorem setLoop_of_listed (hhole : NoHole fd devices) (h : ∃ d ∈ devices, d.fd = fd)
    (hset : setLoop fd deviceName devices = some (ret, devices')) :
    devices' = devices ∧ found fd devices = some ⟨fd, deviceName⟩ := by
  induction devices generalizing devices' with
  | nil => simp at h
  | cons d ds ih =>
      obtain ⟨hhead, htail⟩ := List.pairwise_cons.mp hhole
      rw [setLoop] at hset
      rw [found_cons]
      by_cases heq : d.fd = fd
      · rw [if_pos heq] at hset ⊢
        split at hset
        · rename_i hname
          cases hset
          subst heq hname
          exact ⟨rfl, rfl⟩
        · cases hset
      · rw [if_neg heq] at hset ⊢
        obtain ⟨e, he, hefd⟩ : ∃ e ∈ ds, e.fd = fd := by simpa [heq] using h
        rw [if_neg fun hzero => hhead e he hzero hefd] at hset
        obtain ⟨⟨ret', ds'⟩, hrest, hcons⟩ := Option.map_eq_some_iff.mp hset
        cases hcons
        obtain ⟨rfl, hfound⟩ := ih htail ⟨e, he, hefd⟩ hrest
        exact ⟨rfl, hfound⟩

/-- A free slot before the descriptor's own gives it a second one. -/
theorem not_distinct_of_hole (hfd : fd ≠ 0) (hdistinct : Distinct devices)
    (hhole : ¬NoHole fd devices)
    (hset : setLoop fd deviceName devices = some (ret, devices')) : ¬Distinct devices' := by
  induction devices generalizing devices' with
  | nil => exact absurd List.Pairwise.nil hhole
  | cons d ds ih =>
      obtain ⟨hhead, htail⟩ := List.pairwise_cons.mp hdistinct
      have hlisted : ∃ e ∈ ds, e.fd = fd := by
        by_contra hnone
        push Not at hnone
        exact hhole (List.pairwise_cons.mpr ⟨fun e he _ => hnone e he, NoHole.of_unlisted hnone⟩)
      obtain ⟨e, he, rfl⟩ := hlisted
      have hne : d.fd ≠ e.fd := fun heq => hhead e he (heq ▸ hfd) heq
      rw [setLoop, if_neg hne] at hset
      by_cases hzero : d.fd = 0
      · rw [if_pos hzero] at hset
        cases hset
        intro h
        exact (List.pairwise_cons.mp h).1 e he hfd rfl
      · rw [if_neg hzero] at hset
        obtain ⟨⟨ret', ds'⟩, hrest, hcons⟩ := Option.map_eq_some_iff.mp hset
        cases hcons
        have htailHole : ¬NoHole e.fd ds := by
          intro h
          exact hhole (List.pairwise_cons.mpr ⟨fun _ _ h0 => absurd h0 hzero, h⟩)
        intro h
        exact ih htail htailHole hrest (List.pairwise_cons.mp h).2

/-- A full table is left as it is. -/
theorem setLoop_of_full (h : ¬HasRoom fd devices) :
    setLoop fd deviceName devices = some (false, devices) := by
  induction devices with
  | nil => rfl
  | cons d ds ih =>
      have hd : d.fd ≠ fd ∧ d.fd ≠ 0 := by
        constructor
        · exact fun heq => h ⟨d, List.mem_cons_self, Or.inl heq⟩
        · exact fun heq => h ⟨d, List.mem_cons_self, Or.inr heq⟩
      have hds : ¬HasRoom fd ds :=
        fun ⟨e, he, hor⟩ => h ⟨e, List.mem_cons_of_mem _ he, hor⟩
      rw [setLoop, if_neg hd.1, if_neg hd.2, ih hds, Option.map_some]

/-- The assertion on the name fails in the descriptor's own slot only. -/
theorem placed_of_setLoop_eq_none (hfd : fd ≠ 0) (hdistinct : Distinct devices)
    (hset : setLoop fd deviceName devices = none) : NoHole fd devices ∧ HasRoom fd devices := by
  induction devices with
  | nil => cases hset
  | cons d ds ih =>
      obtain ⟨hhead, htail⟩ := List.pairwise_cons.mp hdistinct
      rw [setLoop] at hset
      by_cases heq : d.fd = fd
      · have hds : ∀ e ∈ ds, e.fd ≠ fd := fun e he => heq ▸ (hhead e he (heq ▸ hfd)).symm
        refine ⟨List.pairwise_cons.mpr ⟨fun e he _ => hds e he, NoHole.of_unlisted hds⟩, ?_⟩
        exact ⟨d, List.mem_cons_self, Or.inl heq⟩
      · rw [if_neg heq] at hset
        by_cases hzero : d.fd = 0
        · rw [if_pos hzero] at hset
          cases hset
        · rw [if_neg hzero] at hset
          obtain ⟨hhole, e, he, hor⟩ := ih htail (Option.map_eq_none_iff.mp hset)
          refine ⟨List.pairwise_cons.mpr ⟨fun _ _ h0 => absurd h0 hzero, hhole⟩, ?_⟩
          exact ⟨e, List.mem_cons_of_mem _ he, hor⟩

end Table

/-! ## One call -/

/-- What the table is to say after the calls. -/
structure Keeps (calls : List DeviceCall) (devices : List DeviceInfo) : Prop where
  distinct : Distinct devices
  lookup : ∀ fd : ℤ, 0 < fd → getDeviceInfoByFd fd devices =
    some ((latest calls fd).map fun deviceName => ⟨fd.toNat, deviceName⟩)

/-- A set meets no free slot before the descriptor's own, and finds a slot. -/
def Placed (devices : List DeviceInfo) : DeviceCall → Prop
  | .set fd (some deviceName) => 0 < fd → deviceName.length ≤ maxNameLength - 1 →
      NoHole fd.toNat devices ∧ HasRoom fd.toNat devices
  | _ => True

theorem latest_append_singleton (calls : List DeviceCall) (call : DeviceCall) (fd : ℤ) :
    latest (calls ++ [call]) fd = dataAfter fd (latest calls fd) call := by
  rw [latest, List.foldl_append]
  rfl

theorem run_append_singleton (calls : List DeviceCall) (call : DeviceCall) :
    run (calls ++ [call]) = (run calls).bind (perform · call) := by
  rw [run, List.foldlM_append]
  cases h : calls.foldlM perform zeroed with
  | none => simp [run, h]
  | some devices => simp [run, h]

section Step

variable {calls : List DeviceCall} {call : DeviceCall} {devices devices' : List DeviceInfo}
  {fd : ℤ} {deviceName : String} {ret : Bool}

theorem getDeviceInfoByFd_eq (hfd : 0 < fd) (devices : List DeviceInfo) :
    getDeviceInfoByFd fd devices = some (found fd.toNat devices) := by
  rw [getDeviceInfoByFd, if_neg (by omega), found]

theorem Keeps.found (h : Keeps calls devices) (hfd : 0 < fd) :
    found fd.toNat devices = (latest calls fd).map fun deviceName => ⟨fd.toNat, deviceName⟩ := by
  have hlookup := h.lookup fd hfd
  rwa [getDeviceInfoByFd_eq hfd, Option.some.injEq] at hlookup

/-- A table in which one descriptor has other data than before. -/
theorem Keeps.step (fd : ℤ) (h : Keeps calls devices) (hdistinct : Distinct devices')
    (hself : DeviceTable.found fd.toNat devices' =
      (latest (calls ++ [call]) fd).map fun deviceName => ⟨fd.toNat, deviceName⟩)
    (hother : ∀ fd', 0 < fd' → fd' ≠ fd →
      DeviceTable.found fd'.toNat devices' = DeviceTable.found fd'.toNat devices ∧
        latest (calls ++ [call]) fd' = latest calls fd') :
    Keeps (calls ++ [call]) devices' where
  distinct := hdistinct
  lookup := by
    intro fd' hfd'
    rw [getDeviceInfoByFd_eq hfd']
    by_cases heq : fd' = fd
    · rw [heq, hself]
    · obtain ⟨hfound, hlatest⟩ := hother fd' hfd' heq
      rw [hfound, hlatest, h.found hfd']

theorem keeps_unset (h : Keeps calls devices)
    (hcall : perform devices (.unset fd) = some devices') :
    Keeps (calls ++ [.unset fd]) devices' := by
  by_cases hfd : fd ≤ 0
  · rw [perform, unsetDeviceInfo, if_pos hfd] at hcall
    cases hcall
  · rw [perform, unsetDeviceInfo, if_neg hfd] at hcall
    cases hcall
    refine h.step fd (h.distinct.clearSlot (by omega)) ?_ ?_
    · rw [found_clearSlot h.distinct (by omega), latest_append_singleton, dataAfter, if_pos rfl]
      rfl
    · intro fd' hfd' hne
      refine ⟨found_clearSlot_of_ne (by omega) (by omega), ?_⟩
      rw [latest_append_singleton, dataAfter, if_neg hne.symm]

theorem keeps_set_iff (h : Keeps calls devices) (hfd : 0 < fd)
    (hset : setLoop fd.toNat deviceName devices = some (ret, devices')) :
    Keeps (calls ++ [.set fd (some deviceName)]) devices' ↔
      NoHole fd.toNat devices ∧ HasRoom fd.toNat devices := by
  have hself : latest (calls ++ [.set fd (some deviceName)]) fd = some deviceName := by
    rw [latest_append_singleton, dataAfter, if_pos rfl]
  have hother : ∀ fd', fd' ≠ fd →
      latest (calls ++ [.set fd (some deviceName)]) fd' = latest calls fd' := by
    intro fd' hne
    rw [latest_append_singleton, dataAfter, if_neg hne.symm]
  constructor
  · intro hkeeps
    by_contra hplaced
    by_cases hhole : NoHole fd.toNat devices
    · have hfull : ¬HasRoom fd.toNat devices := fun hroom => hplaced ⟨hhole, hroom⟩
      obtain ⟨-, rfl⟩ := Prod.mk.inj (Option.some.inj (hset.symm.trans (setLoop_of_full hfull)))
      have hnone : found fd.toNat devices' = none :=
        found_eq_none.mpr fun d hd heq => hfull ⟨d, hd, Or.inl heq⟩
      have hfound := hkeeps.found hfd
      rw [hself, hnone] at hfound
      cases hfound
    · exact not_distinct_of_hole (by omega) h.distinct hhole hset hkeeps.distinct
  · intro hplaced
    by_cases hlisted : ∃ d ∈ devices, d.fd = fd.toNat
    · obtain ⟨rfl, hfound⟩ := setLoop_of_listed hplaced.1 hlisted hset
      refine h.step fd h.distinct ?_ fun fd' _ hne => ⟨rfl, hother fd' hne⟩
      rw [hfound, hself, Option.map_some]
    · push Not at hlisted
      obtain rfl := setLoop_of_unlisted hlisted hset
      obtain ⟨d, hd, hor⟩ := hplaced.2
      refine h.step fd (h.distinct.enter hlisted) ?_ fun fd' hfd' hne => ⟨?_, hother fd' hne⟩
      · rw [found_enter hlisted ⟨d, hd, hor.resolve_left (hlisted d hd)⟩, hself, Option.map_some]
      · exact found_enter_of_ne (by omega) (by omega)

/-- What one call preserves. -/
theorem keeps_iff_placed (h : Keeps calls devices) :
    (∀ devices', perform devices call = some devices' → Keeps (calls ++ [call]) devices') ↔
      Placed devices call := by
  cases call with
  | unset fd => exact iff_of_true (fun _ hcall => keeps_unset h hcall) trivial
  | set fd deviceName =>
      cases deviceName with
      | none => exact iff_of_true (fun _ hcall => by cases hcall) trivial
      | some deviceName =>
          by_cases hvalid : fd ≤ 0 ∨ maxNameLength - 1 < deviceName.length
          · refine iff_of_true (fun _ hcall => ?_) fun hfd hlength => by omega
            rw [perform, setDeivceInfo, if_pos hvalid] at hcall
            cases hcall
          · rw [perform, setDeivceInfo, if_neg hvalid, Placed]
            have hfd : 0 < fd := by omega
            have hlength : deviceName.length ≤ maxNameLength - 1 := by omega
            simp only [hfd, hlength, forall_const]
            cases hset : setLoop fd.toNat deviceName devices with
            | none =>
                refine iff_of_true (fun _ hcall => by cases hcall) ?_
                exact placed_of_setLoop_eq_none (by omega) h.distinct hset
            | some result => simpa using keeps_set_iff h hfd hset

end Step

/-! ## Whole runs -/

theorem keeps_zeroed : Keeps [] zeroed where
  distinct := (Process.WellFormed.start []).distinct
  lookup := by
    intro fd hfd
    rw [getDeviceInfoByFd_eq hfd]
    refine congrArg some (found_eq_none.mpr ?_)
    intro d hd
    rw [List.eq_of_mem_replicate hd]
    show 0 ≠ fd.toNat
    omega

/-- After every call that returned. -/
def KeepsAlong (calls : List DeviceCall) : Prop :=
  ∀ before, before <+: calls → ∀ devices, run before = some devices → Keeps before devices

theorem keepsAlong_append_singleton {calls : List DeviceCall} {call : DeviceCall} :
    KeepsAlong (calls ++ [call]) ↔
      KeepsAlong calls ∧ ∀ devices, run calls = some devices → Placed devices call := by
  constructor
  · intro h
    have hcalls : KeepsAlong calls := fun before hbefore =>
      h before (hbefore.trans (List.prefix_append _ _))
    refine ⟨hcalls, fun devices hrun => ?_⟩
    refine (keeps_iff_placed (hcalls calls List.prefix_rfl devices hrun)).mp ?_
    intro devices' hcall
    refine h _ List.prefix_rfl devices' ?_
    rw [run_append_singleton, hrun, Option.bind_some, hcall]
  · rintro ⟨hcalls, hplaced⟩ before hbefore devices' hrun
    rcases List.prefix_concat_iff.mp hbefore with rfl | hprefix
    · rw [run_append_singleton] at hrun
      obtain ⟨devices, hcallsRun, hcall⟩ := Option.bind_eq_some_iff.mp hrun
      have hkeeps := hcalls calls List.prefix_rfl devices hcallsRun
      exact (keeps_iff_placed hkeeps).mpr (hplaced devices hcallsRun) devices' hcall
    · exact hcalls before hprefix devices' hrun

/-- The table keeps every descriptor in one slot, with its latest data, exactly when no set meets a
free slot before the descriptor's own or a full table. -/
theorem keepsAlong_iff (calls : List DeviceCall) :
    KeepsAlong calls ↔
      History.Each (fun before call =>
        ∀ devices, run before = some devices → Placed devices call) calls := by
  induction calls using List.reverseRecOn with
  | nil =>
      refine iff_of_true ?_ History.each_nil
      intro before hbefore devices hrun
      obtain rfl := List.prefix_nil.mp hbefore
      cases hrun
      exact keeps_zeroed
  | append_singleton calls call ih =>
      rw [keepsAlong_append_singleton, History.each_append_singleton, ih]

/-- Two devices are opened, the first is closed, the second is entered again and closed. -/
def reentered : List DeviceCall :=
  [.set 3 (some "upper"), .set 4 (some "lower"), .unset 3, .set 4 (some "lower"), .unset 4]

/-- The second has two slots then, so it is still found. -/
theorem not_keepsAlong_reentered : ¬KeepsAlong reentered := by
  intro h
  have hrun : (run reentered).any fun devices =>
      decide (getDeviceInfoByFd 4 devices = some (some ⟨4, "lower"⟩)) := by decide +kernel
  obtain ⟨devices, hdevices, hstale⟩ := (Option.any_eq_true _ _).mp hrun
  have hlookup := (h reentered List.prefix_rfl devices hdevices).lookup 4 (by decide)
  rw [of_decide_eq_true hstale] at hlookup
  exact absurd hlookup (by decide)

end TeeIoValidator.DeviceTable
