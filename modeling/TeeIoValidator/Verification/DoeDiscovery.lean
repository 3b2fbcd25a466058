import TeeIoValidator.Library.History
import TeeIoValidator.Model.DoeDiscovery

/-! The instance that is chosen, and the versions that the instances are probed with. -/

namespace TeeIoValidator.DoeDiscovery

/-- What `init_pci_doe` is to do. -/
structure Meets (mailboxes : List Mailbox) (o : Outcome) : Prop where
  probes : o.probes = ownProbes mailboxes
  chosen : (if o.ret then o.current else none) = mailboxes.find? (·.offersSpdm)

/-- An instance that is reached after others: it has a version of its own if one of them had, and
answers with the types that are looked for just when the PCI-SIG's are among them. `older` is
whether there was a version before all of them. -/
def Fits (older : Bool) (before : List Mailbox) (mailbox : Mailbox) : Prop :=
  (∀ m ∈ before, m.offersSpdm = false) → mailbox.isDoeErrorAsserted = false →
    ((older = true ∨ ∃ m ∈ before, pcieDoeEcapVersion2 ≤ m.version) →
      pcieDoeEcapVersion2 ≤ mailbox.version) ∧
    (pcieDoeInitRequest mailbox mailbox.ownVersion = true ↔ mailbox.offersSpdm = true)

section Loop

variable {current : Option Mailbox} {mailbox : Mailbox} {mailboxes : List Mailbox} {older : Bool}
  {version : BitVec 8}

/-- The version that is carried over from the instances before. -/
def carried (older : Bool) : BitVec 8 := if older then pcieDoeDiscoveryVersion2 else 0

theorem carried_next (older : Bool) (mailbox : Mailbox) :
    (if pcieDoeEcapVersion2 ≤ mailbox.version then pcieDoeDiscoveryVersion2 else carried older) =
      carried (older || decide (pcieDoeEcapVersion2 ≤ mailbox.version)) := by
  by_cases h : pcieDoeEcapVersion2 ≤ mailbox.version
  · simp [h, carried]
  · simp [h]

theorem carried_eq_ownVersion_iff :
    carried (older || decide (pcieDoeEcapVersion2 ≤ mailbox.version)) = mailbox.ownVersion ↔
      (older = true → pcieDoeEcapVersion2 ≤ mailbox.version) := by
  rw [← carried_next, Mailbox.ownVersion, carried]
  by_cases h : pcieDoeEcapVersion2 ≤ mailbox.version
  · simp [h]
  · cases older <;> simp [h, pcieDoeDiscoveryVersion2]

theorem offersSpdm_of_error (h : mailbox.isDoeErrorAsserted = true) :
    mailbox.offersSpdm = false := by
  rw [Mailbox.offersSpdm, h]
  rfl

section Step

variable {next : BitVec 8} (hnext : (if pcieDoeEcapVersion2 ≤ mailbox.version then
  pcieDoeDiscoveryVersion2 else version) = next)
include hnext

theorem probeFrom_of_error (herror : mailbox.isDoeErrorAsserted = true) :
    probeFrom current (mailbox :: mailboxes) version = probeFrom (some mailbox) mailboxes next := by
  simp only [probeFrom, hnext, herror, if_true]

theorem probeFrom_of_init (herror : mailbox.isDoeErrorAsserted = false)
    (hinit : pcieDoeInitRequest mailbox next = true) :
    probeFrom current (mailbox :: mailboxes) version =
      ⟨true, some mailbox, [(mailbox, next)]⟩ := by
  simp only [probeFrom, hnext, herror, hinit, Bool.false_eq_true, if_false, if_true]

theorem probeFrom_of_not_init (herror : mailbox.isDoeErrorAsserted = false)
    (hinit : pcieDoeInitRequest mailbox next = false) :
    probeFrom current (mailbox :: mailboxes) version =
      { probeFrom (some mailbox) mailboxes next with
        probes := (mailbox, next) :: (probeFrom (some mailbox) mailboxes next).probes } := by
  simp only [probeFrom, hnext, herror, hinit, Bool.false_eq_true, if_false]

end Step

/-- A success needs a probe. -/
theorem probes_ne_nil (h : (probeFrom current mailboxes version).ret = true) :
    (probeFrom current mailboxes version).probes ≠ [] := by
  induction mailboxes generalizing current version with
  | nil => cases h
  | cons mailbox mailboxes ih =>
      cases herror : mailbox.isDoeErrorAsserted with
      | true =>
          rw [probeFrom_of_error rfl herror] at h ⊢
          exact ih h
      | false =>
          cases hinit : pcieDoeInitRequest mailbox _ with
          | true =>
              rw [probeFrom_of_init rfl herror hinit]
              exact List.cons_ne_nil _ _
          | false =>
              rw [probeFrom_of_not_init rfl herror hinit]
              exact List.cons_ne_nil _ _

/-- After an instance that offers the types, nothing is asked of the others. -/
theorem each_fits_of_offers (h : mailbox.offersSpdm = true) :
    History.Each (fun before m => Fits older (mailbox :: before) m) mailboxes := by
  intro before m after _ hbefore
  have hmailbox := hbefore mailbox List.mem_cons_self
  rw [h] at hmailbox
  cases hmailbox

theorem each_fits_of_not_offers (h : mailbox.offersSpdm = false) :
    History.Each (fun before m => Fits older (mailbox :: before) m) mailboxes ↔
      History.Each (Fits (older || decide (pcieDoeEcapVersion2 ≤ mailbox.version))) mailboxes := by
  refine History.each_congr fun before m => ?_
  simp only [Fits, List.mem_cons, forall_eq_or_imp, exists_eq_or_imp, h, true_and,
    Bool.or_eq_true, decide_eq_true_eq, or_assoc]

theorem meets_iff {o : Outcome} : Meets mailboxes o ↔
    o.probes = ownProbes mailboxes ∧
      (if o.ret then o.current else none) = mailboxes.find? (·.offersSpdm) :=
  ⟨fun h => ⟨h.probes, h.chosen⟩, fun h => ⟨h.1, h.2⟩⟩

/-- An instance with nothing before it in the list. -/
theorem fits_nil_iff (herror : mailbox.isDoeErrorAsserted = false) :
    Fits older [] mailbox ↔
      carried (older || decide (pcieDoeEcapVersion2 ≤ mailbox.version)) = mailbox.ownVersion ∧
        (pcieDoeInitRequest mailbox mailbox.ownVersion = true ↔ mailbox.offersSpdm = true) := by
  rw [carried_eq_ownVersion_iff]
  simp [Fits, herror]

section Cons

variable {next : BitVec 8} {current' : Option Mailbox}

/-- An instance that is chosen is the right one if its version is its own and it offers the
types. -/
theorem meets_cons_of_init (herror : mailbox.isDoeErrorAsserted = false) :
    Meets (mailbox :: mailboxes) ⟨true, some mailbox, [(mailbox, next)]⟩ ↔
      next = mailbox.ownVersion ∧ mailbox.offersSpdm = true := by
  rw [meets_iff]
  cases hoffers : mailbox.offersSpdm with
  | true => simp [ownProbes, herror, hoffers]
  | false =>
      refine iff_of_false (fun h => ?_) (fun h => by cases h.2)
      have hfound := h.2
      rw [if_pos rfl, List.find?_cons_of_neg (by simp [hoffers])] at hfound
      have := List.find?_some hfound.symm
      rw [hoffers] at this
      cases this

/-- An instance that is passed over is one that does not offer the types. -/
theorem meets_cons_of_not_init (herror : mailbox.isDoeErrorAsserted = false) {o : Outcome}
    (ho : o.ret = true → o.probes ≠ []) :
    Meets (mailbox :: mailboxes) { o with probes := (mailbox, next) :: o.probes } ↔
      next = mailbox.ownVersion ∧ mailbox.offersSpdm = false ∧ Meets mailboxes o := by
  rw [meets_iff, meets_iff]
  cases hoffers : mailbox.offersSpdm with
  | true =>
      refine iff_of_false (fun h => ?_) (fun h => by cases h.2.1)
      obtain ⟨hprobes, hchosen⟩ := h
      rw [List.find?_cons_of_pos (by simpa using hoffers)] at hchosen
      simp only [ownProbes, herror, hoffers, Bool.false_eq_true, if_false, if_true,
        List.cons.injEq] at hprobes
      cases hret : o.ret with
      | true => exact ho hret hprobes.2
      | false => simp [hret] at hchosen
  | false =>
      rw [List.find?_cons_of_neg (by simp [hoffers])]
      simp [ownProbes, herror, hoffers, and_assoc]

end Cons

/-- What the loop does from an instance on, with what it has carried over. -/
theorem meets_probeFrom_iff :
    Meets mailboxes (probeFrom current mailboxes (carried older)) ↔
      History.Each (Fits older) mailboxes := by
  induction mailboxes generalizing current older with
  | nil => exact iff_of_true ⟨rfl, rfl⟩ History.each_nil
  | cons mailbox mailboxes ih =>
      have hnext := carried_next older mailbox
      rw [History.each_cons]
      cases herror : mailbox.isDoeErrorAsserted with
      | true =>
          have hoffers := offersSpdm_of_error herror
          rw [probeFrom_of_error hnext herror, each_fits_of_not_offers hoffers,
            ← @ih (some mailbox) _, meets_iff, meets_iff,
            List.find?_cons_of_neg (by simp [hoffers]), ownProbes, if_pos herror]
          refine (and_iff_right ?_).symm
          intro _ hnoError
          rw [herror] at hnoError
          cases hnoError
      | false =>
          rw [fits_nil_iff herror]
          cases hinit : pcieDoeInitRequest mailbox
              (carried (older || decide (pcieDoeEcapVersion2 ≤ mailbox.version))) with
          | true =>
              rw [probeFrom_of_init hnext herror hinit, meets_cons_of_init herror]
              constructor
              · rintro ⟨hown, hoffers⟩
                rw [hown] at hinit
                exact ⟨⟨hown, iff_of_true hinit hoffers⟩, each_fits_of_offers hoffers⟩
              · rintro ⟨⟨hown, hiff⟩, -⟩
                rw [hown] at hinit
                exact ⟨hown, hiff.mp hinit⟩
          | false =>
              rw [probeFrom_of_not_init hnext herror hinit,
                meets_cons_of_not_init herror probes_ne_nil, ih]
              constructor
              · rintro ⟨hown, hoffers, hrest⟩
                rw [hown] at hinit
                exact ⟨⟨hown, by simp [hinit, hoffers]⟩,
                  (each_fits_of_not_offers hoffers).mpr hrest⟩
              · rintro ⟨⟨hown, hiff⟩, hrest⟩
                rw [hown] at hinit
                have hoffers : mailbox.offersSpdm = false := by
                  simpa [hinit] using hiff
                exact ⟨hown, hoffers, (each_fits_of_not_offers hoffers).mp hrest⟩

end Loop

/-- The function does what it is to exactly when no instance that is reached has an older version
than one before it, and the types that are looked for are found just where the PCI-SIG's are. -/
theorem meets_initPciDoe_iff (mailboxes : List Mailbox) :
    Meets mailboxes (initPciDoe mailboxes) ↔ History.Each (Fits false) mailboxes := by
  rw [initPciDoe]
  split_ifs with hnil
  · rw [hnil]
    exact iff_of_true ⟨rfl, rfl⟩ History.each_nil
  · exact @meets_probeFrom_iff none mailboxes false

/-- An instance of version 2 for another protocol, and one of version 1 that offers the SPDM types
and does not know version 2 of the discovery. -/
def mixedVersions : List Mailbox :=
  [⟨0x200, 0x0002002E, 0, fun _ => some [⟨vendorIdPcisig, typeDoeDiscovery⟩]⟩,
    ⟨0x300, 0x0001002E, 0, fun version =>
      if version = 0 then
        some [⟨vendorIdPcisig, typeDoeDiscovery⟩, ⟨vendorIdPcisig, typeSpdm⟩,
          ⟨vendorIdPcisig, typeSecuredSpdm⟩]
      else none⟩]

/-- The second instance is probed with the version of the first one. -/
theorem not_meets_mixedVersions : ¬Meets mixedVersions (initPciDoe mixedVersions) := by
  intro h
  have hret : (initPciDoe mixedVersions).ret = false := by decide +kernel
  have hfound : (mixedVersions.find? (·.offersSpdm)).isSome := by decide +kernel
  rw [← h.chosen, hret] at hfound
  cases hfound

end TeeIoValidator.DoeDiscovery
