import TeeIoValidator.Model.ConfigSpace

/-! # Walking the capability chains

The device chooses the links of its chains. A walk ends where the chain ends, which a chain that
comes back to one of its links never does.
-/

namespace TeeIoValidator.ConfigSpace

open Chain

def InSpace (reads : Reads) : Prop := reads.Within pcieConfigSpaceSize

/-! ## The first capability with an id -/

section Search

variable (format : HeaderFormat) (cfg : ConfigSpace) (capId start : ℕ)

/-- The chain of capabilities from an offset on. -/
abbrev HeaderFormat.Path (start : ℕ) (ps : List ℕ) (q : ℕ) : Prop :=
  Chain.Path (format.next cfg) format.Stop start ps q

structure IsFirst (offset : ℕ) : Prop where
  hasId : format.HasId cfg capId offset
  going : ¬format.Stop offset
  path : ∃ ps, format.Path cfg start ps offset ∧ ∀ p ∈ ps, ¬format.HasId cfg capId p

def Absent : Prop :=
  ∀ ps p, format.Path cfg start ps p → ¬format.Stop p → ¬format.HasId cfg capId p

/-- What a searching function is for. -/
def FindsFirst (func : ℕ → Option (ℕ × Reads)) : Prop :=
  ∃ fuel offset reads, func fuel = some (offset, reads) ∧ InSpace reads ∧
    (IsFirst format cfg capId start offset ∨ offset = 0 ∧ Absent format cfg capId start)

/-- The chain ends or reaches the id, and the headers up to there lie in the configuration
space. -/
def SearchEnds : Prop :=
  ∃ ps q, format.Path cfg start ps q ∧
    (∀ p ∈ ps, ¬format.HasId cfg capId p ∧ p + 4 ≤ pcieConfigSpaceSize) ∧
    (format.Stop q ∨ format.HasId cfg capId q ∧ q + 4 ≤ pcieConfigSpaceSize)

variable {format cfg capId start}

theorem searchLook_eq_none {p : ℕ} :
    (searchLook format cfg capId p).1 = none ↔ ¬format.HasId cfg capId p := by
  simp only [searchLook, ite_eq_right_iff, reduceCtorEq, imp_false]

theorem searchLook_eq_some {p q : ℕ} :
    (searchLook format cfg capId p).1 = some q ↔ format.HasId cfg capId p ∧ q = p := by
  rw [searchLook, Option.ite_none_right_eq_some, Option.some.injEq, eq_comm (a := p)]

theorem inSpace_searchLook {p : ℕ} :
    InSpace (searchLook format cfg capId p).2 ↔ p + 4 ≤ pcieConfigSpaceSize :=
  Reads.within_singleton

/-- A chain that ends without the id has no capability with it. -/
theorem absent_of_stop {ps : List ℕ} {q : ℕ} (hpath : format.Path cfg start ps q)
    (hstop : format.Stop q) (habsent : ∀ p ∈ ps, ¬format.HasId cfg capId p) :
    Absent format cfg capId start := by
  intro ps' p hpath' hgoing hid
  exact habsent p (hpath.mem_of_stop hstop hpath' hgoing) hid

theorem search_findsFirst_iff {reads : Reads} (hreads : InSpace reads) :
    FindsFirst format cfg capId start (search format cfg capId start reads) ↔
      SearchEnds format cfg capId start := by
  constructor
  · rintro ⟨fuel, offset, reads', hsearch, hspace, -⟩
    rcases returns_logging_iff.mp ⟨fuel, hsearch⟩ with ⟨ps, q, hpath, hlook, hend⟩
    have habsent := fun p hp => searchLook_eq_none.mp (hlook p hp)
    rcases hend with ⟨hstop, -, rfl⟩ | ⟨-, hfound, rfl⟩
    · have hlinks := Reads.within_flatMap.mp (Reads.within_append.mp hspace).2
      exact ⟨ps, q, hpath, fun p hp => ⟨habsent p hp, inSpace_searchLook.mp (hlinks p hp)⟩,
        Or.inl hstop⟩
    · rcases Reads.within_append.mp hspace with ⟨hbefore, hlast⟩
      have hlinks := Reads.within_flatMap.mp (Reads.within_append.mp hbefore).2
      exact ⟨ps, q, hpath, fun p hp => ⟨habsent p hp, inSpace_searchLook.mp (hlinks p hp)⟩,
        Or.inr ⟨(searchLook_eq_some.mp hfound).1, inSpace_searchLook.mp hlast⟩⟩
  · rintro ⟨ps, q, hpath, hlinks, hend⟩
    have habsent : ∀ p ∈ ps, ¬format.HasId cfg capId p := fun p hp => (hlinks p hp).1
    have hlook := fun p hp => searchLook_eq_none.mpr (habsent p hp)
    have hspace : InSpace (reads ++ ps.flatMap fun p => (searchLook format cfg capId p).2) :=
      Reads.within_append.mpr
        ⟨hreads, Reads.within_flatMap.mpr fun p hp => inSpace_searchLook.mpr (hlinks p hp).2⟩
    by_cases hstop : format.Stop q
    · rcases returns_logging_iff.mpr ⟨ps, q, hpath, hlook, Or.inl ⟨hstop, rfl, rfl⟩⟩ with
        ⟨fuel, hsearch⟩
      exact ⟨fuel, 0, _, hsearch, hspace, Or.inr ⟨rfl, absent_of_stop hpath hstop habsent⟩⟩
    · rcases hend.resolve_left hstop with ⟨hid, hread⟩
      have hfound := searchLook_eq_some.mpr ⟨hid, rfl⟩
      rcases returns_logging_iff.mpr ⟨ps, q, hpath, hlook, Or.inr ⟨hstop, hfound, rfl⟩⟩ with
        ⟨fuel, hsearch⟩
      exact ⟨fuel, q, _, hsearch, Reads.within_append.mpr ⟨hspace, inSpace_searchLook.mpr hread⟩,
        Or.inl ⟨hid, hstop, ps, hpath, habsent⟩⟩

end Search

/-! ## All capabilities of a kind -/

section Collect

variable {γ : Type*} (c : Collector γ) (cfg : ConfigSpace)

/-- Cells that fit into the array. -/
def Collector.Fits (cells : List γ) : Prop := ∀ capacity ∈ c.capacity, cells.length ≤ capacity

/-- Every capability of a chain that ends is looked at; what is picked fits into the array. -/
def Collector.CollectEnds : Prop :=
  ∃ ps q, pcieCapId.Path cfg pcieExtCapStart ps q ∧ pcieCapId.Stop q ∧
    (∀ p ∈ ps, InSpace (c.reads p)) ∧ c.Fits (ps.filterMap c.pick)

/-- The capabilities that a function reports; `notFound` says how it reports that there are
none. -/
structure Collector.Lists (notFound : Found γ → Prop) (found : Found γ) (caps : List γ) :
    Prop where
  cells : found.cells =
    match c.capacity with
    | none => []
    | some capacity => caps.take capacity
  count : found.count =
    match c.capacity with
    | none => caps.length
    | some capacity => (caps.take capacity).length
  fits : c.Fits found.cells
  notFound : notFound found ↔ caps = []

/-- What a collecting function is for. -/
def Collector.FindsAll (notFound : Found γ → Prop)
    (func : ℕ → Option (Option (Found γ) × Reads)) : Prop :=
  ∃ fuel found reads, func fuel = some (some found, reads) ∧ InSpace reads ∧
    ∃ ps q, pcieCapId.Path cfg pcieExtCapStart ps q ∧ pcieCapId.Stop q ∧
      c.Lists notFound found (ps.filterMap c.pick)

variable {c cfg}

theorem Collector.visit_of_none {walker : ℕ} {s : Collecting γ} (h : c.pick walker = none) :
    c.visit walker s = .ok ⟨s.cells, s.reads ++ c.reads walker⟩ := by
  rw [visit, h]

theorem Collector.visit_of_hasRoom {walker : ℕ} {s : Collecting γ} {cell : γ}
    (h : c.pick walker = some cell) (hroom : c.HasRoom s.cells) :
    c.visit walker s = .ok ⟨s.cells ++ [cell], s.reads ++ c.reads walker⟩ := by
  simp only [visit, h, if_pos hroom]

theorem Collector.visit_of_not_hasRoom {walker : ℕ} {s : Collecting γ} {cell : γ}
    (h : c.pick walker = some cell) (hroom : ¬c.HasRoom s.cells) :
    c.visit walker s = .error (none, s.reads ++ c.reads walker) := by
  simp only [visit, h, if_neg hroom]

theorem Collector.visit_error {walker : ℕ} {s : Collecting γ} {r : Collected γ}
    (h : c.visit walker s = .error r) : r.1 = none := by
  cases hpick : c.pick walker with
  | none =>
      rw [visit_of_none hpick] at h
      cases h
  | some cell =>
      by_cases hroom : c.HasRoom s.cells
      · rw [visit_of_hasRoom hpick hroom] at h
        cases h
      · rw [visit_of_not_hasRoom hpick hroom] at h
        cases h
        rfl

theorem Collector.hasRoom_of_fits {cells : List γ} {cell : γ} {rest : List γ}
    (h : c.Fits (cells ++ cell :: rest)) : c.HasRoom cells := by
  intro capacity hcapacity
  have hle := h capacity hcapacity
  rw [List.length_append, List.length_cons] at hle
  omega

theorem Collector.visits_of_fits {ps : List ℕ} {s : Collecting γ}
    (h : c.Fits (s.cells ++ ps.filterMap c.pick)) :
    visits c.visit ps s =
      .ok ⟨s.cells ++ ps.filterMap c.pick, s.reads ++ ps.flatMap c.reads⟩ := by
  induction ps generalizing s with
  | nil => rw [visits, List.filterMap_nil, List.flatMap_nil, List.append_nil, List.append_nil]
  | cons p ps ih =>
      rw [List.flatMap_cons, ← List.append_assoc]
      cases hpick : c.pick p with
      | none =>
          rw [List.filterMap_cons_none hpick] at h ⊢
          rw [visits_cons_of_ok (visit_of_none hpick)]
          exact ih h
      | some cell =>
          rw [List.filterMap_cons_some hpick] at h ⊢
          have happend : s.cells ++ cell :: ps.filterMap c.pick =
              s.cells ++ [cell] ++ ps.filterMap c.pick := by
            rw [List.append_assoc, List.singleton_append]
          rw [visits_cons_of_ok (visit_of_hasRoom hpick (hasRoom_of_fits h)), happend]
          exact ih (happend ▸ h)

theorem Collector.fits_of_visits {ps : List ℕ} {s s' : Collecting γ} (hs : c.Fits s.cells)
    (h : visits c.visit ps s = .ok s') : c.Fits (s.cells ++ ps.filterMap c.pick) := by
  induction ps generalizing s with
  | nil => rwa [List.filterMap_nil, List.append_nil]
  | cons p ps ih =>
      cases hpick : c.pick p with
      | none =>
          rw [visits_cons_of_ok (visit_of_none hpick)] at h
          rw [List.filterMap_cons_none hpick]
          exact ih (s := ⟨s.cells, s.reads ++ c.reads p⟩) hs h
      | some cell =>
          rw [List.filterMap_cons_some hpick]
          by_cases hroom : c.HasRoom s.cells
          · rw [visits_cons_of_ok (visit_of_hasRoom hpick hroom)] at h
            have hfits : c.Fits (s.cells ++ [cell]) := by
              intro capacity hcapacity
              rw [List.length_append, List.length_singleton]
              exact hroom capacity hcapacity
            have hrest := ih hfits h
            rwa [List.append_assoc, List.singleton_append] at hrest
          · rw [visits_cons_of_error (visit_of_not_hasRoom hpick hroom)] at h
            cases h

/-- How a collecting loop returns. -/
theorem Collector.collect_eq_some_iff {cells : List γ} {reads : Reads} :
    (∃ fuel, c.collect cfg fuel = some (some cells, reads)) ↔
      ∃ ps q, pcieCapId.Path cfg pcieExtCapStart ps q ∧ pcieCapId.Stop q ∧
        c.Fits (ps.filterMap c.pick) ∧ cells = ps.filterMap c.pick ∧
        reads = ps.flatMap c.reads := by
  have hnil : c.Fits [] := fun _ _ => Nat.zero_le _
  refine (returns_iff (r := (some cells, reads))).trans ?_
  constructor
  · rintro ⟨ps, q, seen, hpath, hvisits, hleaves⟩
    have hfits := fits_of_visits hnil hvisits
    rw [visits_of_fits hfits] at hvisits
    rw [List.nil_append] at hfits
    rcases hleaves with ⟨hstop, hleave⟩ | ⟨-, hvisit⟩
    · cases hvisits
      cases hleave
      exact ⟨ps, q, hpath, hstop, hfits, rfl, rfl⟩
    · exact absurd (visit_error hvisit) (Option.some_ne_none cells)
  · rintro ⟨ps, q, hpath, hstop, hfits, rfl, rfl⟩
    exact ⟨ps, q, _, hpath, visits_of_fits hfits, Or.inl ⟨hstop, rfl⟩⟩

theorem Collector.findsAll_iff {notFound : Found γ → Prop} (finish : List γ → Found γ)
    (hfinish : ∀ caps, c.Fits caps → c.Lists notFound (finish caps) caps) :
    c.FindsAll cfg notFound
        (fun fuel => (c.collect cfg fuel).map fun r => (r.1.map finish, r.2)) ↔
      c.CollectEnds cfg := by
  constructor
  · rintro ⟨fuel, found, reads, hfunc, hspace, -⟩
    rcases Option.map_eq_some_iff.mp hfunc with ⟨⟨result, reads'⟩, hcollect, heq⟩
    rw [Prod.mk.injEq, Option.map_eq_some_iff] at heq
    rcases heq with ⟨⟨cells, rfl, -⟩, rfl⟩
    rcases collect_eq_some_iff.mp ⟨fuel, hcollect⟩ with ⟨ps, q, hpath, hstop, hfits, -, rfl⟩
    exact ⟨ps, q, hpath, hstop, Reads.within_flatMap.mp hspace, hfits⟩
  · rintro ⟨ps, q, hpath, hstop, hspace, hfits⟩
    rcases collect_eq_some_iff.mpr ⟨ps, q, hpath, hstop, hfits, rfl, rfl⟩ with ⟨fuel, hcollect⟩
    refine ⟨fuel, finish (ps.filterMap c.pick), ps.flatMap c.reads, ?_,
      Reads.within_flatMap.mpr hspace, ps, q, hpath, hstop, hfinish _ hfits⟩
    simp only [hcollect, Option.map_some]

end Collect

/-! ## The four functions -/

section Functions

variable (cfg : ConfigSpace)

def GetCapOffsetCorrect (capId : ℕ) : Prop :=
  FindsFirst pcieCapList cfg capId (devicePciRead16 cfg 0x34 &&& 0xFF).toNat
    (getCapOffset cfg capId)

def GetExtendedCapOffsetCorrect (extId : ℕ) : Prop :=
  FindsFirst pcieCapId cfg extId pcieExtCapStart (getExtendedCapOffset cfg extId)

def GetDoeExtendedCapOffsetCorrect (capacity : Option ℕ) : Prop :=
  (doeCollector cfg capacity).FindsAll cfg (fun found => found.ret = false)
    (getDoeExtendedCapOffset cfg capacity)

def CxlFindDvsecInConfigSpaceCorrect (capacity : ℕ) : Prop :=
  (dvsecCollector cfg capacity).FindsAll cfg (fun found => found.count = 0)
    (cxlFindDvsecInConfigSpace cfg capacity)

variable {cfg}

/-- An id that is not searched for is reported as not found. -/
theorem findsFirst_const_iff {format : HeaderFormat} {capId start : ℕ} {reads : Reads}
    (hreads : InSpace reads) (hstop : format.Stop 0) :
    FindsFirst format cfg capId start (fun _ => some (0, reads)) ↔
      Absent format cfg capId start := by
  constructor
  · rintro ⟨fuel, offset, reads', hfunc, -, hfirst⟩
    cases hfunc
    rcases hfirst with hfirst | ⟨-, habsent⟩
    · exact absurd hstop hfirst.going
    · exact habsent
  · intro habsent
    exact ⟨0, 0, reads, rfl, hreads, Or.inr ⟨rfl, habsent⟩⟩

def SupportedExtId (extId : ℕ) : Prop :=
  extId = pciDoeExtCapabilityId ∨ extId = pciIdeExtCapabilityId ∨
    extId = pciAerExtCapabilityId ∨ extId = pciDevice3ExtCapabilityId

instance (extId : ℕ) : Decidable (SupportedExtId extId) := inferInstanceAs (Decidable (_ ∨ _))

theorem getCapOffsetCorrect_iff (capId : ℕ) :
    GetCapOffsetCorrect cfg capId ↔
      if capId = pcieCapabilityId then
        SearchEnds pcieCapList cfg capId (devicePciRead16 cfg 0x34 &&& 0xFF).toNat
      else Absent pcieCapList cfg capId (devicePciRead16 cfg 0x34 &&& 0xFF).toNat := by
  have hreads : InSpace [(0x34, 2)] := Reads.within_singleton.mpr (by decide)
  rw [GetCapOffsetCorrect]
  split
  · rename_i hid
    have hfunc : getCapOffset cfg capId = search pcieCapList cfg capId
        (devicePciRead16 cfg 0x34 &&& 0xFF).toNat [(0x34, 2)] :=
      funext fun fuel => if_neg (not_not.mpr hid)
    rw [hfunc]
    exact search_findsFirst_iff hreads
  · rename_i hid
    have hfunc : getCapOffset cfg capId = fun _ => some (0, [(0x34, 2)]) :=
      funext fun fuel => if_pos hid
    rw [hfunc]
    exact findsFirst_const_iff hreads (by decide)

theorem getExtendedCapOffsetCorrect_iff (extId : ℕ) :
    GetExtendedCapOffsetCorrect cfg extId ↔
      if SupportedExtId extId then SearchEnds pcieCapId cfg extId pcieExtCapStart
      else Absent pcieCapId cfg extId pcieExtCapStart := by
  have hreads : InSpace [] := Reads.within_nil
  rw [GetExtendedCapOffsetCorrect]
  split
  · rename_i hid
    have hfunc : getExtendedCapOffset cfg extId =
        search pcieCapId cfg extId pcieExtCapStart [] := by
      funext fuel
      apply if_neg
      rintro ⟨hdoe, hide, haer, hdevice3⟩
      rcases hid with h | h | h | h
      · exact hdoe h
      · exact hide h
      · exact haer h
      · exact hdevice3 h
    rw [hfunc]
    exact search_findsFirst_iff hreads
  · rename_i hid
    have hfunc : getExtendedCapOffset cfg extId = fun _ => some (0, []) := by
      funext fuel
      apply if_pos
      simpa only [SupportedExtId, not_or] using hid
    rw [hfunc]
    exact findsFirst_const_iff hreads (by decide)

theorem getDoeExtendedCapOffsetCorrect_iff (capacity : Option ℕ) :
    GetDoeExtendedCapOffsetCorrect cfg capacity ↔
      (doeCollector cfg capacity).CollectEnds cfg := by
  refine Collector.findsAll_iff
    (fun doe => ⟨0 < doe.length, if capacity.isSome then doe else [], doe.length⟩) ?_
  intro caps hfits
  have hnotFound : decide (0 < caps.length) = false ↔ caps = [] := by
    rw [decide_eq_false_iff_not, Nat.not_lt, Nat.le_zero, List.length_eq_zero_iff]
  cases capacity with
  | none => exact ⟨rfl, rfl, fun _ _ => Nat.zero_le _, hnotFound⟩
  | some capacity =>
      have hle : caps.length ≤ capacity := hfits capacity rfl
      have htake : caps.take capacity = caps := List.take_of_length_le hle
      exact ⟨htake.symm, congrArg List.length htake.symm, hfits, hnotFound⟩

theorem cxlFindDvsecInConfigSpaceCorrect_iff (capacity : ℕ) :
    CxlFindDvsecInConfigSpaceCorrect cfg capacity ↔
      (dvsecCollector cfg capacity).CollectEnds cfg := by
  refine Collector.findsAll_iff (fun dvsec => ⟨true, dvsec, dvsec.length⟩) ?_
  intro caps hfits
  have htake : caps.take capacity = caps := List.take_of_length_le (hfits capacity rfl)
  exact ⟨htake.symm, congrArg List.length htake.symm, hfits, List.length_eq_zero_iff⟩

/-- Each function does what it is for exactly when its chain lets it. -/
theorem walks_correct_iff (cfg : ConfigSpace) (capId extId : ℕ) (doeCapacity : Option ℕ)
    (dvsecCapacity : ℕ) :
    (GetCapOffsetCorrect cfg capId ↔
      if capId = pcieCapabilityId then
        SearchEnds pcieCapList cfg capId (devicePciRead16 cfg 0x34 &&& 0xFF).toNat
      else Absent pcieCapList cfg capId (devicePciRead16 cfg 0x34 &&& 0xFF).toNat) ∧
    (GetExtendedCapOffsetCorrect cfg extId ↔
      if SupportedExtId extId then SearchEnds pcieCapId cfg extId pcieExtCapStart
      else Absent pcieCapId cfg extId pcieExtCapStart) ∧
    (GetDoeExtendedCapOffsetCorrect cfg doeCapacity ↔
      (doeCollector cfg doeCapacity).CollectEnds cfg) ∧
    (CxlFindDvsecInConfigSpaceCorrect cfg dvsecCapacity ↔
      (dvsecCollector cfg dvsecCapacity).CollectEnds cfg) :=
  ⟨getCapOffsetCorrect_iff capId, getExtendedCapOffsetCorrect_iff extId,
    getDoeExtendedCapOffsetCorrect_iff doeCapacity,
    cxlFindDvsecInConfigSpaceCorrect_iff dvsecCapacity⟩

/-! ### Chains that never end -/

/-- Both chains have one capability, of no known kind, which names itself as the next one. -/
def cyclic : ConfigSpace := fun off =>
  if off = 0x34 then 0x40
  else if off = 0x40 then 0xFF
  else if off = 0x41 then 0x40
  else if off = 0x100 then 0xFF
  else if off = 0x103 then 0x10
  else 0

theorem not_searchEnds_of_self {format : HeaderFormat} {capId start : ℕ}
    (hself : format.next cfg start = start) (hgoing : ¬format.Stop start)
    (hid : ¬format.HasId cfg capId start) : ¬SearchEnds format cfg capId start := by
  rintro ⟨ps, q, hpath, -, hend⟩
  rcases hpath.of_self hself with rfl
  rcases hend with hstop | ⟨hfound, -⟩
  · exact hgoing hstop
  · exact hid hfound

theorem not_collectEnds_of_self {γ : Type*} {c : Collector γ}
    (hself : pcieCapId.next cfg pcieExtCapStart = pcieExtCapStart) : ¬c.CollectEnds cfg := by
  rintro ⟨ps, q, hpath, hstop, -⟩
  rcases hpath.of_self hself with rfl
  exact absurd hstop (by decide)

theorem cyclic_not_correct :
    ¬GetCapOffsetCorrect cyclic pcieCapabilityId ∧
    ¬GetExtendedCapOffsetCorrect cyclic pciIdeExtCapabilityId ∧
    ¬GetDoeExtendedCapOffsetCorrect cyclic (some 32) ∧
    ¬CxlFindDvsecInConfigSpaceCorrect cyclic 16 := by
  refine ⟨?_, ?_, ?_, ?_⟩
  · rw [getCapOffsetCorrect_iff, if_pos rfl]
    exact not_searchEnds_of_self (by decide) (by decide) (by decide)
  · rw [getExtendedCapOffsetCorrect_iff, if_pos (by decide)]
    exact not_searchEnds_of_self (by decide) (by decide) (by decide)
  · rw [getDoeExtendedCapOffsetCorrect_iff]
    exact not_collectEnds_of_self (by decide)
  · rw [cxlFindDvsecInConfigSpaceCorrect_iff]
    exact not_collectEnds_of_self (by decide)

end Functions

end TeeIoValidator.ConfigSpace
