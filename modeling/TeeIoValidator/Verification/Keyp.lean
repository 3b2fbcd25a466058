import TeeIoValidator.Model.Keyp

/-! # Searching the KEYP table

The lengths and counts come from the firmware. A unit lists the root ports that lie inside its
length; the search reads as many entries as its count says.
-/

namespace TeeIoValidator.Keyp

open Chain

/-! ## Entries and units -/

section Units

variable (buf : ℕ → Byte) (port : Port) (keypProtocol : ProtocolType) (size : ℕ)

structure Names (krpi : ℕ) : Prop where
  segment : read16 buf krpi = port.segment
  bus : buf (krpi + 2) = port.bus
  device : deviceBits buf krpi = port.device
  function : functionBits buf krpi = port.function

/-- The fields of an entry that are compared belong to the table. -/
def EntryInTable (krpi : ℕ) : Prop := (matchesRootPort buf port krpi).2.Within size

/-- A unit for the protocol lists the port inside its length. -/
structure Lists (unit : ℕ) : Prop where
  protocol : protocolType buf unit = keypProtocol.value
  entry : ∃ i < rootPortCount buf unit, unitHeaderSize + 4 * (i + 1) ≤ length buf unit ∧
    Names buf port (rootPortInformation unit i)

/-- The units from the first one on. -/
abbrev UnitPath (ps : List ℕ) (q : ℕ) : Prop :=
  Chain.Path (nextUnit buf) (fun unit => ¬unit < size) keypHeaderSize ps q

structure FirstListing (unit : ℕ) : Prop where
  lists : Lists buf port keypProtocol unit
  lt : unit < size
  path : ∃ ps, UnitPath buf size ps unit ∧ ∀ p ∈ ps, ¬Lists buf port keypProtocol p

def NoneLists : Prop :=
  ∀ ps unit, UnitPath buf size ps unit → unit < size → ¬Lists buf port keypProtocol unit

variable {buf port keypProtocol size}

theorem matchesRootPort_fst {krpi : ℕ} :
    (matchesRootPort buf port krpi).1 = true ↔ Names buf port krpi := by
  unfold matchesRootPort
  split
  · rename_i hsegment
    exact ⟨fun h => (nomatch h), fun h => absurd h.segment hsegment⟩
  · rename_i hsegment
    split
    · rename_i hbus
      exact ⟨fun h => (nomatch h), fun h => absurd h.bus hbus⟩
    · rename_i hbus
      split
      · rename_i hdevice
        exact ⟨fun h => (nomatch h), fun h => absurd h.device hdevice⟩
      · rename_i hdevice
        rw [decide_eq_true_eq]
        exact ⟨fun h => ⟨not_not.mp hsegment, not_not.mp hbus, not_not.mp hdevice, h⟩,
          Names.function⟩

/-! ### The loop over the entries -/

/-- An entry that is read and does not match. -/
def Passed (buf : ℕ → Byte) (port : Port) (size krpi : ℕ) : Prop :=
  ¬Names buf port krpi ∧ EntryInTable buf port size krpi

theorem findRootPort_of_names {krpi : ℕ} (h : Names buf port krpi) (count : ℕ) :
    findRootPort buf port (count + 1) krpi = (true, (matchesRootPort buf port krpi).2) := by
  simp only [findRootPort, matchesRootPort_fst.mpr h, if_true]

theorem findRootPort_of_not_names {krpi : ℕ} (h : ¬Names buf port krpi) (count : ℕ) :
    findRootPort buf port (count + 1) krpi =
      ((findRootPort buf port count (krpi + 4)).1,
        (matchesRootPort buf port krpi).2 ++ (findRootPort buf port count (krpi + 4)).2) := by
  have hmatches : (matchesRootPort buf port krpi).1 = false := by
    rw [← Bool.not_eq_true, matchesRootPort_fst]
    exact h
  simp only [findRootPort, hmatches, Bool.false_eq_true, if_false]

/-- Statements about the entries from the second one on. -/
theorem forall_lt_succ_entry {P : ℕ → Prop} {count krpi : ℕ} :
    (∀ i < count + 1, P (krpi + 4 * i)) ↔ P krpi ∧ ∀ i < count, P (krpi + 4 + 4 * i) := by
  have hnext : ∀ i, krpi + 4 * (i + 1) = krpi + 4 + 4 * i := fun i => by omega
  simp only [Nat.forall_lt_succ_left, hnext, Nat.mul_zero, Nat.add_zero]

theorem findRootPort_false_iff {count krpi : ℕ} :
    ((findRootPort buf port count krpi).1 = false ∧
        (findRootPort buf port count krpi).2.Within size) ↔
      ∀ i < count, Passed buf port size (krpi + 4 * i) := by
  induction count generalizing krpi with
  | zero => exact ⟨fun _ i hi => absurd hi (Nat.not_lt_zero i), fun _ => ⟨rfl, Reads.within_nil⟩⟩
  | succ count ih =>
      rw [forall_lt_succ_entry, ← ih]
      by_cases hnames : Names buf port krpi
      · rw [findRootPort_of_names hnames]
        exact ⟨fun h => (nomatch h.1), fun h => absurd hnames h.1.1⟩
      · rw [findRootPort_of_not_names hnames]
        constructor
        · rintro ⟨hfound, hreads⟩
          rcases Reads.within_append.mp hreads with ⟨hentry, hrest⟩
          exact ⟨⟨hnames, hentry⟩, hfound, hrest⟩
        · rintro ⟨⟨-, hentry⟩, hfound, hrest⟩
          exact ⟨hfound, Reads.within_append.mpr ⟨hentry, hrest⟩⟩

/-- The entry at which the loop stops. -/
structure StopsAt (buf : ℕ → Byte) (port : Port) (size count krpi i : ℕ) : Prop where
  lt : i < count
  names : Names buf port (krpi + 4 * i)
  inTable : EntryInTable buf port size (krpi + 4 * i)
  passed : ∀ j < i, Passed buf port size (krpi + 4 * j)

theorem stopsAt_zero {count krpi : ℕ} (hnames : Names buf port krpi)
    (hentry : EntryInTable buf port size krpi) :
    StopsAt buf port size (count + 1) krpi 0 :=
  ⟨Nat.succ_pos count, hnames, hentry, fun j hj => absurd hj (Nat.not_lt_zero j)⟩

theorem stopsAt_succ {count krpi i : ℕ} :
    StopsAt buf port size (count + 1) krpi (i + 1) ↔
      Passed buf port size krpi ∧ StopsAt buf port size count (krpi + 4) i := by
  have hnext : krpi + 4 * (i + 1) = krpi + 4 + 4 * i := by omega
  constructor
  · rintro ⟨hlt, hnames, hentry, hpassed⟩
    rw [hnext] at hnames hentry
    rcases forall_lt_succ_entry.mp hpassed with ⟨hfirst, hrest⟩
    exact ⟨hfirst, Nat.lt_of_succ_lt_succ hlt, hnames, hentry, hrest⟩
  · rintro ⟨hfirst, hlt, hnames, hentry, hrest⟩
    rw [← hnext] at hnames hentry
    exact ⟨Nat.succ_lt_succ hlt, hnames, hentry, forall_lt_succ_entry.mpr ⟨hfirst, hrest⟩⟩

theorem findRootPort_true_iff {count krpi : ℕ} :
    ((findRootPort buf port count krpi).1 = true ∧
        (findRootPort buf port count krpi).2.Within size) ↔
      ∃ i, StopsAt buf port size count krpi i := by
  induction count generalizing krpi with
  | zero => exact ⟨fun h => (nomatch h.1), fun ⟨i, hi⟩ => absurd hi.lt (Nat.not_lt_zero i)⟩
  | succ count ih =>
      by_cases hnames : Names buf port krpi
      · rw [findRootPort_of_names hnames]
        constructor
        · rintro ⟨-, hentry⟩
          exact ⟨0, stopsAt_zero hnames hentry⟩
        · rintro ⟨i, hi⟩
          cases i with
          | zero => exact ⟨rfl, hi.inTable⟩
          | succ i => exact absurd hnames (stopsAt_succ.mp hi).1.1
      · rw [findRootPort_of_not_names hnames]
        constructor
        · rintro ⟨hfound, hreads⟩
          rcases Reads.within_append.mp hreads with ⟨hentry, hrest⟩
          rcases ih.mp ⟨hfound, hrest⟩ with ⟨i, hi⟩
          exact ⟨i + 1, stopsAt_succ.mpr ⟨⟨hnames, hentry⟩, hi⟩⟩
        · rintro ⟨i, hi⟩
          cases i with
          | zero => exact absurd hi.names hnames
          | succ i =>
              rcases stopsAt_succ.mp hi with ⟨⟨-, hentry⟩, hrest⟩
              rcases ih.mpr ⟨i, hrest⟩ with ⟨hfound, hreads⟩
              exact ⟨hfound, Reads.within_append.mpr ⟨hentry, hreads⟩⟩

/-! ### A round of the loop over the units -/

theorem rootPortInformation_zero (unit i : ℕ) :
    rootPortInformation unit 0 + 4 * i = rootPortInformation unit i := by
  simp only [rootPortInformation]
  omega

/-- A unit that is read and left behind. -/
structure UnitPassed (buf : ℕ → Byte) (port : Port) (keypProtocol : ProtocolType)
    (size unit : ℕ) : Prop where
  fits : unit + length buf unit ≤ size
  header : unit + 5 ≤ size
  entries : protocolType buf unit = keypProtocol.value →
    unit + 7 ≤ size ∧ ∀ i < rootPortCount buf unit,
      Passed buf port size (rootPortInformation unit i)

/-- A unit with an entry that matches. -/
structure UnitHit (buf : ℕ → Byte) (port : Port) (keypProtocol : ProtocolType)
    (size unit : ℕ) : Prop where
  fits : unit + length buf unit ≤ size
  protocol : protocolType buf unit = keypProtocol.value
  header : unit + unitHeaderSize ≤ size
  stops : ∃ i, StopsAt buf port size (rootPortCount buf unit) (rootPortInformation unit 0) i

theorem lookAtUnit_of_other {unit : ℕ} (hfits : unit + length buf unit ≤ size)
    (hprotocol : protocolType buf unit ≠ keypProtocol.value) :
    lookAtUnit buf size port keypProtocol unit = (none, [(unit + 2, 2), (unit + 4, 1)]) := by
  simp only [lookAtUnit, if_neg (not_not.mpr hfits), if_pos hprotocol, List.cons_append,
    List.nil_append]

/-- The reads of the fields up to the count and of the entries. -/
def entryReads (buf : ℕ → Byte) (port : Port) (unit : ℕ) : Reads :=
  [(unit + 2, 2), (unit + 4, 1), (unit + 6, 1)] ++
    (findRootPort buf port (rootPortCount buf unit) (rootPortInformation unit 0)).2

theorem lookAtUnit_of_protocol {unit : ℕ} (hfits : unit + length buf unit ≤ size)
    (hprotocol : protocolType buf unit = keypProtocol.value) :
    lookAtUnit buf size port keypProtocol unit =
      if (findRootPort buf port (rootPortCount buf unit) (rootPortInformation unit 0)).1 then
        (some (.found (registerBaseAddr buf unit)), entryReads buf port unit ++ [(unit + 8, 8)])
      else (none, entryReads buf port unit) := by
  simp only [lookAtUnit, if_neg (not_not.mpr hfits), if_neg (not_not.mpr hprotocol),
    entryReads, List.cons_append, List.nil_append]

theorem fits_of_lookAtUnit {unit : ℕ} {exit : Option UnitSearch}
    (h : (lookAtUnit buf size port keypProtocol unit).1 = exit)
    (hexit : exit ≠ some .assertFailed) : unit + length buf unit ≤ size := by
  by_contra hfits
  simp only [lookAtUnit, if_pos hfits] at h
  exact hexit h.symm

theorem within_entryReads {unit : ℕ} :
    (entryReads buf port unit).Within size ↔ unit + 7 ≤ size ∧
      (findRootPort buf port (rootPortCount buf unit)
        (rootPortInformation unit 0)).2.Within size := by
  rw [entryReads, Reads.within_append]
  refine and_congr_left' ?_
  simp only [Reads.Within, List.forall_mem_cons, List.not_mem_nil, false_implies, implies_true,
    and_true]
  omega

theorem lookAtUnit_none_iff {unit : ℕ} :
    ((lookAtUnit buf size port keypProtocol unit).1 = none ∧
        (lookAtUnit buf size port keypProtocol unit).2.Within size) ↔
      UnitPassed buf port keypProtocol size unit := by
  constructor
  · rintro ⟨hnone, hreads⟩
    have hfits : unit + length buf unit ≤ size :=
      fits_of_lookAtUnit hnone nofun
    by_cases hprotocol : protocolType buf unit = keypProtocol.value
    · rw [lookAtUnit_of_protocol hfits hprotocol] at hnone hreads
      cases hfound : (findRootPort buf port (rootPortCount buf unit)
          (rootPortInformation unit 0)).1 with
      | true =>
          rw [hfound, if_pos rfl] at hnone
          cases hnone
      | false =>
          rw [hfound, if_neg Bool.false_ne_true, within_entryReads] at hreads
          have hpassed := findRootPort_false_iff.mp ⟨hfound, hreads.2⟩
          refine ⟨hfits, by omega, fun _ => ⟨hreads.1, fun i hi => ?_⟩⟩
          have hentry := hpassed i hi
          rwa [rootPortInformation_zero] at hentry
    · rw [lookAtUnit_of_other hfits hprotocol] at hreads
      have hheader : unit + 4 + 1 ≤ size :=
        hreads _ (List.mem_cons_of_mem _ (List.mem_cons_self ..))
      exact ⟨hfits, hheader, fun h => absurd h hprotocol⟩
  · rintro ⟨hfits, hheader, hentries⟩
    by_cases hprotocol : protocolType buf unit = keypProtocol.value
    · rcases hentries hprotocol with ⟨hcount, hpassed⟩
      have hnone := findRootPort_false_iff.mpr fun i hi =>
        rootPortInformation_zero unit i ▸ hpassed i hi
      rw [lookAtUnit_of_protocol hfits hprotocol, hnone.1, if_neg Bool.false_ne_true]
      exact ⟨rfl, within_entryReads.mpr ⟨hcount, hnone.2⟩⟩
    · rw [lookAtUnit_of_other hfits hprotocol]
      refine ⟨rfl, ?_⟩
      simp only [Reads.Within, List.forall_mem_cons, List.not_mem_nil, false_implies,
        implies_true, and_true]
      omega

theorem lookAtUnit_found_iff {unit : ℕ} {addr : BitVec 64} :
    ((lookAtUnit buf size port keypProtocol unit).1 = some (.found addr) ∧
        (lookAtUnit buf size port keypProtocol unit).2.Within size) ↔
      UnitHit buf port keypProtocol size unit ∧ addr = registerBaseAddr buf unit := by
  constructor
  · rintro ⟨hsome, hreads⟩
    have hfits : unit + length buf unit ≤ size :=
      fits_of_lookAtUnit hsome nofun
    by_cases hprotocol : protocolType buf unit = keypProtocol.value
    · rw [lookAtUnit_of_protocol hfits hprotocol] at hsome hreads
      cases hfound : (findRootPort buf port (rootPortCount buf unit)
          (rootPortInformation unit 0)).1 with
      | true =>
          rw [hfound, if_pos rfl] at hsome hreads
          cases hsome
          rcases Reads.within_append.mp hreads with ⟨hentries, hbase⟩
          rw [within_entryReads] at hentries
          rw [Reads.within_singleton] at hbase
          exact ⟨⟨hfits, hprotocol, hbase, findRootPort_true_iff.mp ⟨hfound, hentries.2⟩⟩, rfl⟩
      | false =>
          rw [hfound, if_neg Bool.false_ne_true] at hsome
          cases hsome
    · rw [lookAtUnit_of_other hfits hprotocol] at hsome
      cases hsome
  · rintro ⟨⟨hfits, hprotocol, hheader, hstops⟩, rfl⟩
    rcases findRootPort_true_iff.mpr hstops with ⟨hfound, hreads⟩
    rw [lookAtUnit_of_protocol hfits hprotocol, hfound, if_pos rfl]
    refine ⟨rfl, Reads.within_append.mpr ⟨within_entryReads.mpr ⟨?_, hreads⟩,
      Reads.within_singleton.mpr hheader⟩⟩
    rw [unitHeaderSize] at hheader
    omega

/-- A unit that lists the port has an entry that matches. -/
theorem UnitPassed.not_lists {unit : ℕ} (h : UnitPassed buf port keypProtocol size unit) :
    ¬Lists buf port keypProtocol unit := by
  rintro ⟨hprotocol, i, hi, -, hnames⟩
  exact ((h.entries hprotocol).2 i hi).1 hnames

end Units

/-! ## `parse_keyp_table` -/

section Parse

variable (table : List Byte) (behind : ℕ → Byte) (mapKcbarAddr : BitVec 64 → Bool) (port : Port)
  (keypProtocol : ProtocolType)

/-- The register base of the first unit that lists the port is mapped, or the function fails
because there is none; only the table is read. -/
structure ParsedRight (parsed : Parsed) : Prop where
  inTable : parsed.reads.Within table.length
  result : (parsed.ret = some true ∧
      ∃ unit, FirstListing (buffer table behind) port keypProtocol table.length unit ∧
        parsed.mapped = some (registerBaseAddr (buffer table behind) unit)) ∨
    (parsed.ret = some false ∧ NoneLists (buffer table behind) port keypProtocol table.length)

/-- The function returns and its result is right. -/
def ParseRight : Prop :=
  ∃ fuel parsed, parseKeypTable (some table) behind mapKcbarAddr port keypProtocol fuel =
    some parsed ∧ ParsedRight table behind port keypProtocol parsed

/-- Moreover the descriptor of the table's file is closed. -/
def ParseRightAndCloses : Prop :=
  ∃ fuel parsed, parseKeypTable (some table) behind mapKcbarAddr port keypProtocol fuel =
    some parsed ∧ ParsedRight table behind port keypProtocol parsed ∧ parsed.fd = .closed

/-- The address of a unit that was hit is what should be mapped. -/
def AddrRight (kcbarAddr : BitVec 64) : Prop :=
  (kcbarAddr ≠ 0 ∧ mapKcbarAddr kcbarAddr = true ∧
    ∃ unit, FirstListing (buffer table behind) port keypProtocol table.length unit ∧
      registerBaseAddr (buffer table behind) unit = kcbarAddr) ∨
  (kcbarAddr = 0 ∧ NoneLists (buffer table behind) port keypProtocol table.length)

/-- The search passes the units up to the end of the table or up to a hit, inside the table. -/
def SearchRight : Prop :=
  ∃ ps q, UnitPath (buffer table behind) table.length ps q ∧
    (∀ p ∈ ps, UnitPassed (buffer table behind) port keypProtocol table.length p) ∧
    (¬q < table.length ∨ q < table.length ∧
      UnitHit (buffer table behind) port keypProtocol table.length q ∧
      AddrRight table behind mapKcbarAddr port keypProtocol
        (registerBaseAddr (buffer table behind) q))

structure Valid : Prop where
  signature : (List.range 4).map (buffer table behind) = keypSignature
  checksum : calculateChecksum table = 0

instance : Decidable (Valid table behind) :=
  decidable_of_iff (_ ∧ _) ⟨fun h => ⟨h.1, h.2⟩, fun h => ⟨h.1, h.2⟩⟩

/-- When the function returns the right result. -/
structure ParseCondition : Prop where
  isRootPort : port.isRootPort = true
  length_le : table.length ≤ 4096
  le_length : 4 ≤ table.length
  search : if Valid table behind then SearchRight table behind mapKcbarAddr port keypProtocol
    else NoneLists (buffer table behind) port keypProtocol table.length

variable {table behind mapKcbarAddr port keypProtocol}

theorem parsedRight_mapUnit_found {reads : Reads} {fd : Descriptor} {kcbarAddr : BitVec 64}
    (hreads : reads.Within table.length) :
    ParsedRight table behind port keypProtocol
        (mapUnit mapKcbarAddr reads fd (.found kcbarAddr)) ↔
      AddrRight table behind mapKcbarAddr port keypProtocol kcbarAddr := by
  rw [mapUnit, AddrRight]
  split
  · rename_i hzero
    constructor
    · rintro ⟨-, ⟨hret, -⟩ | ⟨-, hnone⟩⟩
      · cases hret
      · exact Or.inr ⟨hzero, hnone⟩
    · rintro (⟨hne, -⟩ | ⟨-, hnone⟩)
      · exact absurd hzero hne
      · exact ⟨hreads, Or.inr ⟨rfl, hnone⟩⟩
  · rename_i hne
    split
    · rename_i hmap
      constructor
      · rintro ⟨-, ⟨-, unit, hfirst, hmapped⟩ | ⟨hret, -⟩⟩
        · exact Or.inl ⟨hne, hmap, unit, hfirst, (Option.some.inj hmapped).symm⟩
        · cases hret
      · rintro (⟨-, -, unit, hfirst, haddr⟩ | ⟨hzero, -⟩)
        · exact ⟨hreads, Or.inl ⟨rfl, unit, hfirst, congrArg some haddr.symm⟩⟩
        · exact absurd hzero hne
    · rename_i hmap
      constructor
      · rintro ⟨-, ⟨hret, -⟩ | ⟨hret, -⟩⟩
        · cases hret
        · cases hret
      · rintro (⟨-, hmapped, -⟩ | ⟨hzero, -⟩)
        · exact absurd hmapped hmap
        · exact absurd hzero hne

/-- Passing every unit shows that none lists the port. -/
theorem noneLists_of_passed {buf : ℕ → Byte} {size q : ℕ} {ps : List ℕ}
    (hpath : UnitPath buf size ps q) (hstop : ¬q < size)
    (hpassed : ∀ p ∈ ps, ¬Lists buf port keypProtocol p) :
    NoneLists buf port keypProtocol size := by
  intro ps' unit hpath' hlt hlists
  exact hpassed unit (hpath.mem_of_stop hstop hpath' (not_not.mpr hlt)) hlists

theorem lookAtUnit_ne_notFound {buf : ℕ → Byte} {size unit : ℕ} :
    (lookAtUnit buf size port keypProtocol unit).1 ≠ some .notFound := by
  intro h
  have hfits : unit + length buf unit ≤ size := fits_of_lookAtUnit h nofun
  by_cases hprotocol : protocolType buf unit = keypProtocol.value
  · rw [lookAtUnit_of_protocol hfits hprotocol] at h
    split at h
    · cases h
    · cases h
  · rw [lookAtUnit_of_other hfits hprotocol] at h
    cases h

theorem mapUnit_reads (reads : Reads) (fd : Descriptor) (search : UnitSearch) :
    (mapUnit mapKcbarAddr reads fd search).reads = reads := by
  cases search with
  | assertFailed => rfl
  | notFound => rfl
  | found kcbarAddr =>
      rw [mapUnit]
      split
      · rfl
      · split
        · rfl
        · rfl

theorem mapUnit_fd (reads : Reads) (fd : Descriptor) (search : UnitSearch) :
    (mapUnit mapKcbarAddr reads fd search).fd = fd := by
  cases search with
  | assertFailed => rfl
  | notFound => rfl
  | found kcbarAddr =>
      rw [mapUnit]
      split
      · rfl
      · split
        · rfl
        · rfl

/-- What the search does to the result. -/
theorem searchUnits_right_iff (fd : Descriptor) {reads : Reads}
    (hreads : reads.Within table.length) :
    (∃ fuel search reads', searchUnits (buffer table behind) table.length port keypProtocol reads
        fuel = some (search, reads') ∧
        ParsedRight table behind port keypProtocol (mapUnit mapKcbarAddr reads' fd search)) ↔
      SearchRight table behind mapKcbarAddr port keypProtocol := by
  constructor
  · rintro ⟨fuel, search, reads', hsearch, hright⟩
    have hwithin := hright.inTable
    rw [mapUnit_reads] at hwithin
    rcases returns_logging_iff.mp ⟨fuel, hsearch⟩ with
      ⟨ps, q, hpath, hnone, ⟨hstop, rfl, rfl⟩ | ⟨hgoing, hsome, rfl⟩⟩
    · have hunits := Reads.within_flatMap.mp (Reads.within_append.mp hwithin).2
      exact ⟨ps, q, hpath, fun p hp => lookAtUnit_none_iff.mp ⟨hnone p hp, hunits p hp⟩,
        Or.inl hstop⟩
    · rcases Reads.within_append.mp hwithin with ⟨hbefore, hlast⟩
      have hunits := Reads.within_flatMap.mp (Reads.within_append.mp hbefore).2
      refine ⟨ps, q, hpath, fun p hp => lookAtUnit_none_iff.mp ⟨hnone p hp, hunits p hp⟩,
        Or.inr ⟨not_not.mp hgoing, ?_⟩⟩
      cases search with
      | assertFailed =>
          rcases hright.result with ⟨hret, -⟩ | ⟨hret, -⟩
          · cases hret
          · cases hret
      | notFound => exact absurd hsome lookAtUnit_ne_notFound
      | found kcbarAddr =>
          rcases lookAtUnit_found_iff.mp ⟨hsome, hlast⟩ with ⟨hhit, rfl⟩
          exact ⟨hhit, (parsedRight_mapUnit_found hwithin).mp hright⟩
  · rintro ⟨ps, q, hpath, hpassed, hend⟩
    have hlook := fun p hp => lookAtUnit_none_iff.mpr (hpassed p hp)
    have hwithin : (reads ++ ps.flatMap fun p => (lookAtUnit (buffer table behind) table.length
        port keypProtocol p).2).Within table.length :=
      Reads.within_append.mpr ⟨hreads, Reads.within_flatMap.mpr fun p hp => (hlook p hp).2⟩
    rcases hend with hstop | ⟨hlt, hhit, haddr⟩
    · rcases returns_logging_iff.mpr
        ⟨ps, q, hpath, fun p hp => (hlook p hp).1, Or.inl ⟨hstop, rfl, rfl⟩⟩ with ⟨fuel, hsearch⟩
      have hnone := noneLists_of_passed hpath hstop fun p hp => (hpassed p hp).not_lists
      exact ⟨fuel, .notFound, _, hsearch, hwithin, Or.inr ⟨rfl, hnone⟩⟩
    · rcases lookAtUnit_found_iff.mpr ⟨hhit, rfl⟩ with ⟨hsome, hlast⟩
      rcases returns_logging_iff.mpr ⟨ps, q, hpath, fun p hp => (hlook p hp).1,
        Or.inr ⟨not_not.mpr hlt, hsome, rfl⟩⟩ with ⟨fuel, hsearch⟩
      exact ⟨fuel, _, _, hsearch,
        (parsedRight_mapUnit_found (Reads.within_append.mpr ⟨hwithin, hlast⟩)).mpr haddr⟩

/-- A failure before the search is right when no unit lists the port. -/
theorem parsedRight_false_iff {reads : Reads} {fd : Descriptor} :
    ParsedRight table behind port keypProtocol ⟨some false, none, reads, fd⟩ ↔
      reads.Within table.length ∧
        NoneLists (buffer table behind) port keypProtocol table.length := by
  constructor
  · rintro ⟨hreads, ⟨hret, -⟩ | ⟨-, hnone⟩⟩
    · cases hret
    · exact ⟨hreads, hnone⟩
  · rintro ⟨hreads, hnone⟩
    exact ⟨hreads, Or.inr ⟨rfl, hnone⟩⟩

theorem not_parsedRight_assertFailed {reads : Reads} {fd : Descriptor} :
    ¬ParsedRight table behind port keypProtocol ⟨none, none, reads, fd⟩ := by
  rintro ⟨-, ⟨hret, -⟩ | ⟨hret, -⟩⟩
  · cases hret
  · cases hret

theorem within_signature :
    Reads.Within [(0, 4)] table.length ↔ 4 ≤ table.length :=
  Reads.within_singleton.trans (by rw [Nat.zero_add])

theorem within_table : Reads.Within ([(0, 4)] ++ [(0, table.length)]) table.length ↔
    4 ≤ table.length := by
  rw [Reads.within_append, within_signature, Reads.within_singleton, Nat.zero_add]
  exact and_iff_left (Nat.le_refl _)

/-- A run whose result does not depend on the number of rounds. -/
theorem parseRight_of_const {parsed : Parsed}
    (h : ∀ fuel, parseKeypTable (some table) behind mapKcbarAddr port keypProtocol fuel =
      some parsed) :
    ParseRight table behind mapKcbarAddr port keypProtocol ↔
      ParsedRight table behind port keypProtocol parsed := by
  constructor
  · rintro ⟨fuel, parsed', hparse, hright⟩
    rw [h, Option.some.injEq] at hparse
    exact hparse ▸ hright
  · exact fun hright => ⟨0, parsed, h 0, hright⟩

theorem parseKeypTable_of_not_isRootPort (hport : port.isRootPort = false) (fuel : ℕ) :
    parseKeypTable (some table) behind mapKcbarAddr port keypProtocol fuel =
      some ⟨none, none, [], .closed⟩ := by
  simp only [parseKeypTable, hport, Bool.not_false, if_true]

theorem parseKeypTable_of_lt (hport : port.isRootPort = true) (hlength : ¬table.length ≤ 4096)
    (fuel : ℕ) :
    parseKeypTable (some table) behind mapKcbarAddr port keypProtocol fuel =
      some ⟨none, none, [], .opened⟩ := by
  simp only [parseKeypTable, hport, hlength, Bool.not_true, Bool.false_eq_true,
    not_false_eq_true, if_true, if_false]

theorem parseKeypTable_of_signature (hport : port.isRootPort = true)
    (hlength : table.length ≤ 4096)
    (hsignature : (List.range 4).map (buffer table behind) ≠ keypSignature) (fuel : ℕ) :
    parseKeypTable (some table) behind mapKcbarAddr port keypProtocol fuel =
      some ⟨some false, none, [(0, 4)], .opened⟩ := by
  simp only [parseKeypTable, hport, hlength, Bool.not_true, Bool.false_eq_true,
    not_true_eq_false, if_false, if_pos hsignature]

theorem parseKeypTable_of_checksum (hport : port.isRootPort = true)
    (hlength : table.length ≤ 4096)
    (hsignature : (List.range 4).map (buffer table behind) = keypSignature)
    (hchecksum : calculateChecksum table ≠ 0) (fuel : ℕ) :
    parseKeypTable (some table) behind mapKcbarAddr port keypProtocol fuel =
      some ⟨some false, none, [(0, 4)] ++ [(0, table.length)], .opened⟩ := by
  simp only [parseKeypTable, hport, hlength, Bool.not_true, Bool.false_eq_true,
    not_true_eq_false, if_false, if_neg (not_not.mpr hsignature), if_pos hchecksum]

theorem parseKeypTable_of_valid (hport : port.isRootPort = true)
    (hlength : table.length ≤ 4096) (hvalid : Valid table behind) (fuel : ℕ) :
    parseKeypTable (some table) behind mapKcbarAddr port keypProtocol fuel =
      (searchUnits (buffer table behind) table.length port keypProtocol
        ([(0, 4)] ++ [(0, table.length)]) fuel).map fun r =>
          mapUnit mapKcbarAddr r.2 .opened r.1 := by
  simp only [parseKeypTable, hport, hlength, Bool.not_true, Bool.false_eq_true,
    not_true_eq_false, if_false, if_neg (not_not.mpr hvalid.signature),
    if_neg (not_not.mpr hvalid.checksum)]

/-- The signature's bytes are not zero. -/
theorem Valid.le_length (h : Valid table behind) : 4 ≤ table.length := by
  by_contra hlt
  have hlast : buffer table behind 3 = 0x50 :=
    congrArg (fun bytes : List Byte => bytes.getD 3 0) h.signature
  rw [buffer, if_pos (by decide), List.getD_eq_getElem?_getD, List.getElem?_eq_none (by omega)]
    at hlast
  exact absurd hlast (by decide)

theorem parseRight_of_not_valid (hport : port.isRootPort = true) (hlength : table.length ≤ 4096)
    (hvalid : ¬Valid table behind) :
    ParseRight table behind mapKcbarAddr port keypProtocol ↔
      4 ≤ table.length ∧ NoneLists (buffer table behind) port keypProtocol table.length := by
  by_cases hsignature : (List.range 4).map (buffer table behind) = keypSignature
  · have hchecksum : calculateChecksum table ≠ 0 := fun h => hvalid ⟨hsignature, h⟩
    rw [parseRight_of_const (parseKeypTable_of_checksum hport hlength hsignature hchecksum),
      parsedRight_false_iff, within_table]
  · rw [parseRight_of_const (parseKeypTable_of_signature hport hlength hsignature),
      parsedRight_false_iff, within_signature]

theorem parseRight_of_valid (hport : port.isRootPort = true) (hlength : table.length ≤ 4096)
    (hvalid : Valid table behind) :
    ParseRight table behind mapKcbarAddr port keypProtocol ↔
      SearchRight table behind mapKcbarAddr port keypProtocol := by
  have hreads := within_table.mpr hvalid.le_length
  rw [← searchUnits_right_iff .opened hreads]
  constructor
  · rintro ⟨fuel, parsed, hparse, hright⟩
    rw [parseKeypTable_of_valid hport hlength hvalid, Option.map_eq_some_iff] at hparse
    rcases hparse with ⟨⟨search, reads⟩, hsearch, rfl⟩
    exact ⟨fuel, search, reads, hsearch, hright⟩
  · rintro ⟨fuel, search, reads, hsearch, hright⟩
    refine ⟨fuel, mapUnit mapKcbarAddr reads .opened search, ?_, hright⟩
    rw [parseKeypTable_of_valid hport hlength hvalid, hsearch, Option.map_some]

theorem parseRight_iff :
    ParseRight table behind mapKcbarAddr port keypProtocol ↔
      ParseCondition table behind mapKcbarAddr port keypProtocol := by
  constructor
  · intro hright
    have hport : port.isRootPort = true := by
      by_contra hport
      rw [parseRight_of_const (parseKeypTable_of_not_isRootPort
        (Bool.not_eq_true _ ▸ hport))] at hright
      exact not_parsedRight_assertFailed hright
    have hlength : table.length ≤ 4096 := by
      by_contra hlength
      rw [parseRight_of_const (parseKeypTable_of_lt hport hlength)] at hright
      exact not_parsedRight_assertFailed hright
    by_cases hvalid : Valid table behind
    · have hsearch := (parseRight_of_valid hport hlength hvalid).mp hright
      exact ⟨hport, hlength, hvalid.le_length, by rwa [if_pos hvalid]⟩
    · rcases (parseRight_of_not_valid hport hlength hvalid).mp hright with ⟨hle, hnone⟩
      exact ⟨hport, hlength, hle, by rwa [if_neg hvalid]⟩
  · rintro ⟨hport, hlength, hle, hsearch⟩
    by_cases hvalid : Valid table behind
    · rw [if_pos hvalid] at hsearch
      exact (parseRight_of_valid hport hlength hvalid).mpr hsearch
    · rw [if_neg hvalid] at hsearch
      exact (parseRight_of_not_valid hport hlength hvalid).mpr ⟨hle, hsearch⟩

/-- The descriptor is still open whenever the function returns. -/
theorem parseKeypTable_fd {fuel : ℕ} {parsed : Parsed} (hport : port.isRootPort = true)
    (h : parseKeypTable (some table) behind mapKcbarAddr port keypProtocol fuel = some parsed) :
    parsed.fd = .opened := by
  by_cases hlength : table.length ≤ 4096
  · by_cases hvalid : Valid table behind
    · rw [parseKeypTable_of_valid hport hlength hvalid, Option.map_eq_some_iff] at h
      rcases h with ⟨⟨search, reads⟩, -, rfl⟩
      exact mapUnit_fd reads .opened search
    · by_cases hsignature : (List.range 4).map (buffer table behind) = keypSignature
      · have hchecksum : calculateChecksum table ≠ 0 := fun h => hvalid ⟨hsignature, h⟩
        rw [parseKeypTable_of_checksum hport hlength hsignature hchecksum] at h
        cases h
        rfl
      · rw [parseKeypTable_of_signature hport hlength hsignature] at h
        cases h
        rfl
  · rw [parseKeypTable_of_lt hport hlength] at h
    cases h
    rfl

theorem not_parseRightAndCloses :
    ¬ParseRightAndCloses table behind mapKcbarAddr port keypProtocol := by
  rintro ⟨fuel, parsed, hparse, hright, hclosed⟩
  have hcondition := parseRight_iff.mp ⟨fuel, parsed, hparse, hright⟩
  rw [parseKeypTable_fd hcondition.isRootPort hparse] at hclosed
  cases hclosed

variable (table behind mapKcbarAddr port keypProtocol)

/-- The function never closes the descriptor. But for that it is right exactly under the
condition. -/
theorem parseKeypTable_right_iff :
    ¬ParseRightAndCloses table behind mapKcbarAddr port keypProtocol ∧
      (ParseRight table behind mapKcbarAddr port keypProtocol ↔
        ParseCondition table behind mapKcbarAddr port keypProtocol) :=
  ⟨not_parseRightAndCloses, parseRight_iff⟩

/-! ### Tables at which the function fails -/

/-- A table with its header and one unit. -/
def singleUnitTable (checkSum : Byte) (unit : List Byte) : List Byte :=
  keypSignature ++ [BitVec.ofNat 8 (keypHeaderSize + unit.length), 0, 0, 0, 1, checkSum] ++
    List.replicate 30 0 ++ unit

/-- The unit lists the root port 0000:15:01.0, with its registers at 0x10000000. -/
def listingTable : List Byte :=
  singleUnitTable 0x47
    [0, 0, 20, 0, 1, 0, 1, 0, 0, 0, 0, 0x10, 0, 0, 0, 0, 0, 0, 0x15, 0x08]

/-- The unit has the length zero and is for the other protocol. -/
def zeroLengthTable : List Byte :=
  singleUnitTable 0x8C [0, 0, 0, 0, 2, 0, 0, 0, 0, 0, 0, 0, 0, 0, 0, 0]

def listedPort : Port := ⟨true, 0, 0x15, 1, 0⟩

/-- The right address is mapped, but the descriptor stays open; and the search in the other table
comes back to its unit for ever. -/
theorem parseKeypTable_fails :
    (parseKeypTable (some listingTable) (fun _ => 0) (fun _ => true) listedPort .pcieCxlio 2).map
        (fun parsed => (parsed.ret, parsed.mapped, parsed.fd)) =
      some (some true, some 0x10000000, .opened) ∧
    ¬ParseRightAndCloses listingTable (fun _ => 0) (fun _ => true) listedPort .pcieCxlio ∧
    ¬ParseRight zeroLengthTable (fun _ => 0) (fun _ => true) listedPort .pcieCxlio := by
  refine ⟨by decide +kernel, not_parseRightAndCloses, ?_⟩
  intro hright
  have hsearch := (parseRight_iff.mp hright).search
  rw [if_pos ⟨by decide, by decide⟩] at hsearch
  rcases hsearch with ⟨ps, q, hpath, -, hend⟩
  rcases hpath.of_self (by decide) with rfl
  rcases hend with hstop | ⟨-, hhit, -⟩
  · exact absurd hstop (by decide)
  · exact absurd hhit.protocol (by decide)

end Parse

end TeeIoValidator.Keyp
