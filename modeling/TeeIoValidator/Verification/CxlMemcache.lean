import TeeIoValidator.Library.Flags
import TeeIoValidator.Model.CxlMemcache

/-! Which register block is mapped, where, and what the result says of it. -/

namespace TeeIoValidator.CxlMemcache

open ConfigSpace

section Machine

variable (m : Machine)

/-! ## The entries -/

theorem entryOffsets_succ (offset n : ℕ) :
    entryOffsets offset (n + 1) = offset :: entryOffsets (offset + 8) n := by
  rw [entryOffsets, List.range_succ_eq_map, List.map_cons, List.map_map, entryOffsets]
  refine congrArg (offset :: ·) (List.map_congr_left fun i _ => ?_)
  show offset + 8 * (i + 1) = offset + 8 + 8 * i
  omega

/-- Every loop over a further entry reads it. -/
theorem head?_examined_locateFrom (left i offset : ℕ) :
    (locateFrom m (left + 1) i offset).examined.head? = some (offset + i * 8) := by
  rw [locateFrom]
  split <;> rfl

theorem head?_examined_examine (offset : ℕ) (offsets : List ℕ) :
    (examine m (offset :: offsets)).examined.head? = some offset := by
  rw [examine]
  split <;> rfl

/-- The loop reads the entries as it is to when it does not come to the third one. -/
theorem locateFrom_eq_iff (offset n : ℕ) :
    locateFrom m n 0 offset = examine m (entryOffsets offset n) ↔
      n ≤ 2 ∨ ∃ entry ∈ (entryOffsets offset n).take 2, isComponentReg m entry = true := by
  match n with
  | 0 => exact iff_of_true rfl (Or.inl (by decide))
  | 1 =>
      refine iff_of_true ?_ (Or.inl (by decide))
      rfl
  | 2 =>
      refine iff_of_true ?_ (Or.inl (by decide))
      rfl
  | n + 3 =>
      rw [entryOffsets_succ, entryOffsets_succ, entryOffsets_succ, locateFrom, examine,
        Nat.zero_mul, Nat.add_zero]
      by_cases hfirst : isComponentReg m offset = true
      · simp [hfirst]
      · simp only [hfirst, Bool.false_eq_true, if_false]
        rw [locateFrom, examine, Nat.zero_add, Nat.one_mul]
        by_cases hsecond : isComponentReg m (offset + 8) = true
        · simp [hsecond]
        · simp only [hsecond, Bool.false_eq_true, if_false]
          refine iff_of_false (fun heq => ?_) ?_
          · have hexamined := congrArg Located.examined heq
            simp only [List.cons.injEq, true_and] at hexamined
            have hhead := congrArg List.head? hexamined
            rw [head?_examined_locateFrom, head?_examined_examine, Option.some.injEq] at hhead
            omega
          · simp [hfirst, hsecond]

/-! ## The address -/

/-- The entry's offset is below 4 GB and its base address is that of a page. -/
def Addressable (entry : ℕ) : Prop :=
  (offsetInBar m entry).toNat < 2 ^ 32 ∧ (barBase m entry).toNat % 0x1000 = 0

theorem mapTarget_eq_iff {entry bar : ℕ} (hbar : pcieBarOffset[bir m entry]? = some bar) :
    mapTarget m bar (offsetInBar m entry) = physicalAddress m entry ↔ Addressable m entry := by
  have hbase : barBase m entry = barValue m bar &&& ~~~(BitVec.ofNat 64 (2 ^ 4 - 1)) := by
    rw [barBase, List.getD_eq_getElem?_getD, hbar]
    rfl
  have hpage : (barValue m bar &&& ~~~(BitVec.ofNat 64 (cxlCachememRegBlockSize - 1))).toNat =
      (barValue m bar).toNat / 2 ^ 12 * 2 ^ 12 := Flags.toNat_and_not_low _ 12
  have hflags := Flags.toNat_and_not_low (barValue m bar) 4
  rw [Addressable, ← BitVec.toNat_inj, mapTarget, physicalAddress, hbase]
  simp only [BitVec.toNat_add, BitVec.toNat_setWidth, BitVec.toNat_ofNat, hpage, hflags,
    cxlIoRegBlockSize]
  have hvalue := (barValue m bar).isLt
  have hoffset := (offsetInBar m entry).isLt
  omega

/-! ## The capability array -/

/-- The result, which is not looked at, says whether the IDE capability is in the array. -/
theorem cxlPopulateMemcacheRegBlock_eq_some {ptr : ℕ} {regs regs' : MemcacheRegs} {ret : Bool}
    (h : cxlPopulateMemcacheRegBlock m ptr regs = some (ret, regs')) :
    regs'.mappedMemcacheRegBlock = regs.mappedMemcacheRegBlock ∧
      ∀ header, ideCapHeader m ptr = some header →
        regs'.cxlIdeCapabilityStructPtr = some (ptr + capPointer.get header) := by
  rw [cxlPopulateMemcacheRegBlock] at h
  split at h
  · cases h
  · simp only at h
    split at h
    · rename_i hsize
      cases h
      refine ⟨rfl, fun header hheader => ?_⟩
      rw [ideCapHeader, if_neg (Nat.not_le_of_lt hsize)] at hheader
      cases hheader
    · rename_i hsize
      have hheader : ideCapHeader m ptr =
          (capXxxHeaders m ptr (arraySize.get (m.read32 ptr))).find?
            (capId.get · = capabilityIdIdeCap) := by
        rw [ideCapHeader, if_pos (Nat.le_of_not_lt hsize)]
      rw [hheader]
      split at h
      · cases h
      · split at h
        · rename_i hnone
          cases h
          exact ⟨rfl, fun header hsome => by rw [hnone] at hsome; cases hsome⟩
        · rename_i header hfound
          cases h
          refine ⟨rfl, fun header' hsome => ?_⟩
          rw [hfound] at hsome
          cases hsome
          rfl

/-- The assertions on the capability array hold, and it has the IDE capability. -/
structure HasIdeCapability (ptr : ℕ) : Prop where
  capId : capId.get (m.read32 ptr) = 1
  capVersion : capVersion.get (m.read32 ptr) = 1
  cacheMemVersion : cacheMemVersion.get (m.read32 ptr) = 1
  known : ∀ header ∈ capXxxHeaders m ptr (arraySize.get (m.read32 ptr)),
    CxlMemcache.capId.get header < capabilityIdNum
  ide : (ideCapHeader m ptr).isSome

theorem ideCapHeader_isSome {ptr : ℕ} (h : (ideCapHeader m ptr).isSome) :
    arraySize.get (m.read32 ptr) ≤ capabilityIdNum := by
  by_contra hsize
  rw [ideCapHeader, if_neg hsize] at h
  cases h

/-- With the IDE capability in the array, no assertion fails just when all of them hold. -/
theorem cxlPopulateMemcacheRegBlock_isSome_iff {ptr : ℕ} {regs : MemcacheRegs}
    (h : (ideCapHeader m ptr).isSome) :
    (cxlPopulateMemcacheRegBlock m ptr regs).isSome ↔ HasIdeCapability m ptr := by
  have hsize := Nat.not_lt_of_le (ideCapHeader_isSome m h)
  rw [cxlPopulateMemcacheRegBlock]
  by_cases hheader : capId.get (m.read32 ptr) ≠ 1 ∨ capVersion.get (m.read32 ptr) ≠ 1 ∨
      cacheMemVersion.get (m.read32 ptr) ≠ 1
  · rw [if_pos hheader]
    refine iff_of_false Bool.false_ne_true fun hall => ?_
    rcases hheader with hne | hne | hne
    · exact hne hall.capId
    · exact hne hall.capVersion
    · exact hne hall.cacheMemVersion
  · rw [if_neg hheader]
    simp only [if_neg hsize]
    rw [not_or, not_or, not_ne_iff, not_ne_iff, not_ne_iff] at hheader
    by_cases hknown : (capXxxHeaders m ptr (arraySize.get (m.read32 ptr))).any
        (capabilityIdNum ≤ capId.get ·) = true
    · rw [if_pos hknown]
      refine iff_of_false Bool.false_ne_true fun hall => ?_
      obtain ⟨header, hmem, hle⟩ := List.any_eq_true.mp hknown
      exact Nat.not_le_of_lt (hall.known header hmem) (of_decide_eq_true hle)
    · rw [if_neg hknown]
      refine iff_of_true (by split <;> rfl) ⟨hheader.1, hheader.2.1, hheader.2.2, ?_, h⟩
      intro header hmem
      by_contra hle
      exact hknown (List.any_eq_true.mpr ⟨header, hmem, decide_eq_true (Nat.le_of_not_lt hle)⟩)

/-! ## The outcome -/

variable (dvsecs : List Dvsec)

/-- The loop does not come to the third entry. -/
def EndsEarly : Prop :=
  (regBlockOffsets m dvsecs).length ≤ 2 ∨
    ∃ entry ∈ (regBlockOffsets m dvsecs).take 2, isComponentReg m entry = true

/-- The entry of the component registers. -/
def Finds (entry : ℕ) : Prop := (examine m (regBlockOffsets m dvsecs)).entry = some entry

/-- The cache and memory registers are mapped, and have the IDE capability. -/
def Provides (ptr : ℕ) (header : Dword) : Prop :=
  ∃ entry, Finds m dvsecs entry ∧ m.devMem.isSome ∧ m.mmap (physicalAddress m entry) = some ptr ∧
    ideCapHeader m ptr = some header

/-- What `cxl_init_memcache_reg_block` is to do. -/
structure Meets (o : Outcome) : Prop where
  located : o.located = examine m (regBlockOffsets m dvsecs)
  target : ∀ a, o.target = some a → ∃ entry, Finds m dvsecs entry ∧ a = physicalAddress m entry
  sound : o.ret = true → ∃ ptr header, Provides m dvsecs ptr header ∧
    o.regs.mappedMemcacheRegBlock = some ptr ∧
      o.regs.cxlIdeCapabilityStructPtr = some (ptr + capPointer.get header)
  complete : ∀ ptr header, Provides m dvsecs ptr header → o.ret = true

/-- When it does so. -/
structure Regular : Prop where
  locator : ∀ dvsec, dvsecs.find? (·.dvsecId = dvsecIdRegisterLocator) = some dvsec →
    (registerLocator m dvsec).isSome
  early : EndsEarly m dvsecs
  bar : ∀ entry, Finds m dvsecs entry → bir m entry < pcieBarOffset.length
  addressable : ∀ entry, Finds m dvsecs entry → m.devMem.isSome → Addressable m entry
  capability : ∀ entry ptr, Finds m dvsecs entry → m.devMem.isSome →
    m.mmap (physicalAddress m entry) = some ptr → HasIdeCapability m ptr

variable {m dvsecs} {regs : MemcacheRegs} {o : Outcome} {located : Located} {entry : ℕ}

theorem registerLocator_isSome (h : cxlInitMemcacheRegBlock m dvsecs regs = some o) (dvsec : Dvsec)
    (hsome : dvsecs.find? (·.dvsecId = dvsecIdRegisterLocator) = some dvsec) :
    (registerLocator m dvsec).isSome := by
  rw [cxlInitMemcacheRegBlock, hsome] at h
  obtain ⟨located, hlocator, -⟩ := Option.bind_eq_some_iff.mp h
  exact Option.isSome_of_eq_some hlocator

/-- Where the register locator is read, the located registers are mapped. -/
theorem exists_located (regs : MemcacheRegs) (hlocator : ∀ dvsec,
      dvsecs.find? (·.dvsecId = dvsecIdRegisterLocator) = some dvsec →
      (registerLocator m dvsec).isSome) :
    ∃ located, cxlInitMemcacheRegBlock m dvsecs regs = mapLocated m regs located ∧
      (located = examine m (regBlockOffsets m dvsecs) ↔ EndsEarly m dvsecs) := by
  rw [cxlInitMemcacheRegBlock, EndsEarly, regBlockOffsets]
  cases hfind : dvsecs.find? (·.dvsecId = dvsecIdRegisterLocator) with
  | none => exact ⟨⟨[], none⟩, rfl, iff_of_true rfl (Or.inl (Nat.zero_le 2))⟩
  | some dvsec =>
      obtain ⟨⟨offset, regBlockCnt⟩, hread⟩ := Option.isSome_iff_exists.mp (hlocator dvsec hfind)
      rw [Option.bind_some, hread]
      refine ⟨locateFrom m regBlockCnt 0 offset, by simp only [hread, Option.bind_some], ?_⟩
      have hlength : (entryOffsets offset regBlockCnt).length = regBlockCnt := by
        rw [entryOffsets, List.length_map, List.length_range]
      simp only [hlength]
      exact locateFrom_eq_iff m offset regBlockCnt

theorem mapLocated_located (h : mapLocated m regs located = some o) : o.located = located := by
  rw [mapLocated] at h
  split at h
  · cases h
    rfl
  · obtain ⟨bar, -, hbar⟩ := Option.bind_eq_some_iff.mp h
    simp only at hbar
    split at hbar
    · cases hbar
      rfl
    · obtain ⟨_, -, rfl⟩ := Option.map_eq_some_iff.mp hbar
      rfl

theorem mapLocated_of_none (h : mapLocated m regs located = some o) (hnone : located.entry = none) :
    o.ret = false ∧ o.target = none := by
  rw [mapLocated, hnone] at h
  cases h
  exact ⟨rfl, rfl⟩

/-- The registers of the entry are mapped if they can be, and then the result is true. -/
theorem mapLocated_of_some (h : mapLocated m regs located = some o)
    (hentry : located.entry = some entry) :
    ∃ bar, pcieBarOffset[bir m entry]? = some bar ∧
      o.target = (m.devMem.map fun _ => mapTarget m bar (offsetInBar m entry)) ∧
      (o.ret = true ↔
        m.devMem.isSome ∧ (m.mmap (mapTarget m bar (offsetInBar m entry))).isSome) ∧
      ∀ ptr header, m.devMem.isSome → m.mmap (mapTarget m bar (offsetInBar m entry)) = some ptr →
        ideCapHeader m ptr = some header → HasIdeCapability m ptr ∧
          o.regs.mappedMemcacheRegBlock = some ptr ∧
          o.regs.cxlIdeCapabilityStructPtr = some (ptr + capPointer.get header) := by
  rw [mapLocated, hentry] at h
  obtain ⟨bar, hbar, h⟩ := Option.bind_eq_some_iff.mp h
  refine ⟨bar, hbar, ?_⟩
  simp only [cxlMapBarAddr] at h
  cases hdevMem : m.devMem with
  | none =>
      rw [hdevMem] at h
      cases h
      simp
  | some memFd =>
      rw [hdevMem] at h
      cases hmmap : m.mmap (mapTarget m bar (offsetInBar m entry)) with
      | none =>
          simp only [Option.bind_some, hmmap, Option.map_none] at h
          cases h
          simp
      | some ptr =>
          simp only [Option.bind_some, hmmap, Option.map_some] at h
          obtain ⟨⟨ret, regs'⟩, hpopulate, rfl⟩ := Option.map_eq_some_iff.mp h
          obtain ⟨hmapped, hstored⟩ := cxlPopulateMemcacheRegBlock_eq_some m hpopulate
          refine ⟨rfl, by simp, ?_⟩
          intro ptr' header _ hptr hheader
          cases hptr
          have hall := (cxlPopulateMemcacheRegBlock_isSome_iff m
            (Option.isSome_of_eq_some hheader)).mp (Option.isSome_of_eq_some hpopulate)
          exact ⟨hall, hmapped, hstored header hheader⟩

/-- No assertion fails behind the loop. -/
theorem exists_mapLocated (regs : MemcacheRegs)
    (hlinear : located = examine m (regBlockOffsets m dvsecs)) (hregular : Regular m dvsecs) :
    ∃ o, mapLocated m regs located = some o := by
  rw [mapLocated]
  cases hentry : located.entry with
  | none => exact ⟨_, rfl⟩
  | some entry =>
      have hfinds : Finds m dvsecs entry := by
        rw [Finds, ← hlinear, hentry]
      have hbar := List.getElem?_eq_getElem (hregular.bar entry hfinds)
      simp only [hbar, Option.bind_some, cxlMapBarAddr]
      cases hdevMem : m.devMem with
      | none => exact ⟨_, rfl⟩
      | some memFd =>
          have haddress := (mapTarget_eq_iff m hbar).mpr
            (hregular.addressable entry hfinds (Option.isSome_of_eq_some hdevMem))
          rw [haddress, Option.bind_some]
          cases hmmap : m.mmap (physicalAddress m entry) with
          | none => exact ⟨_, rfl⟩
          | some ptr =>
              have hall := hregular.capability entry ptr hfinds
                (Option.isSome_of_eq_some hdevMem) hmmap
              have hpopulated : (cxlPopulateMemcacheRegBlock m ptr
                  { regs with mappedFd := memFd, mappedMemcacheRegBlock := some ptr }).isSome :=
                (cxlPopulateMemcacheRegBlock_isSome_iff m hall.ide).mpr hall
              obtain ⟨result, hpopulate⟩ := Option.isSome_iff_exists.mp hpopulated
              simp only [Option.map_some, hpopulate]
              exact ⟨_, rfl⟩

theorem finds_iff (hlinear : located = examine m (regBlockOffsets m dvsecs)) :
    Finds m dvsecs entry ↔ located.entry = some entry := by
  rw [hlinear, Finds]

theorem Finds.unique {entry' : ℕ} (h : Finds m dvsecs entry) (h' : Finds m dvsecs entry') :
    entry = entry' :=
  Option.some.inj (h.symm.trans h')

theorem regular_of_meets (hlocator : ∀ dvsec,
      dvsecs.find? (·.dvsecId = dvsecIdRegisterLocator) = some dvsec →
      (registerLocator m dvsec).isSome)
    (hmap : mapLocated m regs located = some o)
    (hlinear : located = examine m (regBlockOffsets m dvsecs)) (hearly : EndsEarly m dvsecs)
    (hmeets : Meets m dvsecs o) : Regular m dvsecs := by
  have haddressable : ∀ entry, Finds m dvsecs entry → m.devMem.isSome → Addressable m entry := by
    intro entry hfinds hdevMem
    obtain ⟨bar, hbar, htarget, -, -⟩ := mapLocated_of_some hmap ((finds_iff hlinear).mp hfinds)
    obtain ⟨memFd, hmemFd⟩ := Option.isSome_iff_exists.mp hdevMem
    rw [hmemFd, Option.map_some] at htarget
    obtain ⟨entry', hfinds', haddress⟩ := hmeets.target _ htarget
    obtain rfl := hfinds.unique hfinds'
    exact (mapTarget_eq_iff m hbar).mp haddress
  refine ⟨hlocator, hearly, ?_, haddressable, ?_⟩
  · intro entry hfinds
    obtain ⟨bar, hbar, -⟩ := mapLocated_of_some hmap ((finds_iff hlinear).mp hfinds)
    exact (List.getElem?_eq_some_iff.mp hbar).1
  · intro entry ptr hfinds hdevMem hptr
    obtain ⟨bar, hbar, -, hret, hstored⟩ :=
      mapLocated_of_some hmap ((finds_iff hlinear).mp hfinds)
    rw [(mapTarget_eq_iff m hbar).mpr (haddressable entry hfinds hdevMem)] at hret hstored
    -- the registers are mapped, so the result is true, and the capability must be there
    obtain ⟨ptr', header, ⟨entry', hfinds', -, hptr', hheader⟩, -, -⟩ :=
      hmeets.sound (hret.mpr ⟨hdevMem, Option.isSome_of_eq_some hptr⟩)
    obtain rfl := hfinds.unique hfinds'
    obtain rfl : ptr = ptr' := Option.some.inj (hptr.symm.trans hptr')
    exact (hstored ptr header hdevMem hptr hheader).1

theorem meets_of_regular (hmap : mapLocated m regs located = some o)
    (hlinear : located = examine m (regBlockOffsets m dvsecs)) (hregular : Regular m dvsecs) :
    Meets m dvsecs o where
  located := by rw [mapLocated_located hmap, hlinear]
  target := by
    intro a ha
    cases hentry : located.entry with
    | none =>
        rw [(mapLocated_of_none hmap hentry).2] at ha
        cases ha
    | some entry =>
        obtain ⟨bar, hbar, htarget, -, -⟩ := mapLocated_of_some hmap hentry
        obtain ⟨memFd, hmemFd, rfl⟩ := Option.map_eq_some_iff.mp (htarget ▸ ha)
        have hfinds := (finds_iff hlinear).mpr hentry
        exact ⟨entry, hfinds, (mapTarget_eq_iff m hbar).mpr
          (hregular.addressable entry hfinds (Option.isSome_of_eq_some hmemFd))⟩
  sound := by
    intro htrue
    cases hentry : located.entry with
    | none =>
        rw [(mapLocated_of_none hmap hentry).1] at htrue
        cases htrue
    | some entry =>
        obtain ⟨bar, hbar, -, hret, hstored⟩ := mapLocated_of_some hmap hentry
        have hfinds := (finds_iff hlinear).mpr hentry
        obtain ⟨hdevMem, hmmap⟩ := hret.mp htrue
        obtain ⟨ptr, hptr⟩ := Option.isSome_iff_exists.mp hmmap
        have haddress := (mapTarget_eq_iff m hbar).mpr
          (hregular.addressable entry hfinds hdevMem)
        have hphysical : m.mmap (physicalAddress m entry) = some ptr := haddress ▸ hptr
        obtain ⟨header, hheader⟩ := Option.isSome_iff_exists.mp
          (hregular.capability entry ptr hfinds hdevMem hphysical).ide
        exact ⟨ptr, header, ⟨entry, hfinds, hdevMem, hphysical, hheader⟩,
          (hstored ptr header hdevMem hptr hheader).2⟩
  complete := by
    rintro ptr header ⟨entry, hfinds, hdevMem, hptr, -⟩
    obtain ⟨bar, hbar, -, hret, -⟩ := mapLocated_of_some hmap ((finds_iff hlinear).mp hfinds)
    have haddress := (mapTarget_eq_iff m hbar).mpr (hregular.addressable entry hfinds hdevMem)
    exact hret.mpr ⟨hdevMem, haddress ▸ Option.isSome_of_eq_some hptr⟩

/-- The function returns and does what it is to exactly when the register locator is read and
the loop does not come to a third entry, the located registers are below 4 GB of a page of an
existing base address, and they are an array with the IDE capability when they can be mapped. -/
theorem meets_iff_regular (m : Machine) (dvsecs : List Dvsec) (regs : MemcacheRegs) :
    (∃ o, cxlInitMemcacheRegBlock m dvsecs regs = some o ∧ Meets m dvsecs o) ↔
      Regular m dvsecs := by
  constructor
  · rintro ⟨o, hrun, hmeets⟩
    have hlocator := registerLocator_isSome hrun
    obtain ⟨located, hmap, hearly⟩ := exists_located regs hlocator
    rw [hrun] at hmap
    have hlinear : located = examine m (regBlockOffsets m dvsecs) :=
      (mapLocated_located hmap.symm).symm.trans hmeets.located
    exact regular_of_meets hlocator hmap.symm hlinear (hearly.mp hlinear) hmeets
  · intro hregular
    obtain ⟨located, hmap, hearly⟩ := exists_located regs hregular.locator
    have hlinear := hearly.mpr hregular.early
    obtain ⟨o, ho⟩ := exists_mapLocated regs hlinear hregular
    exact ⟨o, hmap.trans ho, meets_of_regular ho hlinear hregular⟩

end Machine

/-! ## Runs -/

/-- Memory that is given by its double words. -/
def bytesOf (dwords : ℕ → Dword) (a : ℕ) : BitVec 8 := (dwords (a / 4)).byte (a % 4)

/-- A register locator at 0x200 with the given header and entries, and cache and memory registers
with the IDE capability at the physical address 0x80001000. -/
def machineWith (header1 : Dword) (entries : ℕ → Dword) : Machine where
  configSpace := bytesOf fun i =>
    if i = 0x204 / 4 then header1
    else if i = 0x208 / 4 then 0x8
    else if i = 0x10 / 4 then 0x80000000
    else if 0x20C / 4 ≤ i then entries (i - 0x20C / 4)
    else 0
  devMem := some 5
  mmap := fun a => if a = 0x80001000 then some 0x1000 else none
  memory := bytesOf fun i =>
    if i = 0x1000 / 4 then 0x01110001 else if i = 0x1004 / 4 then 0x10020007 else 0

def blankRegs : MemcacheRegs := ⟨0, none, [], none, 0⟩

/-- One entry. -/
def singleEntry : Machine := machineWith 0x01401E98 fun i => if i = 0 then 0x100 else 0

theorem meets_singleEntry : ∃ o,
    cxlInitMemcacheRegBlock singleEntry [⟨0x200, 8⟩] blankRegs = some o ∧
      Meets singleEntry [⟨0x200, 8⟩] o := by
  have hentry : (examine singleEntry (regBlockOffsets singleEntry [⟨0x200, 8⟩])).entry =
      some 0x20C := by decide +kernel
  have hfound : ∀ {entry}, Finds singleEntry [⟨0x200, 8⟩] entry → entry = 0x20C := by
    intro entry hfinds
    rw [Finds, hentry] at hfinds
    exact (Option.some.inj hfinds).symm
  refine (meets_iff_regular singleEntry [⟨0x200, 8⟩] blankRegs).mpr
    ⟨?_, Or.inl (by decide +kernel), ?_, ?_, ?_⟩
  · intro dvsec hdvsec
    obtain rfl : (⟨0x200, 8⟩ : Dvsec) = dvsec := Option.some.inj hdvsec
    decide +kernel
  · intro entry hfinds
    rw [hfound hfinds]
    decide +kernel
  · intro entry hfinds _
    rw [hfound hfinds]
    exact ⟨by decide +kernel, by decide +kernel⟩
  · intro entry ptr hfinds _ hptr
    have hmapped : singleEntry.mmap (physicalAddress singleEntry 0x20C) = some 0x1000 := by
      decide +kernel
    rw [hfound hfinds, hmapped] at hptr
    obtain rfl : (0x1000 : ℕ) = ptr := Option.some.inj hptr
    have hknown : (capXxxHeaders singleEntry 0x1000
        (arraySize.get (singleEntry.read32 0x1000))).all (capId.get · < capabilityIdNum) = true :=
      by decide +kernel
    exact ⟨by decide +kernel, by decide +kernel, by decide +kernel,
      fun header hmem => of_decide_eq_true (List.all_eq_true.mp hknown header hmem),
      by decide +kernel⟩

/-- Three entries, the last one of which is of the component registers. -/
def thirdEntry : Machine := machineWith 0x02401E98 fun i =>
  if i = 0 then 0x200 else if i = 2 then 0x300 else if i = 4 then 0x100 else 0

/-- The loop passes over the third entry. -/
theorem not_meets_thirdEntry : ∃ o,
    cxlInitMemcacheRegBlock thirdEntry [⟨0x200, 8⟩] blankRegs = some o ∧
      ¬Meets thirdEntry [⟨0x200, 8⟩] o := by
  have hrun : (cxlInitMemcacheRegBlock thirdEntry [⟨0x200, 8⟩] blankRegs).any (!·.ret) := by
    decide +kernel
  obtain ⟨o, ho, hret⟩ := (Option.any_eq_true _ _).mp hrun
  refine ⟨o, ho, fun hmeets => ?_⟩
  have hentry : (examine thirdEntry (regBlockOffsets thirdEntry [⟨0x200, 8⟩])).entry =
      some 0x21C := by decide +kernel
  have hprovides : Provides thirdEntry [⟨0x200, 8⟩] 0x1000 0x10020007 :=
    ⟨0x21C, hentry, by decide, by decide +kernel, by decide +kernel⟩
  rw [hmeets.complete _ _ hprovides] at hret
  cases hret

end TeeIoValidator.CxlMemcache
