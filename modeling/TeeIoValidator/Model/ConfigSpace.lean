import TeeIoValidator.Library.Chain
import TeeIoValidator.Library.Tracked
import TeeIoValidator.Model.Register

/-! The capability chains of a configuration space and the functions that walk them. -/

namespace TeeIoValidator

/-- The bytes of a configuration space. Those from `PCIE_CONFIG_SPACE_SIZE` on are not in it:
they are what a read that is cut short leaves in the variable. -/
abbrev ConfigSpace := ℕ → BitVec 8

namespace ConfigSpace

def pcieConfigSpaceSize : ℕ := 0x1000
def pcieExtCapStart : ℕ := 0x100

def devicePciRead16 (cfg : ConfigSpace) (off : ℕ) : BitVec 16 :=
  cfg (off + 1) ++ cfg off

def devicePciRead32 (cfg : ConfigSpace) (off : ℕ) : Dword :=
  cfg (off + 3) ++ cfg (off + 2) ++ cfg (off + 1) ++ cfg off

/-! ## Headers -/

/-- The fields of a capability's header, and where its chain ends. -/
structure HeaderFormat where
  id : Field
  nextCapOffset : Field
  limit : ℕ

/-- `PCIE_CAP_LIST`. -/
def pcieCapList : HeaderFormat where
  id := ⟨0, 8, by decide⟩
  nextCapOffset := ⟨8, 8, by decide⟩
  limit := pcieExtCapStart

/-- `PCIE_CAP_ID`. -/
def pcieCapId : HeaderFormat where
  id := ⟨0, 16, by decide⟩
  nextCapOffset := ⟨20, 12, by decide⟩
  limit := pcieConfigSpaceSize

section Walks

variable (format : HeaderFormat) (cfg : ConfigSpace)

def HeaderFormat.next (walker : ℕ) : ℕ := format.nextCapOffset.get (devicePciRead32 cfg walker)

def HeaderFormat.HasId (capId walker : ℕ) : Prop :=
  format.id.get (devicePciRead32 cfg walker) = capId

instance (capId walker : ℕ) : Decidable (format.HasId cfg capId walker) :=
  inferInstanceAs (Decidable (_ = _))

/-- The loops go on while the walker is below the limit and not zero. -/
def HeaderFormat.Stop (walker : ℕ) : Prop := ¬(walker < format.limit ∧ walker ≠ 0)

instance (walker : ℕ) : Decidable (format.Stop walker) := inferInstanceAs (Decidable (¬_))

/-! ## The first capability with an id -/

/-- A round of the loop of `get_cap_offset` and `get_extended_cap_offset`. -/
def searchLook (capId walker : ℕ) : Option ℕ × Reads :=
  (if format.HasId cfg capId walker then some walker else none, [(walker, 4)])

/-- The offset is zero when the loop is not left earlier. -/
def search (capId start : ℕ) (reads : Reads) (fuel : ℕ) : Option (ℕ × Reads) :=
  Iteration.run
    (Chain.walk (format.next cfg) format.Stop (Chain.logging (searchLook format cfg capId))
      fun reads => (0, reads))
    fuel (start, reads)

end Walks

def pcieCapabilityId : ℕ := 0x10

def getCapOffset (cfg : ConfigSpace) (capId fuel : ℕ) : Option (ℕ × Reads) :=
  let walker := (devicePciRead16 cfg 0x34 &&& 0xFF).toNat
  let reads := [(0x34, 2)]
  if capId ≠ pcieCapabilityId then some (0, reads)
  else search pcieCapList cfg capId walker reads fuel

def pciDoeExtCapabilityId : ℕ := 0x002E
def pciIdeExtCapabilityId : ℕ := 0x0030
def pciAerExtCapabilityId : ℕ := 0x0001
def pciDvsceExtCapabilityId : ℕ := 0x0023
def pciDevice3ExtCapabilityId : ℕ := 0x002F

def getExtendedCapOffset (cfg : ConfigSpace) (extId fuel : ℕ) : Option (ℕ × Reads) :=
  if extId ≠ pciDoeExtCapabilityId ∧ extId ≠ pciIdeExtCapabilityId ∧
      extId ≠ pciAerExtCapabilityId ∧ extId ≠ pciDevice3ExtCapabilityId then some (0, [])
  else search pcieCapId cfg extId pcieExtCapStart [] fuel

/-! ## All capabilities of a kind -/

/-- What a collecting loop has done so far. -/
structure Collecting (γ : Type*) where
  cells : List γ
  reads : Reads

/-- A collecting loop: what it reads of a capability, what it stores of it, and the capacity of
the array, when there is one. -/
structure Collector (γ : Type*) where
  reads : ℕ → Reads
  pick : ℕ → Option γ
  capacity : Option ℕ

/-- The result of a collecting loop, none when an assertion failed, and its reads. -/
abbrev Collected (γ : Type*) := Option (List γ) × Reads

section Collect

variable {γ : Type*} (c : Collector γ) (cfg : ConfigSpace)

/-- The assertion before a cell is written. -/
def Collector.HasRoom (cells : List γ) : Prop := ∀ capacity ∈ c.capacity, cells.length < capacity

instance (cells : List γ) : Decidable (c.HasRoom cells) :=
  inferInstanceAs (Decidable (∀ _ ∈ c.capacity, _))

def Collector.visit (walker : ℕ) (s : Collecting γ) : Except (Collected γ) (Collecting γ) :=
  let reads := s.reads ++ c.reads walker
  match c.pick walker with
  | none => .ok ⟨s.cells, reads⟩
  | some cell => if c.HasRoom s.cells then .ok ⟨s.cells ++ [cell], reads⟩ else .error (none, reads)

def Collector.collect (fuel : ℕ) : Option (Collected γ) :=
  Iteration.run
    (Chain.walk (pcieCapId.next cfg) pcieCapId.Stop c.visit fun s => (some s.cells, s.reads))
    fuel (pcieExtCapStart, ⟨[], []⟩)

end Collect

/-- The DOE capabilities, which are stored when there is an array. -/
def doeCollector (cfg : ConfigSpace) (capacity : Option ℕ) : Collector ℕ where
  reads walker := [(walker, 4)]
  pick walker := if pcieCapId.HasId cfg pciDoeExtCapabilityId walker then some walker else none
  capacity := capacity

/-- What a collecting function returns, the cells it has stored and the count. -/
structure Found (γ : Type*) where
  ret : Bool
  cells : List γ
  count : ℕ
  deriving Repr, DecidableEq

/-- `capacity` is the value of `*size` when `doe_offsets` is not null. -/
def getDoeExtendedCapOffset (cfg : ConfigSpace) (capacity : Option ℕ) (fuel : ℕ) :
    Option (Option (Found ℕ) × Reads) :=
  ((doeCollector cfg capacity).collect cfg fuel).map fun (doe, reads) =>
    (doe.map fun doe =>
      ⟨0 < doe.length, if capacity.isSome then doe else [], doe.length⟩, reads)

/-- `IDE_TEST_CXL_PCIE_DVSEC`. -/
structure Dvsec where
  offset : ℕ
  dvsecId : ℕ
  deriving Repr, DecidableEq

def dvsecVendorIdCxl : ℕ := 0x1E98

/-- `vendor_id` of `CXL_DVS_HEADER1`. -/
def vendorId : Field := ⟨0, 16, Field.fits_0_16⟩

/-- The CXL DVSECs. -/
def dvsecCollector (cfg : ConfigSpace) (capacity : ℕ) : Collector Dvsec where
  reads walker := (walker, 4) :: if pcieCapId.HasId cfg pciDvsceExtCapabilityId walker then
    [(walker, 4), (walker + 4, 4), (walker + 8, 2)] else []
  pick walker := if pcieCapId.HasId cfg pciDvsceExtCapabilityId walker ∧
      vendorId.get (devicePciRead32 cfg (walker + 4)) = dvsecVendorIdCxl then
    some ⟨walker, (devicePciRead16 cfg (walker + 8)).toNat⟩ else none
  capacity := some capacity

def cxlFindDvsecInConfigSpace (cfg : ConfigSpace) (capacity fuel : ℕ) :
    Option (Option (Found Dvsec) × Reads) :=
  ((dvsecCollector cfg capacity).collect cfg fuel).map fun (cells, reads) =>
    (cells.map fun cells => ⟨true, cells, cells.length⟩, reads)

end ConfigSpace

end TeeIoValidator
