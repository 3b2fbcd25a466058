import TeeIoValidator.Model.ConfigSpace

/-! The choice of the DOE instance that the SPDM messages are sent through. -/

namespace TeeIoValidator.DoeDiscovery

/-- `pci_doe_data_object_protocol_t`. -/
structure Protocol where
  vendorId : BitVec 16
  dataObjectType : BitVec 8
  deriving Repr, DecidableEq

def vendorIdPcisig : BitVec 16 := 0x0001
def typeDoeDiscovery : BitVec 8 := 0x00
def typeSpdm : BitVec 8 := 0x01
def typeSecuredSpdm : BitVec 8 := 0x02

/-- An instance in the order of the capability chain: its capability's header, its status once it
was told to abort, and what `pci_doe_discovery` gives for an array of six protocols, by the version
that it is called with; none is an error. -/
structure Mailbox where
  offset : ℕ
  ecapId : Dword
  status : Dword
  discovery : BitVec 8 → Option (List Protocol)

/-- `version` of `PCIE_CAP_ID`. -/
def ecapVersion : Field := ⟨16, 4, Field.fits_16_4⟩

def pcieDoeEcapVersion2 : ℕ := 2
def pcieDoeDiscoveryVersion2 : BitVec 8 := 2

def Mailbox.version (mailbox : Mailbox) : ℕ := ecapVersion.get mailbox.ecapId

/-- `is_doe_error_asserted`. -/
def Mailbox.isDoeErrorAsserted (mailbox : Mailbox) : Bool := mailbox.status &&& 0x4 ≠ 0

/-- `m_pci_doe_data_object_type`. -/
def pciDoeDataObjectType : List (BitVec 8) := [typeDoeDiscovery, typeSpdm, typeSecuredSpdm]

/-- The loop of `pcie_doe_init_request` over the types that must be supported. -/
def findTypes (protocols : List Protocol) : List (BitVec 8) → Bool → Bool
  | [], found => found
  | type :: types, _ =>
    let found := protocols.any (·.dataObjectType = type)
    if !found then found else findTypes protocols types found

/-- `pcie_doe_init_request`. -/
def pcieDoeInitRequest (mailbox : Mailbox) (doeDiscoveryVersion : BitVec 8) : Bool :=
  match mailbox.discovery doeDiscoveryVersion with
  | none => false
  | some protocols => findTypes protocols pciDoeDataObjectType false

/-- What `init_pci_doe` returns, the instance that `g_doe_extended_offset` is of then, and the
instances that were probed with the versions, which the code does not keep. -/
structure Outcome where
  ret : Bool
  current : Option Mailbox
  probes : List (Mailbox × BitVec 8)

/-- The loop of `init_pci_doe`. -/
def probeFrom (current : Option Mailbox) : List Mailbox → BitVec 8 → Outcome
  | [], _ => ⟨false, current, []⟩
  | mailbox :: mailboxes, version =>
    let version := if pcieDoeEcapVersion2 ≤ mailbox.version then pcieDoeDiscoveryVersion2
      else version
    if mailbox.isDoeErrorAsserted then probeFrom (some mailbox) mailboxes version
    else if pcieDoeInitRequest mailbox version then ⟨true, some mailbox, [(mailbox, version)]⟩
    else
      let rest := probeFrom (some mailbox) mailboxes version
      { rest with probes := (mailbox, version) :: rest.probes }

/-- `init_pci_doe`, of the instances that `get_doe_extended_cap_offset` finds; it fails when there
are none. -/
def initPciDoe (mailboxes : List Mailbox) : Outcome :=
  if mailboxes = [] then ⟨false, none, []⟩ else probeFrom none mailboxes 0

/-! ## What is to be chosen -/

/-- The version that an instance is to be probed with. -/
def Mailbox.ownVersion (mailbox : Mailbox) : BitVec 8 :=
  if pcieDoeEcapVersion2 ≤ mailbox.version then pcieDoeDiscoveryVersion2 else 0

/-- Whether an instance is not in error and answers with both SPDM types of the PCI-SIG. -/
def Mailbox.offersSpdm (mailbox : Mailbox) : Bool :=
  !mailbox.isDoeErrorAsserted && (mailbox.discovery mailbox.ownVersion).any fun protocols =>
    protocols.contains ⟨vendorIdPcisig, typeSpdm⟩ &&
      protocols.contains ⟨vendorIdPcisig, typeSecuredSpdm⟩

/-- The probes up to the first such instance. -/
def ownProbes : List Mailbox → List (Mailbox × BitVec 8)
  | [] => []
  | mailbox :: mailboxes =>
    if mailbox.isDoeErrorAsserted then ownProbes mailboxes
    else if mailbox.offersSpdm then [(mailbox, mailbox.ownVersion)]
    else (mailbox, mailbox.ownVersion) :: ownProbes mailboxes

end TeeIoValidator.DoeDiscovery
