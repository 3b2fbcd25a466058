import TeeIoValidator.Model.PcieIde.StreamPorts
import TeeIoValidator.Model.PortQuery
import TeeIoValidator.Model.Tdisp.Case

/-! The stream of a TDISP group: what its set-up writes to the registers of the two ports, and what
the cases send to the device. -/

namespace TeeIoValidator.Tdisp

open PcieIde PortQuery

/-! ## Group set-up -/

/-- What a set-up finds out about the two ports. -/
structure GroupFacts where
  upper : PortFacts
  lower : PortFacts
  doe : Bool
  keyp : Bool
  bridge : Option ConfigSpace

/-- `common_test_group_setup` after the scan, for a direct connection or one through a switch. It
does not look for the index of the lower port. -/
def commonTestGroupSetup (facts : GroupFacts) (m : Machine) : Option (Bool × Machine) :=
  match initDevPort facts.lower facts.doe m with
  | none => none
  | some (false, m) => some (false, m)
  | some (true, m) => initRootPort facts.upper facts.lower facts.keyp facts.bridge m

/-- The lower port that an answer to `QUERY` is compared with. -/
def GroupFacts.lowerPort (facts : GroupFacts) : IdePort where
  device := facts.lower.device
  function := facts.lower.func
  bus := facts.lower.bus
  segment := facts.lower.segment
  portIndex := 0

/-! ## `tdisp_test_set_ide_stream` -/

/-- What the device answers to a `QUERY` for each port index, none for an error status. -/
abbrev Numbering := BitVec 8 → Option QueryResponse

/-- What a call of `tdisp_test_set_ide_stream` finds besides the answer to its `QUERY`. -/
structure StreamCall where
  env : PcieIde.Environment
  kSet : IdeKeySet
  kcbar : Registers
  ports : Ports

/-- The stream id and the port index are constants. -/
def StreamCall.tdispTestSetIdeStream (lib : PciIdeKmLib) (numbering : Numbering)
    (rpStreamIndex : ℕ) (ks : KeySet) (call : StreamCall) : Option (Bool × State) :=
  let stream : Stream := { streamId := 0, rpStreamIndex := rpStreamIndex, portIndex := 0 }
  let ports := { call.ports with queryError := (numbering stream.portIndex).isNone }
  setupIdeStream lib call.env stream ks call.kSet .selIde ports false ⟨call.kcbar, 0, [], [], []⟩

/-- The cases with these calls: each of them sets the key set 0. -/
def Environment.withCalls (env : Environment) (lib : PciIdeKmLib) (numbering : Numbering)
    (rpStreamIndex : ℕ) (calls : ℕ → StreamCall) : Environment :=
  { env with ideStream := fun k =>
      ((calls k).tdispTestSetIdeStream lib numbering rpStreamIndex .ks0).any Prod.fst }

end TeeIoValidator.Tdisp
