import TeeIoValidator.Model.Assertion
import TeeIoValidator.Model.Stopping
import TeeIoValidator.Model.PcieIde.KeyManagement

/-! The two ports of a PCIe IDE stream, as test configurations and test cases use them. -/

namespace TeeIoValidator.PcieIdeTest

open PcieIde Runner

/-- The constants of the PCIe IDE_KM library that the test cases use. The two kinds of
acknowledgement have the same size. -/
structure PciIdeKmTestLib extends PciIdeKmLib where
  kpAckSize : ℕ
  keySetMask : BitVec 8
  directionMask : BitVec 8
  subStreamMask : BitVec 8
  kpAckSize_eq : kpAckSize = kGostopAckSize

/-- The `IDE_TEST_CONFIGURATION_TYPE`s that have functions. -/
inductive ConfigurationType where
  | default
  | pcrc
  | selectiveIdeForConfig
  | flitModeDisable
  deriving Repr, DecidableEq

/-- The device and the user in the run of a case: what the support functions read, whether
`ft_supported` is set in the switches on the way, whether the flit mode is changed; by the
number of the call, whether `QUERY` fails, whether the two ports report a secure stream, the
answers to `K_SET_STOP`, the error statuses, and what happens while slots are awaited; and
the keys typed, true for the one that quits. -/
structure Environment extends PcieIde.Environment where
  configSupported : ConfigurationType → Bool
  ftSupportedSet : Bool
  flitModeSet : Bool → Bool
  queryError : ℕ → Bool
  upperSecure : ℕ → Bool
  lowerSecure : ℕ → Bool
  kSetStopAck : ℕ → Option KGostopAck
  kSetGoStatus : ℕ → ℕ
  kSetStopStatus : ℕ → ℕ
  retries : ℕ → List Retry
  typed : List Bool
  testRounds : ℕ
  testInterval : ℕ

/-- The state of the program, of the two ports and of the device: with `keys`, the stream
control registers of the ports, `k_set` and `mKeySet`, how often `QUERY`, the stream status
and free slots were asked for, the `K_SET_STOP` messages, the assertions of the case and the
action of its context; and two histories that the code does not keep: the registers at each
`K_SET_GO`, and whether each key refresh that was started was completed. -/
structure World where
  keys : State
  upperCtrl : Dword
  lowerCtrl : Dword
  kSet : IdeKeySet
  mKeySet : KeySet
  queries : ℕ
  statuses : ℕ
  waits : ℕ
  kSetStops : List KSetGo
  assertions : List Assertion
  action : Action
  kSetGoKcbars : List (KSetGo × Registers)
  refreshes : List Bool

def World.record (w : World) (as : List Assertion) : World :=
  { w with assertions := w.assertions ++ as }

/-- The case's result so far. -/
def World.result (w : World) : TestResult := testCaseResult w.assertions

/-! ## Stream control registers -/

def ideStreamCtrlEnable : Dword := 1

/-- Fields of `PCIE_SEL_IDE_STREAM_CTRL`. -/
def pcrcEn : Field := ⟨8, 1, Field.fits_8_1⟩
def cfgSelIde : Field := ⟨9, 1, by decide⟩
def ctrlStreamId : Field := ⟨24, 8, Field.fits_24_8⟩

def enableIdeStreamInEcap (ctrl : Dword) (enable : Bool) : Dword :=
  if enable then ctrl ||| ideStreamCtrlEnable else ctrl &&& ~~~ideStreamCtrlEnable

def isIdeEnabled (ctrl : Dword) : Bool := ctrl &&& ideStreamCtrlEnable == ideStreamCtrlEnable

def World.setKcbar (w : World) (kcbar : Registers) : World :=
  { w with keys := { w.keys with kcbar := kcbar } }

def enableRootportIdeStream (stream : Stream) (enable : Bool) (w : World) : World :=
  let w := w.setKcbar (enableIdeStreamInKcbar w.keys.kcbar stream.rpStreamIndex enable)
  { w with upperCtrl := enableIdeStreamInEcap w.upperCtrl enable }

/-- The stream in the device, then in the root port. -/
def enableStream (stream : Stream) (enable : Bool) (w : World) : World :=
  enableRootportIdeStream stream enable
    { w with lowerCtrl := enableIdeStreamInEcap w.lowerCtrl enable }

/-- `is_ide_stream_secure`: both ports are asked for their status. -/
def isIdeStreamSecure (env : Environment) (w : World) : Bool × World :=
  (env.upperSecure w.statuses && env.lowerSecure w.statuses,
    { w with statuses := w.statuses + 1 })

/-- `read_stream_status_in_rp_ecap` for the root port alone. -/
def isUpperPortSecure (env : Environment) (w : World) : Bool × World :=
  (env.upperSecure w.statuses, { w with statuses := w.statuses + 1 })

/-! ## Test configurations -/

/-- `m_config_funcs`: the functions for selective and link IDE together are not implemented,
and those for configuration requests are there for selective IDE only. -/
def implemented : TopologyType → ConfigurationType → Bool
  | .selIde, _ => true
  | .linkIde, .selectiveIdeForConfig => false
  | .linkIde, _ => true
  | .selLinkIde, _ => false

/-- `reset_ide_registers` leaves the stream id in the control register. -/
def resetStreamCtrl (stream : Stream) : Dword := ctrlStreamId.set 0 stream.streamId.toNat

def resetUpperPort (stream : Stream) (w : World) : World :=
  let w := w.setKcbar
    (initializeKcbarRegisters w.keys.kcbar stream.streamId stream.rpStreamIndex)
  { w with upperCtrl := resetStreamCtrl stream }

def resetLowerPort (stream : Stream) (w : World) : World :=
  { w with lowerCtrl := resetStreamCtrl stream }

/-- `set_pcrc_in_ecap` and `set_sel_ide_for_cfg_req_in_ecap` for both ports. -/
def setInBothPorts (field : Field) (enable : Bool) (w : World) : World :=
  { w with
    upperCtrl := field.set w.upperCtrl enable.toNat
    lowerCtrl := field.set w.lowerCtrl enable.toNat }

def testConfigFlitModeDisable (env : Environment) (stream : Stream) (isEnable : Bool)
    (w : World) : Bool × World :=
  if env.flitModeSet isEnable then (true, resetLowerPort stream w) else (false, w)

def configSupport (env : Environment) : ConfigurationType → World → Bool × World
  | .pcrc, w => (true, w)
  | type, w => (env.configSupported type, w)

def configEnable (env : Environment) (stream : Stream) : ConfigurationType → World → Bool × World
  | .default, w =>
    if env.ftSupportedSet then (true, resetLowerPort stream (resetUpperPort stream w))
    else (false, w)
  | .pcrc, w => (true, setInBothPorts pcrcEn true w)
  | .selectiveIdeForConfig, w => (true, setInBothPorts cfgSelIde true w)
  | .flitModeDisable, w => testConfigFlitModeDisable env stream true w

def configDisable (env : Environment) (stream : Stream) :
    ConfigurationType → World → Bool × World
  | .default, w => (true, w)
  | .pcrc, w => (true, setInBothPorts pcrcEn false w)
  | .selectiveIdeForConfig, w => (true, setInBothPorts cfgSelIde false w)
  | .flitModeDisable, w => testConfigFlitModeDisable env stream false w

def configCheck (env : Environment) : ConfigurationType → World → Bool × World
  | .default, w => isIdeStreamSecure env w
  | .selectiveIdeForConfig, w =>
    (cfgSelIde.get w.upperCtrl == 1 && cfgSelIde.get w.lowerCtrl != 0, w)
  | _, w => (true, w)

def configFunctions (env : Environment) (stream : Stream) (topType : TopologyType) :
    ConfigFunctions ConfigurationType World where
  implemented := implemented topType
  support := configSupport env
  enable := configEnable env stream
  disable := configDisable env stream
  check := configCheck env

end TeeIoValidator.PcieIdeTest
