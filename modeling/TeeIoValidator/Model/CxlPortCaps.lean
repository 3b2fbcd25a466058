import TeeIoValidator.Library.Tracked
import TeeIoValidator.Model.CxlIdeKm

/-! The cases of the CXL IDE category that depend on the capabilities of each port: their setup
collects one capability word for each of them in the table `m_dev_caps`, and their run looks at
the table again. -/

namespace TeeIoValidator.CxlPortCaps

open CxlIde CxlIdeTest CxlIdeKm Runner

inductive CapsCase where
  | keyProg7
  | keyProg8
  | ksetStop1
  | getKey1
  deriving Repr, DecidableEq

/-- The case among all those of the category. -/
def CapsCase.toCase : CapsCase → Case
  | .keyProg7 => .keyProg7
  | .keyProg8 => .keyProg8
  | .ksetStop1 => .ksetStop1
  | .getKey1 => .getKey1

/-- The number of entries of `m_dev_caps`, which the first two cases allocate. -/
def CapsCase.tableSize (maxPortIndex : BitVec 8) : CapsCase → ℕ
  | .keyProg7 | .keyProg8 => maxPortIndex.toNat + 1
  | .ksetStop1 | .getKey1 => 0x100

/-- The setup takes a port for one that is not capable. -/
def CapsCase.notSupported : CapsCase → BitVec 8 → Bool
  | .keyProg7, caps => !ideKeyGenerationCapable caps
  | .keyProg8, caps => !ivGenerationCapable caps
  | .ksetStop1, caps => !kSetStopCapable caps
  | .getKey1, caps => !ideKeyGenerationCapable caps || !ivGenerationCapable caps

/-- The run does not pass over a port. -/
def CapsCase.exercises : CapsCase → BitVec 8 → Bool
  | .keyProg7, caps => ideKeyGenerationCapable caps
  | .keyProg8, caps => ivGenerationCapable caps
  | .ksetStop1, caps => !!kSetStopCapable caps
  | .getKey1, caps => ideKeyGenerationCapable caps && ivGenerationCapable caps

/-- `m_dev_caps`, the action of the case's context, and the ports that the run exercised, which
the code does not keep. -/
structure CapsState where
  devCaps : Tracked (BitVec 8)
  action : Action
  exercised : List ℕ

/-- `cxl_ide_get_dev_caps`. The query finds nothing where its status is an error. -/
def cxlIdeGetDevCaps (query : ℕ → Option (BitVec 8)) :
    List ℕ → Tracked (BitVec 8) → Bool × Tracked (BitVec 8)
  | [], devCaps => (true, devCaps)
  | i :: is, devCaps =>
    match query i with
    | none => (false, devCaps)
    | some caps => cxlIdeGetDevCaps query is (devCaps.write i caps)

section CapsCase

variable (case : CapsCase) (maxPortIndex : BitVec 8) (query : ℕ → Option (BitVec 8))

def setup (s : CapsState) : Bool × CapsState :=
  match cxlIdeGetDevCaps query (ports maxPortIndex) s.devCaps with
  | (false, devCaps) => (false, { s with devCaps := devCaps })
  | (true, devCaps) =>
    let (capable, devCaps) := devCaps.scan
      (fun capable _ caps => if case.notSupported caps then capable else true)
      (ports maxPortIndex) false
    (true, { s with
      devCaps := devCaps
      action := if capable = false then .skip else s.action })

def run (s : CapsState) : CapsState :=
  let (exercised, devCaps) := s.devCaps.scan
    (fun exercised i caps => if case.exercises caps then exercised ++ [i] else exercised)
    (ports maxPortIndex) s.exercised
  { s with devCaps := devCaps, exercised := exercised }

/-- The case for the runner. -/
def testCase : TestCase CapsState where
  setup := some (setup case maxPortIndex query)
  run := some fun s => some (run case maxPortIndex s)
  teardown := none
  configCheckRequired := false

def caseContext : CaseContext CapsState where
  action s := s.action
  setAction action s := { s with action := action }

/-- What `do_run_test_case` does of the case, with the words that `m_dev_caps` held before. -/
def setupAndRun (words : ℕ → BitVec 8) : CapsState :=
  let (ret, s) := runSetup caseContext (testCase case maxPortIndex query)
    ⟨Tracked.start words, .run, []⟩
  if !ret then s else if s.action = .skip then s else run case maxPortIndex s

/-- What the run does with a port that it exercises: with the two modes in the case of
`K_SET_STOP`, of which those that cannot be enabled are passed over. -/
def portRounds (lib : CxlIdeKmMessages) (env : CxlIdeKm.Environment) : CapsCase → ℕ → List Round
  | .keyProg7, i => [⟨portInfo, [i], true,
      [(some portInfo, keyProgTx lib (keyProgIv lib (ivGenerationCapable (env.devCaps i))) i)]⟩]
  | .keyProg8, i => [⟨portInfo, [i], true,
      [" IDE_IV = 0x1", " GeneratedIV - 1", " GeneratedIV + 1"].map fun iv =>
        (some (portInfo ++ iv),
          keyProgTx lib (keyProgIv lib (ideKeyGenerationCapable (env.devCaps i))) i)⟩]
  | .ksetStop1, i => (enabledModes env i).map fun mode => ksetRound lib 0 i mode
  | .getKey1, i =>
    [⟨portInfo, [i], false, [(some portInfo, CxlIdeKm.request 0 lib.subStreamCxl i)]⟩]

/-! ## What the cases are for -/

/-- The rule by which a case is skipped, as it is documented. -/
def CapsCase.skips : CapsCase → BitVec 8 → Bool
  | .keyProg7, caps => !ideKeyGenerationCapable caps
  | .keyProg8, caps => !ivGenerationCapable caps
  | .ksetStop1, caps => !kSetStopCapable caps
  | .getKey1, caps => !ivGenerationCapable caps && !ideKeyGenerationCapable caps

/-- The ports that do not meet the rule, given their capabilities. -/
def qualifying (caps : ℕ → BitVec 8) : List ℕ :=
  (ports maxPortIndex).filter fun i => !case.skips (caps i)

/-- The ports that do not meet the rule are exercised in order, each once, the case is skipped
when there is none, and the table is not accessed past its end. -/
structure Meets (caps words : ℕ → BitVec 8) : Prop where
  exercised : (setupAndRun case maxPortIndex (fun i => some (caps i)) words).exercised =
    qualifying case maxPortIndex caps
  skipped : (setupAndRun case maxPortIndex (fun i => some (caps i)) words).action = .skip ↔
    qualifying case maxPortIndex caps = []
  within : (setupAndRun case maxPortIndex (fun i => some (caps i)) words).devCaps.Within
    (case.tableSize maxPortIndex)

end CapsCase

end TeeIoValidator.CxlPortCaps
