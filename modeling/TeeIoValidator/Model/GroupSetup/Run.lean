import TeeIoValidator.Model.GroupSetup.Cxl
import TeeIoValidator.Model.GroupSetup.Pcie

/-! Groups that run one after the other. -/

namespace TeeIoValidator.GroupSetup

/-- A group: what its set-up and its teardown meet. -/
inductive Group where
  | pcie (env : Pcie.Env) (closing : Pcie.Closing)
  | cxl (env : Cxl.Env) (stopped : Bool)

def Group.setup : Group → Fallible World
  | .pcie env _ => Pcie.commonTestGroupSetup env
  | .cxl env _ => Cxl.commonTestGroupSetup env

def Group.teardown : Group → World → Option World
  | .pcie env closing => Pcie.commonTestGroupTeardown env closing
  | .cxl env stopped => Cxl.commonTestGroupTeardown env stopped

/-- `do_run_test_group`, of a group that has test cases: what it holds does not change while they
run. The teardown is called when the set-up succeeded. -/
def doRunTestGroup (group : Group) (p : Process) : Option Process :=
  match group.setup (.fresh p) with
  | none => none
  | some (false, w) => some w.process
  | some (true, w) => (group.teardown w).map World.process

/-- The groups of a run, none when the program stops. -/
def runGroups : List Group → Process → Option Process
  | [], p => some p
  | group :: groups, p => (doRunTestGroup group p).bind (runGroups groups)

end TeeIoValidator.GroupSetup
