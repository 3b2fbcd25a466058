import TeeIoValidator.Model.Runner

/-! Test cases of a program that an assertion can stop. `ω` is the state while it runs. -/

namespace TeeIoValidator.Runner

variable {ω τ : Type*}

/-- A function of the program, which runs until an assertion stops it; a program that is
stopped does nothing any more. -/
def running (func : ω → Option (Bool × ω)) : Option ω → Bool × Option ω
  | none => (false, none)
  | some w =>
    match func w with
    | none => (false, none)
    | some (ret, w) => (ret, some w)

/-- The table of the functions of a category's configurations. One that is not implemented
stops the program. -/
structure ConfigFunctions (τ ω : Type*) where
  implemented : τ → Bool
  support : τ → ω → Bool × ω
  enable : τ → ω → Bool × ω
  disable : τ → ω → Bool × ω
  check : τ → ω → Bool × ω

def ConfigFunctions.func (table : ConfigFunctions τ ω) (f : τ → ω → Bool × ω) (type : τ) :
    Option ω → Bool × Option ω :=
  running fun w => if table.implemented type then some (f type w) else none

def ConfigFunctions.item (table : ConfigFunctions τ ω) (type : τ) : ConfigItem (Option ω) where
  support := table.func table.support type
  enable := table.func table.enable type
  disable := table.func table.disable type
  check := table.func table.check type

/-- The functions of a case, each of which returns if no assertion stops it. -/
structure CaseFunctions (ω : Type*) where
  setup : ω → Option (Bool × ω)
  run : ω → Option ω
  teardown : ω → Option ω
  configCheckRequired : Bool

def CaseFunctions.testCase (case : CaseFunctions ω) : TestCase (Option ω) where
  setup := some (running case.setup)
  run := some fun s => some (s.bind case.run)
  teardown := some fun s => s.bind case.teardown
  configCheckRequired := case.configCheckRequired

/-- A program that is stopped looks at no action any more. -/
def CaseContext.stopping (ctx : CaseContext ω) : CaseContext (Option ω) where
  action s := s.elim .skip ctx.action
  setAction action s := s.map (ctx.setAction action)

/-- `do_run_test_case`: the state in which it returns, when it does. -/
def CaseFunctions.doRun (case : CaseFunctions ω) (ctx : CaseContext ω)
    (table : ConfigFunctions τ ω) (types : List τ) (w : ω) : Option ω :=
  match doRunTestCase ctx.stopping case.testCase (types.map table.item) (some w) with
  | none => none
  | some (_, s) => s

end TeeIoValidator.Runner
