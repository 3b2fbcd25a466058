import Mathlib.Data.BitVec
import Mathlib.Data.Nat.Basic

/-! The runner of a test case. `σ` is the state of the program and of the devices. -/

namespace TeeIoValidator.Runner

inductive Action where
  | run
  | skip
  deriving Repr, DecidableEq

variable {σ : Type*}

/-- The functions of a config item; each returns whether it succeeded. -/
structure ConfigItem (σ : Type*) where
  support : σ → Bool × σ
  enable : σ → Bool × σ
  disable : σ → Bool × σ
  check : σ → Bool × σ

/-- A test case; its run function may fail to return. -/
structure TestCase (σ : Type*) where
  setup : Option (σ → Bool × σ)
  run : Option (σ → Option σ)
  teardown : Option (σ → σ)
  configCheckRequired : Bool

/-- Access to the `action` field of the case's context. -/
structure CaseContext (σ : Type*) where
  action : σ → Action
  setAction : Action → σ → σ

/-- `do_run_test_config_support` and its three siblings, which differ in the function they
call. The list of items is never empty. -/
def doRunTestConfig (func : ConfigItem σ → σ → Bool × σ) : List (ConfigItem σ) → σ → Bool × σ
  | [], s => (false, s)
  | item :: items, s =>
    let (ret, s) := func item s
    if ret && !items.isEmpty then doRunTestConfig func items s else (ret, s)

/-- The code from the label `TestCaseDone` on. -/
def testCaseDone (case : TestCase σ) (config : List (ConfigItem σ)) (s : σ) : Bool × σ :=
  let s := match case.teardown with
    | some teardown => teardown s
    | none => s
  let (_, s) := doRunTestConfig ConfigItem.disable config s
  (true, s)

/-- The setup function, when there is one; a failure skips the case from now on. -/
def runSetup (ctx : CaseContext σ) (case : TestCase σ) (s : σ) : Bool × σ :=
  match case.setup with
  | some setup =>
    let (ret, s) := setup s
    if !ret then (false, ctx.setAction .skip s) else (true, s)
  | none => (true, s)

def doRunTestCase (ctx : CaseContext σ) (case : TestCase σ) (config : List (ConfigItem σ))
    (s : σ) : Option (Bool × σ) :=
  if ctx.action s = .skip then some (true, s)
  else
    let (supported, s) := doRunTestConfig ConfigItem.support config s
    if !supported then some (true, s)
    else
      let (enabled, s) := doRunTestConfig ConfigItem.enable config s
      if !enabled then some (true, s)
      else
        let (ret, s) := runSetup ctx case s
        if !ret then some (testCaseDone case config s)
        else if ctx.action s = .skip then some (testCaseDone case config s)
        else
          let ran := match case.run with
            | some run => run s
            | none => some s
          match ran with
          | none => none
          | some s =>
            let s := if case.configCheckRequired then
              (doRunTestConfig ConfigItem.check config s).2 else s
            some (testCaseDone case config s)

end TeeIoValidator.Runner
