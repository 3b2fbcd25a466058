import TeeIoValidator.Library.History
import TeeIoValidator.Model.CxlIdeSetup
import TeeIoValidator.Verification.CxlIde

/-! # The order of the steps that set up a CXL IDE stream

The setup looks at the transport status of a message only, not at the status in the
acknowledgement of a `KEY_PROG`.
-/

namespace TeeIoValidator.CxlIdeSetup

open CxlIde History

variable (lib : CxlIdeKmLib) (success : BitVec 8)

/-- A step that is refused or fails; `success` is the status `SUCCESS` of an acknowledgement. -/
def Action.Failed : Action → Prop
  | .getKey response => response = none
  | .randomNumber key => key = none
  | .keyProg _ _ succeeded kpAckStatus => ¬(succeeded = true ∧ kpAckStatus = success)
  | .keySetGo _ _ succeeded => succeeded = false
  | _ => False

def Acknowledged (direction : BitVec 8) (actions : List Action) : Prop :=
  ∃ message, .keyProg direction message true success ∈ actions

/-- The device acknowledged the key of a direction, and the root port has it. -/
def Ready (direction : BitVec 8) (actions : List Action) : Prop :=
  ∃ message, .keyProg direction message true success ∈ actions ∧
    .linkEncKeyIv direction message.keyBuffer ∈ actions

/-- What comes before a `K_SET_GO`. -/
structure GoAllowed (direction : BitVec 8) (before : List Action) : Prop where
  rx : Ready success lib.directionRx before
  tx : Ready success lib.directionTx before
  valid : ∀ d, d = cxlIdeStreamDirectionRx ∨ d = cxlIdeStreamDirectionTx → .keyValid d ∈ before
  order : direction = lib.directionRx ∧ (∀ d m b, .keySetGo d m b ∉ before) ∨
    direction = lib.directionTx ∧ ∃ first m rest,
      before = first ++ .keySetGo lib.directionRx m true :: rest ∧ .startTrigger ∈ rest

/-- What a setup has to do, by its result and its actions. -/
structure Correct (arguments : Arguments) (result : Option Bool × Run) : Prop where
  acknowledged : result.1 = some true →
    Acknowledged success lib.directionRx result.2.actions ∧
      Acknowledged success lib.directionTx result.2.actions
  ordered : Each (fun before a => ∀ d m b, a = .keySetGo d m b → GoAllowed lib success d before)
    result.2.actions
  skipped : arguments.skipKsetgo = true → ∀ d m b, .keySetGo d m b ∉ result.2.actions
  stops : Stops (Action.Failed success) result.2.actions
  refused : (∃ a ∈ result.2.actions, a.Failed success) → result.1 = some false

section Conditions

variable (responder : Responder) (arguments : Arguments) (s : State)

/-- Both keys are generated, by the host, the device or as fixed keys. -/
def KeysGenerated : Prop :=
  ∃ keyGenCapable ivGenCapable,
    capabilities responder.fixedKey arguments.toSetup = some (keyGenCapable, ivGenCapable) ∧
    (responder.fixedKey = true ∨ responder.random s.randoms ≠ none ∧
      ((keyGenCapable || ivGenCapable) = true → responder.getKey s.getKeys.length ≠ none) ∧
      (keyGenCapable = false → responder.random (s.randoms + 1) ≠ none))

/-- The device takes both keys and both `K_SET_GO`, which are wanted. -/
structure Accepted : Prop where
  wanted : arguments.skipKsetgo = false
  keyProgs : ∀ n < 2, responder.keyProgError (s.keyProgs.length + n) = false ∧
    responder.kpAckStatus (s.keyProgs.length + n) = success
  keySetGos : ∀ n < 2, responder.keySetGoError (s.keySetGos.length + n) = false

end Conditions

variable {lib success} {responder : Responder} {arguments : Arguments}

end TeeIoValidator.CxlIdeSetup
