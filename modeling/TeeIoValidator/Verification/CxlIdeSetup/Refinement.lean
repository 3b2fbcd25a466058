import TeeIoValidator.Model.CxlIdeSetup

/-! # The setup of a CXL IDE stream without its history -/

namespace TeeIoValidator.CxlIdeSetup

open CxlIde

variable {lib : CxlIdeKmLib} {responder : Responder} {arguments : Arguments}

/-- The two `K_SET_GO` and what lies between them, for the mode of the stream. -/
theorem goes_eq (mode : BitVec 8) (hgo : ∀ (direction : BitVec 8) (r : Run),
      cxlIdeKmKeySetGo responder.toEnvironment ⟨arguments.streamId,
          direction ||| mode ||| lib.subStreamCxl, arguments.portIndex⟩ r.state =
        ((keySetGo lib responder arguments direction r).1,
          (keySetGo lib responder arguments direction r).2.state)) (r : Run) :
    let result := match keySetGo lib responder arguments lib.directionRx r with
      | (false, r) => ((none : Option Bool), r)
      | (true, r) =>
        match keySetGo lib responder arguments lib.directionTx (startStream arguments r) with
        | (false, r) => (none, r)
        | (true, r) => (some true, r)
    (result.1.getD false, result.2.state) =
      match cxlIdeKmKeySetGo responder.toEnvironment ⟨arguments.streamId,
          lib.directionRx ||| mode ||| lib.subStreamCxl, arguments.portIndex⟩ r.state with
      | (false, s) => (false, s)
      | (true, s) =>
        let s := if arguments.keyRefresh then s
          else { s with kcbar := cxlCfgRpLinkencEnable s.kcbar true }
        let s := { s with kcbar := cxlCfgRpStartTrigger s.kcbar true }
        cxlIdeKmKeySetGo responder.toEnvironment ⟨arguments.streamId,
          lib.directionTx ||| mode ||| lib.subStreamCxl, arguments.portIndex⟩ s := by
  simp only [hgo]
  rcases keySetGo lib responder arguments lib.directionRx r with ⟨_ | _, r₁⟩
  · rfl
  have hstart : (startStream arguments r₁).state =
      { (if arguments.keyRefresh then r₁.state
          else { r₁.state with kcbar := cxlCfgRpLinkencEnable r₁.state.kcbar true }) with
        kcbar := cxlCfgRpStartTrigger (if arguments.keyRefresh then r₁.state
          else { r₁.state with kcbar := cxlCfgRpLinkencEnable r₁.state.kcbar true }).kcbar true } := by
    cases h : arguments.keyRefresh with
    | false => simp [startStream, Run.write, h]
    | true => simp [startStream, Run.write, h]
  simp only
  rw [← hstart, hgo]
  rcases keySetGo lib responder arguments lib.directionTx (startStream arguments r₁)
    with ⟨_ | _, r₂⟩
  · rfl
  · rfl

theorem programStream_eq (lib : CxlIdeKmLib) (responder : Responder) (arguments : Arguments)
    (rx tx : KeyBuffer × BitVec 8) (r : Run) :
    ((programStream lib responder arguments rx tx r).1.getD false,
      (programStream lib responder arguments rx tx r).2.state) =
    CxlIde.programStream lib responder.toEnvironment arguments.toSetup rx tx r.state := by
  have hkeyProg : ∀ (direction : BitVec 8) (key : KeyBuffer × BitVec 8) (r : Run),
      cxlIdeKmKeyProg responder.toEnvironment ⟨arguments.streamId,
          direction ||| key.2 ||| lib.subStreamCxl, arguments.portIndex, key.1⟩ r.state =
        ((keyProg lib responder arguments direction key r).1,
          (keyProg lib responder arguments direction key r).2.state) :=
    fun _ _ _ => rfl
  rw [programStream, CxlIde.programStream]
  simp only [hkeyProg]
  rcases keyProg lib responder arguments lib.directionRx rx r with ⟨_ | _, r₁⟩
  · rfl
  simp only [hkeyProg]
  rcases keyProg lib responder arguments lib.directionTx tx r₁ with ⟨_ | _, r₂⟩
  · rfl
  cases hmode : arguments.ideMode with
  | skid =>
      exact goes_eq lib.modeSkid (by simp [keySetGo, hmode]) (programRootPort lib rx.1 tx.1 r₂)
  | containment =>
      exact goes_eq lib.modeContainment (by simp [keySetGo, hmode])
        (programRootPort lib rx.1 tx.1 r₂)

/-- The state and the result are those of `cxlSetupIdeStream`, which takes an assertion as a
failure. -/
theorem setupIdeStream_eq (lib : CxlIdeKmLib) (responder : Responder) (arguments : Arguments)
    (s : State) :
    ((setupIdeStream lib responder arguments s).1.getD false,
      (setupIdeStream lib responder arguments s).2.state) =
    cxlSetupIdeStream lib responder.toEnvironment arguments.toSetup s := by
  have hgenerate : ∀ (keyGenCapable ivGenCapable : Bool) (direction : BitVec 8) (r : Run),
      cxlIdeGenerateKey lib responder.toEnvironment keyGenCapable ivGenCapable direction r.state =
        ((generateKey lib responder keyGenCapable ivGenCapable direction r).1,
          (generateKey lib responder keyGenCapable ivGenCapable direction r).2.state) :=
    fun _ _ _ _ => rfl
  rw [setupIdeStream, cxlSetupIdeStream]
  cases capabilities responder.fixedKey arguments.toSetup with
  | none => rfl
  | some capable =>
      obtain ⟨keyGenCapable, ivGenCapable⟩ := capable
      simp only [hgenerate keyGenCapable ivGenCapable lib.directionRx ⟨s, []⟩]
      rcases generateKey lib responder keyGenCapable ivGenCapable lib.directionRx ⟨s, []⟩ with
        ⟨_ | rx, r⟩
      · rfl
      simp only [hgenerate keyGenCapable ivGenCapable lib.directionTx r]
      rcases generateKey lib responder keyGenCapable ivGenCapable lib.directionTx r with
        ⟨_ | tx, r'⟩
      · rfl
      exact programStream_eq lib responder arguments rx tx r'

end TeeIoValidator.CxlIdeSetup
