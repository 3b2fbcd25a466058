import TeeIoValidator.Model.PcieIdeTest.Case
import TeeIoValidator.Verification.PcieIde.Answers
import TeeIoValidator.Verification.PcieIde.Keys
import TeeIoValidator.Verification.PcieIde.Registers

/-! # Streams with their ports

The functions with the ports do to the root port what the ones without them do. The registers
kept at each `K_SET_GO` say which key set the root port sends with.
-/

namespace TeeIoValidator.PcieIdeTest

open PcieIde

variable {lib : PciIdeKmTestLib} {env : Environment} {stream : Stream}
  {topType : TopologyType} {ks : KeySet} {w : World}

theorem kSetGoMessage_injective {ks ks' : KeySet} {direction direction' : Direction}
    {substream substream' : SubStream}
    (h : kSetGoMessage lib.toPciIdeKmLib stream ks direction substream =
      kSetGoMessage lib.toPciIdeKmLib stream ks' direction' substream') :
    ks = ks' ∧ direction = direction' ∧ substream = substream' :=
  lib.composed_injective _ _ _ _ _ _ (congrArg KSetGo.keySubStream h)

/-! ## Stream control registers -/

theorem isIdeEnabled_eq (ctrl : Dword) : isIdeEnabled ctrl = ctrl.getLsbD 0 := by
  change (ctrl &&& 1#32 == 1#32) = _
  rw [BitVec.and_one_eq_setWidth_ofBool_getLsbD]
  cases ctrl.getLsbD 0 <;> rfl

theorem isIdeEnabled_enableIdeStreamInEcap (ctrl : Dword) (enable : Bool) :
    isIdeEnabled (enableIdeStreamInEcap ctrl enable) = enable := by
  rw [isIdeEnabled_eq, enableIdeStreamInEcap, ideStreamCtrlEnable]
  cases enable <;> simp

/-- A field above the enable bit. -/
theorem isIdeEnabled_set {field : Field} (h : 0 < field.lsb) (ctrl : Dword) (value : ℕ) :
    isIdeEnabled (field.set ctrl value) = isIdeEnabled ctrl := by
  rw [isIdeEnabled_eq, isIdeEnabled_eq,
    field.getLsbD_set_of_not_mem ctrl value (by decide) (Or.inl h)]

theorem isIdeEnabled_resetStreamCtrl (stream : Stream) :
    isIdeEnabled (resetStreamCtrl stream) = false := by
  rw [resetStreamCtrl, isIdeEnabled_set (by decide)]
  rfl

/-! ## `K_SET_GO` -/

/-- Where the registers of an entry are kept for a message to send to, the root port sends with
the key set of the message. -/
def Selects (lib : PciIdeKmTestLib) (stream : Stream) (ks : KeySet)
    (entry : KSetGo × Registers) : Prop :=
  ∀ substream, entry.1 = kSetGoRequest lib stream ks .tx substream →
    selectedKeySet entry.2 stream.rpStreamIndex = some ks

theorem ideKmKeySetGo_eq (request : KSetGo) (w : World) :
    ideKmKeySetGo lib env request w =
      ((PcieIde.ideKmKeySetGo lib.toPciIdeKmLib env.toEnvironment request w.keys).1,
        { w with
          keys := { w.keys with kSetGos := w.keys.kSetGos ++ [request] }
          kSetGoKcbars := w.kSetGoKcbars ++ [(request, w.keys.kcbar)] }) := by
  rw [ideKmKeySetGo, ← ideKmKeySetGo_snd lib.toPciIdeKmLib env.toEnvironment]

theorem ideKmKeySetGos_eq (lib : PciIdeKmTestLib) (env : Environment) (stream : Stream)
    (ks : KeySet) (direction : Direction) (substreams : List SubStream) (w : World) :
    ∃ log, ideKmKeySetGos lib env stream ks direction substreams w =
        ((PcieIde.ideKmKeySetGos lib.toPciIdeKmLib env.toEnvironment stream ks direction
            substreams w.keys).1,
          { w with
            keys := (PcieIde.ideKmKeySetGos lib.toPciIdeKmLib env.toEnvironment stream ks
              direction substreams w.keys).2
            kSetGoKcbars := w.kSetGoKcbars ++ log }) ∧
      ∀ entry ∈ log, entry.2 = w.keys.kcbar ∧
        ∃ substream, entry.1 = kSetGoRequest lib stream ks direction substream := by
  induction substreams generalizing w with
  | nil => exact ⟨[], by simp [ideKmKeySetGos, PcieIde.ideKmKeySetGos], by simp⟩
  | cons substream substreams ih =>
      rw [ideKmKeySetGos, PcieIde.ideKmKeySetGos, ideKmKeySetGo_eq]
      have hnumber : (⟨stream.streamId, ks.number ||| lib.directions direction |||
          lib.subStreams substream, stream.portIndex⟩ : KSetGo) =
            kSetGoRequest lib stream ks direction substream := by
        rw [kSetGoRequest, lib.keySets_eq]
      rw [hnumber]
      have hsnd := ideKmKeySetGo_snd lib.toPciIdeKmLib env.toEnvironment
        (kSetGoRequest lib stream ks direction substream) w.keys
      cases hret : PcieIde.ideKmKeySetGo lib.toPciIdeKmLib env.toEnvironment
          (kSetGoRequest lib stream ks direction substream) w.keys with
      | mk ret keys =>
          rw [hret] at hsnd
          subst hsnd
          cases ret with
          | false =>
              refine ⟨[(kSetGoRequest lib stream ks direction substream, w.keys.kcbar)], rfl, ?_⟩
              intro entry hentry
              rw [List.mem_singleton.mp hentry]
              exact ⟨rfl, substream, rfl⟩
          | true =>
              rcases ih { w with
                keys := { w.keys with
                  kSetGos := w.keys.kSetGos ++
                    [kSetGoRequest lib stream ks direction substream] }
                kSetGoKcbars := w.kSetGoKcbars ++
                  [(kSetGoRequest lib stream ks direction substream, w.keys.kcbar)] } with
                ⟨log, heq, hlog⟩
              refine ⟨(kSetGoRequest lib stream ks direction substream, w.keys.kcbar) :: log,
                ?_, ?_⟩
              · refine heq.trans ?_
                simp only [List.append_assoc, List.singleton_append]
              · intro entry hentry
                rcases List.mem_cons.mp hentry with rfl | hentry
                · exact ⟨rfl, substream, rfl⟩
                · exact hlog entry hentry

/-- The messages in both directions; those to send with are sent after the selection. -/
theorem goStream_eq (lib : PciIdeKmTestLib) (env : Environment) (stream : Stream) (ks : KeySet)
    (w : World) :
    ∃ log, goStream lib env stream ks w =
        ((PcieIde.goStream lib.toPciIdeKmLib env.toEnvironment stream ks w.keys).1,
          { w with
            keys := (PcieIde.goStream lib.toPciIdeKmLib env.toEnvironment stream ks w.keys).2
            kSetGoKcbars := w.kSetGoKcbars ++ log }) ∧
      ∀ entry ∈ log, Selects lib stream ks entry := by
  have hreceive : ∀ entry : KSetGo × Registers,
      (∃ substream, entry.1 = kSetGoRequest lib stream ks .rx substream) →
        Selects lib stream ks entry := by
    rintro entry ⟨substream, hrequest⟩ substream' hsend
    rw [hrequest] at hsend
    cases (kSetGoMessage_injective hsend).2.1
  rcases ideKmKeySetGos_eq lib env stream ks .rx
    [.pr, .npr, .cpl] w with ⟨log, heq, hlog⟩
  rw [goStream, PcieIde.goStream, heq]
  cases hret : PcieIde.ideKmKeySetGos lib.toPciIdeKmLib env.toEnvironment stream ks .rx
      [.pr, .npr, .cpl] w.keys with
  | mk ret keys =>
      cases ret with
      | false => exact ⟨log, rfl, fun entry hentry => hreceive entry (hlog entry hentry).2⟩
      | true =>
          simp only
          rcases ideKmKeySetGos_eq lib env stream ks .tx
            [.pr, .npr, .cpl] (selectKeySet stream ks
              { w with keys := keys, kSetGoKcbars := w.kSetGoKcbars ++ log }) with
            ⟨log', heq', hlog'⟩
          refine ⟨log ++ log', ?_, ?_⟩
          · rw [heq', ← List.append_assoc]
            rfl
          · intro entry hentry
            rcases List.mem_append.mp hentry with hentry | hentry
            · exact hreceive entry (hlog entry hentry).2
            · intro _ _
              rw [(hlog' entry hentry).1]
              exact setRpIdeKeySetSelect_selectedKeySet_self keys.kcbar

/-! ## Setup and key switch -/

/-- What a call finds outside the root port's KCBar. -/
def World.ports (env : Environment) (w : World) : Ports where
  queryError := env.queryError w.queries
  upperEnabled := isIdeEnabled w.upperCtrl
  lowerEnabled := isIdeEnabled w.lowerCtrl
  upperSecure := env.upperSecure w.statuses
  lowerSecure := env.lowerSecure w.statuses

theorem setupIdeStream_keys (skipKsetgo : Bool) (w : World) :
    (setupIdeStream lib env stream topType ks skipKsetgo w).map (fun r => (r.1, r.2.keys)) =
      PcieIde.setupIdeStream lib.toPciIdeKmLib env.toEnvironment stream ks w.kSet topType
        (w.ports env) skipKsetgo w.keys := by
  rw [setupIdeStream, PcieIde.setupIdeStream, pciIdeKmQuery, World.ports]
  cases env.queryError w.queries with
  | true => rfl
  | false =>
      simp only [programStream, Bool.not_false, Bool.false_eq_true, if_false]
      rcases PcieIde.programStream lib.toPciIdeKmLib env.toEnvironment stream ks w.kSet w.keys with
        ⟨ret, keys⟩
      cases ret with
      | false => rfl
      | true =>
          cases skipKsetgo with
          | true => rfl
          | false =>
              rcases goStream_eq lib env stream ks
                { w with keys := keys, queries := w.queries + 1 } with ⟨log, heq, -⟩
              simp only [heq, Bool.false_eq_true, if_false, startIdeStream]
              rcases PcieIde.goStream lib.toPciIdeKmLib env.toEnvironment stream ks keys with
                ⟨ret, keys'⟩
              cases ret with
              | false => rfl
              | true =>
                  by_cases htop : topType = .selLinkIde
                  · simp [htop]
                  · simp only [htop, if_false]
                    rfl

theorem ideKeySwitchTo_keys (skipKsetgo : Bool) (w : World) :
    (ideKeySwitchTo lib env stream topType ks skipKsetgo w).map
        (fun r => (r.1, r.2.kSet, r.2.keys)) =
      PcieIde.ideKeySwitchTo lib.toPciIdeKmLib env.toEnvironment stream w.kSet topType
        (w.ports env) (env.retries w.waits) ks skipKsetgo w.keys := by
  rw [ideKeySwitchTo, PcieIde.ideKeySwitchTo, World.ports]
  by_cases htop : topType = .selLinkIde
  · simp [htop]
  · simp only [htop, if_false]
    cases isIdeEnabled w.upperCtrl with
    | false => rfl
    | true =>
        cases isIdeEnabled w.lowerCtrl with
        | false => rfl
        | true =>
            simp only [Bool.not_true, Bool.false_eq_true, if_false]
            rcases waitForSlots (env.retries w.waits) w.keys with _ | ⟨_ | kSet, keys⟩
            · rfl
            · rfl
            · simp only [programStream]
              rcases PcieIde.programStream lib.toPciIdeKmLib env.toEnvironment stream ks kSet
                keys with ⟨ret, keys'⟩
              cases ret with
              | false => rfl
              | true =>
                  cases skipKsetgo with
                  | true => rfl
                  | false =>
                      rcases goStream_eq lib env stream ks
                        { w with keys := keys', kSet := kSet, waits := w.waits + 1 } with
                        ⟨log, heq, -⟩
                      simp only [heq, Bool.false_eq_true, if_false]
                      rcases PcieIde.goStream lib.toPciIdeKmLib env.toEnvironment stream ks
                        keys' with ⟨ret, keys''⟩
                      cases ret <;> rfl

/-! ## Which answers open and switch a stream -/

/-- What a step leaves of the case as it is. -/
structure SameCase (w w' : World) : Prop where
  assertions : w'.assertions = w.assertions
  action : w'.action = w.action
  refreshes : w'.refreshes = w.refreshes

theorem SameCase.refl (w : World) : SameCase w w := ⟨rfl, rfl, rfl⟩

theorem SameCase.trans {w w' w'' : World} (h : SameCase w w') (h' : SameCase w' w'') :
    SameCase w w'' where
  assertions := h'.assertions.trans h.assertions
  action := h'.action.trans h.action
  refreshes := h'.refreshes.trans h.refreshes

/-- Both ports report a secure stream when they are asked next. -/
def World.secure (env : Environment) (w : World) : Bool :=
  env.upperSecure w.statuses && env.lowerSecure w.statuses

/-- The device takes what it is sent before a stream is enabled. -/
structure Opened (lib : PciIdeKmTestLib) (env : Environment) (stream : Stream) (ks : KeySet)
    (w : World) : Prop where
  query : env.queryError w.queries = false
  keys : KeysAccepted lib.toPciIdeKmLib env.toEnvironment w.keys
  go : AllAcknowledged lib.toPciIdeKmLib env.toEnvironment w.keys.kSetGos.length
    (streamRequests lib.toPciIdeKmLib stream ks)

theorem programStream_kSetGos (lib : PciIdeKmTestLib) (env : Environment) (stream : Stream)
    (ks : KeySet) (kSet : IdeKeySet) (s : State) :
    (PcieIde.programStream lib.toPciIdeKmLib env.toEnvironment stream ks kSet s).2.kSetGos =
      s.kSetGos :=
  (programStream_attempted lib.toPciIdeKmLib env.toEnvironment ks kSet (P := fun _ => True)
    ⟨fun _ _ _ _ _ _ h => h, fun _ _ _ h => h, fun _ _ h => h⟩ s).kSetGos

theorem setupIdeStream_opened (h : Opened lib env stream ks w) (htop : topType ≠ .selLinkIde) :
    ∃ keys log, setupIdeStream lib env stream topType ks false w =
      some (w.secure env,
        { enableStream stream true
            { w with keys := keys, queries := w.queries + 1, kSetGoKcbars := log } with
          statuses := w.statuses + 1 }) := by
  have hprogram :=
    (programStream_fst lib.toPciIdeKmLib env.toEnvironment stream ks w.kSet w.keys).mpr h.keys
  have hgos := programStream_kSetGos lib env stream ks w.kSet w.keys
  rw [setupIdeStream, pciIdeKmQuery, h.query]
  simp only [programStream, Bool.not_false, Bool.false_eq_true, if_false]
  rcases hrun : PcieIde.programStream lib.toPciIdeKmLib env.toEnvironment stream ks w.kSet w.keys
    with ⟨ret, keys⟩
  rw [hrun] at hprogram hgos
  cases hprogram
  have hgo := (goStream_fst lib.toPciIdeKmLib env.toEnvironment stream ks keys).mpr
    (by rw [hgos]; exact h.go)
  rcases goStream_eq lib env stream ks
    { w with keys := keys, queries := w.queries + 1 } with ⟨log, heq, -⟩
  simp only [heq, hgo, htop, if_false]
  exact ⟨_, _, rfl⟩

theorem setupIdeStream_refused {P : Registers → Prop} (hP : StreamInvariant stream P)
    (h : ¬Opened lib env stream ks w) :
    ∃ keys log, setupIdeStream lib env stream topType ks false w =
        some (false, { w with keys := keys, queries := w.queries + 1, kSetGoKcbars := log }) ∧
      (P w.keys.kcbar → P keys.kcbar) := by
  rw [setupIdeStream, pciIdeKmQuery]
  cases hquery : env.queryError w.queries with
  | true => exact ⟨w.keys, w.kSetGoKcbars, rfl, id⟩
  | false =>
      have hprogram := programStream_fst lib.toPciIdeKmLib env.toEnvironment stream ks w.kSet w.keys
      have hattempt :=
        programStream_attempted lib.toPciIdeKmLib env.toEnvironment ks w.kSet hP w.keys
      simp only [programStream, Bool.not_false, Bool.false_eq_true, if_false]
      rcases hrun : PcieIde.programStream lib.toPciIdeKmLib env.toEnvironment stream ks w.kSet
        w.keys with ⟨ret, keys⟩
      rw [hrun] at hprogram hattempt
      cases ret with
      | false => exact ⟨keys, w.kSetGoKcbars, rfl, hattempt.kcbar⟩
      | true =>
          rcases goStream_eq lib env stream ks
            { w with keys := keys, queries := w.queries + 1 } with ⟨log, heq, -⟩
          have hgo : (PcieIde.goStream lib.toPciIdeKmLib env.toEnvironment stream ks keys).1 =
              false := by
            rw [Bool.eq_false_iff, Ne, goStream_fst, hattempt.kSetGos]
            exact fun hgo => h ⟨hquery, hprogram.mp rfl, hgo⟩
          simp only [heq, hgo]
          exact ⟨_, _, rfl, fun hw => goStream_kcbar _ _ ks hP (hattempt.kcbar hw)⟩

/-- The user does not give up, and the device takes what it is sent for the key switch. -/
def SwitchAccepted (lib : PciIdeKmTestLib) (env : Environment) (stream : Stream) (ks : KeySet)
    (skipKsetgo : Bool) (w : World) : Prop :=
  ∀ found keys, waitForSlots (env.retries w.waits) w.keys = some (found, keys) →
    found.isSome = true ∧ KeysAccepted lib.toPciIdeKmLib env.toEnvironment w.keys ∧
      (skipKsetgo = false →
        AllAcknowledged lib.toPciIdeKmLib env.toEnvironment w.keys.kSetGos.length
            (streamRequests lib.toPciIdeKmLib stream ks) ∧
          w.secure env = true)

theorem waitForSlots_kSetGos {found : Option IdeKeySet} {keys : State}
    (h : waitForSlots (env.retries w.waits) w.keys = some (found, keys)) :
    keys.kSetGos = w.keys.kSetGos := by
  rcases waitForSlots_state h with ⟨kcbar, rfl⟩
  rfl

/-- The condition once slots are found. -/
theorem switchAccepted_iff {skipKsetgo : Bool} {kSet : IdeKeySet} {keys : State}
    (h : waitForSlots (env.retries w.waits) w.keys = some (some kSet, keys)) :
    SwitchAccepted lib env stream ks skipKsetgo w ↔
      KeysAccepted lib.toPciIdeKmLib env.toEnvironment keys ∧
        (skipKsetgo = false →
          AllAcknowledged lib.toPciIdeKmLib env.toEnvironment keys.kSetGos.length
              (streamRequests lib.toPciIdeKmLib stream ks) ∧
            w.secure env = true) := by
  have hkeys : KeysAccepted lib.toPciIdeKmLib env.toEnvironment keys ↔
      KeysAccepted lib.toPciIdeKmLib env.toEnvironment w.keys := by
    rcases waitForSlots_state h with ⟨kcbar, rfl⟩
    exact ⟨fun h i hi => ⟨(h i hi).key, (h i hi).status⟩,
      fun h i hi => ⟨(h i hi).key, (h i hi).status⟩⟩
  rw [hkeys, waitForSlots_kSetGos h]
  refine ⟨fun haccepted => (haccepted _ _ h).2, ?_⟩
  intro haccepted found keys' h'
  rw [h, Option.some.injEq, Prod.mk.injEq] at h'
  rw [← h'.1]
  exact ⟨rfl, haccepted⟩

/-- What a key switch does that returns. -/
structure Switched (lib : PciIdeKmTestLib) (env : Environment) (stream : Stream) (ks : KeySet)
    (skipKsetgo : Bool) (w : World) (ret : Bool) (w' : World) : Prop where
  accepted : ret = true ↔ SwitchAccepted lib env stream ks skipKsetgo w
  sameCase : SameCase w w'
  upperCtrl : w'.upperCtrl = w.upperCtrl
  lowerCtrl : w'.lowerCtrl = w.lowerCtrl
  skipped : skipKsetgo = true → w'.keys.kSetGos = w.keys.kSetGos

theorem switched_of_ideKeySwitchTo {skipKsetgo ret : Bool} {w' : World}
    (hupper : isIdeEnabled w.upperCtrl = true) (hlower : isIdeEnabled w.lowerCtrl = true)
    (h : ideKeySwitchTo lib env stream topType ks skipKsetgo w = some (ret, w')) :
    Switched lib env stream ks skipKsetgo w ret w' := by
  rw [ideKeySwitchTo] at h
  split at h
  · cases h
  · simp only [hupper, hlower, Bool.not_true, Bool.false_eq_true, if_false] at h
    split at h
    · cases h
    · rename_i keys hwait
      cases h
      refine ⟨?_, ⟨rfl, rfl, rfl⟩, rfl, rfl, fun _ => waitForSlots_kSetGos hwait⟩
      simp only [Bool.false_eq_true, false_iff]
      intro haccepted
      cases (haccepted _ _ hwait).1
    · rename_i kSet keys hwait
      have hprogram := programStream_fst lib.toPciIdeKmLib env.toEnvironment stream ks kSet keys
      have hgos := programStream_kSetGos lib env stream ks kSet keys
      simp only [programStream] at h
      rcases hrun : PcieIde.programStream lib.toPciIdeKmLib env.toEnvironment stream ks kSet keys
        with ⟨ret', keys'⟩
      rw [hrun] at h hprogram hgos
      have hskipped : keys'.kSetGos = w.keys.kSetGos := hgos.trans (waitForSlots_kSetGos hwait)
      cases ret' with
      | false =>
          cases h
          refine ⟨?_, ⟨rfl, rfl, rfl⟩, rfl, rfl, fun _ => hskipped⟩
          rw [switchAccepted_iff hwait, ← hprogram]
          simp
      | true =>
          cases skipKsetgo with
          | true =>
              cases h
              refine ⟨?_, ⟨rfl, rfl, rfl⟩, rfl, rfl, fun _ => hskipped⟩
              rw [switchAccepted_iff hwait, ← hprogram]
              simp
          | false =>
              rcases goStream_eq lib env stream ks
                { w with keys := keys', kSet := kSet, waits := w.waits + 1 } with ⟨log, heq, -⟩
              have hgo := goStream_fst lib.toPciIdeKmLib env.toEnvironment stream ks keys'
              simp only [heq, Bool.false_eq_true, if_false] at h
              rcases hgone : PcieIde.goStream lib.toPciIdeKmLib env.toEnvironment stream ks keys'
                with ⟨ret'', keys''⟩
              rw [hgone] at h hgo
              cases ret'' with
              | false =>
                  cases h
                  refine ⟨?_, ⟨rfl, rfl, rfl⟩, rfl, rfl, nofun⟩
                  rw [switchAccepted_iff hwait, ← hprogram, ← hgos, ← hgo]
                  simp
              | true =>
                  simp only [isIdeStreamSecure, Option.some.injEq, Prod.mk.injEq] at h
                  rcases h with ⟨rfl, rfl⟩
                  refine ⟨?_, ⟨rfl, rfl, rfl⟩, rfl, rfl, nofun⟩
                  rw [switchAccepted_iff hwait, ← hprogram, ← hgos, ← hgo]
                  simp [World.secure]

/-! ## What setups and key switches leave of a case -/

/-- Keys are programmed, but no `K_SET_GO` is sent. -/
structure Programs (w w' : World) : Prop where
  sameCase : SameCase w w'
  upperCtrl : w'.upperCtrl = w.upperCtrl
  lowerCtrl : w'.lowerCtrl = w.lowerCtrl
  statuses : w'.statuses = w.statuses
  kSetGos : w'.keys.kSetGos = w.keys.kSetGos
  kSetGoKcbars : w'.kSetGoKcbars = w.kSetGoKcbars

/-- How a setup or a key switch ends, which has its own last step. -/
inductive Ends (lib : PciIdeKmTestLib) (env : Environment) (stream : Stream) (ks : KeySet)
    (last : World → Bool × World) (w : World) : Bool → Bool → World → Prop
  | programmed {skipKsetgo ret : Bool} {w' : World} (hprograms : Programs w w')
      (hret : skipKsetgo = true ∨ ret = false) : Ends lib env stream ks last w skipKsetgo ret w'
  | refused {w₁ w' : World} (hprograms : Programs w w₁)
      (hgo : goStream lib env stream ks w₁ = (false, w')) :
      Ends lib env stream ks last w false false w'
  | finished {w₁ w₂ : World} (hprograms : Programs w w₁)
      (hgo : goStream lib env stream ks w₁ = (true, w₂)) :
      Ends lib env stream ks last w false (last w₂).1 (last w₂).2

theorem setupIdeStream_ends {skipKsetgo ret : Bool} {w' : World}
    (h : setupIdeStream lib env stream topType ks skipKsetgo w = some (ret, w')) :
    Ends lib env stream ks (fun w => isIdeStreamSecure env (enableStream stream true w)) w
      skipKsetgo ret w' := by
  rw [setupIdeStream, pciIdeKmQuery] at h
  cases hquery : env.queryError w.queries with
  | true =>
      rw [hquery] at h
      cases h
      exact .programmed ⟨⟨rfl, rfl, rfl⟩, rfl, rfl, rfl, rfl, rfl⟩ (Or.inr rfl)
  | false =>
      rw [hquery] at h
      simp only [programStream, Bool.not_false] at h
      have hgos := programStream_kSetGos lib env stream ks w.kSet w.keys
      rcases hrun : PcieIde.programStream lib.toPciIdeKmLib env.toEnvironment stream ks w.kSet
        w.keys with ⟨ret', keys⟩
      rw [hrun] at h hgos
      have hprograms : Programs w { w with keys := keys, queries := w.queries + 1 } :=
        ⟨⟨rfl, rfl, rfl⟩, rfl, rfl, rfl, hgos, rfl⟩
      cases ret' with
      | false =>
          cases h
          exact .programmed hprograms (Or.inr rfl)
      | true =>
          cases skipKsetgo with
          | true =>
              cases h
              exact .programmed hprograms (Or.inl rfl)
          | false =>
              simp only [Bool.false_eq_true, if_false] at h
              split at h
              · rename_i hgo
                cases h
                exact .refused hprograms hgo
              · rename_i hgo
                split at h
                · cases h
                · cases h
                  exact .finished hprograms hgo

theorem ideKeySwitchTo_ends {skipKsetgo ret : Bool} {w' : World}
    (h : ideKeySwitchTo lib env stream topType ks skipKsetgo w = some (ret, w')) :
    Ends lib env stream ks (isIdeStreamSecure env) w skipKsetgo ret w' := by
  rw [ideKeySwitchTo] at h
  split at h
  · cases h
  · split at h
    · cases h
      exact .programmed ⟨SameCase.refl w, rfl, rfl, rfl, rfl, rfl⟩ (Or.inr rfl)
    · split at h
      · cases h
        exact .programmed ⟨SameCase.refl w, rfl, rfl, rfl, rfl, rfl⟩ (Or.inr rfl)
      · split at h
        · cases h
        · rename_i keys hwait
          cases h
          exact .programmed ⟨⟨rfl, rfl, rfl⟩, rfl, rfl, rfl, waitForSlots_kSetGos hwait, rfl⟩
            (Or.inr rfl)
        · rename_i kSet keys hwait
          simp only [programStream] at h
          have hgos := programStream_kSetGos lib env stream ks kSet keys
          rcases hrun : PcieIde.programStream lib.toPciIdeKmLib env.toEnvironment stream ks kSet
            keys with ⟨ret', keys'⟩
          rw [hrun] at h hgos
          have hprograms : Programs w
              { w with keys := keys', kSet := kSet, waits := w.waits + 1 } :=
            ⟨⟨rfl, rfl, rfl⟩, rfl, rfl, rfl, hgos.trans (waitForSlots_kSetGos hwait), rfl⟩
          cases ret' with
          | false =>
              cases h
              exact .programmed hprograms (Or.inr rfl)
          | true =>
              cases skipKsetgo with
              | true =>
                  cases h
                  exact .programmed hprograms (Or.inl rfl)
              | false =>
                  simp only [Bool.false_eq_true, if_false] at h
                  split at h
                  · rename_i hgo
                    cases h
                    exact .refused hprograms hgo
                  · rename_i hgo
                    cases h
                    exact .finished hprograms hgo

theorem goStream_sameCase {w' : World} {ret : Bool}
    (h : goStream lib env stream ks w = (ret, w')) : SameCase w w' := by
  rcases goStream_eq lib env stream ks w with ⟨log, heq, -⟩
  rw [heq, Prod.mk.injEq] at h
  rcases h with ⟨-, rfl⟩
  exact ⟨rfl, rfl, rfl⟩

theorem Ends.sameCase {last : World → Bool × World} {skipKsetgo ret : Bool} {w' : World}
    (h : Ends lib env stream ks last w skipKsetgo ret w')
    (hlast : ∀ w, SameCase w (last w).2) : SameCase w w' := by
  cases h with
  | programmed hprograms hret => exact hprograms.sameCase
  | refused hprograms hgo => exact hprograms.sameCase.trans (goStream_sameCase hgo)
  | finished hprograms hgo =>
      exact (hprograms.sameCase.trans (goStream_sameCase hgo)).trans (hlast _)

theorem setupIdeStream_sameCase {skipKsetgo ret : Bool} {w' : World}
    (h : setupIdeStream lib env stream topType ks skipKsetgo w = some (ret, w')) :
    SameCase w w' :=
  (setupIdeStream_ends h).sameCase fun _ => ⟨rfl, rfl, rfl⟩

theorem ideKeySwitchTo_sameCase {skipKsetgo ret : Bool} {w' : World}
    (h : ideKeySwitchTo lib env stream topType ks skipKsetgo w = some (ret, w')) :
    SameCase w w' :=
  (ideKeySwitchTo_ends h).sameCase fun _ => ⟨rfl, rfl, rfl⟩

theorem testKsetgoSetupCommon_sameCase {ret : Bool} {w' : World}
    (h : testKsetgoSetupCommon lib env stream ks w = some (ret, w')) : SameCase w w' := by
  rw [testKsetgoSetupCommon, pciIdeKmQuery] at h
  split at h
  · cases h
  · rename_i w₁ hquery
    rw [Prod.mk.injEq] at hquery
    rcases hquery with ⟨-, rfl⟩
    simp only [programStream] at h
    split at h
    · cases h
    · rename_i w₂ hprogram
      rw [Prod.mk.injEq] at hprogram
      cases h
      rcases hprogram with ⟨-, rfl⟩
      exact ⟨rfl, rfl, rfl⟩

theorem setup_sameCase {case : CaseId} {ret : Bool} {w' : World}
    (h : case.setup lib env stream topType w = some (ret, w')) : SameCase w w' := by
  have hswitch : ∀ ks ks', setupAndSwitch lib env stream topType ks ks' w = some (ret, w') →
      SameCase w w' := by
    intro ks ks' h
    rw [setupAndSwitch] at h
    split at h
    · cases h
    · rename_i w₁ hsetup
      cases h
      exact setupIdeStream_sameCase hsetup
    · rename_i w₁ hsetup
      exact (setupIdeStream_sameCase hsetup).trans (ideKeySwitchTo_sameCase h)
  have hrefresh : ∀ ks, keyrefreshSetup lib env stream topType ks w = some (ret, w') →
      SameCase w w' := by
    intro ks h
    have hsame := setupIdeStream_sameCase h
    exact ⟨hsame.assertions, hsame.action, hsame.refreshes⟩
  cases case with
  | ksetgo1 => exact testKsetgoSetupCommon_sameCase h
  | ksetgo2 => exact testKsetgoSetupCommon_sameCase h
  | ksetgo3 => exact setupIdeStream_sameCase h
  | ksetgo4 => exact setupIdeStream_sameCase h
  | ksetstop1 => exact setupIdeStream_sameCase h
  | ksetstop2 => exact setupIdeStream_sameCase h
  | ksetstop3 => exact hswitch _ _ h
  | ksetstop4 => exact hswitch _ _ h
  | full1 => exact setupIdeStream_sameCase h
  | keyrefreshKs0 => exact hrefresh _ h
  | keyrefreshKs1 => exact hrefresh _ h

/-! ## A small root port with its device -/

def pciIdeKmTest : PciIdeKmTestLib where
  toPciIdeKmLib := pciIdeKm
  kpAckSize := 7
  keySetMask := 0x01
  directionMask := 0x02
  subStreamMask := 0xf0
  kpAckSize_eq := rfl

/-- A device that accepts every key and acknowledges each `K_SET_GO`, with the key set of each
round of six. The n-th time that both ports are asked, they report a secure stream or not. -/
def acceptingPorts (ks : ℕ → KeySet) (secure : ℕ → Bool) : Environment where
  toEnvironment := acceptingDevice ks
  configSupported _ := true
  ftSupportedSet := true
  flitModeSet _ := true
  queryError _ := false
  upperSecure := secure
  lowerSecure := secure
  kSetStopAck _ := none
  kSetGoStatus _ := 0
  kSetStopStatus _ := 0
  retries _ := []
  typed := [true]
  testRounds := 0
  testInterval := 0

/-- Before a case, with slots for two key sets. -/
def smallWorld : World where
  keys := initialState 6 6
  upperCtrl := 0
  lowerCtrl := 0
  kSet := slotGroup 0
  mKeySet := .ks0
  queries := 0
  statuses := 0
  waits := 0
  kSetStops := []
  assertions := []
  action := .run
  kSetGoKcbars := []
  refreshes := []

end TeeIoValidator.PcieIdeTest
