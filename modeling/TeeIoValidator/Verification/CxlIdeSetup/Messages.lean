import TeeIoValidator.Verification.CxlIdeSetup.Keys

/-! ## The messages and the root port -/

namespace TeeIoValidator.CxlIdeSetup

open CxlIde History

variable {lib : CxlIdeKmLib} {success : BitVec 8} {responder : Responder} {arguments : Arguments}

section Messages

variable {rx tx : KeyBuffer × BitVec 8} {r : Run}

/-- No message fails to be sent and answered. -/
structure Delivered (responder : Responder) (s : State) : Prop where
  keyProgs : ∀ n < 2, responder.keyProgError (s.keyProgs.length + n) = false
  keySetGos : ∀ n < 2, responder.keySetGoError (s.keySetGos.length + n) = false

/-- What sending a `KEY_PROG` does. -/
theorem keyProg_spec {direction : BitVec 8} {key : KeyBuffer × BitVec 8} {ok : Bool} {r' : Run}
    (h : keyProg lib responder arguments direction key r = (ok, r')) :
    ok = !responder.keyProgError r.state.keyProgs.length ∧
      r'.state.keyProgs.length = r.state.keyProgs.length + 1 ∧
      r'.state.keySetGos = r.state.keySetGos ∧
      ∃ message : KeyProg, message.keyBuffer = key.1 ∧ r'.actions = r.actions ++
        [.keyProg direction message ok (responder.kpAckStatus r.state.keyProgs.length)] := by
  cases h
  exact ⟨rfl, List.length_append, rfl, _, rfl, rfl⟩

theorem keySetGo_spec {direction : BitVec 8} {ok : Bool} {r' : Run}
    (h : keySetGo lib responder arguments direction r = (ok, r')) :
    ok = !responder.keySetGoError r.state.keySetGos.length ∧
      r'.state.keySetGos.length = r.state.keySetGos.length + 1 ∧
      ∃ message, r'.actions = r.actions ++ [.keySetGo direction message ok] := by
  cases h
  exact ⟨rfl, List.length_append, _, rfl⟩

theorem programRootPort_actions {rx tx : KeyBuffer} :
    (programRootPort lib rx tx r).actions = r.actions ++
      [.linkEncKeyIv lib.directionTx tx, .linkEncKeyIv lib.directionRx rx,
        .keyValid cxlIdeStreamDirectionTx, .keyValid cxlIdeStreamDirectionRx] := by
  simp [programRootPort, linkEncKeyIv, keyValid, Run.write]

theorem startStream_actions : (startStream arguments r).actions = r.actions ++
    ((if arguments.keyRefresh then [] else [.linkencEnable]) ++ [.startTrigger]) := by
  cases h : arguments.keyRefresh with
  | false => simp [startStream, Run.write, h]
  | true => simp [startStream, Run.write, h]

theorem startStream_keySetGos : (startStream arguments r).state.keySetGos = r.state.keySetGos := by
  cases h : arguments.keyRefresh with
  | false => simp [startStream, Run.write, h]
  | true => simp [startStream, Run.write, h]

theorem keyProg_failed {actions : List Action} {direction : BitVec 8} {message : KeyProg}
    {status : BitVec 8} :
    ∃ a ∈ actions ++ [.keyProg direction message false status], a.Failed success :=
  ⟨_, List.mem_append_right _ (List.mem_singleton_self _), fun h => Bool.false_ne_true h.1⟩

theorem keySetGo_failed {actions : List Action} {direction : BitVec 8} {message : KeySetGo} :
    ∃ a ∈ actions ++ [.keySetGo direction message false], a.Failed success :=
  ⟨_, List.mem_append_right _ (List.mem_singleton_self _), rfl⟩

/-- The actions of a setup whose messages are delivered. -/
def delivered (lib : CxlIdeKmLib) (responder : Responder) (arguments : Arguments) (n : ℕ)
    (rxProg txProg : KeyProg) (rxGo txGo : KeySetGo) : List Action :=
  [.keyProg lib.directionRx rxProg true (responder.kpAckStatus n),
    .keyProg lib.directionTx txProg true (responder.kpAckStatus (n + 1)),
    .linkEncKeyIv lib.directionTx txProg.keyBuffer,
    .linkEncKeyIv lib.directionRx rxProg.keyBuffer,
    .keyValid cxlIdeStreamDirectionTx, .keyValid cxlIdeStreamDirectionRx] ++
  [.keySetGo lib.directionRx rxGo true] ++
  ((if arguments.keyRefresh then [] else [.linkencEnable]) ++ [.startTrigger]) ++
  [.keySetGo lib.directionTx txGo true]

/-- Either a message fails, and the program stops in the assertion behind it, or all actions are
done. -/
theorem programStream_cases (lib : CxlIdeKmLib) (success : BitVec 8) (responder : Responder)
    (arguments : Arguments) (rx tx : KeyBuffer × BitVec 8) (r : Run) :
    (∃ r', programStream lib responder arguments rx tx r = (none, r') ∧
      (∃ a ∈ r'.actions, a.Failed success) ∧ ¬Delivered responder r.state) ∨
    (∃ rxProg txProg rxGo txGo r',
      programStream lib responder arguments rx tx r = (some true, r') ∧
      r'.actions = r.actions ++ delivered lib responder arguments r.state.keyProgs.length
        rxProg txProg rxGo txGo ∧ Delivered responder r.state) := by
  rw [programStream]
  cases hrx : keyProg lib responder arguments lib.directionRx rx r with
  | mk ok r₁ =>
  obtain ⟨hok, hprogs₁, hgos₁, rxProg, hrxKey, hactions₁⟩ := keyProg_spec hrx
  cases ok with
  | false =>
      refine .inl ⟨r₁, rfl, hactions₁ ▸ keyProg_failed, fun h => ?_⟩
      simpa using hok.trans (congrArg (!·) (h.keyProgs 0 (by decide)))
  | true =>
  simp only
  cases htx : keyProg lib responder arguments lib.directionTx tx r₁ with
  | mk ok r₂ =>
  obtain ⟨hok₂, hprogs₂, hgos₂, txProg, htxKey, hactions₂⟩ := keyProg_spec htx
  rw [hprogs₁] at hok₂ hactions₂
  cases ok with
  | false =>
      refine .inl ⟨r₂, rfl, hactions₂ ▸ keyProg_failed, fun h => ?_⟩
      simpa using hok₂.trans (congrArg (!·) (h.keyProgs 1 (by decide)))
  | true =>
  simp only
  cases hrxGo : keySetGo lib responder arguments lib.directionRx
    (programRootPort lib rx.1 tx.1 r₂) with
  | mk ok r₃ =>
  obtain ⟨hok₃, hgos₃, rxGo, hactions₃⟩ := keySetGo_spec hrxGo
  have hgos : (programRootPort lib rx.1 tx.1 r₂).state.keySetGos = r.state.keySetGos :=
    hgos₂.trans hgos₁
  rw [hgos] at hok₃ hgos₃
  cases ok with
  | false =>
      refine .inl ⟨r₃, rfl, hactions₃ ▸ keySetGo_failed, fun h => ?_⟩
      simpa using hok₃.trans (congrArg (!·) (h.keySetGos 0 (by decide)))
  | true =>
  simp only
  cases htxGo : keySetGo lib responder arguments lib.directionTx (startStream arguments r₃) with
  | mk ok r₄ =>
  obtain ⟨hok₄, -, txGo, hactions₄⟩ := keySetGo_spec htxGo
  rw [startStream_keySetGos, hgos₃] at hok₄
  cases ok with
  | false =>
      refine .inl ⟨r₄, rfl, hactions₄ ▸ keySetGo_failed, fun h => ?_⟩
      simpa using hok₄.trans (congrArg (!·) (h.keySetGos 1 (by decide)))
  | true =>
      refine .inr ⟨rxProg, txProg, rxGo, txGo, r₄, rfl, ?_, ?_, ?_⟩
      · rw [hactions₄, startStream_actions, hactions₃, programRootPort_actions, hactions₂,
          hactions₁, delivered, hrxKey, htxKey]
        simp
      · intro n hn
        rcases Nat.lt_succ_iff_lt_or_eq.mp hn with h | rfl
        · obtain rfl : n = 0 := by omega
          simpa using hok.symm
        · simpa using hok₂.symm
      · intro n hn
        rcases Nat.lt_succ_iff_lt_or_eq.mp hn with h | rfl
        · obtain rfl : n = 0 := by omega
          simpa using hok₃.symm
        · simpa using hok₄.symm

end Messages

/-! ## When the setup is right -/

section Correctness

variable {s : State}

theorem Correct.of_generates {r : Run} (hgenerates : ∀ a ∈ r.actions, a.Generates)
    (hstops : Stops (Action.Failed success) r.actions) :
    Correct lib success arguments (some false, r) where
  acknowledged h := by cases h
  ordered before a after hsplit d m b ha := by
    have hmem : a ∈ r.actions := by
      rw [hsplit]
      exact List.mem_append_right _ List.mem_cons_self
    exact absurd (hgenerates a hmem) (by simp [ha, Action.Generates])
  skipped _ d m b hmem := hgenerates _ hmem
  stops := hstops
  refused _ := rfl

/-- Both `K_SET_GO` come after all that they need. -/
theorem delivered_ordered {actions : List Action} {n : ℕ} {rxProg txProg : KeyProg}
    {rxGo txGo : KeySetGo} (hquiet : ∀ d m b, .keySetGo d m b ∉ actions)
    (hrx : responder.kpAckStatus n = success) (htx : responder.kpAckStatus (n + 1) = success) :
    Each (fun before a => ∀ d m b, a = .keySetGo d m b → GoAllowed lib success d before)
      (actions ++ delivered lib responder arguments n rxProg txProg rxGo txGo) := by
  have hsplit : actions ++ delivered lib responder arguments n rxProg txProg rxGo txGo =
      actions ++ [.keyProg lib.directionRx rxProg true success,
        .keyProg lib.directionTx txProg true success,
        .linkEncKeyIv lib.directionTx txProg.keyBuffer,
        .linkEncKeyIv lib.directionRx rxProg.keyBuffer,
        .keyValid cxlIdeStreamDirectionTx, .keyValid cxlIdeStreamDirectionRx] ++
      [.keySetGo lib.directionRx rxGo true] ++
      ((if arguments.keyRefresh then [] else [.linkencEnable]) ++ [.startTrigger]) ++
      [.keySetGo lib.directionTx txGo true] := by
    rw [delivered, hrx, htx]
    simp only [List.append_assoc]
  rw [hsplit]
  have hnot : ∀ (a : Action) (before : List Action), (∀ d m b, a ≠ .keySetGo d m b) →
      ∀ d m b, a = .keySetGo d m b → GoAllowed lib success d before :=
    fun a before hne d m b ha => absurd ha (hne d m b)
  have hprogrammed : Each (fun before a => ∀ d m b, a = .keySetGo d m b →
      GoAllowed lib success d before) actions := by
    intro before a after hsplit
    refine hnot a before ?_
    rintro d m b rfl
    exact hquiet d m b (hsplit ▸ List.mem_append_right _ List.mem_cons_self)
  refine each_append_singleton.mpr ⟨(each_append_singleton.mpr
    ⟨hprogrammed.append_of_forall ?_, ?_⟩).append_of_forall ?_, ?_⟩
  · intro a ha before
    refine hnot a before ?_
    rintro d m b rfl
    simp at ha
  · rintro d m b ⟨⟩
    refine ⟨⟨rxProg, by simp, by simp⟩, ⟨txProg, by simp, by simp⟩, ?_, .inl ⟨rfl, ?_⟩⟩
    · rintro d (rfl | rfl)
      · simp
      · simp
    · intro d m b
      simp [hquiet]
  · intro a ha before
    refine hnot a before ?_
    rintro d m b rfl
    split_ifs at ha
    · simp at ha
    · simp at ha
  · rintro d m b ⟨⟩
    refine ⟨⟨rxProg, by simp, by simp⟩, ⟨txProg, by simp, by simp⟩, ?_, .inr ⟨rfl, ?_⟩⟩
    · rintro d (rfl | rfl)
      · simp
      · simp
    · exact ⟨_, rxGo, _, List.append_assoc _ _ _, by simp⟩

theorem Correct.of_delivered {r r' : Run} {rxProg txProg : KeyProg} {rxGo txGo : KeySetGo}
    (h : Accepted success responder arguments r.state)
    (hr : ∀ a ∈ r.actions, a.Generates ∧ ¬a.Failed success)
    (hactions : r'.actions = r.actions ++ delivered lib responder arguments
      r.state.keyProgs.length rxProg txProg rxGo txGo) :
    Correct lib success arguments (some true, r') := by
  have hrx := (h.keyProgs 0 (by decide)).2
  have htx := (h.keyProgs 1 (by decide)).2
  rw [Nat.add_zero] at hrx
  have hnot_failed : ∀ a ∈ r'.actions, ¬a.Failed success := by
    rw [hactions, delivered, hrx, htx]
    intro a ha
    simp only [List.mem_append, List.mem_cons, List.not_mem_nil, or_false] at ha
    rcases ha with ha | (((rfl | rfl | rfl | rfl | rfl | rfl) | rfl) | ha | rfl) | rfl
    · exact (hr a ha).2
    all_goals try simp [Action.Failed]
    split_ifs at ha
    · cases ha
    · obtain rfl := List.mem_singleton.mp ha
      exact id
  refine ⟨fun _ => ⟨⟨rxProg, ?_⟩, ⟨txProg, ?_⟩⟩, ?_, fun hskip => ?_, stops_of_forall hnot_failed,
    ?_⟩
  · rw [hactions, delivered, hrx]
    simp
  · rw [hactions, delivered, htx]
    simp
  · rw [hactions]
    exact delivered_ordered (fun d m b hmem => (hr _ hmem).1) hrx htx
  · rw [h.wanted] at hskip
    cases hskip
  · rintro ⟨a, ha, hfailed⟩
    exact absurd hfailed (hnot_failed a ha)

theorem Correct.accepted {r r' : Run} {rxProg txProg : KeyProg} {rxGo txGo : KeySetGo}
    (h : Correct lib success arguments (some true, r'))
    (hdelivered : Delivered responder r.state)
    (hactions : r'.actions = r.actions ++ delivered lib responder arguments
      r.state.keyProgs.length rxProg txProg rxGo txGo) :
    Accepted success responder arguments r.state := by
  have hstops := h.stops
  simp only [hactions, delivered, ← List.append_assoc] at hstops
  have hnot_failed := stops_append_singleton.mp hstops
  have hrx : responder.kpAckStatus r.state.keyProgs.length = success := by
    have := hnot_failed (.keyProg lib.directionRx rxProg true
      (responder.kpAckStatus r.state.keyProgs.length)) (by simp)
    simpa [Action.Failed] using this
  have htx : responder.kpAckStatus (r.state.keyProgs.length + 1) = success := by
    have := hnot_failed (.keyProg lib.directionTx txProg true
      (responder.kpAckStatus (r.state.keyProgs.length + 1))) (by simp)
    simpa [Action.Failed] using this
  refine ⟨?_, ?_, hdelivered.keySetGos⟩
  · by_contra hskip
    refine h.skipped (Bool.eq_true_of_not_eq_false hskip) lib.directionRx rxGo true ?_
    simp [hactions, delivered]
  · intro n hn
    refine ⟨hdelivered.keyProgs n hn, ?_⟩
    rcases Nat.lt_succ_iff_lt_or_eq.mp hn with hlt | rfl
    · obtain rfl : n = 0 := by omega
      exact hrx
    · exact htx

/-- When the steps are in order, all acknowledged, and stop at the first that fails. -/
theorem setupIdeStream_correct_iff (lib : CxlIdeKmLib) (success : BitVec 8) (responder : Responder)
    (arguments : Arguments) (s : State) :
    Correct lib success arguments (setupIdeStream lib responder arguments s) ↔
      ¬KeysGenerated responder arguments s ∨ Accepted success responder arguments s := by
  by_cases hgen : KeysGenerated responder arguments s
  · obtain ⟨rx, tx, r, heq, hr, hprogs, hgos⟩ := setupIdeStream_of_generated lib success hgen
    have haccepted : Accepted success responder arguments s ↔
        Accepted success responder arguments r.state := by
      constructor
      · intro h
        exact ⟨h.wanted, hprogs ▸ h.keyProgs, hgos ▸ h.keySetGos⟩
      · intro h
        exact ⟨h.wanted, hprogs ▸ h.keyProgs, hgos ▸ h.keySetGos⟩
    rw [heq, haccepted]
    simp only [hgen, not_true_eq_false, false_or]
    rcases programStream_cases lib success responder arguments rx tx r with
      ⟨r', heq', hfailed, hnot⟩ | ⟨rxProg, txProg, rxGo, txGo, r', heq', hactions, hdelivered⟩
    · rw [heq']
      constructor
      · intro h
        cases h.refused hfailed
      · intro h
        exact absurd ⟨fun n hn => (h.keyProgs n hn).1, h.keySetGos⟩ hnot
    · rw [heq']
      exact ⟨fun h => h.accepted hdelivered hactions, fun h => .of_delivered h hr hactions⟩
  · obtain ⟨r, heq, hgenerates, hstops⟩ := setupIdeStream_of_not_generated lib success hgen
    rw [heq]
    exact iff_of_true (.of_generates hgenerates hstops) (.inl hgen)

end Correctness

/-- A device that refuses every key. -/
def refusing : Responder where
  fixedKey := false
  random _ := some (memsetKey 0x5a)
  getKey _ := none
  keyProgError _ := false
  keySetGoError _ := false
  kpAckStatus _ := 1

/-- Both keys are refused, and the stream is started nevertheless. -/
theorem refusing_not_correct :
    (setupIdeStream cxlIdeKm refusing ⟨⟨0, 0, 0, 1, .skid, false⟩, false⟩
        ⟨fun _ => 0, 0, [], [], []⟩).1 = some true ∧
      ¬Correct cxlIdeKm 0 ⟨⟨0, 0, 0, 1, .skid, false⟩, false⟩
        (setupIdeStream cxlIdeKm refusing ⟨⟨0, 0, 0, 1, .skid, false⟩, false⟩
          ⟨fun _ => 0, 0, [], [], []⟩) := by
  refine ⟨by rfl, fun h => ?_⟩
  rcases (setupIdeStream_correct_iff _ _ _ _ _).mp h with hnot | haccepted
  · exact hnot ⟨false, false, by decide, .inr ⟨by simp [refusing], by simp, by simp [refusing]⟩⟩
  · exact absurd (haccepted.keyProgs 0 (by decide)).2 (by decide)

end TeeIoValidator.CxlIdeSetup
