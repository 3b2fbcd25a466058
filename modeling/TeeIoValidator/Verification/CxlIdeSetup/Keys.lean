import TeeIoValidator.Verification.CxlIdeSetup.Order

/-! ## The generation of the keys -/

namespace TeeIoValidator.CxlIdeSetup

open CxlIde History

variable {lib : CxlIdeKmLib} {success : BitVec 8} {responder : Responder} {arguments : Arguments}

/-- What the generation does: the device or the random numbers are asked. -/
def Action.Generates : Action → Prop
  | .getKey _ => True
  | .randomNumber _ => True
  | _ => False

theorem cxlIdeGenerateKey_rx (lib : CxlIdeKmLib) (hfixed : responder.fixedKey = false)
    (keyGenCapable ivGenCapable : Bool) (s : State) :
    cxlIdeGenerateKey lib responder.toEnvironment keyGenCapable ivGenCapable lib.directionRx s =
      ((responder.random s.randoms).map fun key => (⟨key, genDefaultIv lib⟩, lib.ivDefault),
        { s with randoms := s.randoms + 1 }) := by
  have hne : (lib.directionRx == lib.directionTx) = false := by
    rw [lib.directionRx_eq]
    exact beq_false_of_ne lib.directionTx_ne.symm
  rw [cxlIdeGenerateKey]
  simp only [hfixed, hne, Bool.and_false, libspdmGetRandomNumber]
  cases responder.random s.randoms with
  | none => simp
  | some key => simp

/-- The steps of a generation, which sends no other message. -/
structure Generation (success : BitVec 8) (r : Run)
    (result : Option (KeyBuffer × BitVec 8) × Run) (ok : Prop) (new : List Action) : Prop where
  actions : result.2.actions = r.actions ++ new
  generates : ∀ a ∈ new, a.Generates
  stops : Stops (Action.Failed success) new
  succeeds : result.1 ≠ none → ∀ a ∈ new, ¬a.Failed success
  keyProgs : result.2.state.keyProgs = r.state.keyProgs
  keySetGos : result.2.state.keySetGos = r.state.keySetGos
  ok : result.1 ≠ none ↔ ok

theorem stops_singleton {marked : Action → Prop} (a : Action) : Stops marked [a] :=
  stops_of_append (List.nil_append [a]) (by simp)

theorem generateKey_fixed {keyGenCapable ivGenCapable : Bool} {direction : BitVec 8}
    (hdirection : direction = lib.directionRx ∨ direction = lib.directionTx)
    (hfixed : responder.fixedKey = true) (r : Run) :
    ∃ key, generateKey lib responder keyGenCapable ivGenCapable direction r = (some key, r) := by
  have hnot : ¬(direction ≠ lib.directionRx ∧ direction ≠ lib.directionTx) := by tauto
  rw [generateKey, cxlIdeGenerateKey, if_neg hnot, if_pos hfixed]
  simp

/-- A key that the host generates. -/
theorem generateKey_host {keyGenCapable ivGenCapable : Bool} {direction : BitVec 8} {r : Run}
    (h : cxlIdeGenerateKey lib responder.toEnvironment keyGenCapable ivGenCapable direction
        r.state =
      ((responder.random r.state.randoms).map fun key => (⟨key, genDefaultIv lib⟩, lib.ivDefault),
        { r.state with randoms := r.state.randoms + 1 })) :
    Generation success r (generateKey lib responder keyGenCapable ivGenCapable direction r)
      (responder.random r.state.randoms ≠ none)
      [.randomNumber (responder.random r.state.randoms)] := by
  refine ⟨?_, by simp [Action.Generates], stops_singleton _, ?_, ?_, ?_, ?_⟩
  · simp [generateKey, h]
  · simp [generateKey, h, Action.Failed]
  · simp [generateKey, h]
  · simp [generateKey, h]
  · simp [generateKey, h]

theorem generateKey_rx (lib : CxlIdeKmLib) (success : BitVec 8) (keyGenCapable ivGenCapable : Bool)
    (hfixed : responder.fixedKey = false)
    (r : Run) :
    Generation success r (generateKey lib responder keyGenCapable ivGenCapable lib.directionRx r)
      (responder.random r.state.randoms ≠ none)
      [.randomNumber (responder.random r.state.randoms)] ∧
    (generateKey lib responder keyGenCapable ivGenCapable lib.directionRx r).2.state.randoms =
      r.state.randoms + 1 ∧
    (generateKey lib responder keyGenCapable ivGenCapable lib.directionRx r).2.state.getKeys =
      r.state.getKeys := by
  have hrx := cxlIdeGenerateKey_rx lib hfixed keyGenCapable ivGenCapable r.state
  refine ⟨generateKey_host hrx, ?_, ?_⟩
  · simp [generateKey, hrx]
  · simp [generateKey, hrx]

/-- A key or an IV that the device generates. -/
theorem cxlIdeGenerateKey_tx {keyGenCapable ivGenCapable : Bool} (lib : CxlIdeKmLib)
    (hfixed : responder.fixedKey = false) (hcapable : (keyGenCapable || ivGenCapable) = true)
    (s : State) :
    ∃ key : Option (KeyBuffer × BitVec 8),
      cxlIdeGenerateKey lib responder.toEnvironment keyGenCapable ivGenCapable lib.directionTx s =
        (key, { s with
          getKeys := s.getKeys ++ [responder.getKey s.getKeys.length]
          randoms := if responder.getKey s.getKeys.length = none ∨ keyGenCapable = true
            then s.randoms else s.randoms + 1 }) ∧
      (key ≠ none ↔ responder.getKey s.getKeys.length ≠ none ∧
        (keyGenCapable = false → responder.random s.randoms ≠ none)) := by
  have hnot : ¬(lib.directionTx ≠ lib.directionRx ∧ lib.directionTx ≠ lib.directionTx) :=
    fun h => h.2 rfl
  rw [cxlIdeGenerateKey, if_neg hnot, hfixed]
  simp only [hcapable, BEq.rfl, Bool.and_true, Bool.false_eq_true, if_false, if_true,
    cxlIdeKmGetKey]
  cases hbuffer : responder.getKey s.getKeys.length with
  | none => exact ⟨none, by simp, by simp⟩
  | some buffer =>
      have hiv : ∀ (key : Key) (s' : State), ∃ generated : KeyBuffer × BitVec 8,
          (if ivGenCapable = true then
              if buffer.iv[0] ≠ lib.ivPrefix then
                (some (⟨key, genDefaultIv lib⟩, lib.ivDefault), s')
              else (some (⟨key, buffer.iv⟩, lib.ivInitial), s')
            else (some (⟨key, genDefaultIv lib⟩, lib.ivDefault), s')) = (some generated, s') := by
        intro key s'
        split_ifs
        · exact ⟨_, rfl⟩
        · exact ⟨_, rfl⟩
        · exact ⟨_, rfl⟩
      cases keyGenCapable with
      | true =>
          obtain ⟨generated, hgenerated⟩ := hiv buffer.key
            { s with getKeys := s.getKeys ++ [some buffer] }
          exact ⟨some generated, by simpa using hgenerated, by simp⟩
      | false =>
          simp only [Bool.false_eq_true, if_false, libspdmGetRandomNumber]
          cases hrandom : responder.random s.randoms with
          | none => exact ⟨none, by simp, by simp⟩
          | some key =>
              obtain ⟨generated, hgenerated⟩ := hiv key
                { s with getKeys := s.getKeys ++ [some buffer], randoms := s.randoms + 1 }
              exact ⟨some generated, by simpa using hgenerated, by simp⟩

/-- The key of the device's sending direction is asked for when it generates keys or IVs. -/
theorem generateKey_tx (lib : CxlIdeKmLib) (success : BitVec 8) (keyGenCapable ivGenCapable : Bool)
    (hfixed : responder.fixedKey = false)
    (r : Run) :
    ∃ new, Generation success r
      (generateKey lib responder keyGenCapable ivGenCapable lib.directionTx r)
      (((keyGenCapable || ivGenCapable) = true →
          responder.getKey r.state.getKeys.length ≠ none) ∧
        (keyGenCapable = false → responder.random r.state.randoms ≠ none)) new := by
  have hnot : ¬(lib.directionTx ≠ lib.directionRx ∧ lib.directionTx ≠ lib.directionTx) :=
    fun h => h.2 rfl
  cases hcapable : keyGenCapable || ivGenCapable with
  | false =>
      obtain ⟨rfl, rfl⟩ : keyGenCapable = false ∧ ivGenCapable = false := by simpa using hcapable
      have htx : cxlIdeGenerateKey lib responder.toEnvironment false false lib.directionTx r.state =
          ((responder.random r.state.randoms).map fun key =>
            (⟨key, genDefaultIv lib⟩, lib.ivDefault),
          { r.state with randoms := r.state.randoms + 1 }) := by
        rw [cxlIdeGenerateKey, if_neg hnot, hfixed]
        simp only [libspdmGetRandomNumber]
        cases responder.random r.state.randoms with
        | none => simp
        | some key => simp
      have hgen : Generation success r _ _ _ := generateKey_host htx
      exact ⟨_, { hgen with ok := hgen.ok.trans (by simp) }⟩
  | true =>
      obtain ⟨key, hkey, hok⟩ := cxlIdeGenerateKey_tx lib hfixed hcapable r.state
      have hasked : (r.state.getKeys ++ [responder.getKey r.state.getKeys.length]).drop
          r.state.getKeys.length = [responder.getKey r.state.getKeys.length] :=
        List.drop_left
      by_cases hlast : responder.getKey r.state.getKeys.length = none ∨ keyGenCapable = true
      · refine ⟨[.getKey (responder.getKey r.state.getKeys.length)], ?_, by simp [Action.Generates],
          stops_singleton _, ?_, ?_, ?_, ?_⟩
        · simp [generateKey, hkey, hlast]
        · simp only [generateKey, hkey]
          intro hne
          simpa [Action.Failed] using (hok.mp hne).1
        · simp [generateKey, hkey]
        · simp [generateKey, hkey]
        · simp only [generateKey, hkey]
          rw [hok]
          tauto
      · refine ⟨[.getKey (responder.getKey r.state.getKeys.length),
          .randomNumber (responder.random r.state.randoms)], ?_, by simp [Action.Generates],
          ?_, ?_, ?_, ?_, ?_⟩
        · simp [generateKey, hkey, hlast]
        · refine stops_of_append (List.singleton_append) ?_
          simpa [Action.Failed] using (not_or.mp hlast).1
        · simp only [generateKey, hkey]
          intro hne
          have hok' := hok.mp hne
          simpa [Action.Failed, hok'.1] using hok'.2 (by simpa using (not_or.mp hlast).2)
        · simp [generateKey, hkey]
        · simp [generateKey, hkey]
        · simp only [generateKey, hkey]
          rw [hok]
          tauto

/-- Without both keys the setup is refused before any other step. -/
theorem setupIdeStream_of_not_generated (lib : CxlIdeKmLib) (success : BitVec 8) {s : State}
    (h : ¬KeysGenerated responder arguments s) :
    ∃ r, setupIdeStream lib responder arguments s = (some false, r) ∧
      (∀ a ∈ r.actions, a.Generates) ∧ Stops (Action.Failed success) r.actions := by
  rw [setupIdeStream]
  cases hcap : capabilities responder.fixedKey arguments.toSetup with
  | none => exact ⟨⟨s, []⟩, rfl, by simp, each_nil⟩
  | some capable =>
      obtain ⟨keyGenCapable, ivGenCapable⟩ := capable
      have hfixed : responder.fixedKey = false := by
        by_contra hne
        exact h ⟨_, _, hcap, Or.inl (Bool.eq_true_of_not_eq_false hne)⟩
      obtain ⟨hrx, hrandoms, hgetKeys⟩ := generateKey_rx lib success keyGenCapable ivGenCapable
        hfixed ⟨s, []⟩
      simp only
      cases hkey : generateKey lib responder keyGenCapable ivGenCapable lib.directionRx ⟨s, []⟩ with
      | mk key r =>
          rw [hkey] at hrx hrandoms hgetKeys
          simp only at hrandoms hgetKeys
          have hactions := hrx.actions
          simp only [List.nil_append] at hactions
          cases key with
          | none =>
              refine ⟨r, rfl, ?_, ?_⟩
              · rw [hactions]
                exact hrx.generates
              · rw [hactions]
                exact hrx.stops
          | some rx =>
              obtain ⟨new, htx⟩ := generateKey_tx lib success keyGenCapable ivGenCapable hfixed r
              simp only
              cases hkey' : generateKey lib responder keyGenCapable ivGenCapable lib.directionTx
                  r with
              | mk key' r' =>
                  rw [hkey'] at htx
                  have hnone : key' = none := by
                    by_contra hne
                    have hok := htx.ok.mp hne
                    rw [hrandoms, hgetKeys] at hok
                    have hrx_ok := hrx.ok.mp (Option.some_ne_none rx)
                    exact h ⟨_, _, hcap, Or.inr ⟨hrx_ok, hok⟩⟩
                  subst hnone
                  have hactions' := htx.actions
                  simp only [hactions] at hactions'
                  refine ⟨r', rfl, ?_, ?_⟩
                  · rw [hactions']
                    exact List.forall_mem_append.mpr ⟨hrx.generates, htx.generates⟩
                  · rw [hactions']
                    exact htx.stops.append (hrx.succeeds (Option.some_ne_none rx))

/-- With both keys the setup goes on to the messages. -/
theorem setupIdeStream_of_generated (lib : CxlIdeKmLib) (success : BitVec 8) {s : State}
    (h : KeysGenerated responder arguments s) :
    ∃ rx tx r, setupIdeStream lib responder arguments s =
        programStream lib responder arguments rx tx r ∧
      (∀ a ∈ r.actions, a.Generates ∧ ¬a.Failed success) ∧
      r.state.keyProgs = s.keyProgs ∧ r.state.keySetGos = s.keySetGos := by
  obtain ⟨keyGenCapable, ivGenCapable, hcap, hkeys⟩ := h
  rw [setupIdeStream, hcap]
  simp only
  cases hfixed : responder.fixedKey with
  | true =>
      obtain ⟨rx, hrx⟩ := generateKey_fixed (Or.inl rfl) hfixed ⟨s, []⟩
      obtain ⟨tx, htx⟩ := generateKey_fixed (Or.inr rfl) hfixed ⟨s, []⟩
      rw [hrx]
      simp only
      rw [htx]
      exact ⟨rx, tx, ⟨s, []⟩, rfl, by simp, rfl, rfl⟩
  | false =>
      obtain ⟨hrx, hrandoms, hgetKeys⟩ := generateKey_rx lib success keyGenCapable ivGenCapable
        hfixed ⟨s, []⟩
      obtain ⟨hrandom, hrest⟩ := hkeys.resolve_left (by simp [hfixed])
      cases hkey : generateKey lib responder keyGenCapable ivGenCapable lib.directionRx ⟨s, []⟩ with
      | mk key r =>
          rw [hkey] at hrx hrandoms hgetKeys
          obtain ⟨rx, rfl⟩ := Option.ne_none_iff_exists'.mp (hrx.ok.mpr hrandom)
          obtain ⟨new, htx⟩ := generateKey_tx lib success keyGenCapable ivGenCapable hfixed r
          simp only at hrandoms hgetKeys
          cases hkey' : generateKey lib responder keyGenCapable ivGenCapable lib.directionTx r with
          | mk key' r' =>
              rw [hkey', hrandoms, hgetKeys] at htx
              obtain ⟨tx, rfl⟩ := Option.ne_none_iff_exists'.mp (htx.ok.mpr hrest)
              refine ⟨rx, tx, r', by simp only [hkey'], ?_, htx.keyProgs.trans hrx.keyProgs,
                htx.keySetGos.trans hrx.keySetGos⟩
              have hactions := htx.actions.trans (congrArg (· ++ new) hrx.actions)
              rw [hactions]
              intro a ha
              simp only [List.nil_append, List.mem_append] at ha
              rcases ha with ha | ha
              · exact ⟨hrx.generates a ha, hrx.succeeds (Option.some_ne_none rx) a ha⟩
              · exact ⟨htx.generates a ha, htx.succeeds (Option.some_ne_none tx) a ha⟩

end TeeIoValidator.CxlIdeSetup
