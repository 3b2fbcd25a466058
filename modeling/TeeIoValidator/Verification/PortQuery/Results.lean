import TeeIoValidator.Verification.PortQuery.IdeCorrectness

/-! # When the searches are right -/

namespace TeeIoValidator.PortQuery

variable {respond : Responder} {capacity : ℕ} {port : IdePort}

/-! ## `ide_query_port_index` -/

section Constant

variable {m : BitVec 8} (hmax : ReportsMax respond m)

include hmax

theorem Correct.ideFinds_of_error {n : ℕ} {response : QueryResponse}
    (h : Correct respond capacity port (ideQueryPortIndex respond capacity port))
    (hanswer : ideAnswer respond capacity 0 = some response)
    (htarget : response.isTarget port = false) (hm : m ≠ 0) (hreach : Reaches m (n + 1))
    (hbefore : ∀ i ≤ n, ideAnswer respond capacity i ≠ none)
    (hn : ideAnswer respond capacity (n + 1) = none)
    (hfirst : target respond capacity port 0 = false) : IdeFinds respond capacity port m := by
  have hright := h.right m hmax _ _
    (ideQueryPortIndex_returns_of_error hmax hanswer htarget hm hreach hbefore hn)
  have hfull := fullBlock_of_ideCalls (n := n + 1) hright.full fun k hk =>
    hbefore k (Nat.le_of_lt_succ hk)
  refine .failed (n + 1) hfirst hreach ((ideAnswer_eq hfull).symm.trans hn) hfull ?_
  intro k hk hfound
  exact Bool.false_ne_true (hright.finds.mpr ⟨k, hk, hfound⟩)

theorem Correct.ideFinds_of_end {response : QueryResponse}
    (h : Correct respond capacity port (ideQueryPortIndex respond capacity port))
    (hanswer : ideAnswer respond capacity 0 = some response)
    (htarget : response.isTarget port = false) (hm : m ≠ 0) (hlt : m.toNat < 255)
    (hall : ∀ i ≤ m.toNat, ideAnswer respond capacity i ≠ none)
    (hfirst : target respond capacity port 0 = false) : IdeFinds respond capacity port m := by
  have hright := h.right m hmax _ _
    (ideQueryPortIndex_returns_of_end hmax hanswer htarget hm hlt hall)
  have hfull := fullBlock_of_ideCalls (n := m.toNat) hright.full fun k hk => hall k hk.le
  have htarget_eq : ∀ k ≤ m.toNat,
      ideTarget respond capacity port k = target respond capacity port k := fun k hk =>
    ideTarget_eq fun i hi => hfull i (hi.trans_le hk)
  have htrue : ∀ k ≤ m.toNat, target respond capacity port k →
      (ideLast respond capacity port m.toNat).1 = true := by
    intro k hk hk_target
    refine ideLast_fst_iff.mpr ⟨k, ?_, hk, (htarget_eq k hk).trans hk_target⟩
    rintro rfl
    exact Bool.false_ne_true (hfirst.symm.trans hk_target)
  have hfound : ∀ k ≤ m.toNat, target respond capacity port k →
      FoundAt respond capacity port k := by
    intro k hk hk_target
    obtain ⟨n, -, hn⟩ := hright.finds.mp (htrue k hk hk_target)
    exact hn.of_target hk_target
  -- the index is that of the last match and, being right, that of the first one
  have hsingle : ∀ k ≤ m.toNat, target respond capacity port k → ∃ n, ∀ i ≤ m.toNat,
      target respond capacity port i → i = n := by
    intro k hk hk_target
    have hret := htrue k hk hk_target
    obtain ⟨l, hl, hl_target, hlast, hindex⟩ := ideLast_of_true hret
    have hex : ∃ n, n ≤ m.toNat ∧ FoundAt respond capacity port n := ⟨k, hk, hfound k hk hk_target⟩
    classical
    have hleast : (index l).toNat = Nat.find hex := by
      rw [← hindex]
      exact hright.first hret _ ⟨Nat.find_spec hex, fun i hi => Nat.find_min' hex hi⟩
    rw [index_toNat_of_le hl] at hleast
    refine ⟨l, fun i hi hi_target => le_antisymm ?_ ?_⟩
    · by_contra hnot
      have hfalse := hlast i (Nat.lt_of_not_le hnot) hi
      rw [htarget_eq i hi, hi_target] at hfalse
      cases hfalse
    · rw [hleast]
      exact Nat.find_min' hex ⟨hi, hfound i hi hi_target⟩
  refine .all hfirst hlt (fun k hk => ?_) hfull hfound fun k hk i hi hk_target hi_target => ?_
  · rw [← ideAnswer_eq fun i hi => hfull i (hi.trans_le hk)]
    exact hall k hk
  · obtain ⟨n, hn⟩ := hsingle k hk hk_target
    exact (hn k hk hk_target).trans (hn i hi hi_target).symm

theorem Correct.ideFinds
    (h : Correct respond capacity port (ideQueryPortIndex respond capacity port)) :
    IdeFinds respond capacity port m := by
  cases hanswer : ideAnswer respond capacity 0 with
  | none =>
      have hright := h.right m hmax _ _ (Returns.of_forall (ideQueryPortIndex_of_error hanswer))
      have hfirst : target respond capacity port 0 = false := by
        rw [target, show answer respond capacity 0 = none from hanswer]
        rfl
      refine .failed 0 hfirst (.inl (Nat.zero_le _)) hanswer (by simp) fun k hk hfound => ?_
      exact Bool.false_ne_true (hright.finds.mpr ⟨k, hk, hfound⟩)
  | some response =>
      have hfirst : target respond capacity port 0 = response.isTarget port := by
        rw [target, show answer respond capacity 0 = some response from hanswer, Option.any_some]
      cases htarget : response.isTarget port with
      | true =>
          have hright := h.right m hmax _ _
            (Returns.of_forall (ideQueryPortIndex_of_target hanswer htarget))
          obtain ⟨n, -, hn⟩ := hright.finds.mp rfl
          exact .first (hn.of_target (hfirst.trans htarget))
      | false =>
          rw [htarget] at hfirst
          by_cases hm : m = 0
          · exact .single hfirst hm
          by_cases herror : ∃ n, Reaches m (n + 1) ∧ ideAnswer respond capacity (n + 1) = none
          · classical
            obtain ⟨hreach, hn⟩ := Nat.find_spec herror
            refine h.ideFinds_of_error hmax hanswer htarget hm hreach (fun i hi => ?_) hn hfirst
            cases i with
            | zero => simp [hanswer]
            | succ i =>
                intro hi_none
                exact Nat.find_min herror hi ⟨hreach.of_le (Nat.le_succ_of_le hi), hi_none⟩
          · have hsome : ∀ n, Reaches m n → ideAnswer respond capacity n ≠ none := by
              intro n hreach
              cases n with
              | zero => simp [hanswer]
              | succ n => exact fun hnone => herror ⟨n, hreach, hnone⟩
            have hlt : m.toNat < 255 := by
              have := m.isLt
              by_contra hge
              have hm255 : m.toNat = 255 := by omega
              obtain ⟨n, hn⟩ := (ideQueryPortIndex_returns_iff_loop hanswer htarget
                (by rw [hmax _ _ hanswer]; exact hm)).mp h.terminates
              exact hn (ideExit_eq_none hmax (hsome n (.inr hm255)) (hsome _ (.inr hm255))
                (.inr hm255))
            exact h.ideFinds_of_end hmax hanswer htarget hm hlt
              (fun i hi => hsome i (.inl hi)) hfirst

omit hmax in
theorem right_of_single (hm : m = 0) (hfirst : target respond capacity port 0 = false)
    {s : Search} (hs : s.queries = ideCalls respond capacity 0) :
    Right respond capacity port m false s where
  finds := by
    refine iff_of_false Bool.false_ne_true ?_
    rintro ⟨n, hn, hfound⟩
    subst hm
    have hzero : n = 0 := Nat.le_zero.mp hn
    subst hzero
    exact Bool.false_ne_true (hfirst.symm.trans hfound.target)
  first h := absurd h Bool.false_ne_true
  full := by
    rw [hs]
    exact ideCalls_full fun k hk => absurd hk (Nat.not_lt_zero k)

theorem right_of_end {response : QueryResponse}
    (hanswer : ideAnswer respond capacity 0 = some response)
    (htarget : response.isTarget port = false) (hm : m ≠ 0)
    (hfirst : target respond capacity port 0 = false) (hlt : m.toNat < 255)
    (succeed : ∀ k ≤ m.toNat, answer respond capacity k ≠ none)
    (hfull : ∀ k < m.toNat, FullBlock respond capacity k)
    (hsegment : ∀ k ≤ m.toNat, target respond capacity port k → FoundAt respond capacity port k)
    (hunique : ∀ k ≤ m.toNat, ∀ i ≤ m.toNat, target respond capacity port k →
      target respond capacity port i → k = i) :
    ∃ ret s, Returns (ideQueryPortIndex respond capacity port) (ret, s) ∧
      Right respond capacity port m ret s := by
  have hfull_le : ∀ k ≤ m.toNat, ∀ i < k, FullBlock respond capacity i := fun k hk i hi =>
    hfull i (hi.trans_le hk)
  refine ⟨_, _, ideQueryPortIndex_returns_of_end hmax hanswer htarget hm hlt fun i hi => ?_, ?_⟩
  · rw [ideAnswer_eq (hfull_le i hi)]
    exact succeed i hi
  refine ⟨?_, fun hret n hleast => ?_, ideCalls_full hfull⟩
  · rw [ideLast_fst_iff]
    constructor
    · rintro ⟨k, -, hk, hk_target⟩
      rw [ideTarget_eq (hfull_le k hk)] at hk_target
      exact ⟨k, hk, hsegment k hk hk_target⟩
    · rintro ⟨k, hk, hfound⟩
      refine ⟨k, ?_, hk, (ideTarget_eq (hfull_le k hk)).trans hfound.target⟩
      rintro rfl
      exact Bool.false_ne_true (hfirst.symm.trans hfound.target)
  · obtain ⟨l, hl, hl_target, -, hindex⟩ := ideLast_of_true hret
    rw [ideTarget_eq (hfull_le l hl)] at hl_target
    have hindex' : (ideRound respond capacity port m.toNat).lowerPort.portIndex = index l := hindex
    rw [hindex', index_toNat_of_le hl]
    exact hunique l hl n hleast.1.1 hl_target hleast.1.2.target

theorem right_of_error {response : QueryResponse} {n : ℕ}
    (hanswer : ideAnswer respond capacity 0 = some response)
    (htarget : response.isTarget port = false) (hm : m ≠ 0) (hreach : Reaches m (n + 1))
    (herror : answer respond capacity (n + 1) = none)
    (hfull : ∀ k < n + 1, FullBlock respond capacity k)
    (hnone : ∀ k ≤ m.toNat, ¬FoundAt respond capacity port k) :
    ∃ ret s, Returns (ideQueryPortIndex respond capacity port) (ret, s) ∧
      Right respond capacity port m ret s := by
  refine ⟨_, _, ideQueryPortIndex_returns_of_error (n := n) hmax hanswer htarget hm hreach
    (fun i hi => ?_) ?_, iff_of_false Bool.false_ne_true fun ⟨k, hk, hfound⟩ => hnone k hk hfound,
    fun h => absurd h Bool.false_ne_true, ideCalls_full hfull⟩
  · obtain ⟨response', hresponse', -⟩ := hfull i (Nat.lt_succ_of_le hi)
    rw [ideAnswer_eq fun k hk => hfull k (by omega), Option.mem_def.mp hresponse']
    exact Option.some_ne_none response'
  · rw [ideAnswer_eq hfull, herror]

theorem IdeFinds.right (h : IdeFinds respond capacity port m) :
    ∃ ret s, Returns (ideQueryPortIndex respond capacity port) (ret, s) ∧
      Right respond capacity port m ret s := by
  cases hanswer : ideAnswer respond capacity 0 with
  | none =>
      refine ⟨_, _, Returns.of_forall (ideQueryPortIndex_of_error hanswer), ?_, ?_, ?_⟩
      · refine iff_of_false Bool.false_ne_true ?_
        rintro ⟨n, hn, hfound⟩
        cases h with
        | first found => exact found.answer_ne hanswer
        | single _ only =>
            subst only
            have hzero : n = 0 := Nat.le_zero.mp hn
            subst hzero
            exact hfound.answer_ne hanswer
        | failed _ _ _ _ _ not_found => exact not_found n hn hfound
        | all _ _ succeed => exact succeed 0 (Nat.zero_le _) hanswer
      · exact fun h => absurd h Bool.false_ne_true
      · exact fullCalls_full (n := 0)
  | some response =>
      have hfirst : target respond capacity port 0 = response.isTarget port := by
        rw [target, show answer respond capacity 0 = some response from hanswer, Option.any_some]
      cases htarget : response.isTarget port with
      | true =>
          rw [htarget] at hfirst
          have hfound : FoundAt respond capacity port 0 := by
            cases h with
            | first found => exact found
            | single no_target => exact absurd (no_target.symm.trans hfirst) Bool.false_ne_true
            | failed _ no_target => exact absurd (no_target.symm.trans hfirst) Bool.false_ne_true
            | all no_target => exact absurd (no_target.symm.trans hfirst) Bool.false_ne_true
          refine ⟨_, _, Returns.of_forall (ideQueryPortIndex_of_target hanswer htarget),
            iff_of_true rfl ⟨0, Nat.zero_le _, hfound⟩, fun _ n hleast => ?_, ?_⟩
          · exact (Nat.le_zero.mp (hleast.2 ⟨Nat.zero_le _, hfound⟩)).symm
          · exact fullCalls_full (n := 0)
      | false =>
          rw [htarget] at hfirst
          by_cases hm : m = 0
          · have hmax_zero : response.maxPortIndex = 0 := by rw [hmax _ _ hanswer, hm]
            exact ⟨_, _, Returns.of_forall (ideQueryPortIndex_of_single hanswer htarget hmax_zero),
              right_of_single hm hfirst rfl⟩
          cases h with
          | first found => exact absurd (hfirst.symm.trans found.target) Bool.false_ne_true
          | single _ only => exact absurd only hm
          | all _ smaller succeed full segment unique =>
              exact right_of_end hmax hanswer htarget hm hfirst smaller succeed full segment unique
          | failed n _ reaches error full not_found =>
              cases n with
              | zero => exact absurd (hanswer.symm.trans error) (Option.some_ne_none response)
              | succ n =>
                  exact right_of_error hmax hanswer htarget hm reaches error full not_found

end Constant

theorem ide_correct_iff :
    Correct respond capacity port (ideQueryPortIndex respond capacity port) ↔
      IdeEnds respond capacity port ∧
        ∀ m, ReportsMax respond m → IdeFinds respond capacity port m := by
  constructor
  · intro h
    exact ⟨ide_terminates_iff.mp h.terminates, fun m hmax => h.ideFinds hmax⟩
  · rintro ⟨hends, hfinds⟩
    refine ⟨ide_terminates_iff.mpr hends, fun m hmax ret s hreturns => ?_⟩
    obtain ⟨ret', s', hs', hright⟩ := (hfinds m hmax).right hmax
    cases ide_returns_unique hreturns hs'
    exact hright

/-! ## Both searches -/

/-- When the searches terminate and find the lower port. -/
theorem query_port_index_correct_iff (respond : Responder) (capacity : ℕ) (port : IdePort) :
    (Correct respond capacity port (ideQueryPortIndex respond capacity port) ↔
      IdeEnds respond capacity port ∧
        ∀ m, ReportsMax respond m → IdeFinds respond capacity port m) ∧
    (Correct respond capacity port (cxlIdeQueryPortIndex respond capacity port) ↔
      CxlEnds respond capacity port ∧
        ∀ m, ReportsMax respond m → CxlFinds respond capacity port m) :=
  ⟨ide_correct_iff, cxl_correct_iff⟩

/-- A device with 256 ports, of which none is the one looked for. -/
def otherPorts : Responder := fun _ => some ⟨0x08, 0x01, 0x00, 0xff, 4⟩

theorem otherPorts_not_correct :
    ¬Correct otherPorts 4 ⟨0, 0, 0x01, 0, 0⟩ (ideQueryPortIndex otherPorts 4 ⟨0, 0, 0x01, 0, 0⟩) ∧
    ¬Correct otherPorts 4 ⟨0, 0, 0x01, 0, 0⟩
      (cxlIdeQueryPortIndex otherPorts 4 ⟨0, 0, 0x01, 0, 0⟩) := by
  have hmax : ∀ n, ¬255#8 < index n := by
    intro n h
    have hlt := (index n).isLt
    rw [BitVec.lt_def, BitVec.toNat_ofNat] at h
    omega
  have hlast : ∀ n, lastMax otherPorts 4 n = 255 := by
    intro n
    cases n with
    | zero => rfl
    | succ n => rfl
  rw [ide_correct_iff, cxl_correct_iff]
  constructor
  · rintro ⟨htarget | ⟨n, hn⟩, -⟩
    · exact absurd htarget (by decide)
    · exact hmax _ (hn _ rfl)
  · rintro ⟨htarget | ⟨n, hn | htarget⟩, -⟩
    · exact absurd htarget (by decide)
    · rw [hlast] at hn
      exact hmax _ hn
    · exact Bool.false_ne_true htarget

end TeeIoValidator.PortQuery
