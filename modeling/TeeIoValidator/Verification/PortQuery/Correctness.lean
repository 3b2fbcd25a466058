import Mathlib.Order.Bounds.Basic
import TeeIoValidator.Verification.PortQuery.CxlRuns

/-! # Whether a search terminates and finds the lower port

Both searches count with a `uint8_t`; neither handles every answer of the ports before.
-/

namespace TeeIoValidator.PortQuery

variable (respond : Responder) (capacity : ℕ) (port : IdePort)

/-- The response names the port, whose segment has 16 bits. -/
def QueryResponse.Names (response : QueryResponse) (port : IdePort) : Prop :=
  response.devFunc = port.devFunc ∧ response.bus = port.bus ∧
    response.segment.setWidth 16 = port.segment

instance (response : QueryResponse) (port : IdePort) : Decidable (response.Names port) :=
  inferInstanceAs (Decidable (_ ∧ _))

/-- The call at an index succeeds and names the port, when all indices are asked in turn with room
for a full block. -/
def FoundAt (n : ℕ) : Prop := ∃ response ∈ answer respond capacity n, response.Names port

/-- What a search has to return with a constant `max_port_index`. -/
structure Right (m : BitVec 8) (ret : Bool) (s : Search) : Prop where
  finds : ret = true ↔ ∃ n ≤ m.toNat, FoundAt respond capacity port n
  first : ret = true → ∀ n, IsLeast {n | n ≤ m.toNat ∧ FoundAt respond capacity port n} n →
    s.lowerPort.portIndex.toNat = n
  full : ∀ q ∈ s.queries, q.ideRegBlockCount = capacity

structure Correct (search : ℕ → Option (Bool × Search)) : Prop where
  terminates : ∃ result, Returns search result
  right : ∀ m, ReportsMax respond m → ∀ ret s, Returns search (ret, s) →
    Right respond capacity port m ret s

variable {respond capacity port}

/-- The comparison of the code is right for a segment that fits a `uint8_t`. -/
theorem names_iff {response : QueryResponse} :
    response.Names port ↔ response.isTarget port ∧ port.segment.toNat < 256 := by
  have hsegment : response.segment.setWidth 16 = port.segment ↔
      port.segment.setWidth 8 = response.segment ∧ port.segment.toNat < 256 := by
    rw [← BitVec.toNat_inj, ← BitVec.toNat_inj, BitVec.toNat_setWidth, BitVec.toNat_setWidth]
    have hlt := response.segment.isLt
    omega
  rw [QueryResponse.Names, hsegment, QueryResponse.isTarget]
  simp only [Bool.and_eq_true, beq_iff_eq]
  grind

theorem foundAt_iff {n : ℕ} : FoundAt respond capacity port n ↔
    target respond capacity port n ∧ port.segment.toNat < 256 := by
  simp only [FoundAt, names_iff, target, Option.any_eq_true, Option.mem_def]
  grind

theorem FoundAt.target {n : ℕ} (h : FoundAt respond capacity port n) :
    target respond capacity port n :=
  (foundAt_iff.mp h).1

/-- When one port is found, so is every one that matches. -/
theorem FoundAt.of_target {n k : ℕ} (h : FoundAt respond capacity port n)
    (htarget : PortQuery.target respond capacity port k) : FoundAt respond capacity port k :=
  foundAt_iff.mpr ⟨htarget, (foundAt_iff.mp h).2⟩

theorem FoundAt.answer_ne {n : ℕ} (h : FoundAt respond capacity port n) :
    answer respond capacity n ≠ none := by
  obtain ⟨response, hresponse, -⟩ := h
  rw [Option.mem_def.mp hresponse]
  exact Option.some_ne_none response

/-! ## `cxl_ide_query_port_index` -/

/-- The search ends: at a port that matches, or when the index passes the last `max_port_index`
reported. -/
def CxlEnds (respond : Responder) (capacity : ℕ) (port : IdePort) : Prop :=
  target respond capacity port 0 ∨
    ∃ n, lastMax respond capacity n < index (n + 1) ∨ target respond capacity port (n + 1)

/-- When a constant `max_port_index` gives the right result. -/
structure CxlFinds (respond : Responder) (capacity : ℕ) (port : IdePort) (m : BitVec 8) :
    Prop where
  /-- The index is not written when the first port matches. -/
  first : target respond capacity port 0 → port.portIndex = 0
  /-- A first call that fails is taken as the only one. -/
  failed : answer respond capacity 0 = none →
    ∀ n ≤ m.toNat, ¬FoundAt respond capacity port n
  /-- A segment from 256 on is compared by its last eight bits. -/
  segment : answer respond capacity 0 ≠ none → ∀ n ≤ m.toNat,
    target respond capacity port n → FoundAt respond capacity port n
  /-- The loop does not end at the largest index. -/
  largest : answer respond capacity 0 ≠ none → m.toNat = 255 →
    ∃ n ≤ m.toNat, FoundAt respond capacity port n

theorem cxl_terminates_iff :
    (∃ result, Returns (cxlIdeQueryPortIndex respond capacity port) result) ↔
      CxlEnds respond capacity port := by
  cases h : target respond capacity port 0 with
  | true =>
      exact iff_of_true ⟨_, Returns.of_forall (cxlIdeQueryPortIndex_of_target h)⟩ (Or.inl h)
  | false =>
      rw [cxlIdeQueryPortIndex_terminates_iff h, CxlEnds, h]
      simp only [Bool.false_eq_true, false_or]
      refine exists_congr fun n => ?_
      rw [cxlExit]
      have hlt : lastMax respond capacity n < index (n + 1) ↔
          ¬(cxlRound respond capacity port n).portIndex ≤
            (cxlRound respond capacity port n).maxPortIndex :=
        BitVec.not_le.symm
      rw [hlt]
      split_ifs with hle htarget
      · simp [htarget]
      · simp [hle, htarget]
      · simp [hle]

theorem cxl_returns_unique {result result' : Bool × Search}
    (h : Returns (cxlIdeQueryPortIndex respond capacity port) result)
    (h' : Returns (cxlIdeQueryPortIndex respond capacity port) result') : result = result' := by
  cases htarget : target respond capacity port 0 with
  | true =>
      rw [returns_iff_of_forall (cxlIdeQueryPortIndex_of_target htarget)] at h h'
      exact h.trans h'.symm
  | false =>
      have hloop : ∀ rounds, cxlIdeQueryPortIndex respond capacity port rounds = _ :=
        cxlIdeQueryPortIndex_of_loop htarget
      simp only [Returns, hloop] at h h'
      exact Iteration.Returns.unique h h'

theorem cxl_returns_of_error (h : answer respond capacity 0 = none) :
    Returns (cxlIdeQueryPortIndex respond capacity port)
      (false, cxlRound respond capacity port 0) := by
  have htarget : target respond capacity port 0 = false := by rw [target, h]; rfl
  refine (cxlIdeQueryPortIndex_returns_iff htarget _).mpr ⟨0, cxlExit_of_error h, ?_⟩
  intro k hk
  exact absurd hk (Nat.not_lt_zero k)

section Constant

variable {m : BitVec 8} (hmax : ReportsMax respond m)

include hmax

/-- The search returns the first port that matches. -/
theorem cxl_returns_of_first {n : ℕ} (h : answer respond capacity 0 ≠ none)
    (hreach : Reaches m (n + 1)) (htarget : target respond capacity port (n + 1))
    (hbefore : ∀ k ≤ n, target respond capacity port k = false) :
    Returns (cxlIdeQueryPortIndex respond capacity port)
      (true, (cxlAsked respond capacity port (n + 1)).setPortIndex) := by
  refine (cxlIdeQueryPortIndex_returns_iff (hbefore 0 (Nat.zero_le n)) _).mpr ⟨n, ?_, ?_⟩
  · rw [cxlExit_of_reaches hmax h hreach, if_pos htarget]
  · intro k hk
    rw [cxlExit_of_reaches hmax h (hreach.of_le (by omega)), hbefore (k + 1) hk]
    rfl

theorem cxl_returns_of_no_target (h : answer respond capacity 0 ≠ none) (hm : m.toNat < 255)
    (hnone : ∀ k ≤ m.toNat, target respond capacity port k = false) :
    Returns (cxlIdeQueryPortIndex respond capacity port)
      (false, cxlRound respond capacity port m.toNat) := by
  refine (cxlIdeQueryPortIndex_returns_iff (hnone 0 (Nat.zero_le _)) _).mpr
    ⟨m.toNat, cxlExit_of_end hmax h hm, ?_⟩
  intro k hk
  rw [cxlExit_of_reaches hmax h (.inl hk), hnone (k + 1) hk]
  rfl

/-- With a port that is reached and matches, the search returns true. -/
theorem cxl_returns_true {n : ℕ} (h : answer respond capacity 0 ≠ none) (hreach : Reaches m n)
    (htarget : target respond capacity port n) :
    ∃ k s, k ≤ n ∧ target respond capacity port k ∧
      (∀ i < k, target respond capacity port i = false) ∧
      Returns (cxlIdeQueryPortIndex respond capacity port) (true, s) ∧
      s.lowerPort.portIndex = if k = 0 then port.portIndex else index k := by
  have hex : ∃ k, target respond capacity port k = true := ⟨n, htarget⟩
  have hle := Nat.find_min' hex htarget
  have hfirst := Nat.find_spec hex
  have hbefore : ∀ i < Nat.find hex, target respond capacity port i = false := fun i hi =>
    Bool.eq_false_iff.mpr (Nat.find_min hex hi)
  cases hk : Nat.find hex with
  | zero =>
      rw [hk] at hfirst
      exact ⟨0, _, Nat.zero_le n, hfirst, by simp,
        Returns.of_forall (cxlIdeQueryPortIndex_of_target hfirst), rfl⟩
  | succ k =>
      rw [hk] at hfirst hle hbefore
      exact ⟨k + 1, _, hle, hfirst, hbefore,
        cxl_returns_of_first hmax h (hreach.of_le hle) hfirst fun i hi =>
          hbefore i (Nat.lt_succ_of_le hi), rfl⟩

/-- With the largest `max_port_index` the search returns at a port that matches only. -/
theorem cxl_target_of_terminates (h : answer respond capacity 0 ≠ none) (hm : m.toNat = 255)
    (hterm : ∃ result, Returns (cxlIdeQueryPortIndex respond capacity port) result) :
    ∃ n, target respond capacity port n := by
  cases htarget : target respond capacity port 0 with
  | true => exact ⟨0, htarget⟩
  | false =>
      obtain ⟨n, hn⟩ := (cxlIdeQueryPortIndex_terminates_iff htarget).mp hterm
      rw [cxlExit_of_reaches hmax h (.inr hm)] at hn
      refine ⟨n + 1, ?_⟩
      by_contra hnot
      exact hn (if_neg hnot)

theorem Correct.cxlFinds (h : Correct respond capacity port
    (cxlIdeQueryPortIndex respond capacity port)) : CxlFinds respond capacity port m where
  first htarget := by
    have hright := h.right m hmax _ _ (Returns.of_forall (cxlIdeQueryPortIndex_of_target htarget))
    obtain ⟨n, -, hfound⟩ := hright.finds.mp rfl
    have hleast := hright.first rfl 0
      ⟨⟨Nat.zero_le _, hfound.of_target htarget⟩, fun _ _ => Nat.zero_le _⟩
    exact BitVec.eq_of_toNat_eq hleast
  failed hnone n hn hfound := by
    have hright : Right respond capacity port m false _ :=
      h.right m hmax _ _ (cxl_returns_of_error hnone)
    exact Bool.false_ne_true (hright.finds.mpr ⟨n, hn, hfound⟩)
  segment hanswer n hn htarget := by
    obtain ⟨k, s, -, -, -, hreturns, -⟩ := cxl_returns_true hmax hanswer (.inl hn) htarget
    obtain ⟨i, -, hfound⟩ := (h.right m hmax _ _ hreturns).finds.mp rfl
    exact hfound.of_target htarget
  largest hanswer hm := by
    obtain ⟨n, htarget⟩ := cxl_target_of_terminates hmax hanswer hm h.terminates
    obtain ⟨k, s, -, -, -, hreturns, -⟩ := cxl_returns_true hmax hanswer (.inr hm) htarget
    exact (h.right m hmax _ _ hreturns).finds.mp rfl

end Constant

theorem cxl_full {ret : Bool} {s : Search}
    (h : Returns (cxlIdeQueryPortIndex respond capacity port) (ret, s)) :
    ∀ q ∈ s.queries, q.ideRegBlockCount = capacity := by
  cases htarget : target respond capacity port 0 with
  | true =>
      rw [returns_iff_of_forall (cxlIdeQueryPortIndex_of_target htarget)] at h
      cases h
      exact fullCalls_full (n := 0)
  | false =>
      obtain ⟨n, hn, -⟩ := (cxlIdeQueryPortIndex_returns_iff htarget _).mp h
      exact cxlExit_queries hn

section Constant

variable {m : BitVec 8} (hmax : ReportsMax respond m)

include hmax

theorem CxlFinds.right_of_found (h : CxlFinds respond capacity port m) {n : ℕ} (hn : n ≤ m.toNat)
    (hfound : FoundAt respond capacity port n) :
    ∃ s, Returns (cxlIdeQueryPortIndex respond capacity port) (true, s) ∧
      Right respond capacity port m true s := by
  have hanswer : answer respond capacity 0 ≠ none := fun hnone => h.failed hnone n hn hfound
  obtain ⟨k, s, hk, htarget, hbefore, hreturns, hindex⟩ :=
    cxl_returns_true hmax hanswer (.inl hn) hfound.target
  refine ⟨s, hreturns, iff_of_true rfl ⟨n, hn, hfound⟩, fun _ i hleast => ?_, cxl_full hreturns⟩
  have hki : k = i := by
    refine le_antisymm ?_ (hleast.2 ⟨hk.trans hn, hfound.of_target htarget⟩)
    by_contra hlt
    have htarget_i := hleast.1.2.target
    rw [hbefore i (Nat.lt_of_not_le hlt)] at htarget_i
    cases htarget_i
  subst hki
  rw [hindex]
  split_ifs with hzero
  · subst hzero
    rw [h.first htarget]
    rfl
  · exact index_toNat_of_le (hk.trans hn)

theorem CxlFinds.right_of_not_found (h : CxlFinds respond capacity port m)
    (hnone : ¬∃ n ≤ m.toNat, FoundAt respond capacity port n) :
    ∃ s, Returns (cxlIdeQueryPortIndex respond capacity port) (false, s) ∧
      Right respond capacity port m false s := by
  have hreturns : ∃ s, Returns (cxlIdeQueryPortIndex respond capacity port) (false, s) := by
    by_cases hanswer : answer respond capacity 0 = none
    · exact ⟨_, cxl_returns_of_error hanswer⟩
    · have hm : m.toNat < 255 := by
        have hlt := m.isLt
        by_contra hge
        exact hnone (h.largest hanswer (by omega))
      refine ⟨_, cxl_returns_of_no_target hmax hanswer hm fun k hk => ?_⟩
      exact Bool.eq_false_iff.mpr fun htarget => hnone ⟨k, hk, h.segment hanswer k hk htarget⟩
  obtain ⟨s, hs⟩ := hreturns
  exact ⟨s, hs, iff_of_false Bool.false_ne_true hnone, fun h => absurd h Bool.false_ne_true,
    cxl_full hs⟩

end Constant

theorem cxl_correct_iff :
    Correct respond capacity port (cxlIdeQueryPortIndex respond capacity port) ↔
      CxlEnds respond capacity port ∧
        ∀ m, ReportsMax respond m → CxlFinds respond capacity port m := by
  constructor
  · intro h
    exact ⟨cxl_terminates_iff.mp h.terminates, fun m hmax => h.cxlFinds hmax⟩
  · rintro ⟨hends, hfinds⟩
    refine ⟨cxl_terminates_iff.mpr hends, fun m hmax ret s hreturns => ?_⟩
    by_cases hfound : ∃ n ≤ m.toNat, FoundAt respond capacity port n
    · obtain ⟨n, hn, hfound_n⟩ := hfound
      obtain ⟨s', hs', hright⟩ := (hfinds m hmax).right_of_found hmax hn hfound_n
      cases cxl_returns_unique hreturns hs'
      exact hright
    · obtain ⟨s', hs', hright⟩ := (hfinds m hmax).right_of_not_found hmax hfound
      cases cxl_returns_unique hreturns hs'
      exact hright

end TeeIoValidator.PortQuery
