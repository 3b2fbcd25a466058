import TeeIoValidator.Verification.PortQuery.Correctness

/-! ## `ide_query_port_index` -/

namespace TeeIoValidator.PortQuery

variable {respond : Responder} {capacity : ℕ} {port : IdePort}

/-- The response fills the register block, so that the next call has room for a full one. -/
def FullBlock (respond : Responder) (capacity : ℕ) (n : ℕ) : Prop :=
  ∃ response ∈ answer respond capacity n, response.ideRegBlockCount = capacity

/-- The search ends: at a first port that matches, at a call that fails, or when the index passes
the `max_port_index` reported last. -/
def IdeEnds (respond : Responder) (capacity : ℕ) (port : IdePort) : Prop :=
  target respond capacity port 0 ∨
    ∃ n, ∀ response ∈ ideAnswer respond capacity n, response.maxPortIndex < index (n + 1)

/-- When a constant `max_port_index` gives the right result. -/
inductive IdeFinds (respond : Responder) (capacity : ℕ) (port : IdePort) (m : BitVec 8) : Prop
  | first (found : FoundAt respond capacity port 0)
  | single (no_target : target respond capacity port 0 = false) (only : m = 0)
  /-- A call that fails ends the search without a port. -/
  | failed (n : ℕ) (no_target : target respond capacity port 0 = false) (reaches : Reaches m n)
      (error : answer respond capacity n = none)
      (full : ∀ k < n, FullBlock respond capacity k)
      (not_found : ∀ k ≤ m.toNat, ¬FoundAt respond capacity port k)
  /-- The last port that matches is taken. -/
  | all (no_target : target respond capacity port 0 = false) (smaller : m.toNat < 255)
      (succeed : ∀ k ≤ m.toNat, answer respond capacity k ≠ none)
      (full : ∀ k < m.toNat, FullBlock respond capacity k)
      (segment : ∀ k ≤ m.toNat, target respond capacity port k → FoundAt respond capacity port k)
      (unique : ∀ k ≤ m.toNat, ∀ i ≤ m.toNat, target respond capacity port k →
        target respond capacity port i → k = i)

/-! ### Calls with room for a full block -/

theorem ideCalls_succ_of_full {n : ℕ} (h : ideCalls respond capacity n = fullCalls capacity n)
    (hfull : FullBlock respond capacity n) :
    ideCalls respond capacity (n + 1) = fullCalls capacity (n + 1) := by
  obtain ⟨response, hresponse, hcount⟩ := hfull
  have hresponse' : respond (fullCalls capacity n) = some response := hresponse
  rw [ideCalls, fullCalls, h, hresponse', Option.elim_some, hcount]

theorem ideCalls_eq {n : ℕ} (h : ∀ k < n, FullBlock respond capacity k) :
    ideCalls respond capacity n = fullCalls capacity n := by
  induction n with
  | zero => rfl
  | succ n ih =>
      exact ideCalls_succ_of_full (ih fun k hk => h k (Nat.lt_succ_of_lt hk)) (h n n.lt_succ_self)

theorem ideAnswer_eq {n : ℕ} (h : ∀ k < n, FullBlock respond capacity k) :
    ideAnswer respond capacity n = answer respond capacity n := by
  rw [ideAnswer, ideCalls_eq h, answer]

/-- When each call had room for a full block, each response before filled it. -/
theorem fullBlock_of_ideCalls {n : ℕ}
    (h : ∀ q ∈ ideCalls respond capacity n, q.ideRegBlockCount = capacity)
    (hanswer : ∀ k < n, ideAnswer respond capacity k ≠ none) :
    ∀ k < n, FullBlock respond capacity k := by
  induction n with
  | zero => simp
  | succ n ih =>
      rw [ideCalls, List.forall_mem_append] at h
      have hfull := ih h.1 fun k hk => hanswer k (Nat.lt_succ_of_lt hk)
      intro k hk
      rcases Nat.lt_succ_iff_lt_or_eq.mp hk with hlt | rfl
      · exact hfull k hlt
      · obtain ⟨response, hresponse⟩ := Option.ne_none_iff_exists'.mp (hanswer k k.lt_succ_self)
        refine ⟨response, (ideAnswer_eq hfull).symm.trans hresponse, ?_⟩
        have hcount := List.forall_mem_singleton.mp h.2
        have hresponse' : respond (ideCalls respond capacity k) = some response := hresponse
        rwa [hresponse'] at hcount

theorem ideTarget_eq {n : ℕ} (h : ∀ k < n, FullBlock respond capacity k) :
    ideTarget respond capacity port n = target respond capacity port n := by
  rw [ideTarget, ideAnswer_eq h, target]

theorem ideCalls_full {n : ℕ} (h : ∀ k < n, FullBlock respond capacity k) :
    ∀ q ∈ ideCalls respond capacity n, q.ideRegBlockCount = capacity := by
  rw [ideCalls_eq h]
  exact fullCalls_full

/-! ### The port taken -/

/-- Some port is taken when one matches. -/
theorem ideLast_fst_iff {n : ℕ} : (ideLast respond capacity port n).1 = true ↔
    ∃ k, k ≠ 0 ∧ k ≤ n ∧ ideTarget respond capacity port k := by
  induction n with
  | zero => simp [ideLast]
  | succ n ih =>
      rw [ideLast]
      split_ifs with htarget
      · simp only [true_iff]
        exact ⟨n + 1, n.succ_ne_zero, le_rfl, htarget⟩
      · rw [ih]
        constructor
        · rintro ⟨k, hne, hk, h⟩
          exact ⟨k, hne, Nat.le_succ_of_le hk, h⟩
        · rintro ⟨k, hne, hk, h⟩
          refine ⟨k, hne, Nat.le_of_lt_succ (lt_of_le_of_ne hk ?_), h⟩
          rintro rfl
          exact htarget h

/-- The port taken is the last that matches. -/
theorem ideLast_of_true {n : ℕ} (h : (ideLast respond capacity port n).1 = true) :
    ∃ k, k ≤ n ∧ ideTarget respond capacity port k ∧
      (∀ i, k < i → i ≤ n → ideTarget respond capacity port i = false) ∧
      (ideLast respond capacity port n).2 = index k := by
  induction n with
  | zero => cases h
  | succ n ih =>
      rw [ideLast] at h ⊢
      split_ifs at h ⊢ with htarget
      · exact ⟨n + 1, le_rfl, htarget, fun i hlt hle => absurd hlt (Nat.not_lt_of_le hle), rfl⟩
      · obtain ⟨k, hk, htarget_k, hlast, hindex⟩ := ih h
        refine ⟨k, Nat.le_succ_of_le hk, htarget_k, fun i hlt hle => ?_, hindex⟩
        rcases Nat.le_succ_iff.mp hle with hle | rfl
        · exact hlast i hlt hle
        · exact Bool.eq_false_iff.mpr htarget

/-! ### Termination -/

theorem ide_exit_ne_iff {n : ℕ} : ideExit respond capacity port n ≠ none ↔
    ¬index (n + 1) ≤ (ideRound respond capacity port n).maxPortIndex ∨
      ideAnswer respond capacity (n + 1) = none := by
  have hle : (ideRound respond capacity port n).portIndex.toNat <
      (ideRound respond capacity port n).maxPortIndex.toNat + 1 ↔
      index (n + 1) ≤ (ideRound respond capacity port n).maxPortIndex :=
    Nat.lt_succ_iff
  rw [ideExit]
  simp only [hle]
  split_ifs with h h'
  · simp [Option.isNone_iff_eq_none.mp h']
  · simp [h, Option.isNone_iff_eq_none.not.mp h']
  · simp [h]

/-- A loop that ends does so at a call that fails or after the last index. -/
theorem exists_ideExit_ne_iff (h : ideAnswer respond capacity 0 ≠ none) :
    (∃ n, ideExit respond capacity port n ≠ none) ↔
      ∃ n, ∀ response ∈ ideAnswer respond capacity n, response.maxPortIndex < index (n + 1) := by
  simp only [ide_exit_ne_iff]
  constructor
  · rintro ⟨n, hmax | herror⟩
    · refine ⟨n, fun response hresponse => ?_⟩
      rw [ideRound, Option.mem_def.mp hresponse, BitVec.not_le] at hmax
      exact hmax
    · exact ⟨n + 1, by simp [herror]⟩
  · rintro ⟨n, hn⟩
    cases hanswer : ideAnswer respond capacity n with
    | none =>
        cases n with
        | zero => exact absurd hanswer h
        | succ n => exact ⟨n, Or.inr hanswer⟩
    | some response =>
        refine ⟨n, Or.inl ?_⟩
        rw [ideRound, hanswer, BitVec.not_le]
        exact hn response hanswer

theorem ide_terminates_iff :
    (∃ result, Returns (ideQueryPortIndex respond capacity port) result) ↔
      IdeEnds respond capacity port := by
  rw [IdeEnds]
  cases hanswer : ideAnswer respond capacity 0 with
  | none =>
      refine iff_of_true ⟨_, Returns.of_forall (ideQueryPortIndex_of_error hanswer)⟩ (.inr ⟨0, ?_⟩)
      simp [hanswer]
  | some response =>
      have htarget_eq : target respond capacity port 0 = response.isTarget port := by
        rw [target, show answer respond capacity 0 = some response from hanswer, Option.any_some]
      rw [htarget_eq]
      cases htarget : response.isTarget port with
      | true =>
          exact iff_of_true ⟨_, Returns.of_forall (ideQueryPortIndex_of_target hanswer htarget)⟩
            (.inl rfl)
      | false =>
          simp only [Bool.false_eq_true, false_or]
          by_cases hmax : response.maxPortIndex = 0
          · refine iff_of_true
              ⟨_, Returns.of_forall (ideQueryPortIndex_of_single hanswer htarget hmax)⟩ ⟨0, ?_⟩
            intro response' hresponse'
            cases hanswer.symm.trans hresponse'
            rw [hmax]
            decide
          · rw [ideQueryPortIndex_returns_iff_loop hanswer htarget hmax,
              exists_ideExit_ne_iff (by simp [hanswer])]

theorem ide_returns_unique {result result' : Bool × Search}
    (h : Returns (ideQueryPortIndex respond capacity port) result)
    (h' : Returns (ideQueryPortIndex respond capacity port) result') : result = result' := by
  cases hanswer : ideAnswer respond capacity 0 with
  | none =>
      rw [returns_iff_of_forall (ideQueryPortIndex_of_error hanswer)] at h h'
      exact h.trans h'.symm
  | some response =>
      cases htarget : response.isTarget port with
      | true =>
          rw [returns_iff_of_forall (ideQueryPortIndex_of_target hanswer htarget)] at h h'
          exact h.trans h'.symm
      | false =>
          by_cases hmax : response.maxPortIndex = 0
          · rw [returns_iff_of_forall (ideQueryPortIndex_of_single hanswer htarget hmax)] at h h'
            exact h.trans h'.symm
          · have hloop := ideQueryPortIndex_of_loop hanswer htarget hmax
            simp only [Returns, hloop] at h h'
            exact Iteration.Returns.unique h h'

end TeeIoValidator.PortQuery
