import TeeIoValidator.Verification.PortQuery.Runs

/-! ## `cxl_ide_query_port_index` -/

namespace TeeIoValidator.PortQuery

section Cxl

variable (respond : Responder) (capacity : ℕ) (port : IdePort)

/-- The first `n + 1` calls of a search that asks for every index with room for a full block. -/
def fullCalls : ℕ → List Query
  | 0 => [⟨0, capacity⟩]
  | n + 1 => fullCalls n ++ [⟨index (n + 1), capacity⟩]

def answer (n : ℕ) : Option QueryResponse := respond (fullCalls capacity n)

def target (n : ℕ) : Bool := (answer respond capacity n).any fun r => r.isTarget port

/-- The last `max_port_index` reported; zero before there is one. -/
def lastMax : ℕ → BitVec 8
  | 0 => (answer respond capacity 0).elim 0 QueryResponse.maxPortIndex
  | n + 1 => (answer respond capacity (n + 1)).elim (lastMax n) QueryResponse.maxPortIndex

/-- The state at the start of round `n`. -/
def cxlRound (n : ℕ) : Search where
  queries := fullCalls capacity n
  ideRegBlockCount := (answer respond capacity n).elim capacity QueryResponse.ideRegBlockCount
  maxPortIndex := lastMax respond capacity n
  portIndex := index (n + 1)
  found := false
  lowerPort := port

/-- After call `n`, before the index is increased. -/
def cxlAsked (n : ℕ) : Search := { cxlRound respond capacity port n with portIndex := index n }

def cxlExit (n : ℕ) : Option (Bool × Search) :=
  let s := cxlRound respond capacity port n
  if s.portIndex ≤ s.maxPortIndex then
    if target respond capacity port (n + 1) then
      some (true, (cxlAsked respond capacity port (n + 1)).setPortIndex)
    else none
  else some (false, s)

variable {respond capacity port}

theorem doQueryPortIndex_start : doQueryPortIndex respond capacity (start capacity port) =
    (target respond capacity port 0, cxlAsked respond capacity port 0) := by
  cases h : answer respond capacity 0 with
  | none =>
      have h' : respond ([] ++ [⟨0, capacity⟩]) = none := h
      simp only [doQueryPortIndex, start, query, h', target, cxlAsked, cxlRound, lastMax, h]
      rfl
  | some response =>
      have h' : respond ([] ++ [⟨0, capacity⟩]) = some response := h
      simp only [doQueryPortIndex, start, query, h', target, cxlAsked, cxlRound, lastMax, h]
      rfl

theorem doQueryPortIndex_cxlRound (n : ℕ) :
    doQueryPortIndex respond capacity (cxlRound respond capacity port n) =
      (target respond capacity port (n + 1), cxlAsked respond capacity port (n + 1)) := by
  cases h : answer respond capacity (n + 1) with
  | none =>
      have h' : respond (fullCalls capacity n ++ [⟨index (n + 1), capacity⟩]) = none := h
      simp only [doQueryPortIndex, query, target, cxlAsked, cxlRound, h, h', lastMax]
      rfl
  | some response =>
      have h' : respond (fullCalls capacity n ++ [⟨index (n + 1), capacity⟩]) = some response := h
      simp only [doQueryPortIndex, query, target, cxlAsked, cxlRound, h, h', lastMax]
      rfl

theorem cxlRound_succ (n : ℕ) : cxlRound respond capacity port (n + 1) =
    { cxlAsked respond capacity port (n + 1) with
      portIndex := (cxlAsked respond capacity port (n + 1)).portIndex + 1 } := by
  have hindex : (cxlAsked respond capacity port (n + 1)).portIndex + 1 = index (n + 1 + 1) :=
    index_add_one (n + 1)
  rw [hindex]
  rfl

theorem cxlRound_unrolls : Iteration.Unrolls (cxlIdeQueryRound respond capacity)
    (cxlRound respond capacity port) (cxlExit respond capacity port) := by
  intro n
  rw [cxlIdeQueryRound, cxlExit, doQueryPortIndex_cxlRound, cxlRound_succ]
  by_cases hle : (cxlRound respond capacity port n).portIndex ≤
      (cxlRound respond capacity port n).maxPortIndex
  · rw [if_pos hle, if_pos hle]
    cases htarget : target respond capacity port (n + 1) with
    | false => rfl
    | true => rfl
  · rw [if_neg hle, if_neg hle]

/-! ### How it returns -/

theorem cxlIdeQueryPortIndex_of_target (h : target respond capacity port 0) (rounds : ℕ) :
    cxlIdeQueryPortIndex respond capacity port rounds =
      some (true, cxlAsked respond capacity port 0) := by
  rw [cxlIdeQueryPortIndex, doQueryPortIndex_start, h]

theorem cxlIdeQueryPortIndex_of_loop (h : target respond capacity port 0 = false) (rounds : ℕ) :
    cxlIdeQueryPortIndex respond capacity port rounds =
      Iteration.run (cxlIdeQueryRound respond capacity) rounds
        (cxlRound respond capacity port 0) := by
  rw [cxlIdeQueryPortIndex, doQueryPortIndex_start, h]
  rfl

theorem cxlIdeQueryPortIndex_returns_iff (h : target respond capacity port 0 = false)
    (result : Bool × Search) :
    Returns (cxlIdeQueryPortIndex respond capacity port) result ↔
      ∃ n, cxlExit respond capacity port n = some result ∧
        ∀ k < n, cxlExit respond capacity port k = none := by
  rw [← cxlRound_unrolls.returns_iff]
  exact exists_congr fun rounds => by rw [cxlIdeQueryPortIndex_of_loop h]

theorem cxlIdeQueryPortIndex_terminates_iff (h : target respond capacity port 0 = false) :
    (∃ result, Returns (cxlIdeQueryPortIndex respond capacity port) result) ↔
      ∃ n, cxlExit respond capacity port n ≠ none := by
  rw [← cxlRound_unrolls.terminates_iff]
  exact exists_congr fun result => exists_congr fun rounds => by
    rw [cxlIdeQueryPortIndex_of_loop h]

/-- Every call has room for a full block. -/
theorem fullCalls_full {n : ℕ} : ∀ q ∈ fullCalls capacity n, q.ideRegBlockCount = capacity := by
  induction n with
  | zero => simp [fullCalls]
  | succ n ih =>
      intro q hq
      rw [fullCalls, List.mem_append, List.mem_singleton] at hq
      rcases hq with hq | rfl
      · exact ih q hq
      · rfl

theorem cxlExit_queries {n : ℕ} {ret : Bool} {s : Search}
    (h : cxlExit respond capacity port n = some (ret, s)) :
    ∀ q ∈ s.queries, q.ideRegBlockCount = capacity := by
  rw [cxlExit] at h
  split at h
  · split at h
    · cases h
      exact fullCalls_full (n := n + 1)
    · cases h
  · cases h
    exact fullCalls_full (n := n)

/-! ### With a constant `max_port_index` -/

section Constant

variable {m : BitVec 8} (hmax : ReportsMax respond m)

include hmax

theorem lastMax_eq (h : answer respond capacity 0 ≠ none) (n : ℕ) :
    lastMax respond capacity n = m := by
  induction n with
  | zero =>
      obtain ⟨response, hresponse⟩ := Option.ne_none_iff_exists'.mp h
      rw [lastMax, hresponse]
      exact hmax _ _ hresponse
  | succ n ih =>
      rw [lastMax]
      cases hn : answer respond capacity (n + 1) with
      | none => exact ih
      | some response => exact hmax _ _ hn

theorem cxlExit_of_reaches (h : answer respond capacity 0 ≠ none) {n : ℕ}
    (hreach : Reaches m (n + 1)) :
    cxlExit respond capacity port n =
      if target respond capacity port (n + 1) then
        some (true, (cxlAsked respond capacity port (n + 1)).setPortIndex)
      else none := by
  have hle : (cxlRound respond capacity port n).portIndex ≤
      (cxlRound respond capacity port n).maxPortIndex := by
    rw [show (cxlRound respond capacity port n).maxPortIndex = m from lastMax_eq hmax h n]
    exact hreach.index_le
  rw [cxlExit, if_pos hle]

theorem cxlExit_of_end (h : answer respond capacity 0 ≠ none) (hm : m.toNat < 255) :
    cxlExit respond capacity port m.toNat =
      some (false, cxlRound respond capacity port m.toNat) := by
  have hgt : ¬(cxlRound respond capacity port m.toNat).portIndex ≤
      (cxlRound respond capacity port m.toNat).maxPortIndex := by
    rw [show (cxlRound respond capacity port m.toNat).maxPortIndex = m from lastMax_eq hmax h _,
      BitVec.le_def, cxlRound, index_toNat]
    omega
  rw [cxlExit, if_neg hgt]

end Constant

/-- The loop is not entered when the first call fails. -/
theorem cxlExit_of_error (h : answer respond capacity 0 = none) :
    cxlExit respond capacity port 0 = some (false, cxlRound respond capacity port 0) := by
  have hgt : ¬(cxlRound respond capacity port 0).portIndex ≤
      (cxlRound respond capacity port 0).maxPortIndex := by
    rw [show (cxlRound respond capacity port 0).maxPortIndex = 0 by rw [cxlRound, lastMax, h]; rfl]
    exact show ¬index 1 ≤ 0 by decide
  rw [cxlExit, if_neg hgt]

end Cxl

end TeeIoValidator.PortQuery
