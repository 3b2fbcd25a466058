import TeeIoValidator.Model.PortQuery

/-! # The runs of the two searches for a port index -/

namespace TeeIoValidator.PortQuery

variable {respond : Responder} {capacity : ℕ} {port : IdePort}

/-- A search returns when some number of rounds suffices. -/
def Returns (search : ℕ → Option (Bool × Search)) (result : Bool × Search) : Prop :=
  ∃ rounds, search rounds = some result

theorem Returns.of_forall {search : ℕ → Option (Bool × Search)} {result : Bool × Search}
    (h : ∀ rounds, search rounds = some result) : Returns search result :=
  ⟨0, h 0⟩

theorem returns_iff_of_forall {search : ℕ → Option (Bool × Search)} {result result' : Bool × Search}
    (h : ∀ rounds, search rounds = some result) :
    Returns search result' ↔ result' = result := by
  constructor
  · rintro ⟨rounds, hrounds⟩
    rw [h rounds] at hrounds
    exact (Option.some.inj hrounds).symm
  · rintro rfl
    exact Returns.of_forall h

/-- The index of a call: a `uint8_t`. -/
def index (n : ℕ) : BitVec 8 := BitVec.ofNat 8 n

theorem index_toNat (n : ℕ) : (index n).toNat = n % 256 := BitVec.toNat_ofNat n 8

theorem index_toNat_of_le {n : ℕ} {m : BitVec 8} (h : n ≤ m.toNat) : (index n).toNat = n := by
  have hm := m.isLt
  rw [index_toNat]
  omega

theorem index_add_one (n : ℕ) : index n + 1 = index (n + 1) := by
  rw [index, index, BitVec.ofNat_add]
  rfl

/-! ## `ide_query_port_index` -/

section Ide

variable (respond capacity port)

/-- The first `n + 1` calls of a search that goes on: each is given the count that the one before
has left. -/
def ideCalls : ℕ → List Query
  | 0 => [⟨0, capacity⟩]
  | n + 1 =>
    ideCalls n ++
      [⟨index (n + 1), (respond (ideCalls n)).elim capacity QueryResponse.ideRegBlockCount⟩]

def ideAnswer (n : ℕ) : Option QueryResponse := respond (ideCalls respond capacity n)

def ideTarget (n : ℕ) : Bool := (ideAnswer respond capacity n).any fun r => r.isTarget port

/-- The last index that is the target, before the search the port's own one. -/
def ideLast : ℕ → Bool × BitVec 8
  | 0 => (false, port.portIndex)
  | n + 1 => if ideTarget respond capacity port (n + 1) then (true, index (n + 1)) else ideLast n

/-- The state at the start of round `n`. -/
def ideRound (n : ℕ) : Search where
  queries := ideCalls respond capacity n
  ideRegBlockCount := (ideAnswer respond capacity n).elim capacity QueryResponse.ideRegBlockCount
  maxPortIndex := (ideAnswer respond capacity n).elim 0 QueryResponse.maxPortIndex
  portIndex := index (n + 1)
  found := (ideLast respond capacity port n).1
  lowerPort := { port with portIndex := (ideLast respond capacity port n).2 }

/-- A call that fails in round `n`. -/
def ideFailed (n : ℕ) : Search :=
  { ideRound respond capacity port n with queries := ideCalls respond capacity (n + 1) }

def ideExit (n : ℕ) : Option (Bool × Search) :=
  let s := ideRound respond capacity port n
  if s.portIndex.toNat < s.maxPortIndex.toNat + 1 then
    if (ideAnswer respond capacity (n + 1)).isNone then
      some (false, ideFailed respond capacity port n)
    else none
  else some (s.found, s)

variable {respond capacity port}

theorem query_ideRound (n : ℕ) : query respond (ideRound respond capacity port n) =
    match ideAnswer respond capacity (n + 1) with
    | none => (none, ideFailed respond capacity port n)
    | some response =>
      (some response, { ideFailed respond capacity port n with
        maxPortIndex := response.maxPortIndex
        ideRegBlockCount := response.ideRegBlockCount }) :=
  rfl

theorem ideRound_succ {n : ℕ} {response : QueryResponse}
    (h : ideAnswer respond capacity (n + 1) = some response) :
    ideRound respond capacity port (n + 1) =
      let s := { ideFailed respond capacity port n with
        maxPortIndex := response.maxPortIndex
        ideRegBlockCount := response.ideRegBlockCount }
      let s := if response.isTarget port then { s.setPortIndex with found := true } else s
      { s with portIndex := s.portIndex + 1 } := by
  have htarget : ideTarget respond capacity port (n + 1) = response.isTarget port := by
    rw [ideTarget, h, Option.any_some]
  cases ht : response.isTarget port with
  | false =>
      simp [ideRound, ideFailed, ideLast, htarget, ht, h]
      exact (index_add_one (n + 1)).symm
  | true =>
      simp [ideRound, ideFailed, ideLast, htarget, ht, h, Search.setPortIndex]
      exact (index_add_one (n + 1)).symm

theorem ideRound_unrolls : Iteration.Unrolls (ideQueryRound respond)
    (ideRound respond capacity port) (ideExit respond capacity port) := by
  intro n
  rw [ideQueryRound, ideExit]
  by_cases hle : (ideRound respond capacity port n).portIndex.toNat <
      (ideRound respond capacity port n).maxPortIndex.toNat + 1
  · rw [if_pos hle, if_pos hle, query_ideRound]
    cases h : ideAnswer respond capacity (n + 1) with
    | none => rfl
    | some response =>
        rw [ideRound_succ h]
        rfl
  · rw [if_neg hle, if_neg hle]

/-! ### How it returns -/

/-- After a first call that fails. -/
def ideStart (respond : Responder) (capacity : ℕ) (port : IdePort) : Search :=
  { start capacity port with queries := ideCalls respond capacity 0 }

theorem query_start : query respond (start capacity port) =
    match ideAnswer respond capacity 0 with
    | none => (none, ideStart respond capacity port)
    | some response =>
      (some response, { ideStart respond capacity port with
        maxPortIndex := response.maxPortIndex
        ideRegBlockCount := response.ideRegBlockCount }) :=
  rfl

theorem ideQueryPortIndex_of_error (h : ideAnswer respond capacity 0 = none) (rounds : ℕ) :
    ideQueryPortIndex respond capacity port rounds =
      some (false, ideStart respond capacity port) := by
  rw [ideQueryPortIndex, query_start, h]

theorem ideQueryPortIndex_of_target {response : QueryResponse}
    (h : ideAnswer respond capacity 0 = some response) (htarget : response.isTarget port)
    (rounds : ℕ) :
    ideQueryPortIndex respond capacity port rounds =
      some (true, { ideStart respond capacity port with
        maxPortIndex := response.maxPortIndex
        ideRegBlockCount := response.ideRegBlockCount
        found := true
        lowerPort := { port with portIndex := 0 } }) := by
  rw [ideQueryPortIndex, query_start, h]
  simp only [htarget, if_true]
  rfl

/-- The loop is not entered when there is one port only. -/
theorem ideQueryPortIndex_of_single {response : QueryResponse}
    (h : ideAnswer respond capacity 0 = some response) (htarget : response.isTarget port = false)
    (hmax : response.maxPortIndex = 0) (rounds : ℕ) :
    ideQueryPortIndex respond capacity port rounds =
      some (false, { ideStart respond capacity port with
        ideRegBlockCount := response.ideRegBlockCount }) := by
  rw [ideQueryPortIndex, query_start, h]
  simp only [htarget, hmax]
  rfl

theorem ideQueryPortIndex_of_loop {response : QueryResponse}
    (h : ideAnswer respond capacity 0 = some response) (htarget : response.isTarget port = false)
    (hmax : response.maxPortIndex ≠ 0) (rounds : ℕ) :
    ideQueryPortIndex respond capacity port rounds =
      Iteration.run (ideQueryRound respond) rounds (ideRound respond capacity port 0) := by
  have hpos : 0 < response.maxPortIndex := (BitVec.pos_iff_ne_zero _).mpr hmax
  have hround : ideRound respond capacity port 0 =
      { ideStart respond capacity port with
        maxPortIndex := response.maxPortIndex
        ideRegBlockCount := response.ideRegBlockCount
        portIndex := 1 } := by
    rw [ideRound, h]
    rfl
  rw [ideQueryPortIndex, query_start, h, hround]
  simp only [htarget, hpos, if_true, Bool.false_eq_true, if_false]

/-! ### With a constant `max_port_index` -/

/-- Every response reports `m`. -/
def ReportsMax (respond : Responder) (m : BitVec 8) : Prop :=
  ∀ queries response, respond queries = some response → response.maxPortIndex = m

/-- The loop up to `m` reaches the call: it does not end when `m` is the largest `uint8_t`. -/
def Reaches (m : BitVec 8) (n : ℕ) : Prop := n ≤ m.toNat ∨ m.toNat = 255

theorem Reaches.of_le {m : BitVec 8} {n k : ℕ} (h : Reaches m n) (hle : k ≤ n) : Reaches m k :=
  h.imp_left hle.trans

theorem Reaches.index_le {m : BitVec 8} {n : ℕ} (h : Reaches m n) : (index n).toNat ≤ m.toNat := by
  rw [index_toNat]
  rcases h with h | h
  · exact (Nat.mod_le n 256).trans h
  · omega

section Constant

variable {m : BitVec 8} (hmax : ReportsMax respond m)

include hmax

theorem ideRound_maxPortIndex {n : ℕ} (h : ideAnswer respond capacity n ≠ none) :
    (ideRound respond capacity port n).maxPortIndex = m := by
  obtain ⟨response, hresponse⟩ := Option.ne_none_iff_exists'.mp h
  rw [ideRound, hresponse]
  exact hmax _ _ hresponse

/-- The loop goes on with the next port. -/
theorem ideRound_portIndex_lt {n : ℕ} (h : ideAnswer respond capacity n ≠ none)
    (hreach : Reaches m (n + 1)) :
    (ideRound respond capacity port n).portIndex.toNat <
      (ideRound respond capacity port n).maxPortIndex.toNat + 1 := by
  have hle := hreach.index_le
  rw [ideRound_maxPortIndex hmax h]
  exact Nat.lt_succ_of_le hle

theorem ideExit_eq_none {n : ℕ} (h : ideAnswer respond capacity n ≠ none)
    (h' : ideAnswer respond capacity (n + 1) ≠ none) (hreach : Reaches m (n + 1)) :
    ideExit respond capacity port n = none := by
  rw [ideExit, if_pos (ideRound_portIndex_lt hmax h hreach), if_neg (by simpa using h')]

theorem ideExit_of_error {n : ℕ} (h : ideAnswer respond capacity n ≠ none)
    (h' : ideAnswer respond capacity (n + 1) = none) (hreach : Reaches m (n + 1)) :
    ideExit respond capacity port n = some (false, ideFailed respond capacity port n) := by
  rw [ideExit, if_pos (ideRound_portIndex_lt hmax h hreach), if_pos (by simp [h'])]

theorem ideExit_of_end (h : ideAnswer respond capacity m.toNat ≠ none) (hm : m.toNat < 255) :
    ideExit respond capacity port m.toNat =
      some ((ideLast respond capacity port m.toNat).1, ideRound respond capacity port m.toNat) := by
  have hge : ¬(ideRound respond capacity port m.toNat).portIndex.toNat <
      (ideRound respond capacity port m.toNat).maxPortIndex.toNat + 1 := by
    have hindex : (ideRound respond capacity port m.toNat).portIndex.toNat = m.toNat + 1 := by
      rw [ideRound, index_toNat]
      omega
    rw [ideRound_maxPortIndex hmax h, hindex]
    exact Nat.lt_irrefl _
  rw [ideExit, if_neg hge]
  rfl

/-- The loop is left with a failure at the first call that fails. -/
theorem ideQueryPortIndex_returns_of_error {response : QueryResponse} {n : ℕ}
    (h : ideAnswer respond capacity 0 = some response) (htarget : response.isTarget port = false)
    (hm : m ≠ 0) (hreach : Reaches m (n + 1))
    (hbefore : ∀ i ≤ n, ideAnswer respond capacity i ≠ none)
    (hn : ideAnswer respond capacity (n + 1) = none) :
    Returns (ideQueryPortIndex respond capacity port)
      (false, ideFailed respond capacity port n) := by
  have hloop := ideQueryPortIndex_of_loop h htarget (by rw [hmax _ _ h]; exact hm)
  have hreturns : Iteration.Returns (ideQueryRound respond) (ideRound respond capacity port 0)
      (false, ideFailed respond capacity port n) := (ideRound_unrolls.returns_iff _).mpr
    ⟨n, ideExit_of_error hmax (hbefore n le_rfl) hn hreach, fun k hk =>
      ideExit_eq_none hmax (hbefore k hk.le) (hbefore (k + 1) hk) (hreach.of_le (by omega))⟩
  obtain ⟨rounds, hrounds⟩ := hreturns
  exact ⟨rounds, (hloop rounds).trans hrounds⟩

theorem ideQueryPortIndex_returns_of_end {response : QueryResponse}
    (h : ideAnswer respond capacity 0 = some response) (htarget : response.isTarget port = false)
    (hm : m ≠ 0) (hlt : m.toNat < 255)
    (hall : ∀ i ≤ m.toNat, ideAnswer respond capacity i ≠ none) :
    Returns (ideQueryPortIndex respond capacity port)
      ((ideLast respond capacity port m.toNat).1, ideRound respond capacity port m.toNat) := by
  have hloop := ideQueryPortIndex_of_loop h htarget (by rw [hmax _ _ h]; exact hm)
  have hreturns : Iteration.Returns (ideQueryRound respond) (ideRound respond capacity port 0)
      ((ideLast respond capacity port m.toNat).1, ideRound respond capacity port m.toNat) :=
    (ideRound_unrolls.returns_iff _).mpr
    ⟨m.toNat, ideExit_of_end hmax (hall _ le_rfl) hlt, fun k hk =>
      ideExit_eq_none hmax (hall k hk.le) (hall (k + 1) hk) (.inl hk)⟩
  obtain ⟨rounds, hrounds⟩ := hreturns
  exact ⟨rounds, (hloop rounds).trans hrounds⟩

end Constant

/-- It does not return when every call succeeds and the loop goes on after each. -/
theorem ideQueryPortIndex_returns_iff_loop {response : QueryResponse}
    (h : ideAnswer respond capacity 0 = some response) (htarget : response.isTarget port = false)
    (hmax : response.maxPortIndex ≠ 0) :
    (∃ result, Returns (ideQueryPortIndex respond capacity port) result) ↔
      ∃ n, ideExit respond capacity port n ≠ none := by
  have hloop := ideQueryPortIndex_of_loop h htarget hmax
  rw [← ideRound_unrolls.terminates_iff]
  exact exists_congr fun result => exists_congr fun rounds => by rw [hloop rounds]

end Ide

end TeeIoValidator.PortQuery
