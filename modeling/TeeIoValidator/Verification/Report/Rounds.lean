import TeeIoValidator.Model.Report

/-! The rounds of the report loop as functions of the replies alone. -/

namespace TeeIoValidator.Report

open Iteration

variable {H : Type*} (P : Protocol H) (replies : ℕ → Reply H) (capacity : ℕ)

/-! ## What the replies determine -/

/-- The bytes received before round `n`. -/
def received : ℕ → ℕ
  | 0 => 0
  | n + 1 => received n + (replies n).portion

/-- The 16-bit offset of round `n`. -/
def offsetAt (n : ℕ) : ℕ := received replies n % 2 ^ 16

/-- The remainder that round `n` starts from. -/
def remainderAt : ℕ → ℕ
  | 0 => 0
  | n + 1 => (replies n).remainder

/-- The total that round `n` starts from: that of the last round whose offset was zero. -/
def totalAt : ℕ → ℕ
  | 0 => 0
  | n + 1 =>
    if offsetAt replies n = 0 then (replies n).portion + (replies n).remainder
    else totalAt n

def requestAt (n : ℕ) : Request H :=
  ⟨P.requestHeader, offsetAt replies n,
    if offsetAt replies n ≠ 0 then min (remainderAt replies n) P.portionLen else P.portionLen⟩

/-- Reply `n` arrives and passes the size check. -/
def Readable (n : ℕ) : Prop :=
  (replies n).error = false ∧ P.sizeAccepted (requestAt P replies n) (replies n) = true

/-- Reply `n` passes every check that stops the loop. -/
structure Accepted (n : ℕ) : Prop where
  readable : Readable P replies n
  fits : offsetAt replies n = 0 →
    (replies n).portion + (replies n).remainder ≤ capacity
  adds_up : offsetAt replies n ≠ 0 →
    totalAt replies n = offsetAt replies n + (replies n).portion + (replies n).remainder

/-- Round `n` goes on to the next one. -/
def Continues (n : ℕ) : Prop := Accepted P replies capacity n ∧ (replies n).remainder ≠ 0

def Reached (n : ℕ) : Prop := ∀ m < n, Continues P replies capacity m

section

variable {P replies capacity}

theorem Reached.mono {m n : ℕ} (h : Reached P replies capacity n) (hle : m ≤ n) :
    Reached P replies capacity m :=
  fun k hk => h k (by omega)

theorem Reached.succ {n : ℕ} (h : Reached P replies capacity n)
    (hn : Continues P replies capacity n) : Reached P replies capacity (n + 1) := by
  intro m hm
  rcases Nat.lt_succ_iff_lt_or_eq.mp hm with hlt | rfl
  · exact h m hlt
  · exact hn

theorem received_mono (replies : ℕ → Reply H) {m n : ℕ} (h : m ≤ n) :
    received replies m ≤ received replies n := by
  induction n, h using Nat.le_induction with
  | base => exact le_rfl
  | succ n _ ih => exact le_trans ih (Nat.le_add_right _ _)

end

/-! ## The body of the loop -/

/-- The state after the assertions and the copy of an accepted reply. -/
def acceptReply (s : State H) (request : Request H) (reply : Reply H) : State H :=
  { round := s.round + 1
    offset := (s.offset + reply.portion) % 2 ^ 16
    remainder := reply.remainder
    total := if s.offset = 0 then reply.portion + reply.remainder else s.total
    size := s.size
    buffer := fun i =>
      if s.offset ≤ i ∧ i < s.offset + reply.portion then reply.report (i - s.offset)
      else s.buffer i
    requests := s.requests ++ [request]
    copies := s.copies ++ [⟨s.offset, reply.portion⟩]
    records := s.records ++ P.opening s.round ++ [.check 1 true P.sizeFormat [reply.size]] ++
      P.checks request reply }

/-- The state in which round `n` starts, provided the loop gets there. -/
def stateAt (buffer : ℕ → UInt8) : ℕ → State H
  | 0 => start capacity buffer
  | n + 1 => acceptReply P (stateAt buffer n) (requestAt P replies n) (replies n)

section

variable (buffer : ℕ → UInt8) (n : ℕ)

@[simp] theorem stateAt_round : (stateAt P replies capacity buffer n).round = n := by
  induction n with
  | zero => rfl
  | succ n ih => simp [stateAt, acceptReply, ih]

@[simp] theorem stateAt_offset :
    (stateAt P replies capacity buffer n).offset = offsetAt replies n := by
  induction n with
  | zero => rfl
  | succ n ih => simp [stateAt, acceptReply, ih, offsetAt, received]

@[simp] theorem stateAt_remainder :
    (stateAt P replies capacity buffer n).remainder = remainderAt replies n := by
  cases n <;> rfl

@[simp] theorem stateAt_total :
    (stateAt P replies capacity buffer n).total = totalAt replies n := by
  induction n with
  | zero => rfl
  | succ n ih => simp [stateAt, acceptReply, ih, totalAt]

@[simp] theorem stateAt_size : (stateAt P replies capacity buffer n).size = capacity := by
  induction n with
  | zero => rfl
  | succ n ih => simp [stateAt, acceptReply, ih]

theorem stateAt_succ : stateAt P replies capacity buffer (n + 1) =
    acceptReply P (stateAt P replies capacity buffer n) (requestAt P replies n) (replies n) :=
  rfl

theorem stateAt_requests : (stateAt P replies capacity buffer n).requests =
    (List.range n).map (requestAt P replies) := by
  induction n with
  | zero => rfl
  | succ n ih => simp [stateAt, acceptReply, ih, List.range_succ]

theorem stateAt_copies : (stateAt P replies capacity buffer n).copies =
    (List.range n).map fun k => ⟨offsetAt replies k, (replies k).portion⟩ := by
  induction n with
  | zero => rfl
  | succ n ih => simp [stateAt, acceptReply, ih, List.range_succ]

end

/-! ## Ways out of a round -/

/-- A round that stops the loop with a failed assertion and copies nothing. -/
structure Stops (s t : State H) (request : Request H) : Prop where
  copies_eq : t.copies = s.copies
  requests_eq : t.requests = s.requests ++ [request]
  failed : ∃ a, t.records.getLast? = some a ∧ a.result = .failed

section

variable {P replies capacity} (buffer : ℕ → UInt8) {n : ℕ}

theorem round_of_accepted (h : Accepted P replies capacity n) :
    round P replies (stateAt P replies capacity buffer n) =
      if (replies n).remainder ≠ 0 then .inl (stateAt P replies capacity buffer (n + 1))
      else .inr (true, { stateAt P replies capacity buffer (n + 1) with
        size := totalAt replies (n + 1) }) := by
  obtain ⟨⟨herr, hsize⟩, hfits, hadds⟩ := h
  have hsmall : ¬ (offsetAt replies n = 0 ∧
      capacity < (replies n).portion + (replies n).remainder) := by
    rintro ⟨hzero, hlt⟩
    have := hfits hzero
    omega
  have hmatch : ¬ (offsetAt replies n ≠ 0 ∧ totalAt replies n ≠
      offsetAt replies n + (replies n).portion + (replies n).remainder) := by
    rintro ⟨hne, hne'⟩
    exact hne' (hadds hne)
  simp only [requestAt] at hsize
  rw [stateAt_succ]
  simp only [round, acceptReply, stateAt_round, stateAt_offset, stateAt_remainder, stateAt_size,
    stateAt_total, State.record, herr, hsize, if_neg hsmall, if_neg hmatch, State.copyPortion,
    Bool.false_eq_true, Bool.not_true, if_false, requestAt, totalAt]

theorem round_of_not_accepted (h : ¬ Accepted P replies capacity n) :
    ∃ t, round P replies (stateAt P replies capacity buffer n) = .inr (false, t) ∧
      Stops (stateAt P replies capacity buffer n) t (requestAt P replies n) := by
  simp only [round, stateAt_round, stateAt_offset, stateAt_remainder, stateAt_size,
    stateAt_total, State.record]
  cases herr : (replies n).error with
  | true =>
      simp only [if_true]
      exact ⟨_, rfl, rfl, rfl, _, List.getLast?_concat, P.sendFailed_result _⟩
  | false =>
      simp only [Bool.false_eq_true, if_false]
      cases hsize : P.sizeAccepted (requestAt P replies n) (replies n) with
      | false =>
          simp only [requestAt] at hsize
          simp only [hsize, Bool.not_false, if_true]
          exact ⟨_, rfl, rfl, rfl, _, List.getLast?_concat, rfl⟩
      | true =>
          have hread : Readable P replies n := ⟨herr, hsize⟩
          simp only [requestAt] at hsize
          simp only [hsize, Bool.not_true, Bool.false_eq_true, if_false]
          by_cases hsmall : offsetAt replies n = 0 ∧
              capacity < (replies n).portion + (replies n).remainder
          · rw [if_pos hsmall]
            exact ⟨_, rfl, rfl, rfl, _, List.getLast?_concat, P.tooSmall_result _⟩
          · rw [if_neg hsmall]
            have hmatch : offsetAt replies n ≠ 0 ∧ totalAt replies n ≠
                offsetAt replies n + (replies n).portion + (replies n).remainder := by
              by_contra hmatch
              refine h ⟨hread, fun hzero => ?_, fun hne => ?_⟩
              · by_contra hlt
                exact hsmall ⟨hzero, by omega⟩
              · by_contra hne'
                exact hmatch ⟨hne, hne'⟩
            rw [if_pos hmatch]
            exact ⟨_, rfl, rfl, rfl, _, List.getLast?_concat, P.mismatch_result _⟩

end

/-- What round `n` returns, if it leaves the loop. -/
def leaveAt (buffer : ℕ → UInt8) (n : ℕ) : Option (Bool × State H) :=
  match round P replies (stateAt P replies capacity buffer n) with
  | .inl _ => none
  | .inr r => some r

section

variable {P replies capacity} (buffer : ℕ → UInt8) {n : ℕ}

theorem leaveAt_eq_none_iff :
    leaveAt P replies capacity buffer n = none ↔ Continues P replies capacity n := by
  unfold leaveAt
  by_cases h : Accepted P replies capacity n
  · rw [round_of_accepted buffer h]
    by_cases hr : (replies n).remainder = 0 <;> simp [hr, Continues, h]
  · obtain ⟨t, ht, -⟩ := round_of_not_accepted buffer h
    rw [ht]
    simp [Continues, h]

theorem leaveAt_of_complete (h : Accepted P replies capacity n)
    (hr : (replies n).remainder = 0) :
    leaveAt P replies capacity buffer n =
      some (true, { stateAt P replies capacity buffer (n + 1) with
        size := totalAt replies (n + 1) }) := by
  unfold leaveAt
  rw [round_of_accepted buffer h]
  simp [hr]

theorem leaveAt_of_not_accepted (h : ¬ Accepted P replies capacity n) :
    ∃ t, leaveAt P replies capacity buffer n = some (false, t) ∧
      Stops (stateAt P replies capacity buffer n) t (requestAt P replies n) := by
  obtain ⟨t, ht, hstop⟩ := round_of_not_accepted buffer h
  exact ⟨t, by simp [leaveAt, ht], hstop⟩

end

theorem round_unrolls (buffer : ℕ → UInt8) :
    Unrolls (round P replies) (stateAt P replies capacity buffer)
      (leaveAt P replies capacity buffer) := by
  intro n
  cases h : leaveAt P replies capacity buffer n with
  | none =>
      obtain ⟨hacc, hr⟩ := (leaveAt_eq_none_iff buffer).mp h
      simp [round_of_accepted buffer hacc, hr]
  | some r =>
      unfold leaveAt at h
      cases hround : round P replies (stateAt P replies capacity buffer n) with
      | inl s => simp [hround] at h
      | inr r' => simpa [hround] using h

section

variable {P replies capacity}

theorem reached_iff (buffer : ℕ → UInt8) (n : ℕ) :
    Reached P replies capacity n ↔ ∀ m < n, leaveAt P replies capacity buffer m = none := by
  simp only [Reached, leaveAt_eq_none_iff]

/-- The results of the loop are those of the first round that leaves it. -/
theorem fetch_returns_iff (buffer : ℕ → UInt8) (r : Bool × State H) :
    (∃ fuel, fetch P replies capacity buffer fuel = some r) ↔
      ∃ n, leaveAt P replies capacity buffer n = some r ∧ Reached P replies capacity n := by
  simp only [reached_iff buffer]
  exact (round_unrolls P replies capacity buffer).returns_iff r

end

end TeeIoValidator.Report
