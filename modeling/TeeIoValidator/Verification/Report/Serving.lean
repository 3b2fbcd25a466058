import TeeIoValidator.Verification.Report.Rounds

/-! A responder that answers each request with the next bytes of one report. -/

namespace TeeIoValidator.Report

variable {H : Type*} {P : Protocol H} {replies : ℕ → Reply H} {capacity : ℕ}

/-- The reply is a part of the report, from the offset of the request on and no longer than it
asks for. -/
structure Serves (P : Protocol H) (report : List UInt8) (request : Request H) (reply : Reply H) :
    Prop where
  error : reply.error = false
  size : reply.size = P.responseSize + reply.portion
  portion_pos : 0 < reply.portion
  portion_le : reply.portion ≤ request.length
  total : request.offset + reply.portion + reply.remainder = report.length
  bytes : ∀ i < reply.portion, report[request.offset + i]? = some (reply.report i)

theorem requestAt_offset (n : ℕ) : (requestAt P replies n).offset = offsetAt replies n := rfl

section

variable {report : List UInt8} (hlen : report.length < 2 ^ 16)
  (hserves : ∀ n, Reached P replies capacity n →
    Serves P report (requestAt P replies n) (replies n))

include hlen hserves

/-- As long as the loop goes on, the offset does not wrap. -/
theorem offsetAt_eq_received {n : ℕ} (hn : Reached P replies capacity n) :
    offsetAt replies n = received replies n := by
  refine Nat.mod_eq_of_lt ?_
  induction n with
  | zero => exact Nat.two_pow_pos 16
  | succ n ih =>
      have hprev := hn.mono (Nat.le_succ n)
      have hoffset : offsetAt replies n = received replies n := Nat.mod_eq_of_lt (ih hprev)
      have htotal := (hserves n hprev).total
      rw [requestAt_offset, hoffset] at htotal
      rw [received]
      omega

theorem received_add {n : ℕ} (hn : Reached P replies capacity n) :
    received replies n + (replies n).portion + (replies n).remainder = report.length := by
  have htotal := (hserves n hn).total
  rwa [requestAt_offset, offsetAt_eq_received hlen hserves hn] at htotal

omit hlen in
theorem le_received {n : ℕ} (hn : Reached P replies capacity n) : n ≤ received replies n := by
  induction n with
  | zero => exact Nat.zero_le _
  | succ n ih =>
      have hprev := hn.mono (Nat.le_succ n)
      have hpos := (hserves n hprev).portion_pos
      have hle := ih hprev
      rw [received]
      omega

/-- A reply that is reached leaves nothing to reach before the end of the report. -/
theorem lt_length {n : ℕ} (hn : Reached P replies capacity n) : n < report.length := by
  have hadd := received_add hlen hserves hn
  have hpos := (hserves n hn).portion_pos
  have hle := le_received hserves hn
  omega

/-- The total is that of the report after the first round. -/
theorem totalAt_eq_length {n : ℕ} (hn : Reached P replies capacity n) :
    totalAt replies (n + 1) = report.length := by
  induction n with
  | zero =>
      have hzero : offsetAt replies 0 = 0 := rfl
      have hadd := received_add hlen hserves hn
      rw [received, Nat.zero_add] at hadd
      rw [totalAt, if_pos hzero, hadd]
  | succ n ih =>
      have hprev := hn.mono (Nat.le_succ n)
      have hle := le_received hserves hn
      rw [totalAt, offsetAt_eq_received hlen hserves hn, if_neg (by omega), ih hprev]

theorem Reached.accepted (hcap : report.length ≤ capacity) {n : ℕ}
    (hn : Reached P replies capacity n) : Accepted P replies capacity n := by
  have h := hserves n hn
  have hadd := received_add hlen hserves hn
  have hoffset := offsetAt_eq_received hlen hserves hn
  refine ⟨⟨h.error, P.sizeAccepted_of_conforming _ _ h.size h.portion_le⟩, fun _ => ?_,
    fun hne => ?_⟩
  · omega
  · cases n with
    | zero => exact absurd rfl hne
    | succ n =>
        rw [totalAt_eq_length hlen hserves (hn.mono (Nat.le_succ n)), hoffset, hadd]

/-- The buffer holds what was received so far. -/
theorem stateAt_buffer (buffer : ℕ → UInt8) {n : ℕ} (hn : Reached P replies capacity n) :
    ∀ i < received replies (n + 1),
      report[i]? = some ((stateAt P replies capacity buffer (n + 1)).buffer i) := by
  induction n with
  | zero =>
      intro i hi
      rw [received, received, Nat.zero_add] at hi
      have hbytes := (hserves 0 hn).bytes i hi
      have hzero : (requestAt P replies 0).offset = 0 := rfl
      rw [hzero, Nat.zero_add] at hbytes
      rw [hbytes, stateAt_succ, acceptReply]
      simp [offsetAt, received, hi]
  | succ n ih =>
      intro i hi
      have hprev := hn.mono (Nat.le_succ n)
      have hoffset := offsetAt_eq_received hlen hserves hn
      rw [stateAt_succ, acceptReply]
      simp only [stateAt_offset, hoffset]
      by_cases hold : i < received replies (n + 1)
      · rw [if_neg (by omega)]
        exact ih hprev i hold
      · rw [received] at hi
        have hbytes := (hserves (n + 1) hn).bytes (i - received replies (n + 1)) (by omega)
        rw [requestAt_offset, hoffset, Nat.add_sub_cancel' (by omega)] at hbytes
        rw [if_pos (by omega), hbytes]

/-- The loop leaves with the whole report. -/
theorem exists_leaveAt (hcap : report.length ≤ capacity) (buffer : ℕ → UInt8) :
    ∃ n, Reached P replies capacity n ∧ received replies (n + 1) = report.length ∧
      leaveAt P replies capacity buffer n =
        some (true, { stateAt P replies capacity buffer (n + 1) with size := report.length }) := by
  obtain ⟨n, hn, hlast⟩ : ∃ n, Reached P replies capacity n ∧ (replies n).remainder = 0 := by
    by_contra hnone
    push Not at hnone
    have hall : ∀ n, Reached P replies capacity n := by
      intro n
      induction n with
      | zero => exact fun m hm => absurd hm (Nat.not_lt_zero m)
      | succ n ih => exact ih.succ ⟨ih.accepted hlen hserves hcap, hnone n ih⟩
    exact Nat.lt_irrefl _ (lt_length hlen hserves (hall report.length))
  refine ⟨n, hn, ?_, ?_⟩
  · have hadd := received_add hlen hserves hn
    rw [received]
    omega
  · rw [leaveAt_of_complete buffer (hn.accepted hlen hserves hcap) hlast,
      totalAt_eq_length hlen hserves hn]

/-- As much fuel as the report is long is enough. -/
theorem fetch_of_serves (hcap : report.length ≤ capacity) (buffer : ℕ → UInt8) {fuel : ℕ}
    (hfuel : report.length ≤ fuel) :
    ∃ n, Reached P replies capacity n ∧ received replies (n + 1) = report.length ∧
      fetch P replies capacity buffer fuel =
        some (true, { stateAt P replies capacity buffer (n + 1) with size := report.length }) := by
  obtain ⟨n, hn, hreceived, hleave⟩ := exists_leaveAt hlen hserves hcap buffer
  refine ⟨n, hn, hreceived, ?_⟩
  have hlt := lt_length hlen hserves hn
  have hnone := (reached_iff buffer n).mp hn
  have hrun : ∀ k ≤ n, Iteration.run (round P replies) (n - k + 1)
      (stateAt P replies capacity buffer k) =
        some (true, { stateAt P replies capacity buffer (n + 1) with
          size := report.length }) := by
    intro k hk
    induction hd : n - k generalizing k with
    | zero =>
        obtain rfl : k = n := by omega
        rw [Iteration.run, round_unrolls P replies capacity buffer k, hleave]
    | succ d ih =>
        rw [Iteration.run, round_unrolls P replies capacity buffer k, hnone k (by omega)]
        exact ih (k + 1) (by omega) (by omega)
  have hzero := Iteration.run_mono (hrun 0 (Nat.zero_le n)) (fuel - (n + 1))
  rwa [Nat.sub_zero, Nat.add_sub_cancel' (by omega)] at hzero

end

end TeeIoValidator.Report
