import TeeIoValidator.Verification.Report.Rounds

/-! # Termination and bounds of the report loops -/

namespace TeeIoValidator.Report

open Iteration

variable {H : Type*}

/-! ## The contract -/

/-- Every copy starts where the previous ones ended and stays inside the buffer. -/
def CopiesInBounds (copies : List Copy) (trueSize : ℕ) : Prop :=
  ∀ k c, copies[k]? = some c →
    c.start = ((copies.take k).map Copy.length).sum ∧ c.start + c.length ≤ trueSize

/-- The loop, given by its result for every number of rounds, ends and its copies are in
bounds. -/
def FetchSafe (fetched : ℕ → Option (Bool × State H)) (trueSize : ℕ) : Prop :=
  ∃ fuel r, fetched fuel = some r ∧ CopiesInBounds r.2.copies trueSize

/-- The replies for which the loop is safe: those it accepts keep the sum of the portions
below the range of the 16-bit offset and inside the buffer, and they are not empty from
some round on while announcing a remainder. -/
structure SafeCondition (P : Protocol H) (replies : ℕ → Reply H) (capacity trueSize : ℕ) :
    Prop where
  in_bounds : ∀ n, Reached P replies capacity n → Accepted P replies capacity n →
    received replies n < 2 ^ 16 ∧ received replies n + (replies n).portion ≤ trueSize
  progress : ¬ ∃ N, Reached P replies capacity N ∧
    ∀ n, N ≤ n → Continues P replies capacity n ∧ (replies n).portion = 0

variable {P : Protocol H} {replies : ℕ → Reply H} {capacity trueSize : ℕ}

/-! ## Copies -/

theorem sum_portions (k : ℕ) :
    ((List.range k).map fun j => (replies j).portion).sum = received replies k := by
  induction k with
  | zero => rfl
  | succ k ih => simp [List.range_succ, ih, received]

theorem offsetAt_eq_received_iff (replies : ℕ → Reply H) (n : ℕ) :
    offsetAt replies n = received replies n ↔ received replies n < 2 ^ 16 := by
  unfold offsetAt
  constructor
  · intro h
    rw [← h]
    exact Nat.mod_lt _ (by decide)
  · exact Nat.mod_eq_of_lt

theorem copiesInBounds_rounds_iff (n : ℕ) :
    CopiesInBounds ((List.range n).map fun k => ⟨offsetAt replies k, (replies k).portion⟩)
        trueSize ↔
      ∀ k < n, received replies k < 2 ^ 16 ∧
        received replies k + (replies k).portion ≤ trueSize := by
  have htake : ∀ k < n, (((List.range n).map fun k =>
      (⟨offsetAt replies k, (replies k).portion⟩ : Copy)).take k).map Copy.length =
        (List.range k).map fun j => (replies j).portion := by
    intro k hk
    rw [← List.map_take, List.take_range, Nat.min_eq_left (Nat.le_of_lt hk), List.map_map]
    rfl
  constructor
  · intro h k hk
    obtain ⟨hstart, hend⟩ := h k ⟨offsetAt replies k, (replies k).portion⟩ (by simp [hk])
    rw [htake k hk, sum_portions] at hstart
    simp only at hstart hend
    exact ⟨(offsetAt_eq_received_iff replies k).mp hstart, by omega⟩
  · intro h k c hc
    have hk : k < n := by
      have := (List.getElem?_eq_some_iff.mp hc).1
      simpa using this
    obtain rfl : ⟨offsetAt replies k, (replies k).portion⟩ = c := by simpa [hk] using hc
    obtain ⟨hlt, hend⟩ := h k hk
    rw [htake k hk, sum_portions]
    have hoff := (offsetAt_eq_received_iff replies k).mpr hlt
    exact ⟨hoff, by simp only; omega⟩

/-- The copies of a run are those of the replies that were reached and accepted. -/
theorem copiesInBounds_leave_iff {buffer : ℕ → UInt8} {n : ℕ} {r : Bool × State H}
    (hleave : leaveAt P replies capacity buffer n = some r)
    (hreach : Reached P replies capacity n) :
    CopiesInBounds r.2.copies trueSize ↔
      ∀ k, Reached P replies capacity k → Accepted P replies capacity k →
        received replies k < 2 ^ 16 ∧ received replies k + (replies k).portion ≤ trueSize := by
  have hlast : ∀ k, Reached P replies capacity k → k ≤ n := by
    intro k hk
    by_contra hlt
    have := (leaveAt_eq_none_iff buffer).mpr (hk n (by omega))
    simp [hleave] at this
  by_cases hacc : Accepted P replies capacity n
  · have hcopies : r.2.copies =
        (List.range (n + 1)).map fun k => ⟨offsetAt replies k, (replies k).portion⟩ := by
      have hr : (replies n).remainder = 0 := by
        by_contra hr
        have := (leaveAt_eq_none_iff buffer).mpr ⟨hacc, hr⟩
        simp [hleave] at this
      rw [leaveAt_of_complete buffer hacc hr] at hleave
      rw [← Option.some.inj hleave]
      exact stateAt_copies P replies capacity buffer (n + 1)
    rw [hcopies, copiesInBounds_rounds_iff]
    constructor
    · intro h k hk _
      exact h k (by have := hlast k hk; omega)
    · intro h k hk
      rcases Nat.lt_succ_iff_lt_or_eq.mp hk with hlt | rfl
      · exact h k (hreach.mono hlt.le) (hreach k hlt).1
      · exact h k hreach hacc
  · have hcopies : r.2.copies =
        (List.range n).map fun k => ⟨offsetAt replies k, (replies k).portion⟩ := by
      obtain ⟨t, ht, hstop⟩ := leaveAt_of_not_accepted buffer hacc
      rw [ht] at hleave
      rw [← Option.some.inj hleave]
      exact hstop.copies_eq.trans (stateAt_copies P replies capacity buffer n)
    rw [hcopies, copiesInBounds_rounds_iff]
    constructor
    · intro h k hk hk'
      rcases Nat.lt_or_eq_of_le (hlast k hk) with hlt | rfl
      · exact h k hlt
      · exact absurd hk' hacc
    · intro h k hk
      exact h k (hreach.mono hk.le) (hreach k hk).1

/-! ## Termination -/

/-- Portions whose sum stays within the range of the offset are empty from some round
on. -/
theorem exists_empty_of_bounded (hbound : ∀ n, received replies n < 2 ^ 16) :
    ∃ N, ∀ n, N ≤ n → (replies n).portion = 0 := by
  obtain ⟨N, hN⟩ := eventually_constant (received replies)
    (fun n => received_mono replies (Nat.le_succ n)) (2 ^ 16) (fun n => (hbound n).le)
  refine ⟨N, fun n hn => ?_⟩
  have := hN n hn
  simp only [received] at this
  omega

theorem not_fetchSafe_of_forever {buffer : ℕ → UInt8}
    (hall : ∀ n, Continues P replies capacity n) :
    ¬ FetchSafe (fetch P replies capacity buffer) trueSize := by
  rintro ⟨fuel, r, hrun, -⟩
  obtain ⟨n, hleave, -⟩ := (fetch_returns_iff buffer r).mp ⟨fuel, hrun⟩
  have := (leaveAt_eq_none_iff buffer).mpr (hall n)
  simp [hleave] at this

theorem fetch_safe_iff (P : Protocol H) (replies : ℕ → Reply H) (capacity trueSize : ℕ)
    (buffer : ℕ → UInt8) :
    FetchSafe (fetch P replies capacity buffer) trueSize ↔
      SafeCondition P replies capacity trueSize := by
  constructor
  · rintro ⟨fuel, r, hrun, hcopies⟩
    obtain ⟨n, hleave, hreach⟩ := (fetch_returns_iff buffer r).mp ⟨fuel, hrun⟩
    refine ⟨(copiesInBounds_leave_iff hleave hreach).mp hcopies, ?_⟩
    rintro ⟨N, hN, htail⟩
    have hcont : Continues P replies capacity n := by
      by_cases hn : n < N
      · exact hN n hn
      · exact (htail n (by omega)).1
    have := (leaveAt_eq_none_iff buffer).mpr hcont
    simp [hleave] at this
  · intro h
    have hend : ∃ n, leaveAt P replies capacity buffer n ≠ none := by
      by_contra hnone
      have hall : ∀ n, Continues P replies capacity n := by
        intro n
        rw [← leaveAt_eq_none_iff buffer]
        by_contra hn
        exact hnone ⟨n, hn⟩
      obtain ⟨N, hN⟩ := exists_empty_of_bounded
        fun n => (h.in_bounds n (fun m _ => hall m) (hall n).1).1
      exact h.progress ⟨N, fun m _ => hall m, fun n hn => ⟨hall n, hN n hn⟩⟩
    obtain ⟨r, fuel, hrun⟩ := (round_unrolls P replies capacity buffer).terminates_iff.mpr hend
    obtain ⟨n, hleave, hreach⟩ := (fetch_returns_iff buffer r).mp ⟨fuel, hrun⟩
    exact ⟨fuel, r, hrun, (copiesInBounds_leave_iff hleave hreach).mpr h.in_bounds⟩

/-! ## Capacities within the range of the offset -/

/-- With a capacity in the range of the 16-bit offset an accepted reply never leads past
the capacity. -/
theorem received_le_capacity (hcap : capacity < 2 ^ 16) {n : ℕ}
    (h : Reached P replies capacity n) (hacc : Accepted P replies capacity n) :
    received replies n < 2 ^ 16 ∧
      received replies n + (replies n).portion + (replies n).remainder ≤ capacity := by
  have hinv : ∀ n, Reached P replies capacity n →
      received replies n ≤ capacity ∧ totalAt replies n ≤ capacity := by
    intro n
    induction n with
    | zero => exact fun _ => ⟨Nat.zero_le _, Nat.zero_le _⟩
    | succ n ih =>
        intro hn
        obtain ⟨hrec, htot⟩ := ih (hn.mono (Nat.le_succ n))
        obtain ⟨hacc, -⟩ := hn n (Nat.lt_succ_self n)
        have hoff : offsetAt replies n = received replies n :=
          Nat.mod_eq_of_lt (by omega)
        simp only [received, totalAt]
        by_cases hzero : offsetAt replies n = 0
        · have := hacc.fits hzero
          rw [if_pos hzero]
          omega
        · have := hacc.adds_up hzero
          rw [if_neg hzero]
          omega
  obtain ⟨hrec, htot⟩ := hinv n h
  have hoff : offsetAt replies n = received replies n := Nat.mod_eq_of_lt (by omega)
  refine ⟨by omega, ?_⟩
  by_cases hzero : offsetAt replies n = 0
  · have := hacc.fits hzero
    omega
  · have := hacc.adds_up hzero
    omega

/-- A caller that passes the true size of a buffer within the range of the offset only
has to fear empty portions. -/
theorem safeCondition_of_capacity (hcap : capacity < 2 ^ 16) (hsize : capacity ≤ trueSize)
    (hprogress : ∀ n, Reached P replies capacity n → (replies n).portion ≠ 0) :
    SafeCondition P replies capacity trueSize := by
  refine ⟨fun n hn hacc => ?_, ?_⟩
  · obtain ⟨hlt, hle⟩ := received_le_capacity hcap hn hacc
    exact ⟨hlt, by omega⟩
  · rintro ⟨N, hN, htail⟩
    exact hprogress N hN (htail N le_rfl).2

/-! ## The two loops and their callers -/

/-- Both loops, with any capacity, and the TSP caller, whose capacity is a stack value, are
safe for exactly the replies of `SafeCondition`. -/
theorem getReport_safe_iff (portionLen maxSize : ℕ) (functionId : UInt32)
    (replies : ℕ → Reply TdispHeader) (lib : TspLib) (tspReplies : ℕ → Reply TspHeader)
    (capacity trueSize : ℕ) (buffer : ℕ → UInt8) (stackValue : UInt32) :
    (FetchSafe (tdispTestGetInterfaceReport portionLen functionId replies capacity buffer)
          trueSize ↔
        SafeCondition (tdispProtocol portionLen functionId) replies capacity trueSize) ∧
    (FetchSafe (tdispTestInterfaceReportFetch portionLen maxSize functionId replies buffer)
          maxSize ↔
        SafeCondition (tdispProtocol portionLen functionId) replies maxSize maxSize) ∧
    (FetchSafe (testCxlTspGetConfigurationReport lib tspReplies capacity buffer) trueSize ↔
        SafeCondition (tspProtocol lib) tspReplies capacity trueSize) ∧
    (FetchSafe (cxlTspTestGetConfigurationReportRun lib tspReplies stackValue) lib.maxSize ↔
        SafeCondition (tspProtocol lib) tspReplies stackValue.toNat lib.maxSize) := by
  refine ⟨?_, ?_, ?_, ?_⟩
  · exact fetch_safe_iff (tdispProtocol portionLen functionId) replies capacity trueSize buffer
  · exact fetch_safe_iff (tdispProtocol portionLen functionId) replies maxSize maxSize buffer
  · exact fetch_safe_iff (tspProtocol lib) tspReplies capacity trueSize buffer
  · exact fetch_safe_iff (tspProtocol lib) tspReplies stackValue.toNat lib.maxSize _

/-- An empty portion that announces one more byte, again and again. -/
def stallingReply : Reply TdispHeader :=
  { error := false, status := 0, size := 20, header := ⟨0x10, 0x04, 0⟩
    portionLength := 0, remainderLength := 1, report := fun _ => 0 }

/-- The `k`-th of five portions of 1024 bytes. -/
def fifthPortionReply (k : ℕ) : Reply TspHeader :=
  { error := false, status := 0, size := 1032, header := ⟨0x10, 0x85⟩
    portionLength := 1024, remainderLength := UInt16.ofNat (5120 - 1024 * (k + 1))
    report := fun _ => 0 }

def exampleTspLib : TspLib := ⟨0x10, 0x85, 1024, 4096⟩

/-- The TDISP loop does not end for a device that stalls, and the TSP run writes past its
buffer when the stack holds a large value. -/
theorem getReport_unsafe :
    ¬ FetchSafe (tdispTestInterfaceReportFetch 1024 4096 0 (fun _ => stallingReply)
        fun _ => 0) 4096 ∧
      ¬ FetchSafe (cxlTspTestGetConfigurationReportRun exampleTspLib fifthPortionReply
        0xFFFFFFFF) exampleTspLib.maxSize := by
  constructor
  · have hrec : ∀ n, received (fun _ => stallingReply) n = 0 := by
      intro n
      induction n with
      | zero => rfl
      | succ n ih =>
          have hempty : stallingReply.portion = 0 := rfl
          simp [received, ih, hempty]
    have hoff : ∀ n, offsetAt (fun _ => stallingReply) n = 0 := by simp [offsetAt, hrec]
    apply not_fetchSafe_of_forever
    intro n
    have hsum : stallingReply.portion + stallingReply.remainder ≤ 4096 := by decide
    have hrest : stallingReply.remainder ≠ 0 := by decide
    refine ⟨⟨⟨rfl, ?_⟩, fun _ => hsum, fun h => absurd (hoff n) h⟩, hrest⟩
    simp [tdispProtocol, requestAt, Reply.portion, stallingReply, tdispReportResponseSize]
  · rintro ⟨fuel, r, hrun, hcopies⟩
    have hfive : (cxlTspTestGetConfigurationReportRun exampleTspLib fifthPortionReply
        0xFFFFFFFF 5).map (fun r => r.2.copies[4]?) = some (some ⟨4096, 1024⟩) := by decide
    obtain ⟨r', hrun', hcopy⟩ := Option.map_eq_some_iff.mp hfive
    have hsame : r = r' := Returns.unique ⟨fuel, hrun⟩ ⟨5, hrun'⟩
    have hbound := (hcopies 4 ⟨4096, 1024⟩ (by rw [hsame, hcopy])).2
    simp [exampleTspLib] at hbound

end TeeIoValidator.Report
