import TeeIoValidator.Verification.Report.Rounds

/-! # What the report loops deliver and detect -/

namespace TeeIoValidator.Report

open Iteration

variable {H : Type*}

/-! ## The contract -/

/-- The replies cut a report into these portions, in order, each within what the loop
requests. -/
structure Conforms (P : Protocol H) (replies : ℕ → Reply H) (portions : List (List UInt8)) :
    Prop where
  nonempty : portions ≠ []
  portion_ne : ∀ portion ∈ portions, portion ≠ []
  error : ∀ n, n < portions.length → (replies n).error = false
  size : ∀ n, n < portions.length →
    (replies n).size = P.responseSize + (replies n).portion
  portion : ∀ n portion, portions[n]? = some portion →
    (replies n).portion = portion.length
  requested : ∀ n, n < portions.length →
    (replies n).portion ≤ (requestAt P replies n).length
  remainder : ∀ n, n < portions.length →
    (replies n).remainder = (portions.drop (n + 1)).flatten.length
  report : ∀ n portion, portions[n]? = some portion →
    ∀ i, i < portion.length → portion[i]? = some ((replies n).report i)

/-- The caller's view of a completed report and of the requests that fetched it. -/
structure Delivered (portions : List (List UInt8)) (r : Bool × State H) : Prop where
  completed : r.1 = true
  size_eq : r.2.size = portions.flatten.length
  contents : ∀ i, i < portions.flatten.length → portions.flatten[i]? = some (r.2.buffer i)
  requests_length : r.2.requests.length = portions.length
  offset_eq : ∀ k request, r.2.requests[k]? = some request →
    request.offset = (portions.take k).flatten.length
  length_le : ∀ k request, r.2.requests[k]? = some request → 1 ≤ k →
    request.length ≤ (portions.drop k).flatten.length

/-- Reply `n` and what was received before do not add up to the first reported total. -/
def Mismatch (replies : ℕ → Reply H) (n : ℕ) : Prop :=
  received replies n + (replies n).portion + (replies n).remainder ≠
    (replies 0).portion + (replies 0).remainder

/-- The loop leaves after its `n`-th reply, and its last assertion has failed. -/
def StopsAt (fetched : ℕ → Option (Bool × State H)) (n : ℕ) : Prop :=
  ∃ fuel r, fetched fuel = some r ∧ r.1 = false ∧ r.2.requests.length = n + 1 ∧
    ∃ a, r.2.records.getLast? = some a ∧ a.result = .failed

structure ReportFaithful (P : Protocol H) (replies : ℕ → Reply H) (capacity : ℕ)
    (fetched : ℕ → Option (Bool × State H)) : Prop where
  delivered : ∀ portions, Conforms P replies portions → portions.flatten.length ≤ 65535 →
    portions.flatten.length ≤ capacity →
    ∃ fuel r, fetched fuel = some r ∧ Delivered portions r
  detected : ∀ n, 1 ≤ n → Reached P replies capacity n → Mismatch replies n →
    StopsAt fetched n

/-- The replies for which every mismatch is detected: none arrives that passes for a first
reply because the offset is zero, and none that fits only the offset that has wrapped. -/
structure DetectCondition (P : Protocol H) (replies : ℕ → Reply H) (capacity : ℕ) :
    Prop where
  restart : ∀ n, 1 ≤ n → Reached P replies capacity n → Readable P replies n →
    Mismatch replies n → offsetAt replies n = 0 →
    capacity < (replies n).portion + (replies n).remainder
  wrapped : ∀ n, 1 ≤ n → Reached P replies capacity n → Readable P replies n →
    Mismatch replies n → offsetAt replies n ≠ 0 → 2 ^ 16 ≤ received replies n →
    totalAt replies n ≠ offsetAt replies n + (replies n).portion + (replies n).remainder

variable {P : Protocol H} {replies : ℕ → Reply H} {capacity : ℕ}

/-! ## Conforming replies -/

section

variable {portions : List (List UInt8)} (hconf : Conforms P replies portions)

include hconf

theorem Conforms.flatten_take_succ {n : ℕ} (hn : n < portions.length) :
    ∃ portion, portions[n]? = some portion ∧ portion ≠ [] ∧
      (portions.take (n + 1)).flatten = (portions.take n).flatten ++ portion := by
  refine ⟨portions[n], by simp [hn], hconf.portion_ne _ (List.getElem_mem hn), ?_⟩
  rw [List.take_add_one, List.flatten_append]
  simp [hn]

theorem Conforms.received_eq {n : ℕ} (hn : n ≤ portions.length) :
    received replies n = (portions.take n).flatten.length := by
  induction n with
  | zero => simp [received]
  | succ n ih =>
      obtain ⟨portion, hget, -, hflat⟩ := hconf.flatten_take_succ (n := n) (by omega)
      rw [received, ih (by omega), hconf.portion n portion hget, hflat, List.length_append]

theorem Conforms.received_pos {n : ℕ} (hn : n ≤ portions.length) (hpos : 1 ≤ n) :
    0 < received replies n := by
  cases n with
  | zero => omega
  | succ n =>
      obtain ⟨portion, hget, hne, -⟩ := hconf.flatten_take_succ (n := n) (by omega)
      have := List.length_pos_iff.mpr hne
      rw [received, hconf.portion n portion hget]
      omega

theorem Conforms.received_add {n : ℕ} (hn : n < portions.length) :
    received replies n + (replies n).portion + (replies n).remainder =
      portions.flatten.length := by
  have hsucc := hconf.received_eq (n := n + 1) hn
  rw [received] at hsucc
  rw [hsucc, hconf.remainder n hn, ← List.length_append, ← List.flatten_append,
    List.take_append_drop]

theorem Conforms.remainder_eq_zero_iff {n : ℕ} (hn : n < portions.length) :
    (replies n).remainder = 0 ↔ n + 1 = portions.length := by
  have hadd := hconf.received_add hn
  have htotal := hconf.received_eq (n := portions.length) le_rfl
  rw [List.take_length] at htotal
  constructor
  · intro hzero
    by_contra hne
    obtain ⟨portion, hget, hne', -⟩ := hconf.flatten_take_succ (n := n + 1) (by omega)
    have hpos := List.length_pos_iff.mpr hne'
    have hmono := received_mono replies (show n + 2 ≤ portions.length by omega)
    simp only [received] at hmono
    rw [hconf.portion (n + 1) portion hget] at hmono
    omega
  · intro hlast
    rw [← hlast, received] at htotal
    omega

variable (htotal : portions.flatten.length ≤ 65535)

include htotal

theorem Conforms.offsetAt_eq {n : ℕ} (hn : n ≤ portions.length) :
    offsetAt replies n = received replies n := by
  have hflat := hconf.received_eq (n := portions.length) le_rfl
  rw [List.take_length] at hflat
  have := received_mono replies hn
  exact Nat.mod_eq_of_lt (by omega)

theorem Conforms.totalAt_eq {n : ℕ} (hn : n ≤ portions.length) (hpos : 1 ≤ n) :
    totalAt replies n = portions.flatten.length := by
  induction n, hpos using Nat.le_induction with
  | base =>
      have := hconf.received_add (n := 0) (by omega)
      have hzero : offsetAt replies 0 = 0 := rfl
      rw [totalAt, if_pos hzero]
      simpa [received] using this
  | succ n hpos ih =>
      have hoff : offsetAt replies n ≠ 0 := by
        have := hconf.received_pos (n := n) (by omega) hpos
        rw [hconf.offsetAt_eq htotal (by omega)]
        omega
      rw [totalAt, if_neg hoff, ih (by omega)]

theorem Conforms.accepted (hcap : portions.flatten.length ≤ capacity) {n : ℕ}
    (hn : n < portions.length) : Accepted P replies capacity n := by
  have hadd := hconf.received_add hn
  refine ⟨⟨hconf.error n hn, ?_⟩, fun _ => ?_, fun hoff => ?_⟩
  · exact P.sizeAccepted_of_conforming _ _ (hconf.size n hn) (hconf.requested n hn)
  · omega
  · have hpos : 1 ≤ n := by
      by_contra hzero
      obtain rfl : n = 0 := by omega
      exact hoff rfl
    rw [hconf.totalAt_eq htotal hn.le hpos, hconf.offsetAt_eq htotal hn.le, ← hadd]

theorem Conforms.reached (hcap : portions.flatten.length ≤ capacity) {n : ℕ}
    (hn : n + 1 = portions.length) : Reached P replies capacity n := by
  intro m hm
  refine ⟨hconf.accepted htotal hcap (by omega), ?_⟩
  rw [Ne, hconf.remainder_eq_zero_iff (by omega)]
  omega

/-- Before round `n` the buffer holds the first `n` portions. -/
theorem Conforms.contents (capacity : ℕ) (buffer : ℕ → UInt8) {n : ℕ} (hn : n ≤ portions.length) :
    ∀ i, i < (portions.take n).flatten.length → (portions.take n).flatten[i]? =
      some ((stateAt P replies capacity buffer n).buffer i) := by
  induction n with
  | zero => simp
  | succ n ih =>
      obtain ⟨portion, hget, -, hflat⟩ := hconf.flatten_take_succ (n := n) (by omega)
      have hoff : offsetAt replies n = (portions.take n).flatten.length := by
        rw [hconf.offsetAt_eq htotal (by omega), hconf.received_eq (by omega)]
      have hlen : (replies n).portion = portion.length := hconf.portion n portion hget
      intro i hi
      rw [hflat, List.length_append] at hi
      rw [hflat]
      simp only [stateAt_succ, acceptReply, stateAt_offset, hoff, hlen]
      by_cases hold : i < (portions.take n).flatten.length
      · rw [List.getElem?_append_left hold, ih (by omega) i hold, if_neg (by omega)]
      · rw [List.getElem?_append_right (by omega), if_pos (by omega)]
        exact hconf.report n portion hget _ (by omega)

theorem Conforms.delivered (hcap : portions.flatten.length ≤ capacity)
    (buffer : ℕ → UInt8) :
    ∃ n r, leaveAt P replies capacity buffer n = some r ∧ Reached P replies capacity n ∧
      Delivered portions r := by
  obtain ⟨n, hn⟩ : ∃ n, n + 1 = portions.length := by
    have := List.length_pos_iff.mpr hconf.nonempty
    exact ⟨portions.length - 1, by omega⟩
  have hlast := (hconf.remainder_eq_zero_iff (n := n) (by omega)).mpr hn
  have hacc := hconf.accepted htotal hcap (n := n) (by omega)
  refine ⟨n, _, leaveAt_of_complete buffer hacc hlast, hconf.reached htotal hcap hn, ?_⟩
  have hrequests : (stateAt P replies capacity buffer (n + 1)).requests =
      (List.range portions.length).map (requestAt P replies) := by
    rw [stateAt_requests, hn]
  have hrequest : ∀ k request,
      (stateAt P replies capacity buffer (n + 1)).requests[k]? = some request →
        k < portions.length ∧ request = requestAt P replies k := by
    intro k request h
    rw [hrequests, List.getElem?_map, Option.map_eq_some_iff] at h
    obtain ⟨j, hj, rfl⟩ := h
    obtain ⟨hk, hj'⟩ := List.getElem?_eq_some_iff.mp hj
    simp only [List.length_range] at hk
    simp only [List.getElem_range] at hj'
    exact ⟨hk, by rw [hj']⟩
  refine ⟨rfl, ?_, ?_, ?_, ?_, ?_⟩
  · exact hconf.totalAt_eq htotal (by omega) (by omega)
  · intro i hi
    have := hconf.contents htotal capacity buffer (n := n + 1) (by omega) i
    rw [hn, List.take_length] at this
    rw [hn]
    exact this hi
  · simp [hrequests]
  · intro k request h
    obtain ⟨hk, rfl⟩ := hrequest k request h
    rw [requestAt, hconf.offsetAt_eq htotal hk.le, hconf.received_eq hk.le]
  · intro k request h hpos
    obtain ⟨hk, rfl⟩ := hrequest k request h
    have hne : offsetAt replies k ≠ 0 := by
      have := hconf.received_pos hk.le hpos
      rw [hconf.offsetAt_eq htotal hk.le]
      omega
    obtain ⟨j, rfl⟩ : ∃ j, k = j + 1 := ⟨k - 1, by omega⟩
    simp only [requestAt, if_pos hne, remainderAt]
    rw [hconf.remainder j (by omega)]
    exact Nat.min_le_left _ _

end

/-! ## Mismatches -/

/-- The total in force is the first reported one as long as the offset has not wrapped and
every later reply at offset zero adds up. -/
theorem totalAt_eq_first
    (hrestart : ∀ n, 1 ≤ n → Reached P replies capacity n → Readable P replies n →
      Mismatch replies n → offsetAt replies n = 0 →
      capacity < (replies n).portion + (replies n).remainder)
    {n : ℕ} (hpos : 1 ≤ n) (hn : Reached P replies capacity n)
    (hlt : received replies n < 2 ^ 16) :
    totalAt replies n = (replies 0).portion + (replies 0).remainder := by
  induction n, hpos using Nat.le_induction with
  | base =>
      have hzero : offsetAt replies 0 = 0 := rfl
      rw [totalAt, if_pos hzero]
  | succ n hpos ih =>
      have hle : received replies n ≤ received replies (n + 1) :=
        received_mono replies (Nat.le_succ n)
      have hn' := hn.mono (Nat.le_succ n)
      obtain ⟨hacc, -⟩ := hn n (Nat.lt_succ_self n)
      by_cases hoff : offsetAt replies n = 0
      · have hzero : received replies n = 0 := by
          have : offsetAt replies n = received replies n := Nat.mod_eq_of_lt (by omega)
          omega
        have hadds : ¬ Mismatch replies n := by
          intro hmis
          have := hrestart n hpos hn' hacc.readable hmis hoff
          have := hacc.fits hoff
          omega
        rw [Mismatch, not_not, hzero, Nat.zero_add] at hadds
        rw [totalAt, if_pos hoff, hadds]
      · rw [totalAt, if_neg hoff, ih hn' (by omega)]

/-- The loop stops with a failure at a round it reaches exactly when it does not accept the
reply. -/
theorem stopsAt_iff (buffer : ℕ → UInt8) {n : ℕ} (hn : Reached P replies capacity n) :
    StopsAt (fetch P replies capacity buffer) n ↔ ¬ Accepted P replies capacity n := by
  constructor
  · rintro ⟨fuel, r, hrun, hfalse, hlen, -⟩ hacc
    obtain ⟨m, hleave, hm⟩ := (fetch_returns_iff buffer r).mp ⟨fuel, hrun⟩
    have hmacc : ¬ Accepted P replies capacity m := by
      intro hmacc
      by_cases hr : (replies m).remainder = 0
      · rw [leaveAt_of_complete buffer hmacc hr] at hleave
        rw [← Option.some.inj hleave] at hfalse
        simp at hfalse
      · have := (leaveAt_eq_none_iff buffer).mpr ⟨hmacc, hr⟩
        simp [hleave] at this
    obtain ⟨t, ht, hstop⟩ := leaveAt_of_not_accepted buffer hmacc
    rw [ht] at hleave
    rw [← Option.some.inj hleave, hstop.requests_eq, stateAt_requests] at hlen
    obtain rfl : m = n := by simpa using hlen
    exact hmacc hacc
  · intro hacc
    obtain ⟨t, ht, hstop⟩ := leaveAt_of_not_accepted buffer hacc
    obtain ⟨fuel, hrun⟩ := (fetch_returns_iff buffer (false, t)).mpr ⟨n, ht, hn⟩
    refine ⟨fuel, (false, t), hrun, rfl, ?_, hstop.failed⟩
    rw [hstop.requests_eq, stateAt_requests]
    simp

theorem fetch_faithful_iff (P : Protocol H) (replies : ℕ → Reply H) (capacity : ℕ)
    (buffer : ℕ → UInt8) :
    ReportFaithful P replies capacity (fetch P replies capacity buffer) ↔
      DetectCondition P replies capacity := by
  constructor
  · intro h
    refine ⟨fun n hpos hn hread hmis hoff => ?_, fun n hpos hn hread hmis hoff _ heq => ?_⟩
    · by_contra hle
      refine (stopsAt_iff buffer hn).mp (h.detected n hpos hn hmis) ⟨hread, fun _ => ?_, ?_⟩
      · omega
      · exact fun hne => absurd hoff hne
    · refine (stopsAt_iff buffer hn).mp (h.detected n hpos hn hmis) ⟨hread, ?_, fun _ => heq⟩
      exact fun hzero => absurd hzero hoff
  · intro h
    refine ⟨fun portions hconf htotal hcap => ?_, fun n hpos hn hmis => ?_⟩
    · obtain ⟨n, r, hleave, hn, hdel⟩ := hconf.delivered htotal hcap buffer
      obtain ⟨fuel, hrun⟩ := (fetch_returns_iff buffer r).mpr ⟨n, hleave, hn⟩
      exact ⟨fuel, r, hrun, hdel⟩
    · rw [stopsAt_iff buffer hn]
      intro hacc
      by_cases hoff : offsetAt replies n = 0
      · have := h.restart n hpos hn hacc.readable hmis hoff
        have := hacc.fits hoff
        omega
      · have hadds := hacc.adds_up hoff
        by_cases hwrap : received replies n < 2 ^ 16
        · have htot := totalAt_eq_first h.restart hpos hn hwrap
          have : offsetAt replies n = received replies n := Nat.mod_eq_of_lt hwrap
          rw [Mismatch] at hmis
          omega
        · exact h.wrapped n hpos hn hacc.readable hmis hoff (by omega) hadds

/-- Both loops deliver every conforming report, and they detect every mismatch for exactly
the replies of `DetectCondition`. -/
theorem getReport_faithful_iff (portionLen : ℕ) (functionId : UInt32)
    (replies : ℕ → Reply TdispHeader) (lib : TspLib) (tspReplies : ℕ → Reply TspHeader)
    (capacity : ℕ) (buffer : ℕ → UInt8) :
    (ReportFaithful (tdispProtocol portionLen functionId) replies capacity
          (tdispTestGetInterfaceReport portionLen functionId replies capacity buffer) ↔
        DetectCondition (tdispProtocol portionLen functionId) replies capacity) ∧
    (ReportFaithful (tspProtocol lib) tspReplies capacity
          (testCxlTspGetConfigurationReport lib tspReplies capacity buffer) ↔
        DetectCondition (tspProtocol lib) tspReplies capacity) := by
  refine ⟨?_, ?_⟩
  · exact fetch_faithful_iff (tdispProtocol portionLen functionId) replies capacity buffer
  · exact fetch_faithful_iff (tspProtocol lib) tspReplies capacity buffer

/-- An empty portion that announces ten bytes, and then a portion of five bytes that is
said to be the last. -/
def restartingReply (k : ℕ) : Reply TdispHeader :=
  if k = 0 then
    { error := false, status := 0, size := 20, header := ⟨0x10, 0x04, 0⟩
      portionLength := 0, remainderLength := 10, report := fun _ => 0 }
  else
    { error := false, status := 0, size := 25, header := ⟨0x10, 0x04, 0⟩
      portionLength := 5, remainderLength := 0, report := fun _ => 0 }

/-- The second reply contradicts the first total, and the loop reports success. -/
theorem getReport_undetected :
    ¬ ReportFaithful (tdispProtocol 1024 0) restartingReply 4096
      (tdispTestGetInterfaceReport 1024 0 restartingReply 4096 fun _ => 0) := by
  intro h
  have hreach : Reached (tdispProtocol 1024 0) restartingReply 4096 1 := by
    intro m hm
    obtain rfl : m = 0 := by omega
    exact ⟨⟨⟨rfl, rfl⟩, fun _ => by decide, fun hne => absurd rfl hne⟩, by decide⟩
  obtain ⟨fuel, r, hrun, hfalse, -⟩ := h.detected 1 le_rfl hreach
    (by unfold Mismatch; decide)
  have htwo : (tdispTestGetInterfaceReport 1024 0 restartingReply 4096 (fun _ => 0) 2).map
      Prod.fst = some true := by decide
  obtain ⟨r', hrun', htrue⟩ := Option.map_eq_some_iff.mp htwo
  have hsame : r = r' := Returns.unique ⟨fuel, hrun⟩ ⟨2, hrun'⟩
  rw [hsame, htrue] at hfalse
  contradiction

end TeeIoValidator.Report
