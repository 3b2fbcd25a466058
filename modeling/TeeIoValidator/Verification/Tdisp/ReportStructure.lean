import TeeIoValidator.Model.Tdisp.ReportStructure
import TeeIoValidator.Verification.Report.Rounds

/-! The structure of an interface report is checked within its bytes, as long as the count of its
ranges and the length behind them do. -/

namespace TeeIoValidator.Tdisp

open Report

/-! ## Words of the report -/

theorem le16_lt (bytes : ℕ → UInt8) (i : ℕ) : le16 bytes i < 2 ^ 16 := by
  have hlow := (bytes i).toNat_lt
  have hhigh := (bytes (i + 1)).toNat_lt
  rw [le16]
  omega

theorem le32_lt (bytes : ℕ → UInt8) (i : ℕ) : le32 bytes i < 2 ^ 32 := by
  have hlow := le16_lt bytes i
  have hhigh := le16_lt bytes (i + 2)
  rw [le32]
  omega

variable (report : ℕ → UInt8) {first : ℕ}

theorem le16_wrapped (hlt : first % 2 ^ 32 + 1 < 2 ^ 32) :
    le16 (wrapped report) first = le16 report (first % 2 ^ 32) := by
  have hnext : (first + 1) % 2 ^ 32 = first % 2 ^ 32 + 1 := by omega
  rw [le16, le16, wrapped, wrapped, hnext]

theorem le32_wrapped (hlt : first % 2 ^ 32 + 3 < 2 ^ 32) :
    le32 (wrapped report) first = le32 report (first % 2 ^ 32) := by
  have hnext : (first + 2) % 2 ^ 32 = first % 2 ^ 32 + 2 := by omega
  rw [le32, le32, le16_wrapped report (by omega), le16_wrapped report (by omega), hnext]

theorem within_bytesRead {n size : ℕ} (hn : 0 < n) (hlt : first % 2 ^ 32 + n ≤ 2 ^ 32) :
    (bytesRead first n).Within size ↔ first % 2 ^ 32 + n ≤ size := by
  have hindex : ∀ k < n, (first + k) % 2 ^ 32 = first % 2 ^ 32 + k := fun k hk => by omega
  simp only [bytesRead, Reads.Within, List.forall_mem_map, List.mem_range]
  constructor
  · intro h
    have hlast := h (n - 1) (by omega)
    rw [hindex _ (by omega)] at hlast
    omega
  · intro h k hk
    rw [hindex k hk]
    omega

theorem readData16_snd : (readData16 report 0).2 = le16 report 0 := le16_wrapped report (by decide)

theorem readData32_count : (readData32 report 12).2 = rangeCount report :=
  le32_wrapped report (by decide)

theorem readData32_len :
    (readData32 report (16 + rangeCount report * 16)).2 = le32 report (lenIndex report) := by
  rw [readData32, le32_wrapped report (by omega), lenIndex, Nat.mul_comm]

theorem readData32_range {i : ℕ} (hi : i < 2 ^ 28 - 1) :
    (readData32 report (16 + i * 16 + 12)).2 = rangeAttributes report i := by
  rw [readData32, le32_wrapped report (by omega), rangeAttributes, Nat.mul_comm i,
    Nat.mod_eq_of_lt (by omega)]

/-! ## Sizes -/

/-- The size that the report is compared with, when the length is in it. -/
def measuredSize : ℕ := lenIndex report + 4 + le32 report (lenIndex report)

variable {report} {size : ℕ}

theorem eq_wrapped_iff (hsize : size < 2 ^ 32) (hlen : lenIndex report + 4 ≤ size) :
    size = (16 + rangeCount report * 16 + 4 + le32 report (lenIndex report)) % 2 ^ 32 ↔
      size = measuredSize report := by
  have hword := le32_lt report (lenIndex report)
  rw [measuredSize]
  generalize le32 report (lenIndex report) = len at hword ⊢
  rw [lenIndex] at *
  omega

theorem lenIndex_of_lt (hcount : rangeCount report < 2 ^ 28 - 1) :
    lenIndex report = 16 + 16 * rangeCount report :=
  Nat.mod_eq_of_lt (by omega)

/-- No count of ranges that do not fit into 32 bits belongs to a size. -/
theorem eq_documented_iff (hsize : size < 2 ^ 32) :
    size = 16 + 16 * rangeCount report + 4 + infoLen report ↔
      rangeCount report < 2 ^ 28 - 1 ∧ size = measuredSize report := by
  by_cases hcount : rangeCount report < 2 ^ 28 - 1
  · rw [measuredSize, lenIndex_of_lt hcount, infoLen]
    simp only [hcount, true_and]
  · simp only [hcount, false_and, iff_false]
    omega

/-! ## The run function -/

/-- The reads before the size is checked. -/
def firstReads (report : ℕ → UInt8) : Reads :=
  bytesRead 0 2 ++ (bytesRead 12 4 ++ bytesRead (16 + rangeCount report * 16) 4)

theorem within_firstReads :
    (firstReads report).Within size ↔ 16 ≤ size ∧ lenIndex report + 4 ≤ size := by
  rw [firstReads, Reads.within_append, Reads.within_append,
    within_bytesRead (by decide) (by decide), within_bytesRead (by decide) (by decide),
    within_bytesRead (by decide) (by omega), lenIndex, Nat.mul_comm 16]
  omega

theorem reportStructureRun_of_ne
    (h : size ≠ (16 + rangeCount report * 16 + 4 + le32 report (lenIndex report)) % 2 ^ 32) :
    reportStructureRun report size =
      (firstReads report, [.check 6 false "sizeof(REPORT_BYTES) = 0x%x" []]) := by
  rw [reportStructureRun]
  simp only [readData32_count, readData32_len, beq_eq_false_iff_ne.mpr h]
  rfl

/-- What is recorded when the size is taken for a right one. -/
def passedRecords (report : ℕ → UInt8) : List Assertion :=
  [.check 6 true "sizeof(REPORT_BYTES) = 0x%x" [],
    .check 7 (le16 report 0 &&& 0xFFE0 == 0) "(REPORT_BYTES.INTERFACE_INFO & 0xFFE0) = 0x%x"
      [le16 report 0 &&& 0xFFE0]] ++
  (List.range (rangeCount report)).map fun i =>
    .check 8 ((readData32 report (16 + i * 16 + 12)).2 &&& 0xFFF0 == 0)
      "(REPORT_BYTES.MMIO_RANGE[i].RangeAttributes & 0xFFF0) = 0x%x"
      [(readData32 report (16 + i * 16 + 12)).2 &&& 0xFFF0]

theorem reportStructureRun_of_eq
    (h : size = (16 + rangeCount report * 16 + 4 + le32 report (lenIndex report)) % 2 ^ 32) :
    reportStructureRun report size =
      (firstReads report ++ (List.range (rangeCount report)).flatMap fun i =>
        bytesRead (16 + i * 16 + 12) 4, passedRecords report) := by
  rw [reportStructureRun]
  simp only [readData32_count, readData32_len, readData16_snd, beq_iff_eq.mpr h,
    List.flatMap_map, List.map_map]
  rfl

theorem passedRecords_eq (hcount : rangeCount report < 2 ^ 28 - 1)
    (h : size = 16 + 16 * rangeCount report + 4 + infoLen report) :
    passedRecords report = documentedRecords report size := by
  rw [passedRecords, documentedRecords, if_pos h]
  congr 1
  refine List.map_congr_left fun i hi => ?_
  have hlt : i < rangeCount report := List.mem_range.mp hi
  rw [readData32_range report (by omega)]

/-- The attributes of all ranges are in a report of the documented size. -/
theorem within_rangeReads (hcount : rangeCount report < 2 ^ 28 - 1)
    (h : size = 16 + 16 * rangeCount report + 4 + infoLen report) :
    Reads.Within ((List.range (rangeCount report)).flatMap fun i =>
      bytesRead (16 + i * 16 + 12) 4) size := by
  rw [Reads.within_flatMap]
  intro i hi
  have hlt : i < rangeCount report := List.mem_range.mp hi
  rw [within_bytesRead (by decide) (by omega), Nat.mod_eq_of_lt (by omega)]
  omega

theorem documentedRecords_of_ne (h : size ≠ 16 + 16 * rangeCount report + 4 + infoLen report) :
    documentedRecords report size = [.check 6 false "sizeof(REPORT_BYTES) = 0x%x" []] :=
  if_neg h

theorem passedRecords_ne : passedRecords report ≠
    [.check 6 false "sizeof(REPORT_BYTES) = 0x%x" []] := by
  intro h
  cases List.head_eq_of_cons_eq h

theorem reportStructureRun_snd (report : ℕ → UInt8) (size : ℕ) :
    (reportStructureRun report size).2 = reportStructureChecks report size := by
  have hlen : le32 (wrapped report) (16 + le32 report 12 * 16) =
      le32 report ((16 + le32 report 12 * 16) % 2 ^ 32) := le32_wrapped report (by omega)
  have hrange : ∀ i, le32 (wrapped report) (16 + i * 16 + 12) =
      le32 report ((16 + i * 16 + 12) % 2 ^ 32) := fun i => le32_wrapped report (by omega)
  have hcount : le32 (wrapped report) 12 = le32 report 12 := le32_wrapped report (by decide)
  have hinfo : le16 (wrapped report) 0 = le16 report 0 := le16_wrapped report (by decide)
  rw [reportStructureRun, reportStructureChecks]
  simp only [readData16, readData32, hcount, hlen, hinfo]
  split_ifs
  · rfl
  · simp only [List.map_map, List.cons_append, List.nil_append, Function.comp_def, hrange]

/-- The reads and the records of a report are right when it is regular. -/
theorem reportStructureRun_iff (report : ℕ → UInt8) (hsize : size < 2 ^ 32) :
    ((reportStructureRun report size).1.Within size ∧
        (reportStructureRun report size).2 = documentedRecords report size) ↔
      RegularReport report size := by
  by_cases hfirst : (firstReads report).Within size
  · obtain ⟨hheader, hlength⟩ := within_firstReads.mp hfirst
    have hdocumented := @eq_documented_iff report size hsize
    by_cases heq : size =
        (16 + rangeCount report * 16 + 4 + le32 report (lenIndex report)) % 2 ^ 32
    · rw [reportStructureRun_of_eq heq]
      have hmeasured := (eq_wrapped_iff hsize hlength).mp heq
      constructor
      · rintro ⟨-, hrecords⟩
        refine ⟨hheader, hlength, Or.inl ?_⟩
        by_contra hcount
        rw [documentedRecords_of_ne fun h => hcount (hdocumented.mp h).1] at hrecords
        exact passedRecords_ne hrecords
      · intro h
        have hcount := h.count.resolve_right (not_not_intro hmeasured)
        have hsum := hdocumented.mpr ⟨hcount, hmeasured⟩
        exact ⟨Reads.within_append.mpr ⟨hfirst, within_rangeReads hcount hsum⟩,
          passedRecords_eq hcount hsum⟩
    · rw [reportStructureRun_of_ne heq]
      have hne : size ≠ measuredSize report := fun h => heq ((eq_wrapped_iff hsize hlength).mpr h)
      refine iff_of_true ⟨hfirst, ?_⟩ ⟨hheader, hlength, Or.inr hne⟩
      exact (documentedRecords_of_ne fun h => hne (hdocumented.mp h).2).symm
  · refine iff_of_false ?_ fun h => hfirst (within_firstReads.mpr ⟨h.header, h.length⟩)
    rintro ⟨hreads, -⟩
    by_cases heq : size =
        (16 + rangeCount report * 16 + 4 + le32 report (lenIndex report)) % 2 ^ 32
    · rw [reportStructureRun_of_eq heq] at hreads
      exact hfirst (Reads.within_append.mp hreads).1
    · rw [reportStructureRun_of_ne heq] at hreads
      exact hfirst hreads

/-! ## Delivered reports -/

section Delivered

variable {env : Environment} {fuel : ℕ} {w : World} {delivered : State TdispHeader}

theorem totalAt_lt {H : Type*} (replies : ℕ → Report.Reply H) (n : ℕ) :
    totalAt replies n < 2 ^ 17 := by
  induction n with
  | zero => exact Nat.two_pow_pos 17
  | succ n ih =>
      have hportion := (replies n).portionLength.toNat_lt
      have hremainder := (replies n).remainderLength.toNat_lt
      rw [totalAt, Report.Reply.portion, Report.Reply.remainder]
      split_ifs
      · omega
      · exact ih

/-- The size of a report that is delivered is the sum of two 16-bit lengths. -/
theorem size_lt_of_delivered (h : fetchInterfaceReport env fuel w = some (true, delivered)) :
    delivered.size < 2 ^ 32 := by
  obtain ⟨n, hleave, -⟩ := (fetch_returns_iff _ _).mp ⟨fuel, h⟩
  have hsize : ∃ (replies : ℕ → Report.Reply TdispHeader) (n : ℕ),
      delivered.size = totalAt replies n := by
    by_cases haccepted : Accepted (tdispProtocol env.portionLen env.functionId)
        (fun k => (env.reply (w.exchanges + k)).reportReply (env.stack (w.exchanges + k)))
        env.reportMaxSize n
    · by_cases hremainder :
          ((env.reply (w.exchanges + n)).reportReply (env.stack (w.exchanges + n))).remainder = 0
      · rw [leaveAt_of_complete _ haccepted hremainder] at hleave
        cases hleave
        exact ⟨_, n + 1, rfl⟩
      · rw [(leaveAt_eq_none_iff _).mpr ⟨haccepted, hremainder⟩] at hleave
        cases hleave
    · obtain ⟨t, hstop, -⟩ := leaveAt_of_not_accepted env.reportStack haccepted
      rw [hstop] at hleave
      cases hleave
  obtain ⟨replies, n, hsize⟩ := hsize
  have hlt := totalAt_lt replies n
  omega

theorem tdispTestInterfaceReport5Run_of_delivered
    (h : fetchInterfaceReport env fuel w = some (true, delivered)) :
    ∃ v, tdispTestInterfaceReport5Run env fuel w =
        some ((reportStructureRun delivered.buffer delivered.size).1, true, v) ∧
      v.records = w.records ++ (delivered.records ++
        (reportStructureRun delivered.buffer delivered.size).2) := by
  rw [tdispTestInterfaceReport5Run, h]
  exact ⟨_, rfl, List.append_assoc _ _ _⟩

/-- The case reads and records what it should, just when a report that is delivered is regular. -/
theorem reportMeets_iff (env : Environment) (fuel : ℕ) (w : World) :
    ReportMeets env fuel w ↔ ∀ report, fetchInterfaceReport env fuel w = some (true, report) →
      RegularReport report.buffer report.size := by
  refine forall_congr' fun report => forall_congr' fun hdelivered => ?_
  obtain ⟨v, hrun, hrecords⟩ := tdispTestInterfaceReport5Run_of_delivered hdelivered
  rw [← reportStructureRun_iff report.buffer (size_lt_of_delivered hdelivered)]
  constructor
  · rintro ⟨reads, v', hrun', hreads, hdocumented⟩
    rw [hrun] at hrun'
    cases hrun'
    rw [hrecords] at hdocumented
    exact ⟨hreads, List.append_cancel_left (List.append_cancel_left hdocumented)⟩
  · rintro ⟨hreads, hdocumented⟩
    exact ⟨_, v, hrun, hreads, by rw [hrecords, hdocumented]⟩

/-- The run function without its reads is that of the test case. -/
theorem tdispTestInterfaceReport5Run_snd (env : Environment) (fuel : ℕ) (w : World) :
    (tdispTestInterfaceReport5Run env fuel w).map Prod.snd =
      runInterfaceReport env reportStructureChecks fuel w := by
  rw [tdispTestInterfaceReport5Run, runInterfaceReport, fetchInterfaceReport]
  simp only
  cases tdispTestGetInterfaceReport env.portionLen env.functionId
      (fun k => (env.reply (w.exchanges + k)).reportReply (env.stack (w.exchanges + k)))
      env.reportMaxSize env.reportStack fuel with
  | none => rfl
  | some result =>
      obtain ⟨res, report⟩ := result
      cases res with
      | false => rfl
      | true => simp [reportStructureRun_snd]

/-- A device that delivers a report of 24 bytes with `2 ^ 28` ranges and a length of 4. -/
def manyRanges : Environment where
  functionId := 0
  reply _ := ⟨false, 44, fun i =>
    if i = 0 then tdispMessageVersion10 else if i = 1 then tdispDeviceInterfaceReport
    else if i = 16 then 24 else if i = 35 then 0x10 else if i = 36 then 4 else 0⟩
  stack _ _ := 0
  ideStream _ := true
  reportStack _ := 0
  portionLen := 256
  reportMaxSize := 4096

theorem not_reportMeets_manyRanges :
    ¬ ReportMeets manyRanges 1 ⟨0, 0, [], [], .run, fun _ => ⟨false, 0, []⟩⟩ := by
  intro h
  have hfetch : (fetchInterfaceReport manyRanges 1
      ⟨0, 0, [], [], .run, fun _ => ⟨false, 0, []⟩⟩).any (fun result => result.1 &&
        decide (result.2.size = measuredSize result.2.buffer ∧
          ¬ rangeCount result.2.buffer < 2 ^ 28 - 1)) = true := by
    decide +kernel
  obtain ⟨⟨res, report⟩, hrun, hcheck⟩ := (Option.any_eq_true _ _).mp hfetch
  simp only [Bool.and_eq_true, decide_eq_true_eq] at hcheck
  obtain ⟨rfl, hsize, hcount⟩ := hcheck
  obtain ⟨v, hrun', hrecords⟩ := tdispTestInterfaceReport5Run_of_delivered hrun
  obtain ⟨reads, v', hrun'', hreads, hdocumented⟩ := h report hrun
  rw [hrun'] at hrun''
  cases hrun''
  rw [hrecords] at hdocumented
  have hregular := (reportStructureRun_iff report.buffer (size_lt_of_delivered hrun)).mp
    ⟨hreads, List.append_cancel_left (List.append_cancel_left hdocumented)⟩
  exact hregular.count.elim hcount fun hne => hne hsize

end Delivered

end TeeIoValidator.Tdisp
