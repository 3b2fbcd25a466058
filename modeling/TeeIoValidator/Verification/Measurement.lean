import TeeIoValidator.Library.History
import TeeIoValidator.Model.Measurement

/-! The record that is received, the signature that is asked for, and the records that do not
fit. -/

namespace TeeIoValidator.Measurement

section Loop

variable {capacity : ℕ} {responder : Responder capacity} {n : ℕ}

/-- The signature is asked for exactly when one block is missing. -/
def SignsLast (responder : Responder capacity) (n : ℕ) (before : List Request)
    (request : Request) : Prop :=
  ∀ i, request.operation = .index i →
    (request.signature = true ↔ blocksReceived responder before + 1 = n)

theorem blocksReceived_append_index (requests : List Request) (i : ℕ) (signature : Bool) :
    blocksReceived responder (requests ++ [⟨.index i, signature⟩]) =
      blocksReceived responder requests + if (responder.block i).isSome then 1 else 0 := by
  simp only [blocksReceived, List.countP_append, List.countP_singleton]

/-- What holds before every round, with the record so far. -/
structure Holds (responder : Responder capacity) (n : ℕ) (record : List UInt8) (s : State) :
    Prop where
  fits : s.offset ≤ capacity
  within : s.record.Within capacity
  read : Block.read s.record.mem 0 s.offset = record
  length : s.offset = record.length
  received_le : s.received ≤ n
  received : s.received = blocksReceived responder s.requests
  signature : s.signature = true → n ≤ s.received + 1
  signsLast : History.Each (SignsLast responder n) s.requests

/-- The state after a request for a block. -/
def requested (n index : ℕ) (s : State) : State :=
  let signature := if s.received + 1 = n then true else s.signature
  { s with signature, requests := s.requests ++ [⟨.index index, signature⟩] }

theorem Holds.signsLast_requested {record : List UInt8} {s : State} {index : ℕ}
    (h : Holds responder n record s) (hne : s.received ≠ n) :
    History.Each (SignsLast responder n) (requested n index s).requests := by
  refine History.each_append_singleton.mpr ⟨h.signsLast, fun _ _ => ?_⟩
  rw [← h.received]
  have hle := h.received_le
  have hsignature := h.signature
  split_ifs with hlast
  · exact iff_of_true rfl hlast
  · refine iff_of_false (fun htrue => ?_) hlast
    have := hsignature htrue
    omega

theorem Holds.requested_of_none {record : List UInt8} {s : State} {index : ℕ}
    (h : Holds responder n record s) (hne : s.received ≠ n)
    (hblock : responder.block index = none) :
    Holds responder n record (requested n index s) where
  fits := h.fits
  within := h.within
  read := h.read
  length := h.length
  received_le := h.received_le
  received := by
    rw [requested, blocksReceived_append_index, hblock, ← h.received]
    rfl
  signature := by
    intro htrue
    simp only [requested] at htrue ⊢
    split_ifs at htrue with hlast
    · exact Nat.le_of_eq hlast.symm
    · exact h.signature htrue
  signsLast := h.signsLast_requested hne

/-- The state after a block that fits was received. -/
def stored (n index : ℕ) (block : List UInt8) (s : State) : State :=
  { requested n index s with
    received := s.received + 1
    record := s.record.writeBlock s.offset block
    offset := s.offset + block.length }

theorem Holds.stored {record block : List UInt8} {s : State} {index : ℕ}
    (h : Holds responder n record s) (hne : s.received ≠ n)
    (hblock : responder.block index = some block) (hfits : block.length < capacity - s.offset) :
    Holds responder n (record ++ block) (stored n index block s) where
  fits := by
    simp only [Measurement.stored]
    omega
  within := by
    by_cases hnil : block = []
    · rw [hnil]
      exact h.within
    · exact (Tracked.within_writeBlock _ _ hnil).mpr ⟨h.within, by omega⟩
  read := by
    simp only [Measurement.stored, Tracked.writeBlock_mem]
    rw [Block.read_add, Nat.zero_add, Block.read_write,
      Block.read_write_of_disjoint _ (Or.inl (by omega)), h.read]
  length := by
    rw [List.length_append, ← h.length]
    rfl
  received_le := by
    have := h.received_le
    simp only [Measurement.stored]
    omega
  received := by
    simp only [Measurement.stored, requested]
    rw [blocksReceived_append_index, hblock, ← h.received]
    rfl
  signature := by
    intro htrue
    simp only [Measurement.stored, requested] at htrue ⊢
    split_ifs at htrue with hlast
    · omega
    · have := h.signature htrue
      omega
  signsLast := h.signsLast_requested hne

/-- How the loop ends when it is to receive the blocks `bs` behind the record so far. -/
structure Ends (responder : Responder capacity) (n : ℕ) (record : List UInt8)
    (bs : List (List UInt8)) (received : ℕ) (left : Left) : Prop where
  within : left.2.record.Within capacity
  signsLast : History.Each (SignsLast responder n) left.2.requests
  complete : bs = [] ∨ (record ++ bs.flatten).length < capacity → left.1 = none ∧
    left.2.received = received + bs.length ∧ Holds responder n (record ++ bs.flatten) left.2
  tooSmall : ¬(bs = [] ∨ (record ++ bs.flatten).length < capacity) →
    left.1 = some .bufferTooSmall

theorem Holds.ends {record : List UInt8} {s : State} (h : Holds responder n record s) :
    Ends responder n record [] s.received (none, s) where
  within := h.within
  signsLast := h.signsLast
  complete _ := ⟨rfl, rfl, by rwa [List.flatten_nil, List.append_nil]⟩
  tooSmall hnot := absurd (Or.inl rfl) hnot

/-- A block in front of those that are received behind it. -/
theorem Ends.cons {record block : List UInt8} {bs : List (List UInt8)} {received : ℕ} {left : Left}
    (h : Ends responder n (record ++ block) bs (received + 1) left)
    (hfits : (record ++ block).length < capacity) :
    Ends responder n record (block :: bs) received left := by
  have hrecord : record ++ (block :: bs).flatten = record ++ block ++ bs.flatten := by
    rw [List.flatten_cons, List.append_assoc]
  have hiff : (block :: bs = [] ∨ (record ++ (block :: bs).flatten).length < capacity) ↔
      bs = [] ∨ (record ++ block ++ bs.flatten).length < capacity := by
    rw [hrecord]
    constructor
    · exact fun hor => Or.inr (hor.resolve_left (List.cons_ne_nil _ _))
    · rintro (rfl | hlt)
      · exact Or.inr (by rwa [List.flatten_nil, List.append_nil])
      · exact Or.inr hlt
  refine ⟨h.within, h.signsLast, fun hor => ?_, fun hnot => h.tooSmall (mt hiff.mpr hnot)⟩
  obtain ⟨hnone, hreceived, hholds⟩ := h.complete (hiff.mp hor)
  refine ⟨hnone, ?_, hrecord ▸ hholds⟩
  rw [hreceived, List.length_cons]
  omega

/-- The loop receives the blocks that are missing, as far as there are any and they fit. -/
theorem exists_queryBlocks (indices : List ℕ) {record : List UInt8} {s : State}
    (h : Holds responder n record s) :
    ∃ left, queryBlocks responder n indices s = some left ∧
      Ends responder n record ((indices.filterMap responder.block).take (n - s.received))
        s.received left := by
  induction indices generalizing record s with
  | nil => exact ⟨(none, s), rfl, by simpa using h.ends⟩
  | cons index indices ih =>
      rw [queryBlocks]
      by_cases hall : s.received = n
      · rw [if_pos hall, hall, Nat.sub_self, List.take_zero]
        exact ⟨(none, s), rfl, hall ▸ h.ends⟩
      · rw [if_neg hall]
        cases hblock : responder.block index with
        | none =>
            rw [List.filterMap_cons_none hblock]
            exact ih (h.requested_of_none hall hblock)
        | some block =>
            have hle := h.received_le
            have hfit := h.fits
            have hlength := h.length
            rw [List.filterMap_cons_some hblock,
              show n - s.received = (n - (s.received + 1)) + 1 by omega, List.take_succ_cons]
            simp only [if_neg (Nat.not_lt_of_le hfit)]
            by_cases hlt : block.length < capacity - s.offset
            · rw [if_pos hlt]
              obtain ⟨left, hleft, hends⟩ := ih (h.stored hall hblock hlt)
              refine ⟨left, hleft, Ends.cons hends ?_⟩
              rw [List.length_append]
              omega
            · rw [if_neg hlt]
              refine ⟨_, rfl, h.within, h.signsLast_requested hall, ?_, fun _ => rfl⟩
              intro hor
              have hlt' := hor.resolve_left (List.cons_ne_nil _ _)
              simp only [List.flatten_cons, List.length_append] at hlt'
              omega

end Loop

/-! ## The function -/

section Run

variable {capacity : ℕ} (responder : Responder capacity)

/-- The record that the responder has: that of its answer to the request for all measurements, or
the first blocks of those that are found, as many as it reports. -/
def IsRecord (record : List UInt8) : Prop :=
  match responder.allMeasurements with
  | some all => record = all.val
  | none => ∃ n, responder.numberOfBlocks = some n ∧ n.toNat ≤ (found responder).length ∧
      record = ((found responder).take n.toNat).flatten

/-- What the function is to do. -/
structure Meets (o : Outcome) : Prop where
  sound : o.status = .success → IsRecord responder (Block.read o.record.mem 0 o.length)
  accepts : ∀ record, IsRecord responder record → record.length ≤ capacity → o.status = .success
  signsLast : ∀ n, responder.numberOfBlocks = some n →
    History.Each (SignsLast responder n.toNat) o.requests
  within : o.record.Within capacity

/-- The blocks of a device that does not answer the request for all of them do not fill the
caller's buffer. -/
def Spares : Prop :=
  responder.allMeasurements = none → ∀ n, responder.numberOfBlocks = some n → n.toNat ≠ 0 →
    n.toNat ≤ (found responder).length →
      ((found responder).take n.toNat).flatten.length ≠ capacity

variable {responder} {buffer : ℕ → UInt8}

/-- The requests before the loop are for no block. -/
theorem signsLast_start (n : ℕ) :
    History.Each (SignsLast responder n) [⟨.allMeasurements, true⟩, ⟨.totalNumber, false⟩] := by
  have hall : History.Each (SignsLast responder n) [⟨.allMeasurements, true⟩] :=
    History.each_append_singleton.mpr ⟨History.each_nil, fun _ h => by cases h⟩
  exact History.each_append_singleton.mpr ⟨hall, fun _ h => by cases h⟩

theorem holds_start (buffer : ℕ → UInt8) (n : ℕ) :
    Holds responder n [] ⟨.start buffer, 0, 0, false,
      [⟨.allMeasurements, true⟩, ⟨.totalNumber, false⟩]⟩ where
  fits := Nat.zero_le capacity
  within := Tracked.within_start buffer
  read := rfl
  length := rfl
  received_le := Nat.zero_le n
  received := rfl
  signature htrue := by cases htrue
  signsLast := signsLast_start n

theorem isRecord_iff {n : UInt8} (hall : responder.allMeasurements = none)
    (hn : responder.numberOfBlocks = some n) (record : List UInt8) :
    IsRecord responder record ↔ n.toNat ≤ (found responder).length ∧
      record = ((found responder).take n.toNat).flatten := by
  simp only [IsRecord, hall, hn, Option.some.injEq, exists_eq_left']

theorem meets_all {all : { record : List UInt8 // record.length ≤ capacity }}
    (hall : responder.allMeasurements = some all) (requests : List Request)
    (hrequests : ∀ n, History.Each (SignsLast responder n) requests) :
    Meets responder
      ⟨.success, (Tracked.start buffer).writeBlock 0 all.val, all.val.length, requests⟩ where
  sound _ := by
    simp only [IsRecord, hall, Tracked.writeBlock_mem]
    exact Block.read_write buffer 0 all.val
  accepts _ _ _ := rfl
  signsLast n _ := hrequests n.toNat
  within := by
    by_cases hnil : all.val = []
    · rw [hnil]
      exact Tracked.within_start buffer
    · exact (Tracked.within_writeBlock _ _ hnil).mpr
        ⟨Tracked.within_start buffer, by simpa using all.property⟩

/-- The outcome after a loop that did not stop at a block. -/
theorem meets_complete {n : UInt8} {s : State} (hall : responder.allMeasurements = none)
    (hn : responder.numberOfBlocks = some n)
    (hholds : Holds responder n.toNat ((found responder).take n.toNat).flatten s)
    (hreceived : s.received = ((found responder).take n.toNat).length) :
    Meets responder
      (if s.received ≠ n.toNat then ⟨.invalidStatePeer, s.record, capacity, s.requests⟩
        else ⟨.success, s.record, s.offset, s.requests⟩) := by
  rw [List.length_take] at hreceived
  have hsigns : ∀ n', responder.numberOfBlocks = some n' →
      History.Each (SignsLast responder n'.toNat) s.requests := by
    intro n' hn'
    cases hn.symm.trans hn'
    exact hholds.signsLast
  by_cases hmissing : s.received ≠ n.toNat
  · rw [if_pos hmissing]
    refine ⟨nofun, fun record h _ => ?_, hsigns, hholds.within⟩
    have hle := ((isRecord_iff hall hn record).mp h).1
    omega
  · rw [if_neg hmissing]
    refine ⟨fun _ => (isRecord_iff hall hn _).mpr ⟨by omega, hholds.read⟩, fun _ _ _ => rfl, hsigns,
      hholds.within⟩

/-- The outcome after a block that did not fit. -/
theorem meets_tooSmall_iff {n : UInt8} {s : State} (hall : responder.allMeasurements = none)
    (hn : responder.numberOfBlocks = some n) (hwithin : s.record.Within capacity)
    (hsigns : History.Each (SignsLast responder n.toNat) s.requests)
    (hne : (found responder).take n.toNat ≠ [])
    (hge : capacity ≤ ((found responder).take n.toNat).flatten.length) :
    Meets responder ⟨.bufferTooSmall, s.record, capacity, s.requests⟩ ↔ Spares responder := by
  constructor
  · intro hmeets _ n' hn' _ hle hfull
    cases hn.symm.trans hn'
    have hsuccess := hmeets.accepts _ ((isRecord_iff hall hn _).mpr ⟨hle, rfl⟩) (Nat.le_of_eq hfull)
    cases hsuccess
  · intro hspares
    refine ⟨nofun, fun record h hle => ?_, fun n' hn' => ?_, hwithin⟩
    · obtain ⟨hfound, rfl⟩ := (isRecord_iff hall hn record).mp h
      have hzero : n.toNat ≠ 0 := fun hzero => hne (by rw [hzero, List.take_zero])
      exact absurd (Nat.le_antisymm hle hge) (hspares hall n hn hzero hfound)
    · cases hn.symm.trans hn'
      exact hsigns

/-- After a failed request for all measurements. -/
theorem meets_oneByOne_iff (hall : responder.allMeasurements = none) :
    (∃ o, oneByOne responder buffer [⟨.allMeasurements, true⟩] = some o ∧ Meets responder o) ↔
      Spares responder := by
  rw [oneByOne]
  cases hn : responder.numberOfBlocks with
  | none =>
      refine iff_of_true ⟨_, rfl, ?_, ?_, ?_, Tracked.within_start buffer⟩ ?_
      · intro h
        cases h
      · intro record h
        simp [IsRecord, hall, hn] at h
      · intro n h
        cases hn.symm.trans h
      · intro _ n h
        cases hn.symm.trans h
  | some n =>
      obtain ⟨⟨status, s⟩, hrun, hends⟩ :=
        @exists_queryBlocks _ responder n.toNat indices _ _ (holds_start buffer n.toNat)
      rw [← found, Nat.sub_zero] at hends
      simp only [List.singleton_append, hrun, Option.map_some, Option.some.injEq, exists_eq_left']
      by_cases hfits : (found responder).take n.toNat = [] ∨
          ((found responder).take n.toNat).flatten.length < capacity
      · obtain ⟨rfl, hreceived, hholds⟩ := hends.complete hfits
        rw [Nat.zero_add] at hreceived
        refine iff_of_true (meets_complete hall hn hholds hreceived) ?_
        intro _ n' hn' hzero hle hfull
        cases hn.symm.trans hn'
        rcases hfits with hnil | hlt
        · rcases List.take_eq_nil_iff.mp hnil with h | h
          · exact hzero h
          · rw [h] at hle
            exact hzero (Nat.le_zero.mp hle)
        · omega
      · obtain rfl := hends.tooSmall hfits
        rw [not_or] at hfits
        exact meets_tooSmall_iff hall hn hends.within hends.signsLast hfits.1
          (Nat.le_of_not_lt hfits.2)

/-- The function returns, and does what it is to, exactly when the blocks that are received one by
one do not fill the buffer. -/
theorem meets_spdmSendReceiveGetMeasurement_iff {capacity : ℕ} (responder : Responder capacity)
    (buffer : ℕ → UInt8) :
    (∃ o, spdmSendReceiveGetMeasurement responder buffer = some o ∧ Meets responder o) ↔
      Spares responder := by
  rw [spdmSendReceiveGetMeasurement]
  cases hall : responder.allMeasurements with
  | none => exact meets_oneByOne_iff hall
  | some all =>
      refine iff_of_true ⟨_, rfl, meets_all hall _ fun n => ?_⟩ fun hnone => ?_
      · exact History.each_append_singleton.mpr ⟨History.each_nil, fun _ h => by cases h⟩
      · cases hall.symm.trans hnone

end Run

/-! ## Runs -/

/-- A device with one block of four bytes, which only answers the requests for it. -/
def oneBlock : Responder 4 where
  allMeasurements := none
  numberOfBlocks := some 1
  block index := if index = 1 then some [1, 2, 3, 4] else none

/-- The block fills a buffer of four bytes and is not accepted. -/
theorem not_meets_oneBlock : ¬∃ o,
    spdmSendReceiveGetMeasurement oneBlock (fun _ => 0) = some o ∧ Meets oneBlock o := by
  rintro ⟨o, hrun, hmeets⟩
  have hstatus : (spdmSendReceiveGetMeasurement oneBlock fun _ => 0).any
      (·.status = .bufferTooSmall) := by decide +kernel
  rw [hrun, Option.any_some, decide_eq_true_eq] at hstatus
  have hrecord : IsRecord oneBlock [1, 2, 3, 4] := ⟨1, rfl, by decide +kernel, by decide +kernel⟩
  rw [hmeets.accepts _ hrecord (Nat.le_refl 4)] at hstatus
  cases hstatus

end TeeIoValidator.Measurement
