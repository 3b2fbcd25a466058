import Mathlib.Data.BitVec
import Mathlib.Data.List.Basic
import Mathlib.Data.List.Infix
import Mathlib.Tactic.Common

/-! Streams of records: a header of fixed width announces how many symbols of payload
follow it. -/

namespace TeeIoValidator.Framing

/-- An image of fixed width from which the value can be read back. -/
structure Image (η α : Type*) where
  width : ℕ
  width_pos : 0 < width
  write : η → List α
  read : List α → η
  length_write : ∀ h, (write h).length = width
  read_write : ∀ h, read (write h) = h

/-- The image of a header in a stream, and the payload length it announces. -/
structure Header (η α : Type*) extends Image η α where
  announced : η → ℕ

variable {η α : Type*} (H : Header η α)

def record (r : η × List α) : List α := H.write r.1 ++ r.2

def stream (rs : List (η × List α)) : List α := rs.flatMap (record H)

/-- The header of the record announces exactly its payload. -/
def Whole (r : η × List α) : Prop := H.announced r.1 = r.2.length

/-- The record at the start of a stream, and the stream after it. -/
def readNext (xs : List α) : Option ((η × List α) × List α) :=
  if xs.length < H.width then none
  else
    let h := H.read (xs.take H.width)
    let body := xs.drop H.width
    if body.length < H.announced h then none
    else some ((h, body.take (H.announced h)), body.drop (H.announced h))

def readUpTo : ℕ → List α → List (η × List α)
  | 0, _ => []
  | fuel + 1, xs =>
    match readNext H xs with
    | none => []
    | some (r, rest) => r :: readUpTo fuel rest

/-- The records at the start of a stream; what follows the last of them is left. -/
def records (xs : List α) : List (η × List α) := readUpTo H xs.length xs

@[simp] theorem stream_nil : stream H [] = [] := rfl

@[simp] theorem stream_cons (r : η × List α) (rs : List (η × List α)) :
    stream H (r :: rs) = record H r ++ stream H rs := rfl

@[simp] theorem stream_append (rs ss : List (η × List α)) :
    stream H (rs ++ ss) = stream H rs ++ stream H ss := List.flatMap_append

theorem length_record (r : η × List α) : (record H r).length = H.width + r.2.length := by
  rw [record, List.length_append, H.length_write]

/-! ## One record -/

theorem readNext_record {r : η × List α} (hr : Whole H r) (rest : List α) :
    readNext H (record H r ++ rest) = some (r, rest) := by
  have hwidth : ¬(record H r ++ rest).length < H.width := by
    rw [List.length_append, length_record]
    omega
  have hsplit : record H r ++ rest = H.write r.1 ++ (r.2 ++ rest) := List.append_assoc ..
  have htake : (record H r ++ rest).take H.width = H.write r.1 := by
    rw [hsplit, List.take_left' (H.length_write r.1)]
  have hdrop : (record H r ++ rest).drop H.width = r.2 ++ rest := by
    rw [hsplit, List.drop_left' (H.length_write r.1)]
  have hbody : ¬(r.2 ++ rest).length < H.announced r.1 := by
    rw [hr, List.length_append]
    omega
  rw [readNext, if_neg hwidth, htake, hdrop, H.read_write]
  dsimp only
  rw [if_neg hbody, hr, List.take_left, List.drop_left]

theorem readNext_whole {xs rest : List α} {r : η × List α}
    (h : readNext H xs = some (r, rest)) : Whole H r ∧ rest.length < xs.length := by
  have hpos := H.width_pos
  unfold readNext at h
  split at h
  · exact absurd h.symm (Option.some_ne_none _)
  · rename_i hwidth
    dsimp only at h
    split at h
    · exact absurd h.symm (Option.some_ne_none _)
    · rename_i hbody
      obtain ⟨rfl, rfl⟩ := Prod.mk.inj (Option.some.inj h)
      refine ⟨?_, ?_⟩
      · have hlen : H.announced (H.read (xs.take H.width)) ≤ (xs.drop H.width).length :=
          Nat.not_lt.mp hbody
        exact (List.length_take_of_le hlen).symm
      · rw [List.length_drop, List.length_drop]
        omega

/-- What a torn record holds is not read as a record. -/
theorem readNext_torn {r : η × List α} (hr : Whole H r) {xs : List α}
    (hxs : xs <+: record H r) (hshort : xs.length < (record H r).length) :
    readNext H xs = none := by
  rw [Whole] at hr
  rw [length_record] at hshort
  unfold readNext
  split
  · rfl
  · rename_i hwidth
    have htake : xs.take H.width = H.write r.1 := by
      obtain ⟨ys, hys⟩ := hxs
      have := congrArg (List.take H.width) hys
      rwa [List.take_append_of_le_length (Nat.not_lt.mp hwidth), record,
        List.take_left' (H.length_write r.1)] at this
    have hbody : (xs.drop H.width).length < H.announced r.1 := by
      rw [List.length_drop, hr]
      omega
    dsimp only
    rw [htake, H.read_write, if_pos hbody]

/-! ## All records -/

/-- The fuel makes no difference once it covers the stream. -/
theorem readUpTo_eq {n m : ℕ} {xs : List α} (hn : xs.length ≤ n) (hm : xs.length ≤ m) :
    readUpTo H n xs = readUpTo H m xs := by
  have hnil : readNext H [] = none := by
    rw [readNext, if_pos (by simpa using H.width_pos)]
  induction n generalizing m xs with
  | zero =>
      obtain rfl := List.length_eq_zero_iff.mp (Nat.le_zero.mp hn)
      cases m with
      | zero => rfl
      | succ m => rw [readUpTo, readUpTo, hnil]
  | succ n ih =>
      cases m with
      | zero =>
          obtain rfl := List.length_eq_zero_iff.mp (Nat.le_zero.mp hm)
          rw [readUpTo, readUpTo, hnil]
      | succ m =>
          rw [readUpTo, readUpTo]
          cases h : readNext H xs with
          | none => rfl
          | some p =>
              have hlt := (readNext_whole H h).2
              exact congrArg (p.1 :: ·) (ih (by omega) (by omega))

theorem records_of_readNext {xs rest : List α} {r : η × List α}
    (h : readNext H xs = some (r, rest)) : records H xs = r :: records H rest := by
  have hlt := (readNext_whole H h).2
  obtain ⟨n, hn⟩ : ∃ n, xs.length = n + 1 := ⟨xs.length - 1, by omega⟩
  rw [records, hn, readUpTo, h]
  exact congrArg (r :: ·) (readUpTo_eq H (by omega) (le_refl _))

theorem records_of_readNext_eq_none {xs : List α} (h : readNext H xs = none) :
    records H xs = [] := by
  rw [records]
  cases hn : xs.length with
  | zero => rfl
  | succ n => rw [readUpTo, h]

theorem records_stream_append {rs : List (η × List α)} (hrs : ∀ r ∈ rs, Whole H r)
    (rest : List α) : records H (stream H rs ++ rest) = rs ++ records H rest := by
  induction rs with
  | nil => rfl
  | cons r rs ih =>
      have hnext := readNext_record H (hrs r List.mem_cons_self) (stream H rs ++ rest)
      rw [stream_cons, List.append_assoc, records_of_readNext H hnext,
        ih fun s hs => hrs s (List.mem_cons_of_mem r hs)]
      rfl

theorem records_nil : records H [] = [] := rfl

theorem records_stream {rs : List (η × List α)} (hrs : ∀ r ∈ rs, Whole H r) :
    records H (stream H rs) = rs := by
  have h := records_stream_append H hrs []
  rwa [List.append_nil, records_nil, List.append_nil] at h

theorem whole_of_mem_records {xs : List α} :
    ∀ r ∈ records H xs, Whole H r := by
  have hread : ∀ (n : ℕ) (xs : List α), ∀ r ∈ readUpTo H n xs, Whole H r := by
    intro n
    induction n with
    | zero => intro xs r hr; cases hr
    | succ n ih =>
        intro xs r hr
        rw [readUpTo] at hr
        cases h : readNext H xs with
        | none => rw [h] at hr; cases hr
        | some p =>
            rw [h] at hr
            rcases List.mem_cons.mp hr with rfl | hr
            · exact (readNext_whole H h).1
            · exact ih p.2 r hr
  exact hread xs.length xs

/-- A stream is read back exactly when every header announces its own payload. -/
theorem records_stream_iff (rs : List (η × List α)) :
    records H (stream H rs) = rs ↔ ∀ r ∈ rs, Whole H r := by
  refine ⟨fun h => ?_, records_stream H⟩
  rw [← h]
  exact whole_of_mem_records H

/-- A stream that breaks off anywhere still reads as its first records. -/
theorem records_of_prefix {rs : List (η × List α)} (hrs : ∀ r ∈ rs, Whole H r)
    {xs : List α} (hxs : xs <+: stream H rs) : records H xs <+: rs := by
  induction rs generalizing xs with
  | nil =>
      obtain rfl := List.prefix_nil.mp hxs
      exact List.prefix_refl []
  | cons r rs ih =>
      have hr := hrs r List.mem_cons_self
      rw [stream_cons] at hxs
      by_cases hshort : xs.length < (record H r).length
      · have htorn : xs <+: record H r :=
          List.prefix_of_prefix_length_le hxs (List.prefix_append ..) (le_of_lt hshort)
        rw [records_of_readNext_eq_none H (readNext_torn H hr htorn hshort)]
        exact List.nil_prefix
      · have hfirst : record H r <+: xs :=
          List.prefix_of_prefix_length_le (List.prefix_append ..) hxs (Nat.not_lt.mp hshort)
        obtain ⟨ys, rfl⟩ := hfirst
        rw [records_of_readNext H (readNext_record H hr ys)]
        have hys : ys <+: stream H rs := (List.prefix_append_right_inj _).mp hxs
        exact List.cons_prefix_cons.mpr
          ⟨rfl, ih (fun s hs => hrs s (List.mem_cons_of_mem r hs)) hys⟩

end TeeIoValidator.Framing
