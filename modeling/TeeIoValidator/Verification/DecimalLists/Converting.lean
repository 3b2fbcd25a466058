import TeeIoValidator.Verification.DecimalLists.Strings
import TeeIoValidator.Verification.IniConfig.SwConns

/-! `decimal_str_to_array` writes behind its copy and does not look at the last piece. -/

namespace TeeIoValidator.DecimalLists

open IniFile IniConfig

/-- The pieces that have a comma behind them. -/
def fronts (str : List UInt8) : List (List UInt8) := (pieces str).dropLast

theorem fronts_eq (str : List UInt8) :
    fronts str = match findCharInStr str comma with
      | none => []
      | some pos => str.take pos :: fronts (str.drop (pos + 1)) := by
  have hpieces : pieces str = _ := connPieces_eq str
  rw [fronts, hpieces]
  cases findCharInStr str comma with
  | none => rfl
  | some pos => exact List.dropLast_cons_of_ne_nil (List.splitOnP_ne_nil _ _)

section Convert

variable {str : List UInt8} {len : ℕ} {array : Option ℕ}

/-- The size of the array, or 0 where nothing is stored. -/
def capacity (array : Option ℕ) : ℕ := array.getD 0

/-- What is stored for a piece. -/
def stored (piece : List UInt8) : ℤ := (BitVec.ofNat 32 (strtoul piece).1).toInt

/-- The piece is valid, and stored when there is an array with room for it. -/
def Stores (array : Option ℕ) (count : ℕ) (piece : List UInt8) : Prop :=
  isValidDecimal piece = true ∧
    (capacity array = 0 ∨ (strtoul piece).2 = [] ∧ count ≠ capacity array)

instance (count : ℕ) (piece : List UInt8) : Decidable (Stores array count piece) :=
  inferInstanceAs (Decidable (_ ∧ _))

/-- The bytes that are accessed for the piece in front of the comma at `pos`. -/
def ConvertState.touchedAt (s : ConvertState) (pos : ℕ) : Touched :=
  (s.touched.onCopy (s.ptr, s.rest.length + 1)).onCopy (s.ptr, pos + 1)

/-- The state behind the comma at `pos`. -/
def ConvertState.next (array : Option ℕ) (s : ConvertState) (pos : ℕ) : ConvertState :=
  ⟨s.ptr + (pos + 1), s.rest.drop (pos + 1), pos + 1,
    if capacity array = 0 then s.array else s.array ++ [stored (s.rest.take pos)], true,
    s.touchedAt pos⟩

@[simp] theorem next_pos (s : ConvertState) (pos : ℕ) : (s.next array pos).pos = pos + 1 := rfl

@[simp] theorem next_rest (s : ConvertState) (pos : ℕ) :
    (s.next array pos).rest = s.rest.drop (pos + 1) := rfl

theorem next_array (s : ConvertState) (pos : ℕ) :
    (s.next array pos).array =
      if capacity array = 0 then s.array else s.array ++ [stored (s.rest.take pos)] := rfl

theorem length_next (s : ConvertState) (pos : ℕ) :
    (s.next array pos).array.length =
      if capacity array = 0 then s.array.length else s.array.length + 1 := by
  rw [next_array]
  split_ifs with hzero
  · rfl
  · rw [List.length_append, List.length_singleton]

theorem decimalStrToArrayRound_of_le {s : ConvertState} (hpos : len ≤ s.pos) :
    decimalStrToArrayRound len array s =
      .inr { ret := s.valid, array := s.array, touched := s.touched } := by
  rw [decimalStrToArrayRound, if_pos hpos]

theorem decimalStrToArrayRound_of_none {s : ConvertState} (hpos : s.pos < len)
    (hfind : findCharInStr s.rest comma = none) :
    decimalStrToArrayRound len array s =
      .inr { ret := s.valid, array := s.array,
             touched := s.touched.onCopy (s.ptr, s.rest.length + 1) } := by
  rw [decimalStrToArrayRound, if_neg (Nat.not_le_of_lt hpos)]
  simp only [hfind]

theorem decimalStrToArrayRound_of_some {s : ConvertState} {pos : ℕ} (hpos : s.pos < len)
    (hfind : findCharInStr s.rest comma = some pos) :
    decimalStrToArrayRound len array s =
      if Stores array s.array.length (s.rest.take pos) then .inl (s.next array pos)
      else .inr { ret := false, array := s.array, touched := s.touchedAt pos } := by
  rw [decimalStrToArrayRound, if_neg (Nat.not_le_of_lt hpos)]
  simp only [hfind, Stores, ConvertState.next, ConvertState.touchedAt, capacity, stored]
  by_cases hvalid : isValidDecimal (s.rest.take pos) = true
  · match array with
    | none => simp [hvalid]
    | some 0 => simp [hvalid]
    | some (size + 1) =>
        by_cases hend : (strtoul (s.rest.take pos)).2 = []
        · by_cases hfull : s.array.length = size + 1
          · simp [hvalid, hfull]
          · simp [hvalid, hend, hfull]
        · simp [hvalid, hend]
  · simp [hvalid]

/-- The comma is written behind the copy. -/
structure Touched.Overruns (touched : Touched) (str : List UInt8) : Prop where
  size : touched.copySize = str.length + 2
  comma : (str.length + 2, 1) ∈ touched.copy

theorem Touched.Overruns.onCopy {touched : Touched} (h : touched.Overruns str) (access : ℕ × ℕ) :
    (touched.onCopy access).Overruns str :=
  ⟨h.size, List.mem_append_left _ h.comma⟩

theorem Touched.overruns_padded (str : List UInt8) : (Touched.padded str).Overruns str :=
  ⟨rfl, List.mem_cons_of_mem _ List.mem_cons_self⟩

theorem Touched.Overruns.not_inside {touched : Touched} (h : touched.Overruns str) :
    ¬touched.Inside str := by
  intro hinside
  have hle := hinside.2 _ h.comma
  rw [h.size] at hle
  exact absurd hle (Nat.not_succ_le_self _)

theorem decimalStrToArrayRound_overruns {s : ConvertState} (hs : s.touched.Overruns str) :
    Sum.elim (fun s' => s'.touched.Overruns str) (fun outcome => outcome.touched.Overruns str)
      (decimalStrToArrayRound len array s) := by
  by_cases hpos : len ≤ s.pos
  · rw [decimalStrToArrayRound_of_le hpos]
    exact hs
  · rw [Nat.not_le] at hpos
    cases hfind : findCharInStr s.rest comma with
    | none =>
        rw [decimalStrToArrayRound_of_none hpos hfind]
        exact hs.onCopy _
    | some pos =>
        rw [decimalStrToArrayRound_of_some hpos hfind]
        split_ifs
        · exact (hs.onCopy _).onCopy _
        · exact (hs.onCopy _).onCopy _

def convertStart (str : List UInt8) : ConvertState := ⟨0, str, 0, [], false, .padded str⟩

theorem decimalStrToArray_eq (hne : str ≠ []) (fuel : ℕ) :
    decimalStrToArray (some str) array fuel =
      if copyLength str < 0 then some (.error .crash)
      else if copyLength str ≠ str.length + 2 then some (.error .overrun)
      else (Iteration.run (decimalStrToArrayRound (str.length + 2) array) fuel
        (convertStart str)).map .ok := by
  cases str with
  | nil => exact absurd rfl hne
  | cons c rest => rfl

/-- Every string but the empty one is copied with a comma behind the copy, if the function comes to
its end. -/
theorem decimalStrToArray_overruns (hne : str ≠ []) {outcome : Outcome}
    (h : Returns (decimalStrToArray (some str) array) outcome) : outcome.touched.Overruns str := by
  obtain ⟨fuel, hrun⟩ := h
  rw [decimalStrToArray_eq hne] at hrun
  split_ifs at hrun
  · cases hrun
  · cases hrun
  · rw [Option.map_eq_some_iff] at hrun
    obtain ⟨outcome', hloop, heq⟩ := hrun
    cases heq
    have hreturns : Iteration.Returns _ _ outcome := ⟨fuel, hloop⟩
    exact hreturns.invariant (P := fun s => s.touched.Overruns str)
      (Touched.overruns_padded str) fun _ => decimalStrToArrayRound_overruns

theorem decimalStrToArray_returns_iff (hne : str ≠ []) (hfits : str.length + 2 < 2 ^ 31)
    {outcome : Outcome} :
    Returns (decimalStrToArray (some str) array) outcome ↔
      Iteration.Returns (decimalStrToArrayRound (str.length + 2) array) (convertStart str)
        outcome := by
  have hcopy : copyLength str = str.length + 2 := by
    have htoNat : (BitVec.ofNat 32 (str.length + 2)).toNat = str.length + 2 := by
      rw [BitVec.toNat_ofNat]
      exact Nat.mod_eq_of_lt (by omega)
    rw [copyLength, BitVec.toInt_eq_toNat_of_lt (by omega), htoNat]
    rfl
  have hrun : decimalStrToArray (some str) array = fun fuel =>
      (Iteration.run (decimalStrToArrayRound (str.length + 2) array) fuel
        (convertStart str)).map .ok := by
    funext fuel
    rw [decimalStrToArray_eq hne, if_neg (by omega), if_neg (by omega)]
  rw [hrun, returns_map_ok]

/-- What the loop answers when a piece in front of a comma is left or has been read. -/
structure Converted (array : Option ℕ) (s : ConvertState) (outcome : Outcome) : Prop where
  ret : outcome.ret = true ↔ (∀ piece ∈ fronts s.rest, isValidDecimalString piece = true) ∧
    (capacity array = 0 ∨ s.array.length + (fronts s.rest).length ≤ capacity array)
  written : outcome.ret = true → outcome.array =
    s.array ++ if capacity array = 0 then [] else (fronts s.rest).map stored

theorem stores_iff {count : ℕ} {piece : List UInt8} (hlength : piece.length < 2 ^ 32) :
    Stores array count piece ↔
      isValidDecimalString piece = true ∧ (capacity array = 0 ∨ count ≠ capacity array) := by
  rw [Stores, isValidDecimal_eq hlength]
  refine and_congr_right fun hvalid => ?_
  rw [strtoul_digits hvalid]
  simp

/-- A piece is read in front of those that follow. -/
theorem Converted.cons {s : ConvertState} {pos : ℕ} {outcome : Outcome}
    (h : Converted array (s.next array pos) outcome)
    (hfronts : fronts s.rest = s.rest.take pos :: fronts (s.next array pos).rest)
    (hvalid : isValidDecimalString (s.rest.take pos) = true) : Converted array s outcome := by
  obtain ⟨hret, hwritten⟩ := h
  constructor
  · rw [hret, hfronts, List.forall_mem_cons, and_iff_right hvalid, List.length_cons, length_next]
    refine and_congr_right fun _ => ?_
    split_ifs with hzero
    · simp [hzero]
    · rw [Nat.add_assoc, Nat.add_comm 1]
  · intro haccepted
    rw [hwritten haccepted, hfronts, next_array]
    split_ifs with hzero
    · rfl
    · simp

theorem convert_returns {fs : List (List UInt8)} {s : ConvertState} (hs : fronts s.rest = fs)
    (hpos : s.pos + s.rest.length < len) (hlength : s.rest.length < 2 ^ 32)
    (hroom : capacity array = 0 ∨ s.array.length ≤ capacity array)
    (hvalid : s.valid = true ∨ fs ≠ []) :
    ∃ outcome, Iteration.Returns (decimalStrToArrayRound len array) s outcome ∧
      Converted array s outcome := by
  have hfronts := fronts_eq s.rest
  induction fs generalizing s with
  | nil =>
      cases hfind : findCharInStr s.rest comma with
      | none =>
          refine ⟨_, Iteration.returns_of_inr
            (decimalStrToArrayRound_of_none (by omega) hfind), ?_, fun _ => ?_⟩
          · rw [hs]
            exact iff_of_true (hvalid.resolve_right fun hne => hne rfl)
              ⟨List.forall_mem_nil _, by simpa using hroom⟩
          · rw [hs]
            simp
      | some pos =>
          rw [hs, hfind] at hfronts
          cases hfronts
  | cons f fs ih =>
      cases hfind : findCharInStr s.rest comma with
      | none =>
          rw [hs, hfind] at hfronts
          cases hfronts
      | some pos =>
          rw [hs, hfind] at hfronts
          obtain ⟨rfl, hrest⟩ := List.cons.inj hfronts
          have hlt := findCharInStr_lt hfind
          have hround : decimalStrToArrayRound len array s = _ :=
            decimalStrToArrayRound_of_some (by omega) hfind
          have hstores : Stores array s.array.length (s.rest.take pos) ↔ _ :=
            stores_iff (by rw [List.length_take]; omega)
          by_cases htakes : Stores array s.array.length (s.rest.take pos)
          · rw [if_pos htakes] at hround
            rw [hstores] at htakes
            have hrest' : fronts (s.next array pos).rest = fs := hrest.symm
            have hroom' : capacity array = 0 ∨
                (s.next array pos).array.length ≤ capacity array := by
              rw [length_next]
              split_ifs with hzero
              · exact .inl hzero
              · have := htakes.2
                omega
            have hlengths : (s.next array pos).pos + (s.next array pos).rest.length ≤
                s.rest.length := by
              rw [next_pos, next_rest, List.length_drop]
              omega
            obtain ⟨outcome, hreturns, hconverted⟩ := ih hrest' (by omega) (by omega) hroom'
              (.inl rfl) (fronts_eq _)
            exact ⟨outcome, (Iteration.returns_of_inl hround).mpr hreturns,
              hconverted.cons (hs.trans (by rw [← hrest'])) htakes.1⟩
          · rw [if_neg htakes] at hround
            rw [hstores] at htakes
            refine ⟨_, Iteration.returns_of_inr hround, ?_, nofun⟩
            refine iff_of_false nofun ?_
            rintro ⟨hall, hlarge⟩
            rw [hs, List.forall_mem_cons] at hall
            rw [hs, List.length_cons] at hlarge
            exact htakes ⟨hall.1, hlarge.imp_right fun h => by omega⟩

/-- The answer depends on the pieces in front of a comma only: the last piece is not looked at. -/
theorem decimalStrToArray_converted (hfits : str.length + 2 < 2 ^ 31) :
    ∃ outcome, Returns (decimalStrToArray (some str) array) outcome ∧
      (outcome.ret = true ↔ fronts str ≠ [] ∧
        (∀ piece ∈ fronts str, isValidDecimalString piece = true) ∧
        (capacity array = 0 ∨ (fronts str).length ≤ capacity array)) ∧
      (outcome.ret = true →
        outcome.array = if capacity array = 0 then [] else (fronts str).map stored) := by
  by_cases hne : str = []
  · subst hne
    exact ⟨_, ⟨0, rfl⟩, iff_of_false nofun fun h => h.1 rfl, nofun⟩
  · simp only [decimalStrToArray_returns_iff hne hfits]
    by_cases hfronts : fronts str = []
    · have hfind : findCharInStr str comma = none := by
        cases hfind : findCharInStr str comma with
        | none => rfl
        | some pos =>
            rw [fronts_eq, hfind] at hfronts
            cases hfronts
      exact ⟨_, Iteration.returns_of_inr
        (decimalStrToArrayRound_of_none (Nat.zero_lt_succ _) hfind),
        iff_of_false nofun fun h => h.1 hfronts, nofun⟩
    · obtain ⟨outcome, hreturns, hconverted⟩ : ∃ outcome,
          Iteration.Returns (decimalStrToArrayRound (str.length + 2) array) (convertStart str)
            outcome ∧ Converted array (convertStart str) outcome :=
        convert_returns rfl (by simp only [convertStart]; omega)
          (by simp only [convertStart]; omega) (.inr (Nat.zero_le _)) (.inr hfronts)
      refine ⟨outcome, hreturns, ?_, fun hret => ?_⟩
      · rw [hconverted.ret, and_iff_right hfronts, convertStart, List.length_nil, Nat.zero_add]
      · rw [hconverted.written hret, convertStart, List.nil_append]

theorem decimalStrToArray_unique (hfits : str.length + 2 < 2 ^ 31) {outcome outcome' : Outcome}
    (h : Returns (decimalStrToArray (some str) array) outcome)
    (h' : Returns (decimalStrToArray (some str) array) outcome') : outcome = outcome' := by
  by_cases hne : str = []
  · subst hne
    obtain ⟨fuel, hrun⟩ := h
    obtain ⟨fuel', hrun'⟩ := h'
    cases hrun
    cases hrun'
    rfl
  · rw [decimalStrToArray_returns_iff hne hfits] at h h'
    exact h.unique h'

/-- The loop ends, for every string. -/
theorem terminates_convert (s : ConvertState) :
    Iteration.Terminates (decimalStrToArrayRound len array) s := by
  refine Iteration.terminates_of_measure (P := fun _ => True) (fun s => s.rest.length) trivial
    fun s _ => ?_
  by_cases hpos : len ≤ s.pos
  · rw [decimalStrToArrayRound_of_le hpos]
    trivial
  · rw [Nat.not_le] at hpos
    cases hfind : findCharInStr s.rest comma with
    | none =>
        rw [decimalStrToArrayRound_of_none hpos hfind]
        trivial
    | some pos =>
        rw [decimalStrToArrayRound_of_some hpos hfind]
        split_ifs
        · exact ⟨trivial, length_drop_lt hfind⟩
        · trivial

/-- The function ends or fails, for every string. -/
theorem decimalStrToArray_terminates (array : Option ℕ) (str : List UInt8) :
    ∃ fuel result, decimalStrToArray (some str) array fuel = some result := by
  by_cases hne : str = []
  · subst hne
    exact ⟨0, _, rfl⟩
  · simp only [decimalStrToArray_eq hne]
    split_ifs
    · exact ⟨0, _, rfl⟩
    · exact ⟨0, _, rfl⟩
    · have hends : Iteration.Terminates (decimalStrToArrayRound (str.length + 2) array) _ :=
        terminates_convert (convertStart str)
      obtain ⟨outcome, fuel, hrun⟩ := hends
      exact ⟨fuel, .ok outcome, by rw [hrun]; rfl⟩

end Convert

end TeeIoValidator.DecimalLists
