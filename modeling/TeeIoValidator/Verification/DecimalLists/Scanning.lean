import TeeIoValidator.Verification.DecimalLists.Strings

/-! `IsValidDecimalArray` stays at the first number that it comes to. -/

namespace TeeIoValidator.DecimalLists

open IniFile IniConfig

section Scan

variable {string : List UInt8} {length : BitVec 32}

def scanStart (string : List UInt8) : ScanState :=
  ⟨(strtok ⟨0, string⟩).token, false, (Touched.copied string).onCopy (strtok ⟨0, string⟩).access⟩

theorem isValidDecimalArray_returns_iff (hlength : length.toNat = string.length)
    (hne : string ≠ []) (hfits : string.length + 1 < 2 ^ 32) {outcome : Outcome} :
    Returns (isValidDecimalArray (some string) length) outcome ↔
      Iteration.Returns isValidDecimalArrayRound (scanStart string) outcome := by
  have hzero : length ≠ 0 := by
    intro h
    subst h
    exact hne (List.length_eq_zero_iff.mp hlength.symm)
  have hsize : (length + 1).toNat = string.length + 1 := by
    rw [BitVec.toNat_add, hlength]
    exact Nat.mod_eq_of_lt hfits
  have hrun : isValidDecimalArray (some string) length = fun fuel =>
      (Iteration.run isValidDecimalArrayRound fuel (scanStart string)).map .ok := by
    funext fuel
    rw [isValidDecimalArray, if_neg hzero, if_neg (not_not.mpr hsize)]
    rfl
  rw [hrun, returns_map_ok]

/-- The loop stays at a number. -/
theorem not_terminates_scan {token : Token} (hvalid : isValidDecimal token.bytes = true)
    {s : ScanState} (hs : s.token = some token) :
    ¬Iteration.Terminates isValidDecimalArrayRound s := by
  refine Iteration.not_terminates_of_forall (P := fun s => s.token = some token) hs ?_
  intro s hs
  rw [isValidDecimalArrayRound, hs]
  simp only [hvalid, if_true]
  rfl

/-- Without a first number the string is rejected. -/
theorem scan_returns (hwrong : ∀ token, (strtok ⟨0, string⟩).token = some token →
      isValidDecimal token.bytes = false) :
    ∃ outcome, Iteration.Returns isValidDecimalArrayRound (scanStart string) outcome ∧
      outcome.ret = false ∧ outcome.array = [] := by
  cases htoken : (strtok ⟨0, string⟩).token with
  | none =>
      have hround : isValidDecimalArrayRound (scanStart string) =
          .inr { ret := false, array := [], touched := (scanStart string).touched } := by
        rw [isValidDecimalArrayRound, scanStart, htoken]
      exact ⟨_, Iteration.returns_of_inr hround, rfl, rfl⟩
  | some token =>
      have hround : isValidDecimalArrayRound (scanStart string) =
          .inr { ret := false, array := [], touched :=
            (scanStart string).touched.onCopy (token.pos, token.bytes.length + 1) } := by
        rw [isValidDecimalArrayRound, scanStart, htoken]
        simp only [hwrong token htoken, Bool.false_eq_true, if_false]
      exact ⟨_, Iteration.returns_of_inr hround, rfl, rfl⟩

/-- The token and the bytes that are accessed are in the copy. -/
structure ScanState.Sound (string : List UInt8) (s : ScanState) : Prop where
  touched : s.touched.Keeps string (string.length + 1)
  token : ∀ token, s.token = some token → token.pos + token.bytes.length ≤ string.length

theorem scanStart_sound (string : List UInt8) : (scanStart string).Sound string := by
  have hbounded := strtok_bounded ⟨0, string⟩
  constructor
  · refine (Touched.keeps_copied string).onCopy ?_
    simpa only [Nat.zero_add] using hbounded.access
  · intro token htoken
    simpa only [Nat.zero_add] using hbounded.token token htoken

theorem isValidDecimalArrayRound_sound {s : ScanState} (hs : s.Sound string) :
    Sum.elim (ScanState.Sound string)
      (fun outcome => outcome.touched.Keeps string (string.length + 1))
      (isValidDecimalArrayRound s) := by
  rw [isValidDecimalArrayRound]
  cases htoken : s.token with
  | none => exact hs.touched
  | some token =>
      have hle := hs.token token htoken
      have htouched : (s.touched.onCopy (token.pos, token.bytes.length + 1)).Keeps string
          (string.length + 1) := hs.touched.onCopy (Nat.succ_le_succ hle)
      simp only
      cases isValidDecimal token.bytes with
      | false => exact htouched
      | true =>
          refine ⟨htouched, fun token' htoken' => ?_⟩
          cases htoken'
          exact hle

theorem scan_inside {outcome : Outcome}
    (h : Iteration.Returns isValidDecimalArrayRound (scanStart string) outcome) :
    outcome.touched.Inside string := by
  have hkeeps := h.invariant (scanStart_sound string) fun _ => isValidDecimalArrayRound_sound
  exact hkeeps.inside

theorem head?_tokens (string : List UInt8) :
    (tokens string).head? = (strtok ⟨0, string⟩).token.map Token.bytes := by
  rw [tokens_strtok ⟨0, string⟩]
  cases (strtok ⟨0, string⟩).token with
  | none => rfl
  | some token => rfl

/-- `IsValidDecimalArray` comes to its end only without a first number. -/
theorem firstWrong_of_returns (hfits : string.length + 1 < 2 ^ 32)
    (h : ∀ length : BitVec 32, length.toNat = string.length →
      ∃ outcome, Returns (isValidDecimalArray (some string) length) outcome) :
    FirstWrong string := by
  have hlength : (BitVec.ofNat 32 string.length).toNat = string.length := by
    rw [BitVec.toNat_ofNat]
    exact Nat.mod_eq_of_lt (by omega)
  intro token htoken
  have hne : string ≠ [] := by
    rintro rfl
    cases htoken
  by_contra hvalid
  obtain ⟨outcome, hreturns⟩ := h _ hlength
  rw [isValidDecimalArray_returns_iff hlength hne hfits] at hreturns
  have hmem := List.mem_of_mem_head? htoken
  rw [head?_tokens, Option.mem_def, Option.map_eq_some_iff] at htoken
  obtain ⟨first, hfirst, rfl⟩ := htoken
  have hle := length_token_le hmem
  refine not_terminates_scan ?_ hfirst ⟨outcome, hreturns⟩
  rw [isValidDecimal_eq (by omega)]
  exact Bool.of_not_eq_false hvalid

/-- `IsValidDecimalArray` is right just when it does not come to a number. -/
theorem recognises_isValidDecimalArray_iff (hfits : string.length + 1 < 2 ^ 32) :
    (∀ length : BitVec 32, length.toNat = string.length →
      Recognises (isValidDecimalArray (some string) length) string []) ↔ FirstWrong string := by
  constructor
  · intro h
    refine firstWrong_of_returns hfits fun length hlength => ?_
    obtain ⟨outcome, hreturns, -⟩ := h length hlength
    exact ⟨outcome, hreturns⟩
  · intro hwrong length hlength
    by_cases hne : string = []
    · subst hne
      obtain rfl : length = 0 := BitVec.eq_of_toNat_eq hlength
      exact ⟨_, ⟨0, rfl⟩, iff_of_false nofun not_isDecimalList_nil, nofun,
        Reads.within_nil, Reads.within_nil⟩
    · have hfirst : ∀ token, (strtok ⟨0, string⟩).token = some token →
          isValidDecimal token.bytes = false := by
        intro token htoken
        have hhead : token.bytes ∈ (tokens string).head? := by
          rw [head?_tokens, htoken]
          exact Option.mem_some_self _
        have hle := length_token_le (List.mem_of_mem_head? hhead)
        rw [isValidDecimal_eq (by omega)]
        exact hwrong _ hhead
      obtain ⟨outcome, hreturns, hret, -⟩ := scan_returns hfirst
      refine ⟨outcome, (isValidDecimalArray_returns_iff hlength hne hfits).mpr hreturns,
        ?_, ?_, scan_inside hreturns⟩
      · rw [hret]
        exact iff_of_false nofun hwrong.not_isDecimalList
      · rw [hret]
        exact nofun

end Scan

end TeeIoValidator.DecimalLists
