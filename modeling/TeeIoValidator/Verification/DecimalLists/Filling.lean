import TeeIoValidator.Verification.DecimalLists.Scanning

/-! `get_uint32_array_from_string` reads the numbers of the tokens, in both of its passes. -/

namespace TeeIoValidator.DecimalLists

open IniFile IniConfig

section Fill

variable {string : List UInt8} {array : Bool} {arraySize : BitVec 32}

def fillStart (string : List UInt8) : FillState :=
  ⟨(strtok ⟨0, string⟩).token, (strtok ⟨0, string⟩).cursor, 0, [], false,
    (Touched.copied string).onCopy (strtok ⟨0, string⟩).access⟩

theorem getUint32ArrayFromString_returns_iff (hne : string ≠ []) {outcome : Outcome} :
    Returns (getUint32ArrayFromString array arraySize (some string)) outcome ↔
      Iteration.Returns (getUint32ArrayRound array arraySize) (fillStart string) outcome := by
  have hrun : getUint32ArrayFromString array arraySize (some string) = fun fuel =>
      (Iteration.run (getUint32ArrayRound array arraySize) fuel (fillStart string)).map .ok := by
    funext fuel
    cases string with
    | nil => exact absurd rfl hne
    | cons c rest => rfl
  rw [hrun, returns_map_ok]

theorem getUint32ArrayFromString_nil :
    Returns (getUint32ArrayFromString array arraySize (some []))
      ⟨false, [], arraySize, ⟨0, [(0, 1)], []⟩⟩ :=
  ⟨0, rfl⟩

/-- The token is a number that fits, and there is room for it. -/
def Takes (array : Bool) (arraySize : BitVec 32) (count : ℕ) (token : List UInt8) : Prop :=
  isValidDecimal token = true ∧ (strtoul token).2 = [] ∧ (strtoul token).1 ≤ uint32Max ∧
    ¬(array = true ∧ BitVec.ofNat 32 count = arraySize)

instance (count : ℕ) (token : List UInt8) : Decidable (Takes array arraySize count token) :=
  inferInstanceAs (Decidable (_ ∧ _))

/-- The state after a number is taken. -/
def FillState.next (array : Bool) (s : FillState) (token : Token) : FillState :=
  ⟨(strtok s.cursor).token, (strtok s.cursor).cursor, s.count + 1,
    if array then s.array ++ [((BitVec.ofNat 32 (strtoul token.bytes).1).toNat : ℤ)] else s.array,
    true, (s.touched.onCopy (token.pos, token.bytes.length + 1)).onCopy (strtok s.cursor).access⟩

@[simp] theorem FillState.next_token (s : FillState) (token : Token) :
    (s.next array token).token = (strtok s.cursor).token := rfl

@[simp] theorem FillState.next_cursor (s : FillState) (token : Token) :
    (s.next array token).cursor = (strtok s.cursor).cursor := rfl

@[simp] theorem FillState.next_count (s : FillState) (token : Token) :
    (s.next array token).count = s.count + 1 := rfl

@[simp] theorem FillState.next_ret (s : FillState) (token : Token) :
    (s.next array token).ret = true := rfl

theorem getUint32ArrayRound_of_none {s : FillState} (htoken : s.token = none) :
    getUint32ArrayRound array arraySize s =
      .inr ⟨s.ret, s.array, if s.ret then BitVec.ofNat 32 s.count else arraySize, s.touched⟩ := by
  rw [getUint32ArrayRound, htoken]

theorem getUint32ArrayRound_of_some {s : FillState} {token : Token}
    (htoken : s.token = some token) :
    getUint32ArrayRound array arraySize s =
      if Takes array arraySize s.count token.bytes then .inl (s.next array token)
      else .inr ⟨false, s.array, arraySize,
        s.touched.onCopy (token.pos, token.bytes.length + 1)⟩ := by
  rw [getUint32ArrayRound, htoken]
  simp only [Takes, FillState.next]
  by_cases hvalid : isValidDecimal token.bytes = true
  · by_cases hend : (strtoul token.bytes).2 = []
    · by_cases hlarge : (strtoul token.bytes).1 > uint32Max
      · simp [hvalid, hend, hlarge]
      · by_cases hfull : array = true ∧ BitVec.ofNat 32 s.count = arraySize
        · simp [hvalid, hend, hlarge, hfull]
        · simp [hvalid, hend, hlarge, hfull, Nat.le_of_not_gt hlarge]
    · simp [hvalid, hend]
  · simp [hvalid]

/-- The token, the pointer and the bytes that are accessed are in the copy. -/
structure FillState.Sound (string : List UInt8) (s : FillState) : Prop where
  touched : s.touched.Keeps string (string.length + 1)
  cursor : s.cursor.pos + s.cursor.rest.length = string.length
  token : ∀ token, s.token = some token → token.pos + token.bytes.length ≤ string.length

theorem fillStart_sound (string : List UInt8) : (fillStart string).Sound string := by
  have hbounded := strtok_bounded ⟨0, string⟩
  constructor
  · exact (scanStart_sound string).touched
  · exact hbounded.cursor.trans (Nat.zero_add _)
  · exact (scanStart_sound string).token

theorem getUint32ArrayRound_sound {s : FillState} (hs : s.Sound string) :
    Sum.elim (FillState.Sound string)
      (fun outcome => outcome.touched.Keeps string (string.length + 1))
      (getUint32ArrayRound array arraySize s) := by
  have hbounded := strtok_bounded s.cursor
  cases htoken : s.token with
  | none =>
      rw [getUint32ArrayRound_of_none htoken]
      exact hs.touched
  | some token =>
      have hle := hs.token token htoken
      have htouched : (s.touched.onCopy (token.pos, token.bytes.length + 1)).Keeps string
          (string.length + 1) := hs.touched.onCopy (Nat.succ_le_succ hle)
      rw [getUint32ArrayRound_of_some htoken]
      split_ifs
      · have hcursor := hs.cursor
        refine ⟨htouched.onCopy ?_, hbounded.cursor.trans hcursor, fun next hnext => ?_⟩
        · have haccess := hbounded.access
          omega
        · have hnextToken := hbounded.token next hnext
          omega
      · exact htouched

/-- What is left of the string when there is a token. -/
def FillState.left (s : FillState) : ℕ := if s.token = none then 0 else s.cursor.rest.length + 1

theorem FillState.left_next_lt {s : FillState} {token : Token} (htoken : s.token = some token) :
    (s.next array token).left < s.left := by
  have hbounded := strtok_bounded s.cursor
  have hleft : s.left = s.cursor.rest.length + 1 := by
    rw [FillState.left, htoken, if_neg (Option.some_ne_none token)]
  rw [hleft, FillState.left, next_token, next_cursor]
  by_cases hnext : (strtok s.cursor).token = none
  · rw [if_pos hnext]
    exact Nat.zero_lt_succ _
  · rw [if_neg hnext]
    exact Nat.succ_lt_succ (hbounded.advances hnext)

/-- The loop ends, for every string. -/
theorem terminates_fill (s : FillState) :
    Iteration.Terminates (getUint32ArrayRound array arraySize) s := by
  refine Iteration.terminates_of_measure (P := fun _ => True) FillState.left trivial fun s _ => ?_
  cases htoken : s.token with
  | none =>
      rw [getUint32ArrayRound_of_none htoken]
      trivial
  | some token =>
      rw [getUint32ArrayRound_of_some htoken]
      split_ifs
      · exact ⟨trivial, FillState.left_next_lt htoken⟩
      · trivial

/-- The tokens that are not yet taken. -/
def FillState.remaining (s : FillState) : List (List UInt8) :=
  match s.token with
  | none => []
  | some token => token.bytes :: tokens s.cursor.rest

theorem remaining_next (s : FillState) (token : Token) :
    (s.next array token).remaining = tokens s.cursor.rest :=
  (tokens_strtok s.cursor).symm

/-- What the loop yields for the numbers of the tokens, if each of them is one that fits. -/
structure Filled (array : Bool) (s : FillState) (values : Option (List ℕ)) (outcome : Outcome) :
    Prop where
  ret : outcome.ret = values.isSome
  written : ∀ vs, values = some vs →
    outcome.array = s.array ++ if array then vs.map ((↑) : ℕ → ℤ) else []
  arraySize : ∀ vs, values = some vs → outcome.arraySize = BitVec.ofNat 32 (s.count + vs.length)

theorem Filled.of_not_ret {s : FillState} {outcome : Outcome} (hret : outcome.ret = false) :
    Filled array s none outcome := by
  refine ⟨hret, ?_, ?_⟩
  · intro vs hvs
    cases hvs
  · intro vs hvs
    cases hvs

theorem takes_iff {count : ℕ} {token : List UInt8} (hlength : token.length < 2 ^ 32)
    (hroom : ¬(array = true ∧ BitVec.ofNat 32 count = arraySize)) :
    Takes array arraySize count token ↔ ∃ v, decimalUint32 token = some v := by
  rw [Takes, isValidDecimal_eq hlength, decimalUint32]
  cases hvalid : isValidDecimalString token with
  | false => simp
  | true =>
      rw [strtoul_digits hvalid]
      by_cases hle : digitsValue 10 token ≤ uint32Max
      · have hmin : min (digitsValue 10 token) ulongMax ≤ uint32Max :=
          (Nat.min_le_left _ _).trans hle
        simp [hle, hmin, hroom]
      · have hmin : ¬min (digitsValue 10 token) ulongMax ≤ uint32Max := by
          rw [min_le_iff, not_or]
          exact ⟨hle, by decide⟩
        simp [hle, hmin]

theorem strtoul_of_decimalUint32 {token : List UInt8} {v : ℕ} (h : decimalUint32 token = some v) :
    (strtoul token).1 = v ∧ v ≤ uint32Max := by
  rw [decimalUint32] at h
  split_ifs at h with hvalid
  cases h
  rw [Bool.and_eq_true, decide_eq_true_eq] at hvalid
  rw [strtoul_digits hvalid.1]
  refine ⟨Nat.min_eq_left (hvalid.2.trans ?_), hvalid.2⟩
  decide

/-- A number is written in front of those that follow. -/
theorem Filled.cons {s : FillState} {token : Token} {v : ℕ} {values : Option (List ℕ)}
    {outcome : Outcome} (h : Filled array (s.next array token) values outcome)
    (hv : (strtoul token.bytes).1 = v ∧ v ≤ uint32Max) :
    Filled array s (values.bind fun vs => some (v :: vs)) outcome := by
  obtain ⟨hret, hwritten, harraySize⟩ := h
  have hstored : (BitVec.ofNat 32 v).toNat = v := by
    rw [BitVec.toNat_ofNat]
    exact Nat.mod_eq_of_lt (Nat.lt_succ_of_le hv.2)
  cases values with
  | none => exact .of_not_ret hret
  | some vs =>
      refine ⟨hret, fun vs' hvs' => ?_, fun vs' hvs' => ?_⟩
      · cases hvs'
        rw [hwritten vs rfl, FillState.next, hv.1, hstored]
        cases array with
        | false => rfl
        | true => simp
      · cases hvs'
        rw [harraySize vs rfl, FillState.next_count, List.length_cons, Nat.add_assoc,
          Nat.add_comm 1]

/-- The loop, with tokens that are left or a number that has been taken. -/
theorem fill_returns {ts : List (List UInt8)} {s : FillState} (hs : s.remaining = ts)
    (hlengths : ∀ token ∈ ts, token.length < 2 ^ 32) (hcount : s.count + ts.length < 2 ^ 32)
    (hroom : array = true → s.count + ts.length ≤ arraySize.toNat)
    (hret : s.ret = true ∨ ts ≠ []) :
    ∃ outcome, Iteration.Returns (getUint32ArrayRound array arraySize) s outcome ∧
      Filled array s (ts.mapM decimalUint32) outcome := by
  induction ts generalizing s with
  | nil =>
      have htoken : s.token = none := by
        cases htoken : s.token with
        | none => rfl
        | some token =>
            rw [FillState.remaining, htoken] at hs
            cases hs
      have hret : s.ret = true := hret.resolve_right fun hne => hne rfl
      refine ⟨_, Iteration.returns_of_inr (getUint32ArrayRound_of_none htoken), ?_⟩
      refine ⟨hret, fun vs hvs => ?_, fun vs hvs => ?_⟩
      · cases hvs
        simp
      · cases hvs
        simp [hret]
  | cons t ts ih =>
      obtain ⟨token, htoken, rfl, rfl⟩ : ∃ token, s.token = some token ∧ token.bytes = t ∧
          tokens s.cursor.rest = ts := by
        cases htoken : s.token with
        | none =>
            rw [FillState.remaining, htoken] at hs
            cases hs
        | some token =>
            rw [FillState.remaining, htoken] at hs
            obtain ⟨hbytes, hrest⟩ := List.cons.inj hs
            exact ⟨token, rfl, hbytes, hrest⟩
      rw [List.forall_mem_cons] at hlengths
      rw [List.length_cons] at hcount hroom
      have hfull : ¬(array = true ∧ BitVec.ofNat 32 s.count = arraySize) := by
        rintro ⟨harray, rfl⟩
        have hle := hroom harray
        rw [BitVec.toNat_ofNat, Nat.mod_eq_of_lt (by omega)] at hle
        omega
      have hround : getUint32ArrayRound array arraySize s = _ := getUint32ArrayRound_of_some htoken
      have htakes := takes_iff hlengths.1 hfull
      rw [List.mapM_cons]
      cases hvalue : decimalUint32 token.bytes with
      | none =>
          rw [if_neg (by simp [htakes, hvalue])] at hround
          exact ⟨_, Iteration.returns_of_inr hround, .of_not_ret rfl⟩
      | some v =>
          rw [if_pos (htakes.mpr ⟨v, hvalue⟩)] at hround
          have hnext : (s.next array token).remaining = tokens s.cursor.rest :=
            remaining_next s token
          obtain ⟨outcome, hreturns, hfilled⟩ := ih hnext hlengths.2
            (by rw [FillState.next_count]; omega)
            (fun harray => by have := hroom harray; rw [FillState.next_count]; omega) (.inl rfl)
          exact ⟨outcome, (Iteration.returns_of_inl hround).mpr hreturns,
            hfilled.cons (strtoul_of_decimalUint32 hvalue)⟩

theorem fillStart_remaining (string : List UInt8) :
    (fillStart string).remaining = tokens string :=
  (tokens_strtok ⟨0, string⟩).symm

/-- With an array that is large enough, or none, the function reads the numbers of the tokens. -/
theorem getUint32ArrayFromString_filled (hlength : string.length < 2 ^ 32)
    (hroom : array = true → (tokens string).length ≤ arraySize.toNat) :
    ∃ outcome, Returns (getUint32ArrayFromString array arraySize (some string)) outcome ∧
      Filled array (fillStart string) (getUint32Array string) outcome := by
  by_cases hne : string = []
  · subst hne
    exact ⟨_, getUint32ArrayFromString_nil, .of_not_ret rfl⟩
  · simp only [getUint32ArrayFromString_returns_iff hne]
    by_cases htokens : tokens string = []
    · have htoken : (fillStart string).token = none := by
        have hremaining := fillStart_remaining string
        rw [htokens, FillState.remaining] at hremaining
        cases htoken : (fillStart string).token with
        | none => rfl
        | some token =>
            rw [htoken] at hremaining
            cases hremaining
      rw [getUint32Array, if_pos htokens]
      exact ⟨_, Iteration.returns_of_inr (getUint32ArrayRound_of_none htoken), .of_not_ret rfl⟩
    · rw [getUint32Array, if_neg htokens]
      refine fill_returns (fillStart_remaining string) (fun token htoken => ?_) ?_ ?_ (.inr htokens)
      · exact (length_token_le htoken).trans_lt hlength
      · rw [fillStart, Nat.zero_add]
        exact (length_tokens_le string).trans_lt hlength
      · rw [fillStart, Nat.zero_add]
        exact hroom

theorem getUint32ArrayFromString_inside {outcome : Outcome}
    (h : Returns (getUint32ArrayFromString array arraySize (some string)) outcome) :
    outcome.touched.Inside string := by
  by_cases hne : string = []
  · subst hne
    obtain ⟨fuel, hrun⟩ := h
    cases hrun
    exact ⟨Reads.within_singleton.mpr (Nat.le_refl 1), Reads.within_nil⟩
  · rw [getUint32ArrayFromString_returns_iff hne] at h
    exact (h.invariant (fillStart_sound string) fun _ => getUint32ArrayRound_sound).inside

theorem getUint32ArrayFromString_terminates (array : Bool) (arraySize : BitVec 32)
    (string : List UInt8) :
    ∃ outcome, Returns (getUint32ArrayFromString array arraySize (some string)) outcome := by
  by_cases hne : string = []
  · subst hne
    exact ⟨_, getUint32ArrayFromString_nil⟩
  · simp only [getUint32ArrayFromString_returns_iff hne]
    exact terminates_fill _

theorem getUint32ArrayFromString_unique {outcome outcome' : Outcome}
    (h : Returns (getUint32ArrayFromString array arraySize (some string)) outcome)
    (h' : Returns (getUint32ArrayFromString array arraySize (some string)) outcome') :
    outcome = outcome' := by
  by_cases hne : string = []
  · subst hne
    obtain ⟨fuel, hrun⟩ := h
    obtain ⟨fuel', hrun'⟩ := h'
    cases hrun
    cases hrun'
    rfl
  · rw [getUint32ArrayFromString_returns_iff hne] at h h'
    exact h.unique h'

theorem numbers_of_sized (hlength : string.length < 2 ^ 32) {sized : Outcome}
    (h : Returns (getUint32ArrayFromString false arraySize (some string)) sized)
    (hret : sized.ret = true) :
    ∃ vs, getUint32Array string = some vs ∧ sized.arraySize = BitVec.ofNat 32 vs.length := by
  obtain ⟨outcome, hreturns, hfilled⟩ : ∃ outcome,
      Returns (getUint32ArrayFromString false arraySize (some string)) outcome ∧
        Filled false (fillStart string) (getUint32Array string) outcome :=
    getUint32ArrayFromString_filled hlength nofun
  obtain rfl := getUint32ArrayFromString_unique h hreturns
  rw [hfilled.ret, Option.isSome_iff_exists] at hret
  obtain ⟨vs, hvs⟩ := hret
  refine ⟨vs, hvs, ?_⟩
  rw [hfilled.arraySize vs hvs, fillStart, Nat.zero_add]

/-- An array of the size that the first pass yields is filled whole by the second one. -/
theorem fills_what_is_sized (hlength : string.length < 2 ^ 32) {sized : Outcome}
    (h : Returns (getUint32ArrayFromString false arraySize (some string)) sized)
    (hret : sized.ret = true) :
    ∃ filled, Returns (getUint32ArrayFromString true sized.arraySize (some string)) filled ∧
      filled.ret = true ∧ filled.array.length = sized.arraySize.toNat := by
  obtain ⟨vs, hvs, hsize⟩ := numbers_of_sized hlength h hret
  have htoNat : sized.arraySize.toNat = vs.length := by
    rw [hsize, BitVec.toNat_ofNat]
    refine Nat.mod_eq_of_lt ?_
    rw [length_getUint32Array hvs]
    exact (length_tokens_le string).trans_lt hlength
  obtain ⟨filled, hreturns, hfilled⟩ : ∃ filled,
      Returns (getUint32ArrayFromString true sized.arraySize (some string)) filled ∧
        Filled true (fillStart string) (getUint32Array string) filled :=
    getUint32ArrayFromString_filled hlength fun _ => by rw [htoNat, length_getUint32Array hvs]
  refine ⟨filled, hreturns, ?_, ?_⟩
  · rw [hfilled.ret, hvs]
    rfl
  · rw [hfilled.written vs hvs, htoNat]
    simp [fillStart]

/-- The sizing pass is right where `getUint32Array` reads just the lists. -/
theorem recognises_sizes_iff (hlength : string.length < 2 ^ 32) :
    (∀ arraySize, Recognises (getUint32ArrayFromString false arraySize (some string)) string []) ↔
      ((getUint32Array string).isSome = true ↔ IsDecimalList string) := by
  have hsizes (arraySize : BitVec 32) : ∃ sized,
      Returns (getUint32ArrayFromString false arraySize (some string)) sized ∧
        Filled false (fillStart string) (getUint32Array string) sized :=
    getUint32ArrayFromString_filled hlength nofun
  constructor
  · intro h
    obtain ⟨outcome, hreturns, hright⟩ := h 0
    obtain ⟨sized, hreturns', hfilled⟩ := hsizes 0
    obtain rfl := getUint32ArrayFromString_unique hreturns hreturns'
    rw [← hfilled.ret]
    exact hright.accepts
  · intro h arraySize
    obtain ⟨sized, hreturns, hfilled⟩ := hsizes arraySize
    refine ⟨sized, hreturns, ?_, fun hret => ?_, getUint32ArrayFromString_inside hreturns⟩
    · rw [hfilled.ret]
      exact h
    · rw [hfilled.ret, Option.isSome_iff_exists] at hret
      obtain ⟨vs, hvs⟩ := hret
      exact hfilled.written vs hvs

end Fill

end TeeIoValidator.DecimalLists
