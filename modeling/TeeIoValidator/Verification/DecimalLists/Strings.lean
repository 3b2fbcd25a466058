import TeeIoValidator.Library.Tokens
import TeeIoValidator.Model.DecimalLists
import TeeIoValidator.Verification.BusScan

/-! Tokens and numbers of a string, the bytes that are accessed, and what a list is. -/

namespace TeeIoValidator.DecimalLists

open IniFile IniConfig
open Tokens (first behind first_ne_nil length_behind)
open BusScan (isSpace splitSign)

/-! ## Functions of the C library -/

theorem tokens_eq_tokens (string : List UInt8) :
    tokens string = Tokens.tokens (· == comma) string :=
  List.filter_congr fun piece _ => by cases piece <;> rfl

/-- The tokens are cut off one after the other. -/
theorem tokens_strtok (c : Cursor) :
    tokens c.rest =
      match (strtok c).token with
      | none => []
      | some token => token.bytes :: tokens (strtok c).cursor.rest := by
  simp only [tokens_eq_tokens]
  rw [Tokens.tokens_eq, strtok]
  by_cases hfound : c.rest.dropWhile (· == comma) = []
  · simp [hfound]
  · simp only [hfound, if_false]
    rw [behind, first]
    cases (c.rest.dropWhile (· == comma)).dropWhile (!· == comma) with
    | nil => rfl
    | cons x rest => rfl

/-- What a call of `strtok` touches and keeps: nothing behind the string, and less of it after each
token. -/
structure Strtok.Bounded (c : Cursor) (r : Strtok) : Prop where
  access : r.access.1 + r.access.2 ≤ c.pos + c.rest.length + 1
  cursor : r.cursor.pos + r.cursor.rest.length = c.pos + c.rest.length
  token : ∀ token, r.token = some token → token.pos + token.bytes.length ≤ c.pos + c.rest.length
  advances : r.token ≠ none → r.cursor.rest.length < c.rest.length

theorem strtok_bounded (c : Cursor) : (strtok c).Bounded c := by
  have hlength := congrArg List.length
    (List.takeWhile_append_dropWhile (p := (· == comma)) (l := c.rest))
  rw [List.length_append] at hlength
  rw [strtok]
  by_cases hfound : c.rest.dropWhile (· == comma) = []
  · simp only [hfound, if_true]
    rw [hfound, List.length_nil] at hlength
    exact ⟨by simp only; omega, by simp only [List.length_nil]; omega, nofun, fun h => absurd rfl h⟩
  · simp only [hfound, if_false]
    have hbytes := length_behind (p := (· == comma)) (c.rest.dropWhile (· == comma))
    have hfirst := List.length_pos_iff.mpr (first_ne_nil hfound)
    rw [first] at hbytes hfirst
    cases hbehind : (c.rest.dropWhile (· == comma)).dropWhile (!· == comma) with
    | nil =>
        rw [hbehind, List.length_nil] at hbytes
        refine ⟨by simp only; omega, by simp only [List.length_nil]; omega, fun token h => ?_,
          fun _ => by simp only [List.length_nil]; omega⟩
        cases h
        simp only
        omega
    | cons x rest =>
        rw [hbehind, List.length_cons] at hbytes
        refine ⟨by simp only; omega, by simp only; omega, fun token h => ?_,
          fun _ => by simp only; omega⟩
        cases h
        simp only
        omega

theorem isValidDecimal_eq {s : List UInt8} (h : s.length < 2 ^ 32) :
    isValidDecimal s = isValidDecimalString s := by
  rw [isValidDecimal, BitVec.toNat_ofNat, Nat.mod_eq_of_lt h, List.take_length]

/-- Digits are read to their end. -/
theorem strtoul_digits {s : List UInt8} (h : isValidDecimalString s = true) :
    strtoul s = (min (digitsValue 10 s) ulongMax, []) := by
  cases s with
  | nil => rfl
  | cons c rest =>
      have hall : ∀ d ∈ c :: rest, isValidDigitalChar d false = true := List.all_eq_true.mp h
      have hhex : isValidDigitalChar c true = true := by
        have hc := hall c List.mem_cons_self
        simp only [isValidDigitalChar, Bool.false_and, Bool.or_false] at hc
        simp [isValidDigitalChar, hc]
      obtain ⟨hspace, hminus, hplus, -, -⟩ := BusScan.not_isSpace_of_digit hhex
      have hdrop : (c :: rest).dropWhile isSpace = c :: rest := by simp [hspace]
      have hsign : splitSign (c :: rest) = (false, c :: rest) := by
        rw [splitSign, if_neg hminus, if_neg hplus]
      have htake : ((c :: rest).takeWhile fun d => isValidDigitalChar d false) = c :: rest :=
        List.takeWhile_eq_self_iff.mpr hall
      have hbehind : ((c :: rest).dropWhile fun d => isValidDigitalChar d false) = [] :=
        List.dropWhile_eq_nil_iff.mpr hall
      rw [strtoul, hdrop, hsign]
      simp only [htake, hbehind, reduceCtorEq, if_false, Bool.false_eq_true]
      split_ifs with hlarge
      · rw [Nat.min_eq_right (Nat.le_of_lt hlarge)]
      · rw [Nat.min_eq_left (Nat.le_of_not_gt hlarge)]

/-! ## Bytes that are accessed -/

/-- The copy has its size, and no byte outside of it or of the string is accessed. -/
structure Touched.Keeps (touched : Touched) (string : List UInt8) (copySize : ℕ) : Prop where
  size : touched.copySize = copySize
  inside : touched.Inside string

theorem Touched.Keeps.onCopy {touched : Touched} {string : List UInt8} {copySize : ℕ}
    {access : ℕ × ℕ} (h : touched.Keeps string copySize)
    (haccess : access.1 + access.2 ≤ copySize) :
    (touched.onCopy access).Keeps string copySize := by
  obtain ⟨hsize, hstring, hcopy⟩ := h
  refine ⟨hsize, hstring, Reads.within_append.mpr ⟨hcopy, Reads.within_singleton.mpr ?_⟩⟩
  rw [Touched.onCopy, hsize]
  exact haccess

theorem Touched.keeps_copied (string : List UInt8) :
    (Touched.copied string).Keeps string (string.length + 1) := by
  refine ⟨rfl, Reads.within_singleton.mpr ?_, Reads.within_singleton.mpr ?_⟩
  · exact Nat.le_of_eq (Nat.zero_add _)
  · exact Nat.le_of_eq (Nat.zero_add _)

theorem returns_map_ok {σ : Type} {body : σ → σ ⊕ Outcome} {s : σ} {outcome : Outcome} :
    Returns (fun fuel => (Iteration.run body fuel s).map .ok) outcome ↔
      Iteration.Returns body s outcome := by
  simp only [Returns, Iteration.Returns, Option.map_eq_some_iff, Except.ok.injEq, exists_eq_right]

/-! ## Lists -/

theorem not_isDecimalList_nil : ¬IsDecimalList [] := by
  intro h
  exact (h [] List.mem_cons_self).1 rfl

/-- In a list every piece is a token. -/
theorem tokens_of_isDecimalList {string : List UInt8} (h : IsDecimalList string) :
    tokens string = pieces string :=
  List.filter_eq_self.mpr fun piece hpiece => decide_eq_true (h piece hpiece).1

theorem isDecimalList_iff {string : List UInt8} :
    IsDecimalList string ↔
      [] ∉ pieces string ∧ ∀ token ∈ tokens string, isValidDecimalString token = true := by
  constructor
  · intro h
    refine ⟨fun hnil => (h [] hnil).1 rfl, ?_⟩
    rw [tokens_of_isDecimalList h]
    exact fun token htoken => (h token htoken).2
  · rintro ⟨hnil, hvalid⟩ piece hpiece
    have hne : piece ≠ [] := ne_of_mem_of_not_mem hpiece hnil
    exact ⟨hne, hvalid piece (List.mem_filter.mpr ⟨hpiece, decide_eq_true hne⟩)⟩

theorem tokens_ne_nil_of_isDecimalList {string : List UInt8} (h : IsDecimalList string) :
    tokens string ≠ [] := by
  rw [tokens_of_isDecimalList h]
  exact List.splitOnP_ne_nil _ _

theorem length_tokens_le (string : List UInt8) : (tokens string).length ≤ string.length := by
  rw [tokens_eq_tokens]
  exact (Tokens.tokens_bounded string).1

theorem length_token_le {string token : List UInt8} (h : token ∈ tokens string) :
    token.length ≤ string.length := by
  rw [tokens_eq_tokens] at h
  exact (Tokens.tokens_bounded string).2 token h

theorem length_getUint32Array {string : List UInt8} {vs : List ℕ}
    (h : getUint32Array string = some vs) : vs.length = (tokens string).length := by
  rw [getUint32Array] at h
  split_ifs at h
  exact Tokens.length_of_mapM_eq_some h

/-- The strings that `get_uint32_array_from_string` accepts: some tokens, all of them numbers that
fit. -/
theorem getUint32Array_isSome_iff {string : List UInt8} :
    (getUint32Array string).isSome = true ↔ tokens string ≠ [] ∧ ∀ token ∈ tokens string,
      isValidDecimalString token = true ∧ digitsValue 10 token ≤ uint32Max := by
  rw [getUint32Array]
  split_ifs with htokens
  · exact iff_of_false nofun fun h => h.1 htokens
  · rw [Tokens.mapM_isSome_iff]
    refine Iff.trans (forall₂_congr fun token _ => ?_) (and_iff_right htokens).symm
    rw [decimalUint32]
    split_ifs with hvalid
    · rw [Bool.and_eq_true, decide_eq_true_eq] at hvalid
      exact iff_of_true rfl hvalid
    · rw [Bool.and_eq_true, decide_eq_true_eq] at hvalid
      exact iff_of_false nofun hvalid

/-- The numbers are read just for the lists when no string with an empty piece is accepted and the
numbers of a list fit. -/
theorem getUint32Array_isSome_iff_isDecimalList_iff {string : List UInt8} :
    ((getUint32Array string).isSome = true ↔ IsDecimalList string) ↔
      ([] ∈ pieces string → getUint32Array string = none) ∧
        (IsDecimalList string → ∀ piece ∈ pieces string, digitsValue 10 piece ≤ uint32Max) := by
  constructor
  · intro h
    refine ⟨fun hnil => ?_, fun hlist piece hpiece => ?_⟩
    · by_contra hne
      have hlist := h.mp (Option.isSome_iff_ne_none.mpr hne)
      exact (isDecimalList_iff.mp hlist).1 hnil
    · have haccepted := (getUint32Array_isSome_iff.mp (h.mpr hlist)).2
      rw [tokens_of_isDecimalList hlist] at haccepted
      exact (haccepted piece hpiece).2
  · rintro ⟨hempty, hfit⟩
    constructor
    · intro hsome
      refine isDecimalList_iff.mpr ⟨fun hnil => ?_, fun token htoken => ?_⟩
      · rw [hempty hnil] at hsome
        cases hsome
      · exact ((getUint32Array_isSome_iff.mp hsome).2 token htoken).1
    · intro hlist
      refine getUint32Array_isSome_iff.mpr ⟨tokens_ne_nil_of_isDecimalList hlist, ?_⟩
      rw [tokens_of_isDecimalList hlist]
      exact fun piece hpiece => ⟨(hlist piece hpiece).2, hfit hlist piece hpiece⟩

/-- The first token is no number, or there is none. -/
def FirstWrong (string : List UInt8) : Prop :=
  ∀ token ∈ (tokens string).head?, isValidDecimalString token = false

theorem FirstWrong.not_isDecimalList {string : List UInt8} (h : FirstWrong string) :
    ¬IsDecimalList string := by
  intro hlist
  obtain ⟨token, rest, htokens⟩ := List.exists_cons_of_ne_nil (tokens_ne_nil_of_isDecimalList hlist)
  have hwrong := h token (by rw [htokens]; rfl)
  have hvalid := (isDecimalList_iff.mp hlist).2 token (by rw [htokens]; exact List.mem_cons_self)
  rw [hvalid] at hwrong
  cases hwrong

theorem FirstWrong.not_isSome {string : List UInt8} (h : FirstWrong string) :
    ¬(getUint32Array string).isSome = true := by
  rw [getUint32Array_isSome_iff]
  rintro ⟨htokens, hvalid⟩
  obtain ⟨token, rest, heq⟩ := List.exists_cons_of_ne_nil htokens
  have hwrong := h token (by rw [heq]; rfl)
  rw [(hvalid token (by rw [heq]; exact List.mem_cons_self)).1] at hwrong
  cases hwrong

end TeeIoValidator.DecimalLists
