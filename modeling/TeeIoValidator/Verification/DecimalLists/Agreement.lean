import TeeIoValidator.Verification.DecimalLists.Converting
import TeeIoValidator.Verification.DecimalLists.Filling

/-! What the recognisers have in common: the empty string. -/

namespace TeeIoValidator.DecimalLists

open IniFile IniConfig

section Agreement

variable {string : List UInt8}

/-- The empty string is no list, and is rejected. -/
theorem recognises_nil {run : ℕ → Option (Checked Outcome)} {written : List ℤ} {outcome : Outcome}
    (h : Returns run outcome) (hret : outcome.ret = false) (hinside : outcome.touched.Inside []) :
    Recognises run [] written := by
  refine ⟨outcome, h, ?_, ?_, hinside⟩
  · rw [hret]
    exact iff_of_false nofun not_isDecimalList_nil
  · rw [hret]
    exact nofun

theorem recognises_decimalStrToArray_nil (array : Option ℕ) (written : List ℤ) :
    Recognises (decimalStrToArray (some []) array) [] written :=
  recognises_nil ⟨0, rfl⟩ rfl ⟨Reads.within_singleton.mpr (Nat.le_refl 1), Reads.within_nil⟩

theorem recognises_getUint32ArrayFromString_nil (array : Bool) (arraySize : BitVec 32)
    (written : List ℤ) :
    Recognises (getUint32ArrayFromString array arraySize (some [])) [] written := by
  have hreturns : Returns (getUint32ArrayFromString array arraySize (some [])) _ :=
    getUint32ArrayFromString_nil
  exact recognises_nil hreturns rfl (getUint32ArrayFromString_inside hreturns)

theorem recognises_validDecimalIntArray_iff :
    Recognises (validDecimalIntArray (some string)) string [] ↔ string = [] := by
  constructor
  · rintro ⟨outcome, hreturns, hright⟩
    by_contra hne
    exact (decimalStrToArray_overruns hne hreturns).not_inside hright.inside
  · rintro rfl
    exact recognises_decimalStrToArray_nil none []

/-- The answers of the recognisers, without the bytes that they access and what they write. -/
structure AnswersAgree (string : List UInt8) : Prop where
  isValidDecimalArray : ∀ length : BitVec 32, length.toNat = string.length →
    ∃ outcome, Returns (isValidDecimalArray (some string) length) outcome ∧
      (outcome.ret = true ↔ IsDecimalList string)
  validDecimalIntArray : ∃ outcome, Returns (validDecimalIntArray (some string)) outcome ∧
    (outcome.ret = true ↔ IsDecimalList string)
  sizes : ∀ arraySize, ∃ outcome,
    Returns (getUint32ArrayFromString false arraySize (some string)) outcome ∧
      (outcome.ret = true ↔ IsDecimalList string)

/-- The answers are right for the strings without a first number, unless the pieces in front of the
last comma are numbers or empty. -/
theorem answersAgree_iff (hfits : string.length + 2 < 2 ^ 31) :
    AnswersAgree string ↔ FirstWrong string ∧
      ¬(fronts string ≠ [] ∧ ∀ piece ∈ fronts string, isValidDecimalString piece = true) := by
  obtain ⟨converted, hconverted, haccepts, -⟩ : ∃ outcome,
      Returns (validDecimalIntArray (some string)) outcome ∧ _ := decimalStrToArray_converted hfits
  constructor
  · intro h
    have hwrong : FirstWrong string :=
      firstWrong_of_returns (by omega) fun length hlength => by
        obtain ⟨outcome, hreturns, -⟩ := h.isValidDecimalArray length hlength
        exact ⟨outcome, hreturns⟩
    refine ⟨hwrong, fun hfronts => hwrong.not_isDecimalList ?_⟩
    obtain ⟨outcome, hreturns, hlist⟩ := h.validDecimalIntArray
    obtain rfl := decimalStrToArray_unique hfits hreturns hconverted
    exact hlist.mp (haccepts.mpr ⟨hfronts.1, hfronts.2, .inl rfl⟩)
  · rintro ⟨hwrong, hfronts⟩
    constructor
    · intro length hlength
      obtain ⟨outcome, hreturns, hright⟩ :=
        (recognises_isValidDecimalArray_iff (by omega)).mpr hwrong length hlength
      exact ⟨outcome, hreturns, hright.accepts⟩
    · refine ⟨converted, hconverted, iff_of_false (fun hret => ?_) hwrong.not_isDecimalList⟩
      obtain ⟨hne, hall, -⟩ := haccepts.mp hret
      exact hfronts ⟨hne, hall⟩
    · intro arraySize
      obtain ⟨outcome, hreturns, hright⟩ := (recognises_sizes_iff (by omega)).mpr
        (iff_of_false hwrong.not_isSome hwrong.not_isDecimalList) arraySize
      exact ⟨outcome, hreturns, hright.accepts⟩

theorem recognisersAgree_iff (string : List UInt8) : RecognisersAgree string ↔ string = [] := by
  constructor
  · intro h
    exact recognises_validDecimalIntArray_iff.mp h.validDecimalIntArray
  · rintro rfl
    constructor
    · exact (recognises_isValidDecimalArray_iff (by decide)).mpr nofun
    · exact recognises_validDecimalIntArray_iff.mpr rfl
    · exact fun size _ => recognises_decimalStrToArray_nil (some size) _
    · exact fun arraySize => recognises_getUint32ArrayFromString_nil false arraySize _
    · exact fun arraySize _ => recognises_getUint32ArrayFromString_nil true arraySize _
    · intro arraySize sized hreturns hret
      rw [getUint32ArrayFromString_unique hreturns getUint32ArrayFromString_nil] at hret
      cases hret

/-- A list of two numbers, at the first of which the loop of `IsValidDecimalArray` stays. -/
theorem not_recognisersAgree_twoNumbers : ¬RecognisersAgree (text "1,2") := by
  intro h
  have hwrong := (recognises_isValidDecimalArray_iff (by decide)).mp h.isValidDecimalArray
  exact absurd (hwrong (text "1") (by decide)) (by decide)

end Agreement

end TeeIoValidator.DecimalLists
