import TeeIoValidator.Verification.IniConfig.Accepted

/-! # Bit maps

The bits of a stored configuration are the default and the names that its section sets.
-/

namespace TeeIoValidator.IniConfig

open IniFile Checked

variable {globals : Globals} {context : IniContext} {testConfig : IdeTestConfig}
  {sectionName : List UInt8}

/-- The entry of a configuration's name is set to 1. -/
def SetsName (context : IniContext) (sectionName name : List UInt8) : Prop :=
  getDecimalUint32 context sectionName name = .ok (some 1)

theorem parseBitMap_testBit {names : List (List UInt8)} {i bitMap result : ℕ}
    (h : parseBitMap context sectionName names i bitMap = .ok result) (j : ℕ) :
    result.testBit j = true ↔ bitMap.testBit j = true ∨
      ∃ n name, names[n]? = some name ∧ j = i + n ∧ SetsName context sectionName name := by
  induction names generalizing i bitMap with
  | nil =>
      cases h
      simp
  | cons name names ih =>
      rw [parseBitMap] at h
      obtain ⟨data32, hdata, h⟩ := bind_eq_ok.mp h
      rw [ih h]
      have hbit : (if data32 = some 1 then bitMap ||| 1 <<< i else bitMap).testBit j = true ↔
          bitMap.testBit j = true ∨ j = i ∧ SetsName context sectionName name := by
        rw [SetsName, hdata]
        split
        · rename_i hset
          rw [Nat.testBit_or, Nat.one_shiftLeft, Nat.testBit_two_pow, Bool.or_eq_true,
            decide_eq_true_eq, eq_comm (a := i), hset]
          simp only [and_true]
        · rename_i hset
          simp [hset]
      rw [hbit]
      constructor
      · intro h
        rcases h with (h | h) | h
        · exact Or.inl h
        · exact Or.inr ⟨0, name, rfl, h.1, h.2⟩
        · obtain ⟨n, later, hlater, hj, hset⟩ := h
          exact Or.inr ⟨n + 1, later, hlater, by omega, hset⟩
      · intro h
        rcases h with h | h
        · exact Or.inl (Or.inl h)
        · obtain ⟨n, later, hlater, hj, hset⟩ := h
          cases n with
          | zero =>
              cases hlater
              exact Or.inl (Or.inr ⟨hj, hset⟩)
          | succ n => exact Or.inr ⟨n, later, hlater, by omega, hset⟩

/-- The bits of a configuration: the default, and each name that is set. -/
theorem ConfigurationRead.testBit_iff {index : ℕ} {config : IdeTestConfiguration}
    (h : ConfigurationRead globals context sectionName index config) (j : ℕ) :
    config.bitMap.testBit j = true ↔ j = 0 ∨
      (getTestConfigurationPrivNames config.testCategory).length ≤ j ∧
        ∃ name, getTestConfigurationName globals j config.testCategory = some name ∧
          SetsName context sectionName name := by
  obtain ⟨bitMap, hbitMap, hconfig⟩ := h.bitMap
  have hdefault : config.bitMap.testBit j = true ↔ bitMap.testBit j = true ∨ j = 0 := by
    rw [hconfig, checkConfigurationBitmap, configurationTypeDefault, Nat.testBit_or,
      Nat.one_shiftLeft, Nat.testBit_two_pow, Bool.or_eq_true, decide_eq_true_eq, eq_comm (a := 0)]
  rw [hdefault, parseBitMap_testBit hbitMap, Nat.zero_testBit, or_comm]
  refine or_congr_right ?_
  constructor
  · intro h
    obtain ⟨n, name, hname, hj, hset⟩ := h.resolve_left Bool.false_ne_true
    rw [List.getElem?_drop] at hname
    exact ⟨by omega, name, by rw [getTestConfigurationName, hj, hname], hset⟩
  · intro h
    obtain ⟨hle, name, hname, hset⟩ := h
    refine Or.inr ⟨j - (getTestConfigurationPrivNames config.testCategory).length, name, ?_,
      by omega, hset⟩
    rw [List.getElem?_drop, Nat.add_sub_cancel' hle]
    exact hname

theorem ConfigurationRead.testBit_default {index : ℕ} {config : IdeTestConfiguration}
    (h : ConfigurationRead globals context sectionName index config) :
    config.bitMap.testBit 0 = true := (h.testBit_iff 0).mpr (Or.inl rfl)

/-- The configuration of a stored suite is described by the section of its id. -/
theorem Stored.configurationRead (h : Stored globals context testConfig) {id : ℕ}
    {config : IdeTestConfiguration} (hconfig : getConfigurationById testConfig id = some config) :
    ConfigurationRead globals context (configurationSectionName id) id config := by
  obtain ⟨i, hi, hid, -, hne⟩ := getConfigurationById_eq_some hconfig
  have hstored : (testConfig.configurations.records i).id ≠ 0 := by rw [hi, hid]; exact hne
  have hposition := (h.configurations.position i).resolve_left hstored
  have hread := h.configurationsRead i hstored
  rwa [← hposition, hi, hid] at hread

end TeeIoValidator.IniConfig
