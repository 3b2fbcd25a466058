import TeeIoValidator.Model.IniConfig.NameTables
import TeeIoValidator.Verification.IniConfig.BitMaps

/-! # Tables of names

The loops over the names find what the names up to the first null pointer say, and stay in their
tables, save in the table of the SPDM tests, which has no null pointer.
-/

namespace TeeIoValidator.IniConfig

open IniFile Checked

variable {globals : Globals} {context : IniContext} {sectionName : List UInt8}

/-! ## Names and a null pointer -/

/-- The loop ends at the null pointer, with the index of the loop over the names. -/
theorem privNamesLoop_eq (before : List (List UInt8)) {names : List (List UInt8)} {cxlIdeMode : ℕ} :
    (privNamesLoop context sectionName ((before ++ names).map some ++ [none]) before.length
        cxlIdeMode).2 =
      (parsePrivNames context sectionName names cxlIdeMode).map fun mode =>
        (before.length + names.length, mode) := by
  induction names generalizing before cxlIdeMode with
  | nil =>
      rw [privNamesLoop]
      simp [parsePrivNames, Except.map]
  | cons name names ih =>
      have hlt : before.length < ((before ++ name :: names).map some ++ [none]).length := by simp
      have hget : ((before ++ name :: names).map some ++ [none])[before.length] = some name := by
        simp
      rw [privNamesLoop, dif_pos hlt, hget, parsePrivNames]
      simp only
      cases getString context sectionName name with
      | error fault => rfl
      | ok entryValue =>
          simp only [ok_bind]
          have hnext := @ih (before ++ [name])
            ((entryValue.bind parseCxlIdeModeFromString).getD cxlIdeMode)
          simp only [List.append_assoc, List.singleton_append, List.length_append,
            List.length_singleton] at hnext
          rw [hnext]
          simp [Nat.add_assoc, Nat.add_comm 1]

theorem namesLoop_eq (before : List (List UInt8)) {names : List (List UInt8)}
    {beyond : Option (List UInt8)}
    {bitMap : ℕ} :
    (namesLoop context sectionName ((before ++ names).map some ++ [none]) beyond before.length
        bitMap).2 = parseBitMap context sectionName names before.length bitMap := by
  induction names generalizing before bitMap with
  | nil =>
      rw [namesLoop, if_neg (by simp)]
      simp [parseBitMap]
  | cons name names ih =>
      have hget : ((before ++ name :: names).map some ++ [none])[before.length]?.getD beyond =
          some name := by simp
      rw [namesLoop, if_neg (by simp only [List.length_append, List.length_map]; omega), hget,
        parseBitMap]
      simp only
      cases getDecimalUint32 context sectionName name with
      | error fault => rfl
      | ok data32 =>
          simp only [ok_bind]
          have hnext := @ih (before ++ [name])
            (if data32 = some 1 then bitMap ||| 1 <<< before.length else bitMap)
          simpa only [List.append_assoc, List.singleton_append, List.length_append,
            List.length_singleton] using hnext

/-! ## Indices

A null pointer from the index on keeps a loop in its table. -/

theorem none_mem_drop_succ {table : NameTable} {i : ℕ} (h : none ∈ table.drop i)
    (hi : i < table.length) (hne : table[i] ≠ none) : none ∈ table.drop (i + 1) := by
  rw [List.drop_eq_getElem_cons hi, List.mem_cons] at h
  exact h.resolve_left fun heq => hne heq.symm

theorem lt_length_of_mem_drop {table : NameTable} {i : ℕ} (h : none ∈ table.drop i) :
    i < table.length := by
  have hpos := List.length_pos_of_mem h
  rw [List.length_drop] at hpos
  omega

theorem privNamesLoop_indices {table : NameTable} {i cxlIdeMode : ℕ}
    (h : none ∈ table.drop i) :
    ∀ j ∈ (privNamesLoop context sectionName table i cxlIdeMode).1, j < table.length := by
  fun_induction privNamesLoop context sectionName table i cxlIdeMode with
  | case1 i cxlIdeMode hi hnull => simpa using hi
  | case2 i cxlIdeMode hi name hname fault hread => simpa using hi
  | case3 i cxlIdeMode hi name hname entryValue hread indices result hrest ih =>
      rw [hrest] at ih
      have hrest := ih (none_mem_drop_succ h hi (by rw [hname]; nofun))
      simpa using ⟨hi, hrest⟩
  | case4 i cxlIdeMode hi => exact absurd (lt_length_of_mem_drop h) hi

theorem namesLoop_indices {table : NameTable} {beyond : Option (List UInt8)} {i bitMap : ℕ}
    (h : none ∈ table.drop i) :
    ∀ j ∈ (namesLoop context sectionName table beyond i bitMap).1, j < table.length := by
  fun_induction namesLoop context sectionName table beyond i bitMap with
  | case1 i bitMap hi => nofun
  | case2 i bitMap hi hnull => simpa using lt_length_of_mem_drop h
  | case3 i bitMap hi name hname fault hread => simpa using lt_length_of_mem_drop h
  | case4 i bitMap hi name hname data32 hread indices result hrest ih =>
      have hlt := lt_length_of_mem_drop h
      rw [List.getElem?_eq_getElem hlt, Option.getD_some] at hname
      rw [hrest] at ih
      have hrest := ih (none_mem_drop_succ h hlt (by rw [hname]; nofun))
      simpa using ⟨hlt, hrest⟩

/-! ## The two loops of a category -/

section Category

variable (globals context sectionName)

/-- The loop over the names of the SPDM tests reads behind the table. -/
theorem namesLoop_spdm (bitMap : ℕ) :
    (namesLoop context sectionName (configurationNameTable .spdm) globals.spdmNameBeyond 0
        bitMap).2 =
      parseBitMap context sectionName (spdmTestConfigurationName globals) 0 bitMap := by
  have hfirst : (configurationNameTable .spdm)[0]?.getD globals.spdmNameBeyond =
      some (text "default") := rfl
  have hbeyond : (configurationNameTable .spdm)[0 + 1]?.getD globals.spdmNameBeyond =
      globals.spdmNameBeyond := rfl
  have hlength : (configurationNameTable .spdm).length = 1 := rfl
  rw [namesLoop, if_neg (by omega), hfirst, spdmTestConfigurationName, parseBitMap]
  simp only
  cases getDecimalUint32 context sectionName (text "default") with
  | error fault => rfl
  | ok data32 =>
      simp only [ok_bind]
      rw [namesLoop, if_neg (by omega), hbeyond]
      cases globals.spdmNameBeyond with
      | none => rfl
      | some name =>
          simp only [Option.toList, parseBitMap]
          cases getDecimalUint32 context sectionName name with
          | error fault => rfl
          | ok data32 =>
              simp only [ok_bind]
              rw [namesLoop, if_pos (by omega)]

/-- The loop goes on with the index of the private names. -/
theorem namesLoop_category (testCategory : TeeioTestCategory) (bitMap : ℕ) :
    (namesLoop context sectionName (configurationNameTable testCategory) globals.spdmNameBeyond
        (getTestConfigurationPrivNames testCategory).length bitMap).2 =
      parseBitMap context sectionName
        ((testConfigurationNames globals testCategory).drop
          (getTestConfigurationPrivNames testCategory).length)
        (getTestConfigurationPrivNames testCategory).length bitMap := by
  cases testCategory with
  | pcieIde => exact namesLoop_eq []
  | cxlIde => exact namesLoop_eq [text "default"]
  | cxlTsp => exact namesLoop_eq []
  | tdisp => exact namesLoop_eq []
  | spdm => exact namesLoop_spdm globals context sectionName bitMap

theorem privNamesRun_snd (testCategory : TeeioTestCategory) :
    (privNamesRun context sectionName testCategory).2 =
      (parsePrivNames context sectionName (getTestConfigurationPrivNames testCategory) 0).map
        fun mode => ((getTestConfigurationPrivNames testCategory).length, mode) := by
  cases testCategory with
  | cxlIde =>
      have hloop := @privNamesLoop_eq context sectionName [] [text "cxl_ide_mode"] 0
      rwa [List.length_nil, Nat.zero_add] at hloop
  | pcieIde | cxlTsp | tdisp | spdm => rfl

theorem namesRun_result (testCategory : TeeioTestCategory) :
    (namesRun context sectionName globals testCategory).result = (do
      let cxlIdeMode ← parsePrivNames context sectionName
        (getTestConfigurationPrivNames testCategory) 0
      let bitMap ← parseBitMap context sectionName
        ((testConfigurationNames globals testCategory).drop
          (getTestConfigurationPrivNames testCategory).length)
        (getTestConfigurationPrivNames testCategory).length 0
      .ok (cxlIdeMode, checkConfigurationBitmap bitMap)) := by
  have hpriv := privNamesRun_snd context sectionName testCategory
  rw [namesRun]
  cases hrun : privNamesRun context sectionName testCategory with
  | mk privIndices result =>
      rw [hrun] at hpriv
      simp only at hpriv
      subst hpriv
      cases parsePrivNames context sectionName (getTestConfigurationPrivNames testCategory) 0 with
      | error fault => rfl
      | ok cxlIdeMode =>
          simp only [Except.map, ok_bind]
          rw [← namesLoop_category]
          cases (namesLoop context sectionName (configurationNameTable testCategory)
            globals.spdmNameBeyond (getTestConfigurationPrivNames testCategory).length 0).2 with
          | error fault => rfl
          | ok bitMap => rfl

theorem parseConfiguration_eq (index : ℕ) :
    parseConfiguration globals context sectionName index = (do
      let before ← beforeNames context sectionName
      match before with
      | none => .ok none
      | some (enabled, testCategory, type) => do
        let (cxlIdeMode, bitMap) ← (namesRun context sectionName globals testCategory).result
        .ok (some { id := index, enabled, type, testCategory, cxlIdeMode, bitMap })) := by
  rw [parseConfiguration, beforeNames]
  cases parseFlag context sectionName (text "enabled") true with
  | error fault => rfl
  | ok enabled =>
      simp only [ok_bind]
      cases parseCategory context sectionName with
      | error fault => rfl
      | ok category =>
          simp only [ok_bind]
          cases category with
          | none => rfl
          | some testCategory =>
              simp only
              cases parseType context sectionName testCategory (.error .crash) with
              | error fault => rfl
              | ok type =>
                  simp only [ok_bind]
                  cases type with
                  | none => rfl
                  | some type => simp only [Option.map_some, namesRun_result, bind_assoc, ok_bind]

end Category

/-! ## A whole section -/

/-- What has to be read of a section for its names to be. -/
structure ReachesNames (context : IniContext) (index : ℕ) (testCategory : TeeioTestCategory) :
    Prop where
  positive : index ≠ 0
  valid : isValidSection context (configurationSectionName index) = .ok true
  before : ∃ enabled type, beforeNames context (configurationSectionName index) =
    .ok (some (enabled, testCategory, type))

section Section

variable {index : ℕ} {testCategory : TeeioTestCategory} {run : NamesRun}

theorem configurationNamesRun_eq_some :
    configurationNamesRun globals context index = some (testCategory, run) ↔
      ReachesNames context index testCategory ∧
        run = namesRun context (configurationSectionName index) globals testCategory := by
  constructor
  · intro h
    rw [configurationNamesRun] at h
    simp only [inSection] at h
    by_cases hindex : index = 0
    · simp [hindex] at h
    · rw [if_neg hindex] at h
      cases hvalid : isValidSection context (configurationSectionName index) with
      | error fault => simp [hvalid] at h
      | ok valid =>
          cases valid with
          | false => simp [hvalid] at h
          | true =>
              simp only [hvalid, ok_bind, if_true] at h
              split at h
              · rename_i enabled category type hbefore
                cases h
                exact ⟨⟨hindex, hvalid, enabled, type, hbefore⟩, rfl⟩
              · cases h
              · cases h
  · rintro ⟨⟨hindex, hvalid, enabled, type, hbefore⟩, rfl⟩
    rw [configurationNamesRun]
    simp [inSection, hindex, hvalid, hbefore]

theorem beforeNames_eq_some {enabled : Bool} {type : IdeTestTopologyType} :
    beforeNames context sectionName = .ok (some (enabled, testCategory, type)) ↔
      parseFlag context sectionName (text "enabled") true = .ok enabled ∧
        parseCategory context sectionName = .ok (some testCategory) ∧
        parseType context sectionName testCategory (.error .crash) = .ok (some type) := by
  rw [beforeNames]
  cases parseFlag context sectionName (text "enabled") true with
  | error fault => simp
  | ok flag =>
      simp only [ok_bind, Except.ok.injEq]
      cases parseCategory context sectionName with
      | error fault => simp
      | ok category =>
          simp only [ok_bind]
          cases category with
          | none => simp
          | some category =>
              simp only [Except.ok.injEq, Option.some.injEq]
              cases htype : parseType context sectionName category (.error .crash) with
              | error fault =>
                  simp only [error_bind, reduceCtorEq, false_iff]
                  rintro ⟨-, rfl, hread⟩
                  rw [htype] at hread
                  cases hread
              | ok read =>
                  simp only [ok_bind, Except.ok.injEq]
                  constructor
                  · intro h
                    obtain ⟨read, rfl, hread⟩ := Option.map_eq_some_iff.mp h
                    cases hread
                    exact ⟨rfl, rfl, htype⟩
                  · rintro ⟨rfl, rfl, hread⟩
                    rw [htype] at hread
                    cases hread
                    rfl

/-- A section of the SPDM tests needs no type. -/
theorem reachesNames_spdm :
    ReachesNames context index .spdm ↔ index ≠ 0 ∧
      isValidSection context (configurationSectionName index) = .ok true ∧
      (∃ enabled, parseFlag context (configurationSectionName index) (text "enabled") true =
        .ok enabled) ∧
      parseCategory context (configurationSectionName index) = .ok (some .spdm) := by
  constructor
  · rintro ⟨hindex, hvalid, enabled, type, hbefore⟩
    obtain ⟨henabled, hcategory, -⟩ := beforeNames_eq_some.mp hbefore
    exact ⟨hindex, hvalid, ⟨enabled, henabled⟩, hcategory⟩
  · rintro ⟨hindex, hvalid, ⟨enabled, henabled⟩, hcategory⟩
    exact ⟨hindex, hvalid, enabled, .linkIde,
      beforeNames_eq_some.mpr ⟨henabled, hcategory, rfl⟩⟩

/-- The bit map of the loops is that of the configuration. -/
theorem exists_parseConfiguration {cxlIdeMode bitMap : ℕ}
    (hreaches : ReachesNames context index testCategory)
    (hresult : (namesRun context (configurationSectionName index) globals testCategory).result =
      .ok (cxlIdeMode, bitMap)) :
    ∃ config, parseConfiguration globals context (configurationSectionName index) index =
      .ok (some config) ∧ config.testCategory = testCategory ∧ config.bitMap = bitMap := by
  obtain ⟨-, -, enabled, type, hbefore⟩ := hreaches
  rw [parseConfiguration_eq, hbefore]
  simp only [ok_bind, hresult]
  exact ⟨_, rfl, rfl, rfl⟩

/-! ## Names of items -/

theorem configurationNameTable_eq (globals : Globals) (hne : testCategory ≠ .spdm) :
    configurationNameTable testCategory =
      (testConfigurationNames globals testCategory).map some ++ [none] := by
  cases testCategory with
  | spdm => exact absurd rfl hne
  | pcieIde | cxlIde | cxlTsp | tdisp => rfl

theorem getElem?_map_some_append {names : List (List UInt8)} {i : ℕ} {name : List UInt8} :
    (names.map some ++ [none])[i]? = some (some name) ↔ names[i]? = some name := by
  by_cases hi : i < names.length
  · rw [List.getElem?_append_left (by simpa using hi)]
    simp
  · have hnone : names[i]? = none := List.getElem?_eq_none (by omega)
    rw [List.getElem?_append_right (by simpa using hi), hnone]
    cases i - (names.map some).length with
    | zero => simp
    | succ n => simp

/-- The only private name is at the index of the default item. -/
theorem isDefaultItem_of_privName {i : ℕ} {name : List UInt8}
    (h : ((configurationPrivNameTable testCategory).getD [])[i]? = some (some name)) :
    isDefaultItem i := by
  cases testCategory with
  | cxlIde =>
      match i with
      | 0 => rfl
      | 1 => cases h
      | _ + 2 => cases h
  | pcieIde | cxlTsp | tdisp | spdm => cases h

theorem length_privNames_le (testCategory : TeeioTestCategory) :
    (getTestConfigurationPrivNames testCategory).length ≤ 1 := by
  cases testCategory <;> decide

/-- Item `i` of a category with a null pointer in its table. -/
theorem bitMap_testBit_iff (hne : testCategory ≠ .spdm) {cxlIdeMode bitMap : ℕ}
    (hreaches : ReachesNames context index testCategory)
    (hresult : (namesRun context (configurationSectionName index) globals testCategory).result =
      .ok (cxlIdeMode, bitMap)) (i : ℕ) :
    bitMap.testBit i = true ↔ isDefaultItem i ∨ ∃ name, NamesItem testCategory i name ∧
      getDecimalUint32 context (configurationSectionName index) name = .ok (some 1) := by
  obtain ⟨config, hconfig, rfl, rfl⟩ := exists_parseConfiguration hreaches hresult
  rw [(parseConfiguration_eq_some hconfig).testBit_iff]
  have hprivate := length_privNames_le config.testCategory
  have hname : ∀ {name}, getTestConfigurationName globals i config.testCategory = some name ↔
      (configurationNameTable config.testCategory)[i]? = some (some name) := fun {name} => by
    rw [configurationNameTable_eq globals hne, getElem?_map_some_append]
    rfl
  constructor
  · intro h
    rcases h with h | h
    · exact Or.inl h
    · obtain ⟨-, name, hitem, hset⟩ := h
      exact Or.inr ⟨name, Or.inl (hname.mp hitem), hset⟩
  · intro h
    rcases h with h | h
    · exact Or.inl h
    · obtain ⟨name, hitem, hset⟩ := h
      by_cases hzero : i = 0
      · exact Or.inl hzero
      · rcases hitem with hitem | hitem
        · exact Or.inr ⟨by omega, name, hname.mpr hitem, hset⟩
        · exact absurd (isDefaultItem_of_privName hitem) hzero

theorem privNamesRun_indices (testCategory : TeeioTestCategory) :
    ∀ i ∈ (privNamesRun context sectionName testCategory).1,
      i < ((configurationPrivNameTable testCategory).getD []).length := by
  cases testCategory with
  | cxlIde => exact privNamesLoop_indices (by decide)
  | pcieIde | cxlTsp | tdisp | spdm => nofun

theorem namesRun_privIndices :
    (namesRun context sectionName globals testCategory).privIndices =
      (privNamesRun context sectionName testCategory).1 := by
  rw [namesRun]
  split <;> rename_i hrun <;> rw [hrun]

theorem namesRun_indices (hne : testCategory ≠ .spdm) :
    ∀ i ∈ (namesRun context sectionName globals testCategory).indices,
      i < (configurationNameTable testCategory).length := by
  have hpriv := privNamesRun_snd context sectionName testCategory
  rw [namesRun]
  split <;> rename_i hrun
  · nofun
  · rename_i i cxlIdeMode
    rw [hrun] at hpriv
    cases hmode : parsePrivNames context sectionName
        (getTestConfigurationPrivNames testCategory) 0 with
    | error fault =>
        rw [hmode] at hpriv
        cases hpriv
    | ok mode =>
        rw [hmode] at hpriv
        cases hpriv
        refine namesLoop_indices ?_
        cases testCategory with
        | spdm => exact absurd rfl hne
        | pcieIde | cxlIde | cxlTsp | tdisp => decide

/-- The second element of the table of the SPDM tests is read when the first name is. -/
theorem namesRun_indices_spdm (globals : Globals) :
    (∀ i ∈ (namesRun context sectionName globals .spdm).indices,
        i < (configurationNameTable .spdm).length) ↔
      ¬ ∃ data32, getDecimalUint32 context sectionName (text "default") = .ok data32 := by
  have hfirst : (configurationNameTable .spdm)[0]?.getD globals.spdmNameBeyond =
      some (text "default") := rfl
  have hlength : (configurationNameTable .spdm).length = 1 := rfl
  rw [namesRun, privNamesRun, configurationPrivNameTable]
  simp only
  rw [namesLoop, if_neg (by omega), hfirst]
  simp only
  cases getDecimalUint32 context sectionName (text "default") with
  | error fault => simp [hlength]
  | ok data32 =>
      simp only [Except.ok.injEq, exists_eq', not_true_eq_false, iff_false]
      intro h
      have hsecond : 0 + 1 ∈ (namesLoop context sectionName (configurationNameTable .spdm)
          globals.spdmNameBeyond (0 + 1) (if data32 = some 1 then 0 ||| 1 <<< 0 else 0)).1 := by
        rw [namesLoop, if_neg (by omega)]
        split
        · exact List.mem_cons_self
        · split
          · exact List.mem_cons_self
          · exact List.mem_cons_self
      have hlt := h _ (List.mem_cons_of_mem _ hsecond)
      omega

theorem exists_default_of_namesRun {result : ℕ × ℕ}
    (h : (namesRun context sectionName globals .spdm).result = .ok result) :
    ∃ data32, getDecimalUint32 context sectionName (text "default") = .ok data32 := by
  rw [namesRun_result] at h
  obtain ⟨cxlIdeMode, -, h⟩ := bind_eq_ok.mp h
  obtain ⟨bitMap, hbitMap, -⟩ := bind_eq_ok.mp h
  obtain ⟨data32, hread, -⟩ := bind_eq_ok.mp hbitMap
  exact ⟨data32, hread⟩

theorem readsSpdmNames_iff :
    ReadsSpdmNames context index ↔ ReachesNames context index .spdm ∧ ∃ data32,
      getDecimalUint32 context (configurationSectionName index) (text "default") =
        .ok data32 := by
  rw [reachesNames_spdm]
  exact ⟨fun h => ⟨⟨h.positive, h.valid, h.enabled, h.category⟩, h.default⟩,
    fun ⟨⟨hpositive, hvalid, henabled, hcategory⟩, hdefault⟩ =>
      ⟨hpositive, hvalid, henabled, hcategory, hdefault⟩⟩

/-- The bits are the items of the section and the tables are read within their ends, just when
the names are not those of the SPDM tests. -/
theorem namesMeet_iff (globals : Globals) (context : IniContext) (index : ℕ) :
    NamesMeet globals context index ↔ ¬ ReadsSpdmNames context index := by
  rw [readsSpdmNames_iff, not_and]
  constructor
  · intro h hreaches
    rw [← namesRun_indices_spdm globals]
    exact h.indices (configurationNamesRun_eq_some.mpr ⟨hreaches, rfl⟩)
  · intro h
    refine ⟨?_, ?_, ?_⟩
    · intro testCategory run cxlIdeMode bitMap hrun hresult
      obtain ⟨hreaches, rfl⟩ := configurationNamesRun_eq_some.mp hrun
      refine bitMap_testBit_iff ?_ hreaches hresult
      rintro rfl
      exact h hreaches (exists_default_of_namesRun hresult)
    · intro testCategory run hrun
      obtain ⟨-, rfl⟩ := configurationNamesRun_eq_some.mp hrun
      rw [namesRun_privIndices]
      exact privNamesRun_indices testCategory
    · intro testCategory run hrun
      obtain ⟨hreaches, rfl⟩ := configurationNamesRun_eq_some.mp hrun
      by_cases hspdm : testCategory = .spdm
      · subst hspdm
        exact (namesRun_indices_spdm globals).mpr (h hreaches)
      · exact namesRun_indices hspdm

/-- A file with a section that has no more than the category. -/
def spdmSection : IniContext where
  sectionHead :=
    [⟨.live (text "Configuration_1"), 15, .live (text "category"), .live (text "spdm")⟩,
      ⟨.live (text "Configuration_1"), 15, .null, .null⟩]
  commentHead := []

theorem not_namesMeet_spdmSection : ¬ NamesMeet {} spdmSection 1 := by
  intro h
  have hreaches : ReachesNames spdmSection 1 .spdm :=
    ⟨by decide, by decide +kernel, true, .linkIde, by decide +kernel⟩
  have hrun : configurationNamesRun {} spdmSection 1 =
      some (.spdm, namesRun spdmSection (configurationSectionName 1) {} .spdm) :=
    configurationNamesRun_eq_some.mpr ⟨hreaches, rfl⟩
  exact (namesRun_indices_spdm {}).mp (h.indices hrun) ⟨none, by decide +kernel⟩

end Section

end TeeIoValidator.IniConfig
