import TeeIoValidator.Model.IniConfig.Sections

/-! The tables of the configuration names as arrays with their null pointers, and the loops of
`ParseConfigurationSection` over them with the elements that they read. -/

namespace TeeIoValidator.IniConfig

open IniFile

/-- An array of names; a null pointer is none. -/
abbrev NameTable := List (Option (List UInt8))

def configurationNameTable : TeeioTestCategory → NameTable
  | .pcieIde => pcieIdeTestConfigurationName.map some ++ [none]
  | .cxlIde => cxlIdeTestConfigurationName.map some ++ [none]
  | .cxlTsp => cxlTspTestConfigurationName.map some ++ [none]
  | .tdisp => tdispTestConfigurationName.map some ++ [none]
  | .spdm => [some (text "default")]

/-- The array of the private names; `get_test_configuration_priv_names` is null where there is
none. -/
def configurationPrivNameTable : TeeioTestCategory → Option NameTable
  | .cxlIde => some [some (text "cxl_ide_mode"), none]
  | .pcieIde | .cxlTsp | .tdisp | .spdm => none

section Loops

variable (context : IniContext) (sectionName : List UInt8)

/-- The loop over the private names from an index on: the elements that it reads, the index it
ends with and the mode. -/
def privNamesLoop (table : NameTable) (i cxlIdeMode : ℕ) : List ℕ × Checked (ℕ × ℕ) :=
  if h : i < table.length then
    match table[i] with
    | none => ([i], .ok (i, cxlIdeMode))
    | some name =>
      match getString context sectionName name with
      | .error fault => ([i], .error fault)
      | .ok entryValue =>
        let (indices, result) := privNamesLoop table (i + 1)
          ((entryValue.bind parseCxlIdeModeFromString).getD cxlIdeMode)
        (i :: indices, result)
  else ([i], .ok (i, cxlIdeMode))
termination_by table.length - i

/-- The loop over the names from an index on: the elements that `get_test_configuration_name` reads,
of which one behind the table is `beyond`, and the bit map. -/
def namesLoop (table : NameTable) (beyond : Option (List UInt8)) (i bitMap : ℕ) :
    List ℕ × Checked ℕ :=
  if i > table.length then ([], .ok bitMap)
  else
    match table[i]?.getD beyond with
    | none => ([i], .ok bitMap)
    | some name =>
      match getDecimalUint32 context sectionName name with
      | .error fault => ([i], .error fault)
      | .ok data32 =>
        let (indices, result) := namesLoop table beyond (i + 1)
          (if data32 = some 1 then bitMap ||| 1 <<< i else bitMap)
        (i :: indices, result)
termination_by table.length + 1 - i

/-- What the two loops read of the tables, and the mode and the bit map. -/
structure NamesRun where
  privIndices : List ℕ
  indices : List ℕ
  result : Checked (ℕ × ℕ)

/-- The loop over the private names, where there are any. -/
def privNamesRun (testCategory : TeeioTestCategory) : List ℕ × Checked (ℕ × ℕ) :=
  match configurationPrivNameTable testCategory with
  | none => ([], .ok (0, 0))
  | some table => privNamesLoop context sectionName table 0 0

/-- The two loops, which count with one index. -/
def namesRun (globals : Globals) (testCategory : TeeioTestCategory) : NamesRun :=
  match privNamesRun context sectionName testCategory with
  | (privIndices, .error fault) => ⟨privIndices, [], .error fault⟩
  | (privIndices, .ok (i, cxlIdeMode)) =>
    let (indices, bitMap) := namesLoop context sectionName
      (configurationNameTable testCategory) globals.spdmNameBeyond i 0
    ⟨privIndices, indices, bitMap.map fun bitMap => (cxlIdeMode, checkConfigurationBitmap bitMap)⟩

/-- What comes before the loops: none when the section is rejected. -/
def beforeNames : Checked (Option (Bool × TeeioTestCategory × IdeTestTopologyType)) := do
  let enabled ← parseFlag context sectionName (text "enabled") true
  let testCategory ← parseCategory context sectionName
  match testCategory with
  | none => .ok none
  | some testCategory => do
    let type ← parseType context sectionName testCategory (.error .crash)
    .ok (type.map fun type => (enabled, testCategory, type))

end Loops

/-- The category and the loops of `ParseConfigurationSection`; none where it does not come to
them. -/
def configurationNamesRun (globals : Globals) (context : IniContext) (index : ℕ) :
    Option (TeeioTestCategory × NamesRun) :=
  let sectionName := configurationSectionName index
  match inSection context sectionName index none (beforeNames context sectionName) with
  | .ok (some (_, testCategory, _)) =>
    some (testCategory, namesRun context sectionName globals testCategory)
  | .ok none | .error _ => none

/-! ## What the loops are for -/

/-- All categories have one default item. -/
def isDefaultItem (i : ℕ) : Prop := i = configurationTypeDefault

/-- An item's name, or its private one. -/
def NamesItem (testCategory : TeeioTestCategory) (i : ℕ) (name : List UInt8) : Prop :=
  (configurationNameTable testCategory)[i]? = some (some name) ∨
    ((configurationPrivNameTable testCategory).getD [])[i]? = some (some name)

/-- A bit is set when its item is the default or an entry of the section with the item's name is
1, and the tables are not read past their ends. -/
structure NamesMeet (globals : Globals) (context : IniContext) (index : ℕ) : Prop where
  bits : ∀ {testCategory run cxlIdeMode bitMap},
    configurationNamesRun globals context index = some (testCategory, run) →
    run.result = .ok (cxlIdeMode, bitMap) → ∀ i, bitMap.testBit i = true ↔
      isDefaultItem i ∨ ∃ name, NamesItem testCategory i name ∧
        getDecimalUint32 context (configurationSectionName index) name = .ok (some 1)
  privIndices : ∀ {testCategory run},
    configurationNamesRun globals context index = some (testCategory, run) →
    ∀ i ∈ run.privIndices, i < ((configurationPrivNameTable testCategory).getD []).length
  indices : ∀ {testCategory run},
    configurationNamesRun globals context index = some (testCategory, run) →
    ∀ i ∈ run.indices, i < (configurationNameTable testCategory).length

/-- A section of the SPDM tests whose names are read. -/
structure ReadsSpdmNames (context : IniContext) (index : ℕ) : Prop where
  positive : index ≠ 0
  valid : isValidSection context (configurationSectionName index) = .ok true
  enabled : ∃ enabled,
    parseFlag context (configurationSectionName index) (text "enabled") true = .ok enabled
  category : parseCategory context (configurationSectionName index) = .ok (some .spdm)
  default : ∃ data32,
    getDecimalUint32 context (configurationSectionName index) (text "default") = .ok data32

end TeeIoValidator.IniConfig
