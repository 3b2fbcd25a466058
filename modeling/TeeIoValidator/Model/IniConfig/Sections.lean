import TeeIoValidator.Model.IniConfig.TestFuncs

/-! The parsers of the sections `Main`, `Ports`, `Switch_x` and `Configuration_x`. -/

namespace TeeIoValidator.IniConfig

open IniFile

variable (globals : Globals) (context : IniContext) (testConfig : IdeTestConfig)

/-- A section that is not in the file is skipped. -/
def inSection {α : Type} (sectionName : List UInt8) (index : ℕ) (skipped : α) (body : Checked α) :
    Checked α :=
  if index = 0 then .ok skipped
  else do
    let valid ← isValidSection context sectionName
    if valid then body else .ok skipped

/-! ## Main -/

/-- A switch of the section keeps its value when the entry is missing or no number. -/
def parseFlag (sectionName entryName : List UInt8) (flag : Bool) : Checked Bool := do
  let data32 ← getDecimalUint32 context sectionName entryName
  .ok (match data32 with
    | some value => value == 1
    | none => flag)

def getIdeLogLevelFromString (debugLevel : List UInt8) : DebugLevel :=
  (ofName [("error", .error), ("warn", .warn), ("info", .info), ("verbose", .verbose)]
    debugLevel).getD .warn

def parseSpdmVersion : List UInt8 → Option ℕ :=
  ofName [("auto", 0), ("1.0", 0x10), ("1.1", 0x11), ("1.2", 0x12), ("1.3", 0x13), ("1.4", 0x14)]

def parseMainSection : Checked (Bool × IdeTestConfig) := do
  let sectionName := text "Main"
  let main := testConfig.mainConfig
  let pciLog ← parseFlag context sectionName (text "pci_log") main.pciLog
  let libspdmLog ← parseFlag context sectionName (text "libspdm_log") main.libspdmLog
  let doeLog ← parseFlag context sectionName (text "doe_log") main.doeLog
  let debugLevel ← getString context sectionName (text "debug_level")
  let pcapEnable ← parseFlag context sectionName (text "pcap_enable") main.pcapEnable
  let spdmVersion ← getString context sectionName (text "spdm_version")
  let main : IdeTestMainConfig :=
    { pciLog, libspdmLog, doeLog, pcapEnable, spdmVersion := 0,
      debugLevel := (debugLevel.map getIdeLogLevelFromString).getD .warn }
  match spdmVersion with
  | none => .ok (true, { testConfig with mainConfig := main })
  | some value =>
    match parseSpdmVersion value with
    | none => .ok (false, { testConfig with mainConfig := main })
    | some version =>
      .ok (true, { testConfig with mainConfig := { main with spdmVersion := version } })

/-! ## Ports -/

/-- The port with a bus number that is filled in later: `parse_bdf_string` of `0000:00:` and the
device and function. -/
def newPort (id : ℕ) (portType : IdePortType) (portName df : List UInt8) : IdePort :=
  { id, enabled := true, portType, portName, bdf := text "0000:00:" ++ df, segment := 0, bus := 0,
    device := digitsValue 16 (df.take 2), function := digitsValue 16 (df.drop 3) }

def portTypeName : IdePortType → List UInt8
  | .rootport => text "rootport"
  | .endpoint => text "endpoint"
  | .switch => text "switch"

def portEntryName (portType : IdePortType) (index : ℕ) : List UInt8 :=
  portTypeName portType ++ text "_" ++ decimalString index

/-- The loop of `ParsePortsSection` from an index on. A port behind the end of the table ends it
before the fuel does. -/
def parsePortsFrom (portType : IdePortType) : ℕ → ℕ → IdeTestConfig → Checked IdeTestConfig
  | 0, _, _ => .error .overrun
  | fuel + 1, index, testConfig => do
    let entryValue ← getString context (text "Ports") (portEntryName portType index)
    match entryValue with
    | none => .ok testConfig
    | some df =>
      if !isValidDevFunc df then .error .assertion
      else
        let port := newPort (testConfig.portsConfig.cnt + 1) portType
          (portEntryName portType index) df
        match testConfig.portsConfig.push? port with
        | none => .error .overrun
        | some ports =>
          parsePortsFrom portType fuel (index + 1) { testConfig with portsConfig := ports }

def parsePortsSection (portType : IdePortType) : Checked IdeTestConfig :=
  parsePortsFrom context portType (maxSupportedPortsNum + 1) 1 testConfig

/-! ## Switches -/

/-- The port `i` of a switch, counted from 0. -/
def parseSwitchPort (sectionName : List UInt8) (i : ℕ) (sw : IdeSwitch) : Checked IdeSwitch := do
  let entryName := text "port_" ++ decimalString (i + 1)
  let entryValue ← getString context sectionName entryName
  match entryValue with
  | none => .ok sw
  | some df =>
    if !isValidDevFunc df then .error .assertion
    else
      match sw.ports.push? (newPort (i + 1) .switch entryName df) with
      | none => .error .overrun
      | some ports => .ok { sw with ports }

def switchSectionName (index : ℕ) : List UInt8 := text "Switch_" ++ decimalString index

/-- The switch is built in the slot behind the stored ones. -/
def parseSwitch (sectionName : List UInt8) (index : ℕ) : Checked (Bool × IdeTestConfig) :=
  if h : testConfig.switchesConfig.cnt < maxSupportedSwitchesNum then do
    let slot : Fin maxSupportedSwitchesNum := ⟨testConfig.switchesConfig.cnt, h⟩
    let enabled ← parseFlag context sectionName (text "enabled") true
    let sw ← Checked.upTo (parseSwitchPort context sectionName) maxSupportedSwitchPortsNum
      { testConfig.switchesConfig.records slot with enabled }
    let sw := { sw with id := index, name := text "switch_" ++ decimalString index }
    .ok (true, { testConfig with
      switchesConfig := { testConfig.switchesConfig.put slot sw with
        cnt := testConfig.switchesConfig.cnt + 1 } })
  else .error .overrun

def parseSwitchesSection (index : ℕ) : Checked (Bool × IdeTestConfig) :=
  inSection context (switchSectionName index) index (false, testConfig)
    (parseSwitch context testConfig (switchSectionName index) index)

/-! ## Configurations -/

/-- None when the name of the category is not valid. -/
def parseCategory (sectionName : List UInt8) : Checked (Option TeeioTestCategory) := do
  let entryValue ← getString context sectionName (text "category")
  .ok (match entryValue with
    | some value => getTestCategoryFromName value
    | none => some .pcieIde)

/-- The type is read for two categories; the others have a fixed one. None when it is missing;
`invalid` is what happens when it is not valid. -/
def parseType (sectionName : List UInt8) (testCategory : TeeioTestCategory)
    (invalid : Checked (Option IdeTestTopologyType)) : Checked (Option IdeTestTopologyType) :=
  match testCategory with
  | .pcieIde | .tdisp => do
    let entryValue ← getString context sectionName (text "type")
    match entryValue with
    | none => .ok none
    | some value =>
      match getTopologyTypeFromName value with
      | none => invalid
      | some type => .ok (some type)
  | .cxlIde | .cxlTsp | .spdm => .ok (some .linkIde)

/-- The loop over the private names; only `cxl_ide_mode` means something, and a value that is
not valid leaves the mode alone. -/
def parsePrivNames (sectionName : List UInt8) : List (List UInt8) → ℕ → Checked ℕ
  | [], cxlIdeMode => .ok cxlIdeMode
  | name :: names, cxlIdeMode => do
    let entryValue ← getString context sectionName name
    parsePrivNames sectionName names ((entryValue.bind parseCxlIdeModeFromString).getD cxlIdeMode)

/-- The loop over the names from type `i` on. -/
def parseBitMap (sectionName : List UInt8) : List (List UInt8) → ℕ → ℕ → Checked ℕ
  | [], _, bitMap => .ok bitMap
  | name :: names, i, bitMap => do
    let data32 ← getDecimalUint32 context sectionName name
    parseBitMap sectionName names (i + 1) (if data32 = some 1 then bitMap ||| 1 <<< i else bitMap)

/-- `check_configuration_bitmap_func`: all categories set the default. -/
def checkConfigurationBitmap (bitMap : ℕ) : ℕ := bitMap ||| 1 <<< configurationTypeDefault

/-- The configuration that a section describes; none when it is rejected. The loop over the names
goes on with the index of the loop over the private names. An invalid type is printed as a
string at an address that is its first character. -/
def parseConfiguration (sectionName : List UInt8) (index : ℕ) :
    Checked (Option IdeTestConfiguration) := do
  let enabled ← parseFlag context sectionName (text "enabled") true
  let testCategory ← parseCategory context sectionName
  match testCategory with
  | none => .ok none
  | some testCategory => do
    let type ← parseType context sectionName testCategory (.error .crash)
    match type with
    | none => .ok none
    | some type => do
      let privNames := getTestConfigurationPrivNames testCategory
      let cxlIdeMode ← parsePrivNames context sectionName privNames 0
      let bitMap ← parseBitMap context sectionName
        ((testConfigurationNames globals testCategory).drop privNames.length) privNames.length 0
      .ok (some { id := index, enabled, type, testCategory, cxlIdeMode,
                  bitMap := checkConfigurationBitmap bitMap })

def configurationSectionName (index : ℕ) : List UInt8 :=
  text "Configuration_" ++ decimalString index

/-- A configuration is stored at the position of its index. -/
def storeConfiguration (config : IdeTestConfiguration) (index : ℕ) :
    Checked (Bool × IdeTestConfig) :=
  if (testConfig.configurations.first? fun c => c.id == index).isSome then .ok (false, testConfig)
  else if h : index - 1 < maxConfigurationNum then
    .ok (true, { testConfig with
      configurations := { testConfig.configurations.put ⟨index - 1, h⟩ config with
        cnt := testConfig.configurations.cnt + 1 } })
  else .error .overrun

def parseConfigurationSection (index : ℕ) : Checked (Bool × IdeTestConfig) :=
  inSection context (configurationSectionName index) index (false, testConfig) do
    let config ← parseConfiguration globals context (configurationSectionName index) index
    match config with
    | none => .ok (false, testConfig)
    | some config => storeConfiguration testConfig config index

end TeeIoValidator.IniConfig
