import TeeIoValidator.Model.Tsp.Capabilities

/-! The case on the configuration of a CXL TSP target. -/

namespace TeeIoValidator.Tsp

open Flags

/-- What this case needs of the library besides: the op-codes of the request and of the response,
the size of the response, the last of the states and the number of bits in which CKIDs are
added. -/
structure ConfigurationMessages extends TspMessages where
  getTargetConfiguration : UInt8
  getTargetConfigurationRsp : UInt8
  getTargetConfigurationRspSize : ℕ
  configUnlocked : UInt8
  configLocked : UInt8
  stateError : UInt8
  ckidBits : ℕ
  size_ne : getTargetCapabilitiesRspSize ≠ getTargetConfigurationRspSize
  states : ∀ state, state ≤ stateError ↔
    state = configUnlocked ∨ state = configLocked ∨ state = stateError

/-- The fields of `GET_TARGET_TSP_CONFIGURATION_RSP`, which become those of
`libcxltsp_device_configuration_t` but for the state. Of an entry there is its `length_index`. -/
structure Configuration where
  memoryEncryptionFeaturesEnabled : BitVec 16
  memoryEncryptionAlgorithmSelected : BitVec 32
  teStateChangeAndAccessControlFeaturesEnabled : BitVec 16
  explicitOobTeStateGranularityEnabled : BitVec 32
  configurationFeaturesEnabled : BitVec 16
  ckidBase : ℕ
  numberOfCkids : ℕ
  currentTspState : UInt8
  explicitIbTeStateGranularityEntry : Vector UInt8 8

/-- The buffer, read as a response besides. -/
structure ConfigurationReply extends Reply where
  response : Configuration

/-- `res` and `length_index_bit`, with the counts by which 1 was shifted. -/
structure Granularities where
  res : Bool
  lengthIndexBit : BitVec 8
  shifts : List ℕ

section Cases

variable (lib : ConfigurationMessages) (flags : TspFlags)

/-- `1 << count` in an `int`. For the counts with which C leaves it undefined it may be anything. -/
def shiftOne (undefined : ℕ → BitVec 32) (count : ℕ) : BitVec 32 :=
  if count < 31 then BitVec.twoPow 32 count else undefined count

/-- One round over the entries: the shift is made for the test and for the update. -/
def checkGranularity (undefined : ℕ → BitVec 32) (s : Granularities) (lengthIndex : UInt8) :
    Granularities :=
  if lengthIndex = 0xff then s
  else
    let count := lengthIndex.toNat
    let bit := shiftOne undefined count
    let res := if 7 < lengthIndex then false else s.res
    let res := if s.lengthIndexBit.setWidth 32 &&& bit != 0#32 then false else res
    ⟨res, (s.lengthIndexBit.setWidth 32 ||| bit).setWidth 8, s.shifts ++ [count, count]⟩

/-- `res` is still that of assertion 12. -/
def checkGranularities (undefined : ℕ → BitVec 32) (res : Bool) (entries : List UInt8) :
    Granularities :=
  entries.foldl (checkGranularity undefined) ⟨res, 0#8, []⟩

/-- Assertions 4 to 7. -/
def enabledModeChecks (supported : Capabilities) (device : Configuration) : List Assertion :=
  let features := device.memoryEncryptionFeaturesEnabled
  let commonFeatures := features &&& supported.memoryEncryptionFeaturesSupported
  let mode := (features &&& mask [flags.ckidBasedEncryption]) ^^^
    (features &&& mask [flags.rangeBasedEncryption])
  let algorithm := device.memoryEncryptionAlgorithmSelected
  let commonAlgorithms := algorithm &&& supported.memoryEncryptionAlgorithmsSupported
  let selected :=
    ((algorithm &&& mask [flags.aesXts128]) ^^^ (algorithm &&& mask [flags.aesXts256])).setWidth 16
  [.check 4 (commonFeatures == features)
      ("TspMessage.MemoryEncryptionFeaturesEnabled & " ++
        "GET_TARGET_TSP_CAPABILITIES_RSP.MemoryEncryptionFeaturesSupported = 0x%x, " ++
        fieldTexts ["MemoryEncryptionFeaturesEnabled"])
      [commonFeatures.toNat, features.toNat],
    .check 5 (mode != 0#16)
      ("(TspMessage.MemoryEncryptionFeaturesEnabled.CKIDBasedEncryption ^ " ++
        "TspMessage.MemoryEncryptionFeaturesEnabled.RangeBasedEncryption) = 0x%x")
      [mode.toNat],
    .check 6 (commonAlgorithms == algorithm)
      ("TspMessage.MemoryEncryptionAlgorithmsSelected & " ++
        "GET_TARGET_TSP_CAPABILITIES_RSP.MemoryEncryptionAlgorithmsSupported = 0x%x, " ++
        fieldTexts ["MemoryEncryptionAlgorithmsSelected"])
      [commonAlgorithms.toNat, algorithm.toNat],
    .check 7 (selected != 0#16)
      ("(TspMessage.MemoryEncryptionAlgorithmsSelected.AES-XTS-128 ^ " ++
        "TspMessage.MemoryEncryptionAlgorithmsSelected.AES-XTS-256) = 0x%x")
      [selected.toNat]]

/-- Assertions 8 to 10, the last of which is recorded as another 9. What is in common goes through
16 bits. -/
def enabledFeatureChecks (supported : Capabilities) (device : Configuration) : List Assertion :=
  let features := device.teStateChangeAndAccessControlFeaturesEnabled
  let commonFeatures := features &&& supported.teStateChangeAndAccessControlFeaturesSupported
  let granularity := device.explicitOobTeStateGranularityEnabled
  let commonGranularity : BitVec 16 :=
    (granularity &&& supported.supportedExplicitOobTeStateGranularity).setWidth 16
  let configuration := device.configurationFeaturesEnabled
  let commonConfiguration := configuration &&& supported.configurationFeaturesSupported &&& 0x1#16
  [.check 8 (commonFeatures == features)
      ("(TspMessage.TEStateChangeAndAccessControlFeaturesEnabled & " ++
        "GET_TARGET_TSP_CAPABILITIES_RSP.TEStateChangeAndAccessControlFeaturesSupported) = 0x%x, " ++
        fieldTexts ["TEStateChangeAndAccessControlFeaturesEnabled"])
      [commonFeatures.toNat, features.toNat],
    .check 9 (commonGranularity.setWidth 32 == granularity)
      ("(TspMessage.ExplicitOutOfBandTEStateGranularityEnabled & " ++
        "GET_TARGET_TSP_CAPABILITIES_RSP.SupportedExplicitOutOfBandTEStateGranularity) = 0x%x, " ++
        fieldTexts ["ExplicitOutOfBandTEStateGranularityEnabled"])
      [commonGranularity.toNat, granularity.toNat],
    .check 9 (commonConfiguration == configuration)
      ("(TspMessage.ConfigurationFeaturesEnabled & " ++
        "GET_TARGET_TSP_CAPABILITIES_RSP.ConfigurationFeaturesSupported & 0x1) = 0x%x, " ++
        fieldTexts ["ConfigurationFeaturesEnabled"])
      [commonConfiguration.toNat, configuration.toNat]]

/-- The loop of assertion 13, over the entries of a device with the feature. -/
def enabledGranularities (undefined : ℕ → BitVec 32) (device : Configuration) : Granularities :=
  let res := decide (device.currentTspState ≤ lib.stateError)
  let explicitIb :=
    device.teStateChangeAndAccessControlFeaturesEnabled &&& mask [flags.explicitIbTeStateChange]
  if explicitIb != 0#16 then
    checkGranularities undefined res device.explicitIbTeStateGranularityEntry.toList
  else ⟨false, 0#8, []⟩

/-- Assertions 11 to 13. The text of the last is what is printed to the buffer. -/
def enabledStateChecks (undefined : ℕ → BitVec 32) (device : Configuration) : List Assertion :=
  let ckidBased := device.memoryEncryptionFeaturesEnabled &&& mask [flags.ckidBasedEncryption]
  let explicitIb :=
    device.teStateChangeAndAccessControlFeaturesEnabled &&& mask [flags.explicitIbTeStateChange]
  let entries := device.explicitIbTeStateGranularityEntry.toList
  [.check 11 (if ckidBased != 0#16 then
          decide (device.ckidBase < 0x2000) &&
            decide ((device.ckidBase + device.numberOfCkids) % 2 ^ lib.ckidBits < 0x2000)
        else true)
      (fieldTexts ["MemoryEncryptionFeaturesEnabled.CKIDBaseRequired", "CKIDBase", "NumberOfCKIDs"])
      [ckidBased.toNat, device.ckidBase, device.numberOfCkids],
    .check 12 (decide (device.currentTspState ≤ lib.stateError)) (fieldTexts ["CurrentTSPState"])
      [device.currentTspState.toNat],
    .check 13 (enabledGranularities lib flags undefined device).res
      (if explicitIb != 0#16 then
        "TspMessage.ExplicitInBandTEStateGranularityEntry[0~7]: " ++
          String.join (entries.map fun _ => "%02x ")
      else fieldTexts ["ExplicitInBandTEStateChange"])
      (if explicitIb != 0#16 then entries.map UInt8.toNat else [explicitIb.toNat])]

/-- What is recorded, and the counts of the shifts. The size is that of the capabilities and the
op-code that of the request. -/
def testCxlTspGetConfiguration (undefined : ℕ → BitVec 32) (supported : Capabilities)
    (reply : ConfigurationReply) : List Assertion × List ℕ :=
  let checks (_ : Reply) :=
    enabledModeChecks flags supported reply.response ++
      enabledFeatureChecks supported reply.response ++
      enabledStateChecks lib flags undefined reply.response
  let checked := !reply.error && reply.size == lib.getTargetCapabilitiesRspSize
  (testResponse lib.toTspMessages lib.getTargetCapabilitiesRspSize lib.getTargetConfiguration checks
      reply.toReply,
    if checked then (enabledGranularities lib flags undefined reply.response).shifts else [])

end Cases

end TeeIoValidator.Tsp
