import TeeIoValidator.Library.Flags
import TeeIoValidator.Model.Tsp

/-! The case on the capabilities of a CXL TSP target. -/

namespace TeeIoValidator.Tsp

open Flags

/-- Where the flags are in the fields of the messages. The code compares the masked flag of
encryption with 1. -/
structure TspFlags where
  encryption : Fin 16
  ckidBasedEncryption : Fin 16
  rangeBasedEncryption : Fin 16
  initiatorSuppliedEntropy : Fin 16
  ckidBasedRequired : Fin 16
  aesXts128 : Fin 32
  aesXts256 : Fin 32
  writeAccessControl : Fin 16
  readAccessControl : Fin 16
  implicitTeStateChange : Fin 16
  explicitOobTeStateChange : Fin 16
  explicitIbTeStateChange : Fin 16
  explicitTeStateChangeSanitize : Fin 16
  lockedTargetFwUpdate : Fin 16
  targetSupportAdditionalSpdmSessions : Fin 16
  encryption_eq : encryption = 0
  encryption_distinct : [encryption, ckidBasedEncryption, rangeBasedEncryption,
    initiatorSuppliedEntropy, ckidBasedRequired].Nodup
  algorithms_distinct : aesXts128 ≠ aesXts256

/-- `CXL_TSP_EXPLICIT_IB_TE_STATE_CHANGE_GRANULARITY_64B`. -/
def granularity64B : Fin 32 := 0

/-- `0x7FF | CXL_TSP_EXPLICIT_IB_TE_STATE_CHANGE_GRANULARITY_ENTIRE_MEMORY`. -/
def granularities : BitVec 32 := 0x800007FF#32

/-- The fields of `GET_TARGET_TSP_CAPABILITIES_RSP`, which become those of
`libcxltsp_device_capabilities_t`. -/
structure Capabilities where
  memoryEncryptionFeaturesSupported : BitVec 16
  memoryEncryptionAlgorithmsSupported : BitVec 32
  memoryEncryptionNumberOfRangeBasedKeys : ℕ
  teStateChangeAndAccessControlFeaturesSupported : BitVec 16
  supportedExplicitOobTeStateGranularity : BitVec 32
  supportedExplicitIbTeStateGranularity : BitVec 32
  configurationFeaturesSupported : BitVec 16
  numberOfCkids : ℕ
  numberOfSecondarySessions : ℕ

/-- The buffer, read as a response besides. -/
structure CapabilitiesReply extends Reply where
  response : Capabilities

/-- The text of an assertion that prints some fields. -/
def fieldTexts (fields : List String) : String :=
  ", ".intercalate (fields.map fun field => "TspMessage." ++ field ++ " = 0x%x")

section Cases

variable (lib : TspMessages) (flags : TspFlags)

def TspFlags.memoryEncryptionFeatures : List (Fin 16) :=
  [flags.encryption, flags.ckidBasedEncryption, flags.rangeBasedEncryption,
    flags.initiatorSuppliedEntropy, flags.ckidBasedRequired]

def TspFlags.memoryEncryptionAlgorithms : List (Fin 32) := [flags.aesXts128, flags.aesXts256]

def TspFlags.teStateChangeFeatures : List (Fin 16) :=
  [flags.writeAccessControl, flags.readAccessControl, flags.implicitTeStateChange,
    flags.explicitOobTeStateChange, flags.explicitIbTeStateChange,
    flags.explicitTeStateChangeSanitize]

def TspFlags.configurationFeatures : List (Fin 16) :=
  [flags.lockedTargetFwUpdate, flags.targetSupportAdditionalSpdmSessions]

/-- Assertions 4 to 6, on the features masked as in `memory_encryption_features_supported`. -/
def memoryEncryptionChecks (device : Capabilities) (supported : BitVec 16) : List Assertion :=
  let encryption := supported &&& mask [flags.encryption]
  let algorithms :=
    device.memoryEncryptionAlgorithmsSupported &&& mask flags.memoryEncryptionAlgorithms
  let rangeBased := supported &&& mask [flags.rangeBasedEncryption]
  let keys := device.memoryEncryptionNumberOfRangeBasedKeys
  [.check 4 (encryption == 1#16) (fieldTexts ["MemoryEncryptionFeaturesSupported.Encryption"])
      [encryption.toNat],
    .check 5 (algorithms != 0#32)
      (fieldTexts ["MemoryEncryptionAlgorithmsSupported.AES-XTS-128",
        "MemoryEncryptionAlgorithmsSupported.AES-XTS-256"])
      [(algorithms &&& mask [flags.aesXts128]).toNat, (algorithms &&& mask [flags.aesXts256]).toNat],
    .check 6 (if rangeBased != 0#16 then keys != 0 else keys == 0)
      (fieldTexts ["MemoryEncryptionFeaturesSupported.RangeBasedEncryption",
        "MemoryEncryptionNumberOfRangeBasedKeys"])
      [rangeBased.toNat, keys]]

/-- Assertions 7 to 12, on the features masked as in
`te_state_change_and_access_control_features_supported`. -/
def teStateChecks (device : Capabilities) (supported : BitVec 16) : List Assertion :=
  let oob := supported &&& mask [flags.explicitOobTeStateChange]
  let ib := supported &&& mask [flags.explicitIbTeStateChange]
  let explicit :=
    supported &&& mask [flags.explicitOobTeStateChange, flags.explicitIbTeStateChange]
  let write := supported &&& mask [flags.writeAccessControl]
  let read := supported &&& mask [flags.readAccessControl]
  let implicit := supported &&& mask [flags.implicitTeStateChange]
  let sanitize := supported &&& mask [flags.explicitTeStateChangeSanitize]
  let oobGranularity := device.supportedExplicitOobTeStateGranularity
  let ibGranularity := device.supportedExplicitIbTeStateGranularity
  let ib64B := ibGranularity &&& mask [granularity64B]
  let features := "TEStateChangeAndAccessControlFeaturesSupported."
  let oobText := features ++ "ExplicitOutOfBandTEStateChange"
  let ibText := features ++ "ExplicitInBandTEStateChange"
  [.check 7 (if write != 0#16 then explicit != 0#16 else true)
      (fieldTexts [features ++ "WriteAccessControl", oobText, ibText])
      [write.toNat, oob.toNat, ib.toNat],
    .check 8 (if read != 0#16 then
          supported &&& mask [flags.implicitTeStateChange, flags.explicitOobTeStateChange,
            flags.explicitIbTeStateChange] != 0#16
        else true)
      (fieldTexts [oobText, ibText]) [oob.toNat, ib.toNat],
    .check 9 (if implicit != 0#16 then ib != 0#16 && ib64B != 0#32 else true)
      (fieldTexts [features ++ "ImplicitTEStateChange", ibText] ++
        ", (TspMessage.SupportedExplicitInBandTEStateGranularity & 0x1) = 0x%x")
      [implicit.toNat, ib.toNat, ib64B.toNat],
    .check 10 (if sanitize != 0#16 then explicit != 0#16 else true)
      (fieldTexts [features ++ "ExplicitTEStateChangeSanitize", oobText, ibText])
      [sanitize.toNat, oob.toNat, ib.toNat],
    .check 11 (if oob != 0#16 then oobGranularity != 0#32 else oobGranularity == 0#32)
      ("spMessage." ++ oobText ++ " = 0x%x, " ++
        fieldTexts ["SupportedExplicitOutOfBandTEStateGranularity"])
      [oob.toNat, oobGranularity.toNat],
    .check 12 (if ib != 0#16 then ibGranularity &&& granularities != 0#32
        else ibGranularity == 0#32)
      (fieldTexts [ibText] ++
        ", (TspMessage.SupportedExplicitInBandTEStateGranularity & 0x800007FF) = 0x%x, " ++
        fieldTexts ["SupportedExplicitInBandTEStateGranularity"])
      [ib.toNat, (ibGranularity &&& granularities).toNat, ibGranularity.toNat]]

/-- Assertion 13. Without the feature, the number itself is the result. -/
def ckidChecks (device : Capabilities) (supported : BitVec 16) : List Assertion :=
  let ckidBased := supported &&& mask [flags.ckidBasedEncryption]
  let number := device.numberOfCkids
  [.check 13 (if ckidBased != 0#16 then decide (2 ≤ number) && decide (number < 0x2000)
        else number != 0)
      (fieldTexts ["MemoryEncryptionFeaturesSupported.CKIDBasedEncryption", "NumberOfCKIDs"])
      [ckidBased.toNat, number]]

def sessionChecks (device : Capabilities) : List Assertion :=
  let supported :=
    device.configurationFeaturesSupported &&& mask flags.configurationFeatures
  let additional := supported &&& mask [flags.targetSupportAdditionalSpdmSessions]
  let number := device.numberOfSecondarySessions
  [.check 14 (if additional == 0#16 then number == 0 else decide (0 < number) && decide (number ≤ 4))
      (fieldTexts ["ConfigurationFeaturesSupported.TargetSupportsAdditionalSPDMSessions",
        "NumberOfSecondarySessions"])
      [additional.toNat, number]]

def teeioCxlTspValidateCapability (device : Capabilities) : List Assertion :=
  let memoryEncryption :=
    device.memoryEncryptionFeaturesSupported &&& mask flags.memoryEncryptionFeatures
  let teState :=
    device.teStateChangeAndAccessControlFeaturesSupported &&& mask flags.teStateChangeFeatures
  memoryEncryptionChecks flags device memoryEncryption ++ teStateChecks flags device teState ++
    ckidChecks flags device memoryEncryption ++ sessionChecks flags device

/-- The response is copied to the capabilities that are validated. -/
def testCxlTspGetCapabilities (reply : CapabilitiesReply) : List Assertion :=
  testResponse lib lib.getTargetCapabilitiesRspSize lib.getTargetCapabilitiesRsp
    (fun _ => teeioCxlTspValidateCapability flags reply.response) reply.toReply

end Cases

end TeeIoValidator.Tsp
